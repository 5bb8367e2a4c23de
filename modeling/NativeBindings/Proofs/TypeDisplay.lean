import Mathlib.Data.List.DropRight
import NativeBindings.Proofs.TypeNotation

/-!
# Types read back from their display

A type is displayed without blanks and without type arguments, and what is displayed is read as the
type again. There is one exception. Reading looks for a keyword before it erases type arguments, so
a keyword with arguments is read as a class that has the keyword for its name. That class is
displayed as the keyword alone, which stands for the primitive type.
-/

namespace NativeBindings.JavaType

open Unicode (isBlank)

/-- Array levels keep the innermost element. -/
@[simp] theorem base_arrayOf (levels : Nat) (type : JavaType) :
    (arrayOf levels type).base = type.base := by
  induction levels with
  | zero => rfl
  | succ levels ih => rw [arrayOf, base, ih]

/-- An array type is displayed as its base with so many pairs of brackets. -/
theorem toList_display_arrayOf (levels : Nat) (type : JavaType) :
    (arrayOf levels type).display.toList =
      type.display.toList ++ bracketsChars (List.replicate levels noBlanks) noBlanks := by
  induction levels with
  | zero => simp [arrayOf, bracketsChars]
  | succ levels ih =>
    rw [arrayOf, display, String.toList_append, ih, List.replicate_succ', bracketsChars_concat]
    simp

/-! ### The name that reading finds -/

/-- Only blanks and square brackets stand behind a name. -/
theorem notMem_bracketsChars {c : Char} (hblank : isBlank c = false) (hopen : c ≠ '[')
    (hclose : c ≠ ']') (gaps : List Blanks) (back : Blanks) : c ∉ bracketsChars gaps back := by
  have hblanks : ∀ blanks : Blanks, c ∉ blanks.val := by
    intro blanks hmem
    rw [blanks.property c hmem] at hblank
    contradiction
  rw [bracketsChars, List.mem_append, List.mem_flatMap, not_or]
  refine ⟨?_, hblanks back⟩
  rintro ⟨gap, -, hmem⟩
  simp [hblanks gap, hopen, hclose] at hmem

/-- An opening angle bracket of a text stands in what is taken for its name. -/
theorem mem_splitBrackets_iff (cs : List Char) : '<' ∈ (splitBrackets cs).2 ↔ '<' ∈ cs := by
  obtain ⟨front, gaps, back, -, hcs⟩ := exists_parts cs
  have hfront : '<' ∉ front.val := fun hmem => absurd (front.property _ hmem) (by decide)
  have hback := notMem_bracketsChars (c := '<') (by decide) (by decide) (by decide) gaps back
  conv_rhs => rw [hcs]
  simp [hfront, hback]

/-- Trimming a text at its end leaves its front as it is. -/
theorem trimEnd_prefix (cs : List Char) : Text.trimEnd cs <+: cs := by
  have h : cs.rdropWhile isBlank <+: cs := List.rdropWhile_prefix isBlank cs
  exact h

/-- A text in front of whose name only blanks stand has the name that trimming at its end gives. -/
theorem trim_of_trimEnd {front : Blanks} {cs name : List Char} (hname : isQualifiedChars name)
    (h : Text.trimEnd cs = name) : Text.trim (front.val ++ cs) = name := by
  obtain ⟨back, hback⟩ := trimEnd_prefix cs
  obtain ⟨first, rest, hcons, -⟩ := isQualifiedChars_cons hname
  have hfirst : isBlank first = false := by
    refine isBlank_eq_false_of_mem hname ?_
    rw [hcons]
    exact List.mem_cons_self
  have hcs : cs = first :: (rest ++ back) := by
    rw [← hback, h, hcons, List.cons_append]
  have hstart : Text.trimStart (front.val ++ cs) = cs := by
    rw [Text.trimStart, List.dropWhile_append_of_pos front.property, hcs,
      List.dropWhile_cons_of_neg (by simp [hfirst])]
  rw [Text.trim, hstart, h]

/-- Before the first angle bracket stand blanks, and what of the name stands before it. -/
theorem exists_takeWhile_eq {cs : List Char} (hopen : '<' ∈ cs) :
    ∃ front : Blanks,
      cs.takeWhile (· ≠ '<') = front.val ++ (splitBrackets cs).2.takeWhile (· ≠ '<') := by
  obtain ⟨front, gaps, back, -, hcs⟩ := exists_parts cs
  obtain ⟨before, after, hname, hbefore⟩ :=
    List.eq_append_cons_of_mem ((mem_splitBrackets_iff cs).mpr hopen)
  have hfront : '<' ∉ front.val := fun hmem => absurd (front.property _ hmem) (by decide)
  have hchars : cs = (front.val ++ before) ++ '<' :: (after ++ bracketsChars gaps back) := by
    rw [hcs, hname]
    simp
  refine ⟨front, ?_⟩
  rw [hname, takeWhile_ne_append hbefore, hchars, takeWhile_ne_append]
  simp [hfront, hbefore]

/-- The class of a text with type arguments is what stands before the first angle bracket. -/
theorem base_of_mem {cs : List Char} (hopen : '<' ∈ cs) {type : JavaType}
    (h : ofNotation cs = .ok type) :
    type.base = object (String.ofList (Text.trim (cs.takeWhile (· ≠ '<')))) := by
  have hmem := (mem_splitBrackets_iff cs).mpr hopen
  obtain ⟨base, rfl, ⟨kind, hkind, -⟩ | ⟨-, hclass⟩⟩ := ofNotation_eq_ok h
  · -- No keyword holds an angle bracket.
    have hkeyword := kind.isQualifiedName_keyword
    rw [Primitive.keyword_of_ofKeyword? hkind, isQualifiedName, String.toList_ofList] at hkeyword
    exact absurd hmem (notMem_of_isQualifiedChars hkeyword (by decide) (by decide))
  · obtain ⟨name, herase, hname, rfl⟩ := ofClassName_eq_ok hclass
    rw [eraseArguments, if_pos hmem] at herase
    split at herase
    · obtain ⟨front, hleading⟩ := exists_takeWhile_eq hopen
      rw [hleading, trim_of_trimEnd hname (Except.ok.inj herase)]
      exact base_arrayOf _ _
    · contradiction

/-- The base of a text without type arguments is what its name stands for. -/
theorem base_of_notMem {source : String} (hplain : '<' ∉ source.toList) {type : JavaType}
    (h : parse source = .ok type) : ∃ name, type.base = named name := by
  obtain ⟨spelling, -, rfl⟩ := exists_spelling hplain h
  refine ⟨spelling.base, ?_⟩
  rw [Spelling.type, base_arrayOf, named]
  split
  · rfl
  · rfl

/-! ### Keywords with type arguments -/

/-- The text is a keyword with type arguments: the keyword stands before the first angle bracket,
with nothing but blanks around it. -/
def IsGenericKeyword (source : String) (kind : Primitive) : Prop :=
  '<' ∈ source.toList ∧ Text.trim (source.toList.takeWhile (· ≠ '<')) = kind.keyword.toList

/-- A text is read as a class called by a keyword exactly if it is the keyword with type
arguments. -/
theorem base_eq_keyword_iff {source : String} {type : JavaType} (h : parse source = .ok type)
    (kind : Primitive) : type.base = object kind.keyword ↔ IsGenericKeyword source kind := by
  by_cases hopen : '<' ∈ source.toList
  · rw [base_of_mem hopen (mapError_eq_ok_iff.mp h), object.injEq, IsGenericKeyword,
      ← String.toList_inj, String.toList_ofList]
    exact (and_iff_right hopen).symm
  · obtain ⟨name, hname⟩ := base_of_notMem hopen h
    rw [hname]
    exact iff_of_false (named_ne_object name kind) fun hgeneric => hopen hgeneric.1

/-- What a class called by a keyword is displayed as is read as the primitive type, and is refused
if that would be an array of `void`. -/
theorem parse_display_keyword {type : JavaType} {kind : Primitive}
    (hbase : type.base = object kind.keyword) :
    parse type.display =
      if kind = .void ∧ type.levels > 0 then .error ⟨type.display, .voidElement⟩
      else .ok (arrayOf type.levels (primitive kind)) := by
  have hchars : type.display.toList = noBlanks.val ++ kind.keyword.toList ++
      bracketsChars (List.replicate type.levels noBlanks) noBlanks := by
    conv_lhs => rw [← arrayOf_levels_base type, hbase]
    exact toList_display_arrayOf type.levels (object kind.keyword)
  have hsplit : splitBrackets type.display.toList = (type.levels, kind.keyword.toList) := by
    rw [hchars, splitBrackets_name noBlanks kind.isQualifiedName_keyword, List.length_replicate]
  have hnonempty : kind.keyword.toList.isEmpty = false := by
    cases kind <;> rfl
  have hbrackets : ¬('[' ∈ kind.keyword.toList ∨ ']' ∈ kind.keyword.toList) := by
    cases kind <;> decide
  rw [parse, ofNotation, hsplit]
  simp only [hnonempty, hbrackets, Bool.false_eq_true, if_false, String.ofList_toList,
    Primitive.ofKeyword?_keyword]
  split
  · rfl
  · rfl

/-- What a type that was read is displayed as is read as the type again, unless the type was read
from a keyword with type arguments. These are read as a class called by the keyword, whose display
is read as the primitive type, or refused as an array of `void`. -/
theorem parse_display_iff {source : String} {type : JavaType} (h : parse source = .ok type) :
    (parse type.display = .ok type ↔ ∀ kind, ¬ IsGenericKeyword source kind) ∧
      ∀ kind, (type.base = object kind.keyword ↔ IsGenericKeyword source kind) ∧
        (IsGenericKeyword source kind → parse type.display =
          if kind = .void ∧ type.levels > 0 then .error ⟨type.display, .voidElement⟩
          else .ok (arrayOf type.levels (primitive kind))) := by
  have hbase := base_eq_keyword_iff h
  have hkeywords : ∀ kind, IsGenericKeyword source kind → parse type.display =
      if kind = .void ∧ type.levels > 0 then .error ⟨type.display, .voidElement⟩
      else .ok (arrayOf type.levels (primitive kind)) :=
    fun kind hgeneric => parse_display_keyword ((hbase kind).mpr hgeneric)
  refine ⟨⟨fun hread kind hgeneric => ?_, fun hplain => ?_⟩,
    fun kind => ⟨hbase kind, hkeywords kind⟩⟩
  · rw [hkeywords kind hgeneric] at hread
    split at hread
    · contradiction
    · have hprimitive := congrArg base (Except.ok.inj hread)
      rw [base_arrayOf, (hbase kind).mpr hgeneric] at hprimitive
      contradiction
  · have hclass : ∀ name, type.base = object name → Primitive.ofKeyword? name = none := by
      intro name hname
      rw [Option.eq_none_iff_forall_ne_some]
      intro kind hkind
      refine hplain kind ((hbase kind).mp ?_)
      rw [hname, Primitive.keyword_of_ofKeyword? hkind]
    obtain ⟨spelling, htext, hspells⟩ := exists_spelling_display (isWellFormed_parse h) hclass
    rw [← htext, parse_text, hspells]

/-- Type arguments are left out of the display of a map, and make a class of a keyword. -/
theorem parse_display_iff_generic :
    (parse "java.util.Map<K, V>[]" = .ok (array (object "java.util.Map")) ∧
      parse "java.util.Map[]" = .ok (array (object "java.util.Map"))) ∧
      (parse "int<T>" = .ok (object "int") ∧ parse "int" = .ok (primitive .int)) ∧
      parse "void<T>[]" = .ok (array (object "void")) ∧
        parse "void[]" = .error ⟨"void[]", .voidElement⟩ := by
  have hmap : parse "java.util.Map<K, V>[]" = .ok (array (object "java.util.Map")) := by decide
  have hint : parse "int<T>" = .ok (object "int") := by decide
  have hvoid : parse "void<T>[]" = .ok (array (object "void")) := by decide
  refine ⟨⟨hmap, (parse_display_iff hmap).1.mpr ?_⟩, ⟨hint, ?_⟩, hvoid, ?_⟩
  · intro kind hgeneric
    cases kind <;> exact absurd hgeneric.2 (by decide)
  · exact ((parse_display_iff hint).2 .int).2 ⟨by decide, by decide⟩
  · exact ((parse_display_iff hvoid).2 .void).2 ⟨by decide, by decide⟩

end NativeBindings.JavaType
