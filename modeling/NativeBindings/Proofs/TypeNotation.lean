import Mathlib.Data.List.TakeWhile
import NativeBindings.Proofs.QualifiedName
import NativeBindings.Proofs.WellFormedType

/-!
# The notation of types

A type without type arguments is written as a keyword or a qualified name with pairs of brackets
after it, and blanks around the name and around each pair, but not within one. A `Spelling` is such
a text in its parts. Reading takes brackets and blanks off the back and finds these parts again, so
the texts that it accepts are those of spellings.
-/

namespace NativeBindings

open Unicode (isBlank)

/-- No blank is an identifier character. -/
theorem isIdentifierPart_of_isBlank {c : Char} (h : isBlank c) : isIdentifierPart c = false := by
  have hcodes : ∀ code ∈ Unicode.blankCodes, isIdentifierPart (Char.ofNat code) = false := by
    decide +kernel
  have hc := hcodes c.toNat (by simpa [isBlank] using h)
  rwa [Char.ofNat_toNat] at hc

/-- No blank stands in a qualified name. -/
theorem isBlank_eq_false_of_mem {name : List Char} (hname : isQualifiedChars name) {c : Char}
    (hc : c ∈ name) : isBlank c = false := by
  rw [Bool.eq_false_iff]
  intro hblank
  refine notMem_of_isQualifiedChars hname (isIdentifierPart_of_isBlank hblank) ?_ hc
  rintro rfl
  exact absurd hblank (by decide)

namespace Primitive

/-- A keyword is that of the type it stands for. -/
theorem keyword_of_ofKeyword? {name : String} {kind : Primitive}
    (h : ofKeyword? name = some kind) : kind.keyword = name := by
  simpa using List.find?_some h

/-- Each type is the one with its keyword. -/
@[simp] theorem ofKeyword?_keyword (kind : Primitive) : ofKeyword? kind.keyword = some kind := by
  cases kind <;> rfl

/-- A text is no keyword if no primitive type has it for one. -/
theorem ofKeyword?_eq_none_iff {name : String} :
    ofKeyword? name = none ↔ ∀ kind : Primitive, name ≠ kind.keyword := by
  constructor
  · rintro hnone kind rfl
    simp at hnone
  · intro hkinds
    rw [Option.eq_none_iff_forall_ne_some]
    exact fun kind hkind => hkinds kind (keyword_of_ofKeyword? hkind).symm

/-- Two types have two keywords. -/
theorem keyword_injective : Function.Injective keyword := by
  intro kind kind' h
  have htypes := congrArg ofKeyword? h
  simpa using htypes

/-- A keyword is a name like any other. -/
theorem isQualifiedName_keyword (kind : Primitive) : isQualifiedName kind.keyword := by
  cases kind <;> decide

end Primitive

namespace JavaType

/-- A run of blanks, which may be empty. -/
abbrev Blanks :=
  { cs : List Char // ∀ c ∈ cs, isBlank c }

/-- No blanks. -/
def noBlanks : Blanks :=
  ⟨[], by simp⟩

@[simp] theorem val_noBlanks : noBlanks.val = [] := rfl

/-- One blank. -/
def oneBlank (c : Char) (h : isBlank c) : Blanks :=
  ⟨[c], List.forall_mem_singleton.mpr h⟩

/-- Pairs of brackets with blanks before each, and blanks after the last. -/
def bracketsChars (gaps : List Blanks) (back : Blanks) : List Char :=
  gaps.flatMap (fun gap => gap.val ++ ['[', ']']) ++ back.val

/-- One pair of brackets more at the back. -/
theorem bracketsChars_concat (gaps : List Blanks) (gap back : Blanks) :
    bracketsChars (gaps ++ [gap]) back = bracketsChars gaps gap ++ '[' :: ']' :: back.val := by
  simp [bracketsChars]

/-- The type that a keyword or the name of a class stands for by itself. -/
def named (name : String) : JavaType :=
  match Primitive.ofKeyword? name with
  | some kind => primitive kind
  | none => object name

/-- No name stands for a class that is called by a keyword. -/
theorem named_ne_object (name : String) (kind : Primitive) : named name ≠ object kind.keyword := by
  intro h
  rw [named] at h
  split at h
  · contradiction
  · next hname =>
    rw [object.inj h, Primitive.ofKeyword?_keyword] at hname
    contradiction

/-- A text that names a type, in its parts: blanks, a keyword or a qualified name, and pairs of
brackets in between blanks, but none after `void`. -/
structure Spelling where
  front : Blanks
  base : String
  gaps : List Blanks
  back : Blanks
  named_base : (Primitive.ofKeyword? base).isSome ∨ isQualifiedName base
  bare_void : base = Primitive.void.keyword → gaps = []

namespace Spelling

/-- The text of a spelling. -/
def text (spelling : Spelling) : String :=
  String.ofList (spelling.front.val ++ spelling.base.toList ++
    bracketsChars spelling.gaps spelling.back)

/-- The type of a spelling: its base under as many array levels as there are pairs of brackets. -/
def type (spelling : Spelling) : JavaType :=
  arrayOf spelling.gaps.length (named spelling.base)

/-- The base of a spelling is a qualified name, also if it is a keyword. -/
theorem isQualifiedName_base (spelling : Spelling) : isQualifiedName spelling.base := by
  rcases spelling.named_base with hkeyword | hname
  · obtain ⟨kind, hkind⟩ := Option.isSome_iff_exists.mp hkeyword
    rw [← Primitive.keyword_of_ofKeyword? hkind]
    exact kind.isQualifiedName_keyword
  · exact hname

/-- The spelling with one pair of brackets more at the back, unless that is of `void`. -/
def bracketed (spelling : Spelling) (hvoid : spelling.type ≠ void) : Spelling where
  front := spelling.front
  base := spelling.base
  gaps := spelling.gaps ++ [spelling.back]
  back := noBlanks
  named_base := spelling.named_base
  bare_void := by
    intro hbase
    have hgaps := spelling.bare_void hbase
    exact absurd (by rw [type, hgaps, hbase]; rfl) hvoid

/-- The text of a spelling with brackets. -/
theorem text_bracketed (spelling : Spelling) (hvoid : spelling.type ≠ void) :
    (spelling.bracketed hvoid).text = spelling.text ++ "[]" := by
  rw [← String.toList_inj]
  simp [text, bracketed, bracketsChars_concat]

/-- A spelling with brackets is one of an array. -/
theorem type_bracketed (spelling : Spelling) (hvoid : spelling.type ≠ void) :
    (spelling.bracketed hvoid).type = array spelling.type := by
  simp [type, bracketed, arrayOf]

end Spelling

/-- A blank at the back of a text is passed over. -/
theorem stripBrackets_cons_blank {c : Char} (h : isBlank c) (rest : List Char) :
    stripBrackets (c :: rest) = stripBrackets rest := by
  rw [stripBrackets, if_pos h]
  rintro tail rfl rfl
  exact absurd h (by decide)

/-- Blanks at the back of a text are passed over. -/
theorem stripBrackets_blanks_append (blanks : Blanks) (rest : List Char) :
    stripBrackets (blanks.val.reverse ++ rest) = stripBrackets rest := by
  obtain ⟨cs, hcs⟩ := blanks
  induction cs generalizing rest with
  | nil => rfl
  | cons c cs ih =>
    obtain ⟨hc, htail⟩ := List.forall_mem_cons.mp hcs
    rw [List.reverse_cons, List.append_assoc, ih _ htail]
    exact stripBrackets_cons_blank hc rest

/-- Brackets and blanks at the back of a text are taken off and counted. -/
theorem stripBrackets_bracketsChars (gaps : List Blanks) (back : Blanks) (rest : List Char) :
    stripBrackets ((bracketsChars gaps back).reverse ++ rest) =
      ((stripBrackets rest).1 + gaps.length, (stripBrackets rest).2) := by
  -- The last pair of brackets is read first, so the pairs are taken from the back.
  induction gaps using List.reverseRecOn generalizing back with
  | nil => exact stripBrackets_blanks_append back rest
  | append_singleton gaps gap ih =>
    have hsplit : (bracketsChars (gaps ++ [gap]) back).reverse ++ rest =
        back.val.reverse ++ ']' :: '[' :: ((bracketsChars gaps gap).reverse ++ rest) := by
      simp [bracketsChars_concat]
    rw [hsplit, stripBrackets_blanks_append, stripBrackets, ih]
    simp [Nat.add_assoc]

/-- Nothing is taken off a text that ends with neither a blank nor a bracket. -/
theorem stripBrackets_of_getLast? {cs : List Char} {last : Char} (hlast : cs.getLast? = some last)
    (hblank : isBlank last = false) (hbracket : last ≠ ']') (front : List Char) :
    stripBrackets (cs.reverse ++ front) = (0, cs.reverse ++ front) := by
  obtain ⟨init, rfl⟩ := List.getLast?_eq_some_iff.mp hlast
  rw [List.reverse_append, List.reverse_singleton, List.singleton_append, List.cons_append,
    stripBrackets, hblank]
  · rfl
  · intro rest heq _
    exact hbracket heq

/-- The brackets after a text are counted, and the text is found between the blanks, if it begins
and ends with neither a blank nor a bracket. -/
theorem splitBrackets_append (front : Blanks) {cs : List Char} {first last : Char}
    (hfirst : cs.head? = some first) (hlast : cs.getLast? = some last)
    (hfirstBlank : isBlank first = false) (hlastBlank : isBlank last = false)
    (hbracket : last ≠ ']') (gaps : List Blanks) (back : Blanks) :
    splitBrackets (front.val ++ cs ++ bracketsChars gaps back) = (gaps.length, cs) := by
  have hstripped : stripBrackets (front.val ++ cs ++ bracketsChars gaps back).reverse =
      (gaps.length, cs.reverse ++ front.val.reverse) := by
    rw [List.reverse_append, stripBrackets_bracketsChars, List.reverse_append,
      stripBrackets_of_getLast? hlast hlastBlank hbracket, Nat.zero_add]
  have htrimmed : Text.trimStart (front.val ++ cs) = cs := by
    obtain ⟨rest, rfl⟩ := List.head?_eq_some_iff.mp hfirst
    rw [Text.trimStart, List.dropWhile_append_of_pos front.property, List.dropWhile_cons_of_neg]
    simp [hfirstBlank]
  rw [splitBrackets, hstripped, ← List.reverse_append, List.reverse_reverse, htrimmed]

/-- The brackets after a name are counted, and the name is found between the blanks. -/
theorem splitBrackets_name (front : Blanks) {name : List Char} (hname : isQualifiedChars name)
    (gaps : List Blanks) (back : Blanks) :
    splitBrackets (front.val ++ name ++ bracketsChars gaps back) = (gaps.length, name) := by
  obtain ⟨first, rest, rfl, -⟩ := isQualifiedChars_cons hname
  have hlast := List.getLast?_eq_getLast_of_ne_nil (List.cons_ne_nil first rest)
  have hmem := List.getLast_mem (List.cons_ne_nil first rest)
  refine splitBrackets_append front rfl hlast (isBlank_eq_false_of_mem hname List.mem_cons_self)
    (isBlank_eq_false_of_mem hname hmem) ?_ gaps back
  intro hbracket
  rw [hbracket] at hmem
  exact notMem_of_isQualifiedChars hname (by decide) (by decide) hmem

/-- What is taken off the back of a text is brackets and blanks. -/
theorem exists_brackets (cs : List Char) :
    ∃ gaps back, gaps.length = (stripBrackets cs).1 ∧
      cs.reverse = (stripBrackets cs).2.reverse ++ bracketsChars gaps back := by
  fun_induction stripBrackets cs with
  | case1 => exact ⟨[], noBlanks, rfl, rfl⟩
  | case2 rest inner ih =>
    obtain ⟨gaps, back, hlevels, hrest⟩ := ih
    refine ⟨gaps ++ [back], noBlanks, by simp [hlevels, inner], ?_⟩
    simp [bracketsChars_concat, hrest, inner]
  | case3 c rest hbrackets hblank ih =>
    obtain ⟨gaps, back, hlevels, hrest⟩ := ih
    have hback : ∀ d ∈ back.val ++ [c], isBlank d := by
      intro d hd
      rcases List.mem_append.mp hd with hd | hd
      · exact back.property d hd
      · rwa [List.mem_singleton.mp hd]
    exact ⟨gaps, ⟨back.val ++ [c], hback⟩, hlevels, by simp [bracketsChars, hrest]⟩
  | case4 c rest hbrackets hblank =>
    exact ⟨[], noBlanks, rfl, by simp [bracketsChars]⟩

/-- A text falls into blanks, what is taken for its name, and brackets and blanks. -/
theorem exists_parts (cs : List Char) :
    ∃ (front : Blanks) (gaps : List Blanks) (back : Blanks),
      gaps.length = (splitBrackets cs).1 ∧
      cs = front.val ++ (splitBrackets cs).2 ++ bracketsChars gaps back := by
  obtain ⟨gaps, back, hlevels, hcs⟩ := exists_brackets cs.reverse
  have hfront : ∀ c ∈ ((stripBrackets cs.reverse).2.reverse).takeWhile isBlank, isBlank c :=
    fun c hc => List.mem_takeWhile_imp hc
  refine ⟨⟨_, hfront⟩, gaps, back, hlevels, ?_⟩
  rw [splitBrackets, Text.trimStart, List.takeWhile_append_dropWhile, ← hcs, List.reverse_reverse]

/-- The class with a qualified name is read from it. -/
theorem ofClassName_of_isQualifiedName {name : String} (hname : isQualifiedName name) :
    ofClassName name.toList = .ok (object name) := by
  have hplain : '<' ∉ name.toList := notMem_of_isQualifiedChars hname (by decide) (by decide)
  have hchars : isQualifiedChars name.toList := hname
  rw [ofClassName, eraseArguments, if_neg hplain]
  change (if isQualifiedChars name.toList then _ else _) = _
  rw [if_pos hchars, String.ofList_toList]

/-- A name without type arguments, with the brackets after it, is read if it is a qualified name,
and not `void` before brackets. -/
theorem ofNotation_eq_ok_iff {cs : List Char} {levels : Nat} {name : String}
    (hsplit : splitBrackets cs = (levels, name.toList)) (hplain : '<' ∉ name.toList)
    {type : JavaType} :
    ofNotation cs = .ok type ↔ isQualifiedName name ∧
      (name = Primitive.void.keyword → levels = 0) ∧ arrayOf levels (named name) = type := by
  constructor
  · intro h
    obtain ⟨base, rfl, hbase⟩ := ofNotation_eq_ok h
    rw [hsplit, String.ofList_toList] at hbase
    rw [hsplit]
    rcases hbase with ⟨kind, hkind, rfl, hvoid⟩ | ⟨hkind, hclass⟩
    · obtain rfl := Primitive.keyword_of_ofKeyword? hkind
      refine ⟨kind.isQualifiedName_keyword, ?_, by rw [named, hkind]⟩
      exact fun heq => hvoid (Primitive.keyword_injective heq)
    · obtain ⟨erased, herased, hqualified, rfl⟩ := ofClassName_eq_ok hclass
      rw [eraseArguments, if_neg hplain] at herased
      obtain rfl := Except.ok.inj herased
      refine ⟨hqualified, ?_, by rw [named, hkind, String.ofList_toList]⟩
      rintro rfl
      simp at hkind
  · rintro ⟨hname, hvoid, rfl⟩
    have hnonempty : name.toList.isEmpty = false := by
      obtain ⟨first, rest, hcons, -⟩ := isQualifiedChars_cons hname
      rw [hcons]
      rfl
    have hbrackets : ¬('[' ∈ name.toList ∨ ']' ∈ name.toList) :=
      not_or.mpr ⟨notMem_of_isQualifiedChars hname (by decide) (by decide),
        notMem_of_isQualifiedChars hname (by decide) (by decide)⟩
    rw [ofNotation, hsplit]
    simp only [hnonempty, hbrackets, Bool.false_eq_true, if_false, String.ofList_toList]
    cases hkind : Primitive.ofKeyword? name with
    | none =>
      rw [ofClassName_of_isQualifiedName hname, named, hkind]
      rfl
    | some kind =>
      obtain rfl := Primitive.keyword_of_ofKeyword? hkind
      have hbare : ¬(kind = .void ∧ levels > 0) := by
        rintro ⟨rfl, hlevels⟩
        exact Nat.ne_of_gt hlevels (hvoid rfl)
      simp only [hbare, if_false, named, hkind]

/-- The text of a spelling is read as its type. -/
theorem parse_text (spelling : Spelling) : parse spelling.text = .ok spelling.type := by
  have hname := spelling.isQualifiedName_base
  rw [parse, mapError_eq_ok_iff, Spelling.text, String.toList_ofList]
  refine (ofNotation_eq_ok_iff (splitBrackets_name _ hname _ _) ?_).mpr ⟨hname, ?_, rfl⟩
  · exact notMem_of_isQualifiedChars hname (by decide) (by decide)
  · intro hvoid
    rw [spelling.bare_void hvoid, List.length_nil]

/-- A qualified name is read as the type that it stands for. -/
theorem parse_of_isQualifiedName {name : String} (hname : isQualifiedName name) :
    parse name = .ok (named name) := by
  have hparse := parse_text ⟨noBlanks, name, [], noBlanks, Or.inr hname, fun _ => rfl⟩
  simpa [Spelling.text, Spelling.type, bracketsChars, arrayOf] using hparse

/-- A text without type arguments that is read as a type is the text of a spelling of it. -/
theorem exists_spelling {source : String} (hplain : '<' ∉ source.toList) {type : JavaType}
    (h : parse source = .ok type) :
    ∃ spelling : Spelling, spelling.text = source ∧ spelling.type = type := by
  rw [parse, mapError_eq_ok_iff] at h
  obtain ⟨front, gaps, back, hlevels, hparts⟩ := exists_parts source.toList
  have hsplit : splitBrackets source.toList =
      (gaps.length, (String.ofList (splitBrackets source.toList).2).toList) := by
    rw [hlevels, String.toList_ofList]
  -- From here on the name is any text that the split leaves over.
  generalize String.ofList (splitBrackets source.toList).2 = name at hsplit
  rw [hsplit] at hparts
  have hname : '<' ∉ name.toList := fun hmem => hplain (by simp [hparts, hmem])
  obtain ⟨hqualified, hvoid, rfl⟩ := (ofNotation_eq_ok_iff hsplit hname).mp h
  refine ⟨⟨front, name, gaps, back, Or.inr hqualified, ?_⟩, ?_, rfl⟩
  · exact fun heq => List.length_eq_zero_iff.mp (hvoid heq)
  · rw [Spelling.text, ← hparts, String.ofList_toList]

/-- What a well-formed type is displayed as is the text of a spelling of it, unless its base is a
class with a keyword for its name. -/
theorem exists_spelling_display {type : JavaType} (htype : type.isWellFormed)
    (hbase : ∀ name, type.base = object name → Primitive.ofKeyword? name = none) :
    ∃ spelling : Spelling, spelling.text = type.display ∧ spelling.type = type := by
  induction type with
  | primitive kind =>
    refine ⟨⟨noBlanks, kind.keyword, [], noBlanks, Or.inl (by simp), fun _ => rfl⟩, ?_, ?_⟩
    · simp [Spelling.text, bracketsChars, display]
    · simp [Spelling.type, named, arrayOf]
  | array element ih =>
    simp only [isWellFormed, Bool.and_eq_true, Bool.not_eq_true'] at htype
    obtain ⟨spelling, htext, hspells⟩ := ih htype.2 hbase
    have hvoid : spelling.type ≠ void := by
      rw [hspells]
      simpa [isVoid] using htype.1
    refine ⟨spelling.bracketed hvoid, ?_, ?_⟩
    · rw [spelling.text_bracketed, htext, display]
    · rw [spelling.type_bracketed, hspells]
  | object name =>
    refine ⟨⟨noBlanks, name, [], noBlanks, Or.inr htype, fun _ => rfl⟩, ?_, ?_⟩
    · simp [Spelling.text, bracketsChars, display]
    · simp [Spelling.type, named, arrayOf, hbase name rfl]

/-- A text without type arguments is read as a type if and only if it is the text of a spelling of
the type, and what a type is displayed as is read as the type. -/
theorem type_notation :
    (∀ source : String, '<' ∉ source.toList → ∀ type, parse source = .ok type ↔
        ∃ spelling : Spelling, spelling.text = source ∧ spelling.type = type) ∧
      ∀ type : JavaType, type.isWellFormed →
        (∀ name, type.base = object name → Primitive.ofKeyword? name = none) →
        parse type.display = .ok type := by
  refine ⟨fun source hplain type => ⟨exists_spelling hplain, ?_⟩, fun type htype hbase => ?_⟩
  · rintro ⟨spelling, rfl, rfl⟩
    exact parse_text spelling
  · obtain ⟨spelling, htext, hspells⟩ := exists_spelling_display htype hbase
    rw [← htext, parse_text, hspells]

/-- Blanks of any script may stand around a name and around the brackets after it, but not within
a pair of them. -/
theorem type_notation_blanks :
    parse "\u3000p.Ünï\t[] []\u2003" = .ok (array (array (object "p.Ünï"))) ∧
      parse "p.Ünï[][]" = .ok (array (array (object "p.Ünï"))) ∧
      ∀ spelling : Spelling, spelling.text ≠ "int[ ]" := by
  obtain ⟨hparse, hdisplay⟩ := type_notation
  have hwell : (array (array (object "p.Ünï"))).isWellFormed := by decide +kernel
  refine ⟨(hparse _ (by decide) _).mpr ?_, hdisplay _ hwell ?_, fun spelling htext => ?_⟩
  · exact ⟨⟨oneBlank '\u3000' rfl, "p.Ünï", [oneBlank '\t' rfl, oneBlank ' ' rfl],
      oneBlank '\u2003' rfl, Or.inr (by decide +kernel), by decide⟩, by decide, by decide⟩
  · intro name hname
    obtain rfl : "p.Ünï" = name := by simpa [base] using hname
    decide
  · have hread := (hparse "int[ ]" (by decide) spelling.type).mpr ⟨spelling, htext, rfl⟩
    have hfails : parse "int[ ]" = .error ⟨"int[ ]", .unbalancedBrackets⟩ := by decide
    rw [hfails] at hread
    contradiction

end JavaType

end NativeBindings
