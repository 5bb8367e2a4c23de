import NativeBindings.Proofs.TypeNotation

/-!
# Names with type arguments

A class name may be written in parts with type arguments after each of them. Reading erases
everything from the first opening bracket on, provided that the text ends with a closing one. So it
gives the written class exactly if only the last part has arguments. Arguments after an earlier part
take the parts behind them away as well: the text is read as another class, or not at all.
-/

namespace NativeBindings.JavaType

open Unicode (isBlank)

/-- A qualified name. -/
abbrev QualifiedName :=
  { name : String // isQualifiedName name }

/-- The angle brackets among the characters are well nested. -/
inductive IsNested : List Char → Prop
  | nil : IsNested []
  | plain {c : Char} {rest : List Char} (hopen : c ≠ '<') (hclose : c ≠ '>')
      (hrest : IsNested rest) : IsNested (c :: rest)
  | group {inner rest : List Char} (hinner : IsNested inner) (hrest : IsNested rest) :
      IsNested ('<' :: (inner ++ '>' :: rest))

/-- A qualified name, and what stands in the angle brackets behind it, if there are any. -/
structure Part where
  name : QualifiedName
  arguments : Option { cs : List Char // IsNested cs }

namespace Part

/-- The characters of the name. -/
def nameChars (part : Part) : List Char :=
  part.name.val.toList

/-- The angle brackets behind the name with what stands in them. -/
def argumentChars (part : Part) : List Char :=
  match part.arguments with
  | some inner => '<' :: (inner.val ++ ['>'])
  | none => []

/-- The characters of a part. -/
def chars (part : Part) : List Char :=
  part.nameChars ++ part.argumentChars

/-- The name of a part is a qualified name. -/
theorem isQualifiedChars_nameChars (part : Part) : isQualifiedChars part.nameChars :=
  part.name.property

/-- A part without arguments is its name. -/
theorem chars_of_none {part : Part} (h : part.arguments = none) : part.chars = part.nameChars := by
  rw [chars, argumentChars, h, List.append_nil]

/-- A part with arguments has them in angle brackets behind its name. -/
theorem exists_chars_eq {part : Part} (h : part.arguments ≠ none) :
    ∃ inner, part.chars = part.nameChars ++ '<' :: (inner ++ ['>']) := by
  obtain ⟨inner, hinner⟩ := Option.ne_none_iff_exists'.mp h
  exact ⟨inner.val, by rw [chars, argumentChars, hinner]⟩

end Part

/-- A class name in parts, which dots join. -/
structure GenericName where
  front : List Part
  last : Part

/-- So many pairs of brackets. -/
def brackets (levels : Nat) : List Char :=
  (List.replicate levels ['[', ']']).flatten

/-- The characters outside of all angle brackets, if so many of these are open. -/
def outside : Nat → List Char → List Char
  | _, [] => []
  | depth, c :: rest =>
    if c = '<' then outside (depth + 1) rest
    else if c = '>' then outside (depth - 1) rest
    else if depth = 0 then c :: outside 0 rest
    else outside depth rest

namespace GenericName

/-- The characters of a name with its type arguments. -/
def chars (generic : GenericName) : List Char :=
  generic.front.flatMap (fun part => part.chars ++ ['.']) ++ generic.last.chars

/-- The text of an array type of the class. -/
def text (generic : GenericName) (levels : Nat) : String :=
  String.ofList (generic.chars ++ brackets levels)

/-- The characters of a name without type arguments. -/
def nameChars (generic : GenericName) : List Char :=
  generic.front.flatMap (fun part => part.nameChars ++ ['.']) ++ generic.last.nameChars

/-- The class that is written. -/
def name (generic : GenericName) : String :=
  String.ofList generic.nameChars

/-- The names of the parts up to the first one with arguments. -/
def leadingChars : List Part → Part → List Char
  | [], last => last.nameChars
  | part :: rest, last =>
    if part.arguments.isSome then part.nameChars
    else part.nameChars ++ '.' :: leadingChars rest last

/-- The class that the parts up to the first one with arguments name. -/
def leadingName (generic : GenericName) : String :=
  String.ofList (leadingChars generic.front generic.last)

/-- No part of the name has arguments. -/
def IsPlain (generic : GenericName) : Prop :=
  (∀ part ∈ generic.front, part.arguments = none) ∧ generic.last.arguments = none

end GenericName

/-! ### What stands outside of the brackets -/

/-- Nothing in a well-nested text counts if a bracket is open around it. -/
theorem outside_nested {cs : List Char} (h : IsNested cs) (depth : Nat) (rest : List Char) :
    outside (depth + 1) (cs ++ rest) = outside (depth + 1) rest := by
  induction h generalizing depth rest with
  | nil => rfl
  | plain hopen hclose _ ih =>
    rw [List.cons_append, outside, if_neg hopen, if_neg hclose, if_neg (Nat.succ_ne_zero depth)]
    exact ih depth rest
  | group _ _ ihinner ihrest =>
    rw [List.cons_append, List.append_assoc, outside, if_pos rfl, ihinner, List.cons_append,
      outside, if_neg (by decide), if_pos rfl, Nat.add_sub_cancel]
    exact ihrest depth rest

/-- A text without angle brackets stands outside of them. -/
theorem outside_append {cs : List Char} (hopen : '<' ∉ cs) (hclose : '>' ∉ cs) (rest : List Char) :
    outside 0 (cs ++ rest) = cs ++ outside 0 rest := by
  induction cs with
  | nil => rfl
  | cons c cs ih =>
    rw [List.mem_cons, not_or] at hopen hclose
    rw [List.cons_append, outside, if_neg (Ne.symm hopen.1), if_neg (Ne.symm hclose.1), if_pos rfl,
      ih hopen.2 hclose.2, List.cons_append]

/-- Of a part, the name stands outside of the brackets. -/
theorem Part.outside_chars (part : Part) (rest : List Char) :
    outside 0 (part.chars ++ rest) = part.nameChars ++ outside 0 rest := by
  have hname := part.isQualifiedChars_nameChars
  rw [chars, List.append_assoc,
    outside_append (notMem_of_isQualifiedChars hname (by decide) (by decide))
      (notMem_of_isQualifiedChars hname (by decide) (by decide))]
  congr 1
  rw [argumentChars]
  cases part.arguments with
  | none => rfl
  | some inner =>
    simp only [List.cons_append, List.append_assoc, List.nil_append]
    rw [outside, if_pos rfl, outside_nested inner.property, outside, if_neg (by decide), if_pos rfl]

/-- The written class is what stands outside of the brackets. -/
theorem GenericName.outside_chars (generic : GenericName) :
    outside 0 generic.chars = generic.nameChars := by
  obtain ⟨front, last⟩ := generic
  simp only [chars, nameChars]
  induction front with
  | nil =>
    rw [List.flatMap_nil, List.flatMap_nil, List.nil_append, List.nil_append,
      ← List.append_nil last.chars, last.outside_chars, outside, List.append_nil]
  | cons part front ih =>
    rw [List.flatMap_cons, List.flatMap_cons, List.append_assoc, List.append_assoc,
      part.outside_chars, List.singleton_append, outside, if_neg (by decide), if_neg (by decide),
      if_pos rfl, ih, List.append_assoc, List.append_assoc, List.singleton_append]

/-! ### The ends of a name with type arguments -/

namespace GenericName

/-- The parts up to the first one with arguments name a class. -/
theorem isQualifiedChars_leadingChars (front : List Part) (last : Part) :
    isQualifiedChars (leadingChars front last) := by
  induction front with
  | nil => exact last.isQualifiedChars_nameChars
  | cons part front ih =>
    rw [leadingChars]
    split
    · exact part.isQualifiedChars_nameChars
    · rw [isQualifiedChars_append_dot, part.isQualifiedChars_nameChars, ih]
      rfl

/-- A name without arguments is its leading part. -/
theorem chars_eq_leadingChars {generic : GenericName} (h : generic.IsPlain) :
    generic.chars = leadingChars generic.front generic.last := by
  obtain ⟨front, last⟩ := generic
  obtain ⟨hfront, hlast⟩ := h
  simp only [chars] at hfront hlast ⊢
  induction front with
  | nil => exact Part.chars_of_none hlast
  | cons part front ih =>
    obtain ⟨hpart, hfront⟩ := List.forall_mem_cons.mp hfront
    have hnone : ¬ part.arguments.isSome := by simp [hpart]
    rw [List.flatMap_cons, List.append_assoc, ih hfront, Part.chars_of_none hpart, leadingChars,
      if_neg hnone, List.append_assoc, List.singleton_append]

/-- The first bracket of a name with arguments stands behind its leading part. -/
theorem exists_chars_eq {generic : GenericName} (h : ¬ generic.IsPlain) :
    ∃ rest, generic.chars = leadingChars generic.front generic.last ++ '<' :: rest := by
  obtain ⟨front, last⟩ := generic
  simp only [IsPlain, chars] at h ⊢
  induction front with
  | nil =>
    have hlast : last.arguments ≠ none := by simpa using h
    obtain ⟨inner, hinner⟩ := Part.exists_chars_eq hlast
    exact ⟨inner ++ ['>'], hinner⟩
  | cons part front ih =>
    rw [List.flatMap_cons, List.append_assoc, leadingChars]
    by_cases hpart : part.arguments = none
    · obtain ⟨rest, hrest⟩ := ih (by simpa [hpart] using h)
      refine ⟨rest, ?_⟩
      rw [hrest, Part.chars_of_none hpart, if_neg (by simp [hpart]), List.append_assoc,
        List.append_assoc, List.singleton_append, List.cons_append]
    · obtain ⟨inner, hinner⟩ := Part.exists_chars_eq hpart
      rw [hinner, if_pos (Option.isSome_iff_ne_none.mpr hpart), List.append_assoc,
        List.append_assoc, List.cons_append]
      exact ⟨_, rfl⟩

/-- The last character of a name closes a bracket exactly if the last part has arguments. -/
theorem getLast?_chars (generic : GenericName) :
    (generic.last.arguments ≠ none ∧ generic.chars.getLast? = some '>') ∨
      generic.last.arguments = none ∧
        ∃ c, generic.chars.getLast? = some c ∧ c ∈ generic.last.nameChars := by
  rw [chars]
  by_cases hlast : generic.last.arguments = none
  · obtain ⟨first, rest, hcons, -⟩ :=
      isQualifiedChars_cons generic.last.isQualifiedChars_nameChars
    refine Or.inr ⟨hlast, (first :: rest).getLast (List.cons_ne_nil first rest), ?_, ?_⟩
    · rw [Part.chars_of_none hlast, hcons, List.getLast?_append_of_ne_nil _ (by simp)]
      exact List.getLast?_eq_getLast_of_ne_nil _
    · rw [hcons]
      exact List.getLast_mem _
  · obtain ⟨inner, hinner⟩ := Part.exists_chars_eq hlast
    refine Or.inl ⟨hlast, ?_⟩
    rw [hinner, ← List.cons_append, ← List.append_assoc, ← List.append_assoc]
    exact List.getLast?_concat

/-- The brackets after a name with arguments are counted, and the name is found before them. -/
theorem splitBrackets_chars (generic : GenericName) (levels : Nat) :
    splitBrackets (generic.chars ++ brackets levels) = (levels, generic.chars) := by
  have hbrackets : brackets levels = bracketsChars (List.replicate levels noBlanks) noBlanks := by
    simp [brackets, bracketsChars, List.flatMap_replicate]
  have hleading := isQualifiedChars_leadingChars generic.front generic.last
  obtain ⟨first, rest, hcons, -⟩ := isQualifiedChars_cons hleading
  have hfirst : generic.chars.head? = some first := by
    by_cases hplain : generic.IsPlain
    · rw [chars_eq_leadingChars hplain, hcons, List.head?_cons]
    · obtain ⟨rest', hrest'⟩ := exists_chars_eq hplain
      rw [hrest', hcons, List.cons_append, List.head?_cons]
  have hfirstBlank : isBlank first = false := by
    refine isBlank_eq_false_of_mem hleading ?_
    rw [hcons]
    exact List.mem_cons_self
  have hsplit : ∀ {c : Char}, generic.chars.getLast? = some c → isBlank c = false → c ≠ ']' →
      splitBrackets (generic.chars ++ brackets levels) = (levels, generic.chars) := by
    intro c hlast hblank hbracket
    have h := splitBrackets_append noBlanks hfirst hlast hfirstBlank hblank hbracket
      (List.replicate levels noBlanks) noBlanks
    rwa [val_noBlanks, List.nil_append, List.length_replicate, ← hbrackets] at h
  rcases getLast?_chars generic with ⟨-, hlast⟩ | ⟨-, c, hlast, hmem⟩
  · exact hsplit hlast (by decide) (by decide)
  · have hname := generic.last.isQualifiedChars_nameChars
    refine hsplit hlast (isBlank_eq_false_of_mem hname hmem) ?_
    rintro rfl
    exact notMem_of_isQualifiedChars hname (by decide) (by decide) hmem

/-! ### How a name with type arguments is read -/

/-- No blanks stand at the end of a name. -/
theorem trimEnd_name {name : List Char} (hname : isQualifiedChars name) :
    Text.trimEnd name = name := by
  rcases List.eq_nil_or_concat' name with rfl | ⟨init, last, rfl⟩
  · rfl
  · have hblank := isBlank_eq_false_of_mem hname (List.mem_append_right init List.mem_cons_self)
    rw [Text.trimEnd, List.reverse_append, List.reverse_singleton, List.singleton_append,
      List.dropWhile_cons_of_neg (by simp [hblank]), List.reverse_cons, List.reverse_reverse]

/-- Erasure leaves the leading part of a name with arguments, if the name ends with some. -/
theorem eraseArguments_chars {generic : GenericName} (h : ¬ generic.IsPlain) :
    eraseArguments generic.chars =
      if generic.last.arguments = none then .error .unterminatedArguments
      else .ok (leadingChars generic.front generic.last) := by
  have hleading := isQualifiedChars_leadingChars generic.front generic.last
  obtain ⟨rest, hrest⟩ := exists_chars_eq h
  have hopen : '<' ∈ generic.chars := by simp [hrest]
  have hprefix : generic.chars.takeWhile (· ≠ '<') = leadingChars generic.front generic.last := by
    rw [hrest]
    exact takeWhile_ne_append
      (notMem_of_isQualifiedChars hleading (by decide) (by decide)) rest
  rw [eraseArguments, if_pos hopen]
  rcases getLast?_chars generic with ⟨hlast, hend⟩ | ⟨hlast, c, hend, hmem⟩
  · rw [hend, if_pos rfl, if_neg hlast, hprefix, trimEnd_name hleading]
  · have hc : c ≠ '>' := by
      rintro rfl
      exact notMem_of_isQualifiedChars generic.last.isQualifiedChars_nameChars (by decide)
        (by decide) hmem
    rw [hend, if_pos hlast, if_neg (by simpa using hc)]

/-- A name with arguments is read as the class that its leading part names, unless there are square
brackets in it or it does not end with arguments. -/
theorem ofNotation_chars {generic : GenericName} (h : ¬ generic.IsPlain) (levels : Nat) :
    ofNotation (generic.chars ++ brackets levels) =
      if '[' ∈ generic.chars ∨ ']' ∈ generic.chars then .error .unbalancedBrackets
      else if generic.last.arguments = none then .error .unterminatedArguments
      else .ok (arrayOf levels (object generic.leadingName)) := by
  obtain ⟨rest, hrest⟩ := exists_chars_eq h
  have hnonempty : generic.chars.isEmpty = false := by simp [hrest]
  have hkeyword : Primitive.ofKeyword? (String.ofList generic.chars) = none := by
    rw [Option.eq_none_iff_forall_ne_some]
    intro kind hkind
    have hname := kind.isQualifiedName_keyword
    rw [Primitive.keyword_of_ofKeyword? hkind, isQualifiedName, String.toList_ofList, hrest]
      at hname
    exact notMem_of_isQualifiedChars hname (by decide) (by decide)
      (List.mem_append_right _ List.mem_cons_self)
  have hclass : ofClassName generic.chars =
      if generic.last.arguments = none then .error .unterminatedArguments
      else .ok (object generic.leadingName) := by
    rw [ofClassName, eraseArguments_chars h]
    split
    · rfl
    · change (if isQualifiedChars (leadingChars generic.front generic.last) then _ else _) = _
      rw [if_pos (isQualifiedChars_leadingChars generic.front generic.last), leadingName]
  rw [ofNotation, splitBrackets_chars]
  simp only [hnonempty, Bool.false_eq_true, if_false, hkeyword, hclass]
  split
  · rfl
  · split
    · rfl
    · rfl

/-- The leading part is the whole name exactly if no part before the last has arguments. -/
theorem leadingName_eq_name_iff (generic : GenericName) :
    generic.leadingName = generic.name ↔ ∀ part ∈ generic.front, part.arguments = none := by
  obtain ⟨front, last⟩ := generic
  rw [leadingName, name, nameChars, String.ofList_inj]
  induction front with
  | nil => simp [leadingChars]
  | cons part front ih =>
    rw [leadingChars, List.forall_mem_cons, List.flatMap_cons, List.append_assoc, List.append_assoc]
    by_cases hpart : part.arguments = none
    · rw [if_neg (by simp [hpart]), List.append_cancel_left_eq, List.singleton_append,
        List.cons.injEq]
      simpa [hpart] using ih
    · rw [if_pos (Option.isSome_iff_ne_none.mpr hpart)]
      simp [hpart]

/-- A name with type arguments is read as the written class, which is what stands outside of its
angle brackets, exactly if no part before the last has arguments. Otherwise it is read as the class
that the parts up to the first arguments name, if it is read at all. -/
theorem erasure_keeps_name_iff (generic : GenericName) (levels : Nat) :
    outside 0 generic.chars = generic.name.toList ∧
      (∀ type, parse (generic.text levels) = .ok type ↔
        (generic.IsPlain ∧ (generic.name = Primitive.void.keyword → levels = 0) ∧
          type = arrayOf levels (named generic.name)) ∨
        (generic.last.arguments ≠ none ∧ '[' ∉ generic.chars ∧ ']' ∉ generic.chars ∧
          type = arrayOf levels (object generic.leadingName))) ∧
      (generic.leadingName = generic.name ↔ ∀ part ∈ generic.front, part.arguments = none) := by
  refine ⟨?_, fun type => ?_, leadingName_eq_name_iff generic⟩
  · rw [outside_chars, name, String.toList_ofList]
  · rw [parse, mapError_eq_ok_iff, text, String.toList_ofList]
    by_cases hplain : generic.IsPlain
    · have hchars : generic.chars = generic.name.toList := by
        rw [chars_eq_leadingChars hplain, ← String.toList_ofList (l := leadingChars _ _)]
        exact congrArg _ ((leadingName_eq_name_iff generic).mpr hplain.1)
      have hname : isQualifiedName generic.name := by
        rw [isQualifiedName, ← hchars, chars_eq_leadingChars hplain]
        exact isQualifiedChars_leadingChars _ _
      have hsplit := splitBrackets_chars generic levels
      rw [hchars] at hsplit
      rw [hchars, ofNotation_eq_ok_iff hsplit
        (notMem_of_isQualifiedChars hname (by decide) (by decide))]
      simp only [hname, hplain, hplain.2, true_and, ne_eq, not_true_eq_false, false_and, or_false,
        eq_comm]
    · rw [ofNotation_chars hplain]
      simp only [hplain, false_and, false_or]
      split
      · next hbrackets => simp only [reduceCtorEq, false_iff]; tauto
      · next hbrackets =>
        rw [not_or] at hbrackets
        split
        · next hlast => simp [hlast]
        · next hlast => simp [hlast, hbrackets, eq_comm]

/-- An inner class with type arguments, of a class that has some as well. -/
def innerOfGeneric : GenericName where
  front := [⟨⟨"a.Outer", by decide⟩, some ⟨['T'], .plain (by decide) (by decide) .nil⟩⟩]
  last := ⟨⟨"Inner", by decide⟩, some ⟨['U'], .plain (by decide) (by decide) .nil⟩⟩

/-- An inner class is read as the class around it, if that has type arguments. -/
theorem erasure_keeps_name_iff_inner :
    innerOfGeneric.text 1 = "a.Outer<T>.Inner<U>[]" ∧ innerOfGeneric.name = "a.Outer.Inner" ∧
      parse "a.Outer<T>.Inner<U>[]" = .ok (array (object "a.Outer")) ∧
      innerOfGeneric.leadingName ≠ innerOfGeneric.name := by
  have htext : innerOfGeneric.text 1 = "a.Outer<T>.Inner<U>[]" := by decide
  obtain ⟨-, hparse, hkept⟩ := erasure_keeps_name_iff innerOfGeneric 1
  refine ⟨htext, by decide, ?_, ?_⟩
  · rw [← htext, hparse]
    exact Or.inr ⟨by decide, by decide, by decide, by decide⟩
  · rw [Ne, hkept]
    decide

end GenericName

end NativeBindings.JavaType
