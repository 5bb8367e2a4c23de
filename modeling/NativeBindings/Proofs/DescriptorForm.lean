import Mathlib.Data.List.Basic
import NativeBindings.Proofs.DescriptorReading

/-!
# The form of descriptors

Reading takes a dot in a class name for a slash, and nothing else for something else. So a list of
descriptors is read as types exactly if, with slashes for its dots, it is what these types are
written as; the types are then well formed. A method descriptor comes apart at its closing
parenthesis, which stands in no descriptor of a type.
-/

namespace NativeBindings

namespace Primitive

/-- A letter stands for a type if the type is written with it. -/
theorem letter_of_ofLetter? {letter : Char} {kind : Primitive}
    (h : ofLetter? letter = some kind) : kind.letter = letter := by
  simpa using List.find?_some h

/-- No type is written with a dot. -/
theorem letter_ne_dot (kind : Primitive) : kind.letter ≠ '.' := by
  cases kind <;> decide

end Primitive

namespace JavaType

open Text (substitute)

/-- The end of a class name is found with slashes as with dots. -/
theorem ne_semicolon_comp_slash :
    ((fun c => decide (c ≠ ';')) ∘ fun c : Char => if c = '.' then '/' else c) =
      fun c => decide (c ≠ ';') := by
  funext c
  by_cases hdot : c = '.'
  · subst hdot
    decide
  · simp [hdot]

/-- A class name with slashes for dots is read as before. -/
theorem takeClassName_substitute (cs : List Char) :
    takeClassName (substitute '.' '/' cs) =
      (takeClassName cs).map fun read => (read.1, substitute '.' '/' read.2) := by
  have hdrop : (substitute '.' '/' cs).dropWhile (· ≠ ';') =
      substitute '.' '/' (cs.dropWhile (· ≠ ';')) := by
    rw [substitute, List.dropWhile_map, ne_semicolon_comp_slash]
    rfl
  have htake : (substitute '.' '/' cs).takeWhile (· ≠ ';') =
      substitute '.' '/' (cs.takeWhile (· ≠ ';')) := by
    rw [substitute, List.takeWhile_map, ne_semicolon_comp_slash]
    rfl
  rw [takeClassName, takeClassName, hdrop, htake, Text.substitute_substitute_back]
  cases cs.dropWhile (· ≠ ';') with
  | nil => rfl
  | cons semicolon rest =>
    generalize substitute '/' '.' (cs.takeWhile (· ≠ ';')) = name
    by_cases hname : isQualifiedChars name
    · simp [substitute, hname, Except.map]
    · simp [substitute, hname, Except.map]

/-- A letter is read as the type that it stands for. -/
theorem takeDescriptor_letter {letter : Char} (harray : letter ≠ '[') (hclass : letter ≠ 'L')
    (rest : List Char) :
    takeDescriptor (letter :: rest) =
      match Primitive.ofLetter? letter with
      | some kind => .ok (primitive kind, rest)
      | none => .error .unknownLetter := by
  unfold takeDescriptor
  split
  · contradiction
  · next heq => exact absurd (List.cons.inj heq).1 harray
  · next heq => exact absurd (List.cons.inj heq).1 hclass
  · next heq =>
    obtain ⟨rfl, rfl⟩ := List.cons.inj heq
    rfl

/-- A descriptor with slashes for dots is read as before. -/
theorem takeDescriptor_substitute (cs : List Char) :
    takeDescriptor (substitute '.' '/' cs) =
      (takeDescriptor cs).map fun read => (read.1, substitute '.' '/' read.2) := by
  fun_induction takeDescriptor cs with
  | case1 => rfl
  | case2 tail element after hread hvoid ih =>
    change takeDescriptor ('[' :: substitute '.' '/' tail) = _
    rw [takeDescriptor, ih, hread]
    exact if_pos hvoid
  | case3 tail element after hread hvoid ih =>
    change takeDescriptor ('[' :: substitute '.' '/' tail) = _
    rw [takeDescriptor, ih, hread]
    exact if_neg hvoid
  | case4 tail fault hread ih =>
    change takeDescriptor ('[' :: substitute '.' '/' tail) = _
    rw [takeDescriptor, ih, hread]
    rfl
  | case5 tail => exact takeClassName_substitute tail
  | case6 letter tail harray hclass kind hkind =>
    have hdot : letter ≠ '.' := Primitive.letter_of_ofLetter? hkind ▸ kind.letter_ne_dot
    rw [substitute, List.map_cons, if_neg hdot, takeDescriptor_letter harray hclass, hkind]
    rfl
  | case7 letter tail harray hclass hkind =>
    -- A dot that opens a descriptor turns into a slash, which stands for no type either.
    by_cases hdot : letter = '.'
    · rw [hdot]
      rfl
    · rw [substitute, List.map_cons, if_neg hdot, takeDescriptor_letter harray hclass, hkind]
      rfl

/-- Descriptors with slashes for dots are read as before. -/
theorem ofDescriptors_substitute (cs : List Char) :
    ofDescriptors (substitute '.' '/' cs) = ofDescriptors cs := by
  fun_induction ofDescriptors cs with
  | case1 => simp [substitute, ofDescriptors]
  | case2 c tail type rest hread ih =>
    have hslashed : takeDescriptor (substitute '.' '/' (c :: tail)) =
        .ok (type, substitute '.' '/' rest) := by
      rw [takeDescriptor_substitute, hread]
      rfl
    rw [ofDescriptors_of_take hslashed, ih]
  | case3 c tail fault hread =>
    have hslashed : takeDescriptor (substitute '.' '/' (c :: tail)) = .error fault := by
      rw [takeDescriptor_substitute, hread]
      rfl
    exact ofDescriptors_of_fault (by simp [substitute]) hslashed

/-- A class name is read from what its descriptor is, with slashes for dots. -/
theorem takeClassName_eq_ok {cs rest : List Char} {type : JavaType}
    (h : takeClassName cs = .ok (type, rest)) :
    type.isWellFormed ∧
      'L' :: substitute '.' '/' cs = type.descriptorChars ++ substitute '.' '/' rest := by
  unfold takeClassName at h
  split at h
  · contradiction
  · next semicolon tail hdrop =>
    dsimp only at h
    split at h
    · next hname =>
      obtain ⟨rfl, rfl⟩ := Prod.mk.inj (Except.ok.inj h)
      have hsemicolon : semicolon = ';' := by
        have hhead := List.head?_dropWhile_not (· ≠ ';') cs
        rw [hdrop] at hhead
        simpa using hhead
      have hsplit : cs = cs.takeWhile (· ≠ ';') ++ ';' :: tail := by
        have happend := (List.takeWhile_append_dropWhile (p := (· ≠ ';')) (l := cs)).symm
        rwa [hdrop, hsemicolon] at happend
      refine ⟨by simpa [isWellFormed, isQualifiedName] using hname, ?_⟩
      rw [descriptorChars, String.toList_ofList, Text.substitute_substitute_back]
      conv_lhs => rw [hsplit]
      simp [substitute]
    · contradiction

/-- A type is read from what its descriptor is, with slashes for dots. -/
theorem takeDescriptor_eq_ok {cs rest : List Char} {type : JavaType}
    (h : takeDescriptor cs = .ok (type, rest)) :
    type.isWellFormed ∧
      substitute '.' '/' cs = type.descriptorChars ++ substitute '.' '/' rest := by
  fun_induction takeDescriptor cs generalizing type rest with
  | case1 => contradiction
  | case2 tail element after hread hvoid ih => contradiction
  | case3 tail element after hread hvoid ih =>
    obtain ⟨rfl, rfl⟩ := Prod.mk.inj (Except.ok.inj h)
    obtain ⟨hwell, hchars⟩ := ih hread
    refine ⟨by simp [isWellFormed, hvoid, hwell], ?_⟩
    rw [descriptorChars, List.cons_append, ← hchars]
    rfl
  | case4 tail fault hread ih => contradiction
  | case5 tail => exact takeClassName_eq_ok h
  | case6 letter tail harray hclass kind hkind =>
    obtain ⟨rfl, rfl⟩ := Prod.mk.inj (Except.ok.inj h)
    obtain rfl := Primitive.letter_of_ofLetter? hkind
    refine ⟨rfl, ?_⟩
    rw [substitute, List.map_cons, if_neg kind.letter_ne_dot]
    rfl
  | case7 letter tail harray hclass hkind => contradiction

/-- Types are read from what their descriptors are, one after the other, with slashes for dots. -/
theorem ofDescriptors_eq_ok {cs : List Char} {types : List JavaType}
    (h : ofDescriptors cs = .ok types) :
    (∀ type ∈ types, type.isWellFormed) ∧ substitute '.' '/' cs = descriptorsChars types := by
  fun_induction ofDescriptors cs generalizing types with
  | case1 =>
    obtain rfl := Except.ok.inj h
    simp [substitute, descriptorsChars]
  | case2 c tail type rest hread ih =>
    obtain ⟨others, hothers, rfl⟩ := map_eq_ok_iff.mp h
    obtain ⟨hwell, hchars⟩ := takeDescriptor_eq_ok hread
    obtain ⟨hwells, hrest⟩ := ih hothers
    refine ⟨List.forall_mem_cons.mpr ⟨hwell, hwells⟩, ?_⟩
    rw [hchars, hrest]
    rfl
  | case3 c tail fault hread => contradiction

/-- A text is read as certain types if and only if they are well formed and it is, with slashes for
dots, what they are written as. -/
theorem ofDescriptors_eq_ok_iff {cs : List Char} {types : List JavaType} :
    ofDescriptors cs = .ok types ↔
      (∀ type ∈ types, type.isWellFormed) ∧ substitute '.' '/' cs = descriptorsChars types := by
  constructor
  · exact ofDescriptors_eq_ok
  · intro hparts
    obtain ⟨hwell, hchars⟩ := hparts
    rw [← ofDescriptors_substitute, hchars, ofDescriptors_descriptorsChars hwell]

/-- A text with slashes for its dots, as class names have them in descriptors. -/
def slashed (source : String) : String :=
  String.ofList (substitute '.' '/' source.toList)

/-- A text without dots has slashes for them already, and no other text has. -/
theorem slashed_eq_self_iff {source : String} : slashed source = source ↔ '.' ∉ source.toList := by
  rw [slashed, ← String.toList_inj, String.toList_ofList]
  constructor
  · intro h hdot
    rw [← h, Text.mem_substitute] at hdot
    simp at hdot
  · exact Text.substitute_of_notMem

/-- Reading succeeds on the texts that are, with slashes for dots, the descriptors of well-formed
types, and gives these types. -/
theorem readDescriptors_eq_ok_iff {source : String} {types : List JavaType} :
    readDescriptors source = .ok types ↔
      (∀ type ∈ types, type.isWellFormed) ∧
        String.join (types.map descriptor) = slashed source := by
  rw [readDescriptors, mapError_eq_ok_iff, ofDescriptors_eq_ok_iff, ← String.toList_inj,
    toList_join_descriptor, slashed, String.toList_ofList, eq_comm (a := descriptorsChars types)]

/-- What a text is read as is well formed and written as the text with slashes for its dots; so it
is written as the text itself if and only if the text has no dots, and the texts that are read alike
are those that are alike with slashes for dots. -/
theorem descriptors_canonical_iff {source : String} {types : List JavaType}
    (h : readDescriptors source = .ok types) :
    (∀ type ∈ types, type.isWellFormed) ∧
      String.join (types.map descriptor) = slashed source ∧
      (String.join (types.map descriptor) = source ↔ '.' ∉ source.toList) ∧
      ∀ other, readDescriptors other = .ok types ↔ slashed other = slashed source := by
  obtain ⟨hwell, hwritten⟩ := readDescriptors_eq_ok_iff.mp h
  refine ⟨hwell, hwritten, ?_, fun other => ?_⟩
  · rw [hwritten, slashed_eq_self_iff]
  · rw [readDescriptors_eq_ok_iff, hwritten, eq_comm]
    exact and_iff_right hwell

/-- A class name with a dot in its descriptor is read, and written with a slash. -/
theorem descriptors_canonical_iff_dotted :
    readDescriptors "La.b;" = .ok [object "a.b"] ∧
      String.join ([object "a.b"].map descriptor) = "La/b;" ∧
      readDescriptors "La/b;" = .ok [object "a.b"] := by
  have hread : readDescriptors "La.b;" = .ok [object "a.b"] :=
    readDescriptors_eq_ok_iff.mpr ⟨by decide, by decide⟩
  obtain ⟨-, hwritten, -, hother⟩ := descriptors_canonical_iff hread
  exact ⟨hread, hwritten.trans (by decide), (hother "La/b;").mpr (by decide)⟩

/-- The closing parenthesis of a method descriptor stands in no descriptor of a type. -/
theorem paren_notMem_descriptorChars {type : JavaType} (htype : type.isWellFormed) :
    ')' ∉ type.descriptorChars := by
  intro hmem
  rcases mem_of_mem_descriptorChars htype hmem with hmark | hpart
  · exact absurd hmark (by decide)
  · exact absurd hpart (by decide)

/-- A text is a method descriptor of certain types if it has an opening parenthesis, a list of
descriptors of the parameter types, the closing parenthesis and a descriptor of the return type,
and no parentheses close elsewhere. -/
def IsMethodDescriptor (text : String) (params : List JavaType) (returns : JavaType) : Prop :=
  ∃ front back : String, text = "(" ++ front ++ ")" ++ back ∧
    ')' ∉ front.toList ∧ ')' ∉ back.toList ∧
    readDescriptors front = .ok params ∧ readDescriptors back = .ok [returns]

/-- A method descriptor comes apart in one way only. -/
theorem IsMethodDescriptor.unique {text : String} {params params' : List JavaType}
    {returns returns' : JavaType} (h : IsMethodDescriptor text params returns)
    (h' : IsMethodDescriptor text params' returns') : params = params' ∧ returns = returns' := by
  obtain ⟨front, back, htext, hfront, hback, hparams, hreturns⟩ := h
  obtain ⟨front', back', htext', -, -, hparams', hreturns'⟩ := h'
  have hparts : front.toList ++ ')' :: back.toList = front'.toList ++ ')' :: back'.toList := by
    have htexts := congrArg String.toList (htext.symm.trans htext')
    simpa using htexts
  obtain ⟨hfronts, -, hbacks⟩ := (List.append_cons_inj_of_notMem hfront hback).mp hparts
  rw [String.toList_inj.mp hfronts, hparams'] at hparams
  rw [String.toList_inj.mp hbacks, hreturns'] at hreturns
  obtain rfl := Except.ok.inj hparams
  obtain ⟨rfl, -⟩ := List.cons.inj (Except.ok.inj hreturns)
  exact ⟨rfl, rfl⟩

/-- The descriptors of well-formed types, joined as texts, read back as those types. -/
theorem readDescriptors_join {types : List JavaType} (htypes : ∀ type ∈ types, type.isWellFormed) :
    readDescriptors (String.join (types.map descriptor)) = .ok types := by
  rw [readDescriptors, toList_join_descriptor, ofDescriptors_descriptorsChars htypes]
  rfl

/-- The closing parenthesis stands in no descriptors of types, joined as texts. -/
theorem paren_notMem_join {types : List JavaType} (htypes : ∀ type ∈ types, type.isWellFormed) :
    ')' ∉ (String.join (types.map descriptor)).toList := by
  rw [toList_join_descriptor, descriptorsChars]
  intro hmem
  obtain ⟨type, htype, hparen⟩ := List.mem_flatMap.mp hmem
  exact paren_notMem_descriptorChars (htypes type htype) hparen

/-- The method descriptor of well-formed types is one. -/
theorem isMethodDescriptor_methodDescriptor {params : List JavaType} {returns : JavaType}
    (hparams : ∀ type ∈ params, type.isWellFormed) (hreturns : returns.isWellFormed) :
    IsMethodDescriptor (methodDescriptor params returns) params returns := by
  have hback : ∀ type ∈ [returns], type.isWellFormed := by simpa using hreturns
  refine ⟨_, _, ?_, paren_notMem_join hparams, paren_notMem_join hback,
    readDescriptors_join hparams, readDescriptors_join hback⟩
  rw [← String.toList_inj]
  simp only [methodDescriptor, String.toList_ofList, String.toList_append, toList_join_descriptor]
  simp [descriptorsChars]

/-- Descriptors read back as the types that they were written from, and a method descriptor as its
parameter types and its return type, and as no others. -/
theorem descriptors_decode {params : List JavaType} {returns : JavaType}
    (hparams : ∀ type ∈ params, type.isWellFormed) (hreturns : returns.isWellFormed) :
    readDescriptors (String.join (params.map descriptor)) = .ok params ∧
      IsMethodDescriptor (methodDescriptor params returns) params returns ∧
      ∀ params' returns', IsMethodDescriptor (methodDescriptor params returns) params' returns' →
        params' = params ∧ returns' = returns := by
  have hmethod := isMethodDescriptor_methodDescriptor hparams hreturns
  exact ⟨readDescriptors_join hparams, hmethod, fun _ _ h => h.unique hmethod⟩

/-- Types with class names that hold letters of descriptors, or letters of other scripts. -/
def letteredTypes : List JavaType :=
  [object "p.LI$Ünï", array (array (object "V")), primitive .long]

/-- Such names are read back too, and are not taken for the types that their letters stand for. -/
theorem descriptors_decode_lettered :
    methodDescriptor letteredTypes void = "(Lp/LI$Ünï;[[LV;J)V" ∧
      readDescriptors (String.join (letteredTypes.map descriptor)) = .ok letteredTypes ∧
      IsMethodDescriptor "(Lp/LI$Ünï;[[LV;J)V" letteredTypes void := by
  have hwritten : methodDescriptor letteredTypes void = "(Lp/LI$Ünï;[[LV;J)V" := by decide
  have hparams : ∀ type ∈ letteredTypes, type.isWellFormed := by decide +kernel
  have hreturns : void.isWellFormed := rfl
  obtain ⟨hread, hmethod, -⟩ := descriptors_decode hparams hreturns
  exact ⟨hwritten, hread, hwritten ▸ hmethod⟩

end JavaType

end NativeBindings
