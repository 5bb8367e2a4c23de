import NativeBindings.JavaType.Descriptor
import NativeBindings.Proofs.QualifiedName
import NativeBindings.Proofs.WellFormedType

/-!
# Descriptors read back

A descriptor says where it ends: a letter ends at once, an array where its element ends, and a
class at its semicolon, which no qualified name holds. So the front of a text that begins with the
descriptor of a well-formed type reads as that type and leaves the rest alone, whatever follows,
and a list of descriptors reads back as the types it was written from.
-/

namespace NativeBindings.JavaType

/-- The descriptors of types, joined as texts. -/
theorem toList_join_descriptor (types : List JavaType) :
    (String.join (types.map descriptor)).toList = descriptorsChars types := by
  simp [String.toList_join, List.flatMap_map, descriptor, descriptorsChars]

/-- The characters of descriptors that stand in no identifier. -/
def descriptorMarks : List Char :=
  ['[', '/', ';']

/-- What the descriptor of a well-formed type holds are marks and characters of identifiers. -/
theorem mem_of_mem_descriptorChars {type : JavaType} (htype : type.isWellFormed) {c : Char}
    (hc : c ∈ type.descriptorChars) : c ∈ descriptorMarks ∨ isIdentifierPart c := by
  induction type with
  | primitive kind =>
    obtain rfl := List.mem_singleton.mp hc
    right
    cases kind <;> decide
  | array element ih =>
    simp only [isWellFormed, Bool.and_eq_true] at htype
    rcases List.mem_cons.mp hc with rfl | hc
    · exact Or.inl (by decide)
    · exact ih htype.2 hc
  | object name =>
    rcases List.mem_cons.mp hc with rfl | hc
    · exact Or.inr (by decide)
    · rcases List.mem_append.mp hc with hname | hend
      · rcases Text.mem_substitute.mp hname with ⟨hmem, hdot⟩ | ⟨-, rfl⟩
        · exact Or.inr ((isIdentifierPart_or_dot htype hmem).resolve_right hdot)
        · exact Or.inl (by decide)
      · obtain rfl := List.mem_singleton.mp hend
        exact Or.inl (by decide)

/-- The name of a class is read up to its semicolon, with dots in the place of slashes. -/
theorem takeClassName_slashed {name : List Char} (hname : isQualifiedChars name)
    (rest : List Char) :
    takeClassName (Text.substitute '.' '/' name ++ ';' :: rest) =
      .ok (object (String.ofList name), rest) := by
  have hsemicolon : ';' ∉ Text.substitute '.' '/' name := by
    intro hmem
    rcases Text.mem_substitute.mp hmem with ⟨hmem, -⟩ | ⟨-, heq⟩
    · exact semicolon_notMem hname hmem
    · exact absurd heq (by decide)
  have htake := takeWhile_ne_append hsemicolon rest
  have hdrop : (Text.substitute '.' '/' name ++ ';' :: rest).dropWhile (· ≠ ';') = ';' :: rest := by
    have happend := List.takeWhile_append_dropWhile (p := (· ≠ ';'))
      (l := Text.substitute '.' '/' name ++ ';' :: rest)
    rw [htake] at happend
    exact List.append_cancel_left happend
  rw [takeClassName, hdrop, htake, Text.substitute_substitute (slash_notMem hname)]
  simp [hname]

/-- The descriptor of a well-formed type reads as that type, and what follows it is left alone. -/
theorem takeDescriptor_append {type : JavaType} (htype : type.isWellFormed) (rest : List Char) :
    takeDescriptor (type.descriptorChars ++ rest) = .ok (type, rest) := by
  induction type with
  | primitive kind => cases kind <;> rfl
  | array element ih =>
    simp only [isWellFormed, Bool.and_eq_true, Bool.not_eq_true'] at htype
    simp [descriptorChars, takeDescriptor, ih htype.2, htype.1]
  | object name =>
    have hname : isQualifiedChars name.toList := htype
    simp only [descriptorChars, List.cons_append, List.append_assoc, List.nil_append,
      takeDescriptor, takeClassName_slashed hname, String.ofList_toList]

/-- One type is read off the front of a list of descriptors at a time. -/
theorem ofDescriptors_of_take {cs rest : List Char} {type : JavaType}
    (h : takeDescriptor cs = .ok (type, rest)) :
    ofDescriptors cs = (ofDescriptors rest).map (type :: ·) := by
  cases cs with
  | nil => simp [takeDescriptor] at h
  | cons c tail =>
    rw [ofDescriptors]
    split
    · next type' rest' h' =>
      rw [h] at h'
      obtain ⟨rfl, rfl⟩ := Prod.mk.inj (Except.ok.inj h')
      rfl
    · next h' => simp [h] at h'

/-- What is wrong at the front of a list of descriptors is wrong with the list. -/
theorem ofDescriptors_of_fault {cs : List Char} {fault : TypeNameFault} (hne : cs ≠ [])
    (h : takeDescriptor cs = .error fault) : ofDescriptors cs = .error fault := by
  cases cs with
  | nil => contradiction
  | cons c tail =>
    rw [ofDescriptors]
    split
    · next h' => simp [h] at h'
    · next fault' h' =>
      rw [h] at h'
      obtain rfl := Except.error.inj h'
      rfl

/-- The descriptors of well-formed types, one after the other, read back as those types. -/
theorem ofDescriptors_descriptorsChars {types : List JavaType}
    (htypes : ∀ type ∈ types, type.isWellFormed) :
    ofDescriptors (descriptorsChars types) = .ok types := by
  induction types with
  | nil => simp [descriptorsChars, ofDescriptors]
  | cons type types ih =>
    have htake := takeDescriptor_append (htypes type List.mem_cons_self) (descriptorsChars types)
    have hrest := ih fun t ht => htypes t (List.mem_cons_of_mem type ht)
    rw [show descriptorsChars (type :: types) =
      type.descriptorChars ++ descriptorsChars types from rfl, ofDescriptors_of_take htake, hrest]
    rfl

end NativeBindings.JavaType
