import NativeBindings.JavaType.Notation

/-!
# Reading descriptors

A list of descriptors is read from left to right: a letter is a primitive type, `[` opens an
array of the type that follows, and `L` opens a class name that goes up to the next `;`.
-/

namespace NativeBindings.JavaType

/-- The class name of a descriptor: what stands before the next `;`, and what follows it. -/
def takeClassName (cs : List Char) : Except TypeNameFault (JavaType × List Char) :=
  match cs.dropWhile (· ≠ ';') with
  | [] => .error .unterminatedClass
  | _ :: rest =>
    let name := Text.substitute '/' '.' (cs.takeWhile (· ≠ ';'))
    if isQualifiedChars name then .ok (object (String.ofList name), rest)
    else .error .notQualified

/-- The type at the front of a list of descriptors, and what follows it. -/
def takeDescriptor : List Char → Except TypeNameFault (JavaType × List Char)
  | [] => .error .truncatedDescriptor
  | '[' :: rest =>
    match takeDescriptor rest with
    | .ok (element, rest) =>
      if element.isVoid then .error .voidElement else .ok (array element, rest)
    | .error fault => .error fault
  | 'L' :: rest => takeClassName rest
  | letter :: rest =>
    match Primitive.ofLetter? letter with
    | some kind => .ok (primitive kind, rest)
    | none => .error .unknownLetter

/-- Reading a class name uses characters up. -/
theorem takeClassName_length {cs rest : List Char} {type : JavaType}
    (h : takeClassName cs = .ok (type, rest)) : rest.length < cs.length := by
  unfold takeClassName at h
  split at h
  · contradiction
  · next c tail hdrop =>
    have hle : (cs.dropWhile (· ≠ ';')).length ≤ cs.length :=
      (List.dropWhile_suffix _).length_le
    rw [hdrop] at hle
    simp only [List.length_cons] at hle
    dsimp only at h
    split at h
    · simp only [Except.ok.injEq, Prod.mk.injEq] at h
      obtain ⟨-, rfl⟩ := h
      omega
    · contradiction

/-- Reading a type uses characters up, so a list of descriptors has an end. -/
theorem takeDescriptor_length {cs rest : List Char} {type : JavaType}
    (h : takeDescriptor cs = .ok (type, rest)) : rest.length < cs.length := by
  fun_induction takeDescriptor cs generalizing type rest with
  | case1 => contradiction
  | case2 tail element after hread hvoid ih => simp at h
  | case3 tail element after hread hvoid ih =>
    simp only [Except.ok.injEq, Prod.mk.injEq] at h
    obtain ⟨-, rfl⟩ := h
    have := ih hread
    simp only [List.length_cons]
    omega
  | case4 tail fault hread ih => contradiction
  | case5 tail =>
    have := takeClassName_length h
    simp only [List.length_cons]
    omega
  | case6 letter tail _ _ kind hkind =>
    simp only [Except.ok.injEq, Prod.mk.injEq] at h
    simp [h.2]
  | case7 letter tail _ _ hkind => contradiction

/-- The types of a list of descriptors, or the first thing that is wrong with it. -/
def ofDescriptors (cs : List Char) : Except TypeNameFault (List JavaType) :=
  match cs with
  | [] => .ok []
  | c :: tail =>
    match _h : takeDescriptor (c :: tail) with
    | .ok (type, rest) => (ofDescriptors rest).map (type :: ·)
    | .error fault => .error fault
termination_by cs.length
decreasing_by exact takeDescriptor_length _h

/-- Read a list of descriptors, such as the parameter part of a method descriptor. -/
def readDescriptors (source : String) : Except TypeNameError (List JavaType) :=
  (ofDescriptors source.toList).mapError (⟨source, ·⟩)

end NativeBindings.JavaType
