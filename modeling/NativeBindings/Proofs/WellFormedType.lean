import NativeBindings.JavaType.Notation
import NativeBindings.Proofs.Steps

/-!
# Well-formed types

A type is well formed if its class names are qualified names and no array has elements of type
`void`. Reading a declared type gives well-formed types only, so every type of a resolved class is
one, and the modules on descriptors and symbols may rely on it.
-/

namespace NativeBindings

namespace JavaType

/-- Whether class names are qualified names and no array has elements of type `void`. -/
def isWellFormed : JavaType → Bool
  | primitive _ => true
  | array element => !element.isVoid && element.isWellFormed
  | object name => isQualifiedName name

/-- An array is never void. -/
@[simp] theorem isVoid_array (element : JavaType) : (array element).isVoid = false := by
  simp [isVoid, void]

/-- A class is never void. -/
@[simp] theorem isVoid_object (name : String) : (object name).isVoid = false := by
  simp [isVoid, void]

/-- Array levels keep a type well formed, unless they stand around `void`. -/
theorem isWellFormed_arrayOf {levels : Nat} {type : JavaType} (htype : type.isWellFormed)
    (hvoid : type.isVoid → levels = 0) : (arrayOf levels type).isWellFormed := by
  induction levels with
  | zero => exact htype
  | succ levels ih =>
    have hnot : type.isVoid = false :=
      Bool.eq_false_iff.mpr fun h => Nat.succ_ne_zero levels (hvoid h)
    have hlevels : (arrayOf levels type).isVoid = false := by
      cases levels with
      | zero => exact hnot
      | succ levels => exact isVoid_array _
    simp only [arrayOf, isWellFormed, hlevels, Bool.not_false, Bool.true_and]
    exact ih fun h => by simp [hnot] at h

/-- A class read by its written name has a qualified name. -/
theorem ofClassName_eq_ok {cs : List Char} {type : JavaType} (h : ofClassName cs = .ok type) :
    ∃ name, eraseArguments cs = .ok name ∧ isQualifiedChars name ∧
      type = object (String.ofList name) := by
  unfold ofClassName at h
  obtain ⟨name, herase, h⟩ := bind_eq_ok_iff.mp h
  split at h
  · next hname => exact ⟨name, herase, hname, (Except.ok.inj h).symm⟩
  · contradiction

/-- A type that can be read is its base under as many array levels as there are brackets; the base
is the primitive type of a keyword, and `void` only without levels, or else a class. -/
theorem ofNotation_eq_ok {cs : List Char} {type : JavaType} (h : ofNotation cs = .ok type) :
    ∃ base, type = arrayOf (splitBrackets cs).1 base ∧
      ((∃ kind, Primitive.ofKeyword? (String.ofList (splitBrackets cs).2) = some kind ∧
          base = primitive kind ∧ (kind = .void → (splitBrackets cs).1 = 0)) ∨
        (Primitive.ofKeyword? (String.ofList (splitBrackets cs).2) = none ∧
          ofClassName (splitBrackets cs).2 = .ok base)) := by
  unfold ofNotation at h
  dsimp only at h
  split at h
  · contradiction
  · split at h
    · contradiction
    · split at h
      · next kind hkeyword =>
        split at h
        · contradiction
        · next hvoid =>
          refine ⟨primitive kind, (Except.ok.inj h).symm, Or.inl ⟨kind, hkeyword, rfl, ?_⟩⟩
          intro hkind
          exact Nat.eq_zero_of_not_pos fun hlevels => hvoid ⟨hkind, hlevels⟩
      · next hkeyword =>
        obtain ⟨base, hclass, htype⟩ := map_eq_ok_iff.mp h
        exact ⟨base, htype.symm, Or.inr ⟨hkeyword, hclass⟩⟩

/-- The type that characters name is well formed. -/
theorem isWellFormed_ofNotation {cs : List Char} {type : JavaType}
    (h : ofNotation cs = .ok type) : type.isWellFormed := by
  obtain ⟨base, rfl, ⟨kind, -, rfl, hvoid⟩ | ⟨-, hclass⟩⟩ := ofNotation_eq_ok h
  · refine isWellFormed_arrayOf rfl fun h => hvoid ?_
    simpa [isVoid, void] using h
  · obtain ⟨erased, -, hqualified, rfl⟩ := ofClassName_eq_ok hclass
    refine isWellFormed_arrayOf ?_ (by simp)
    simpa [isWellFormed, isQualifiedName] using hqualified

/-- A declared type that can be read is well formed. -/
theorem isWellFormed_parse {source : String} {type : JavaType} (h : parse source = .ok type) :
    type.isWellFormed := by
  unfold parse at h
  exact isWellFormed_ofNotation (mapError_eq_ok_iff.mp h)

end JavaType

end NativeBindings
