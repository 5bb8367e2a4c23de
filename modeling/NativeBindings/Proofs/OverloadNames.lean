import NativeBindings.Proofs.NativeSurface
import NativeBindings.Proofs.RenderOutcome
import NativeBindings.Proofs.SymbolUniqueness

/-!
# Trait methods of overloads

The trait methods of overloads are told apart by the descriptors of their parameters, which are cut
off the symbol again in their escaped form. Escaping keeps them apart, with the case of letters, the
levels of arrays, and underscores and dots in them. Overloads are therefore refused as one method
only if they take the same types.
-/

namespace NativeBindings.Binding

variable {decl : ClassDecl} {c : NativeClass}

/-- Methods with one name have one trait method name exactly if they take the same types. -/
theorem traitMethodName_eq_iff (hresolve : decl.resolve = .ok c) {a b : NativeMethod}
    (ha : a ∈ c.methods) (hb : b ∈ c.methods) (hname : a.name = b.name) :
    traitMethodName a = traitMethodName b ↔ a.paramTypes = b.paramTypes := by
  by_cases hoverloaded : a.isOverloaded
  · have hoverloaded' : b.isOverloaded := by
      rwa [ClassDecl.isOverloaded_of_resolve hresolve hb, ← hname,
        ← ClassDecl.isOverloaded_of_resolve hresolve ha]
    rw [traitMethodName_eq hresolve ha, traitMethodName_eq hresolve hb, if_pos hoverloaded,
      if_pos hoverloaded', hname, String.append_right_inj]
    constructor
    · exact Symbol.escapeDescriptor_join_injOn
        (ClassDecl.isWellFormed_of_resolve hresolve ha).paramTypes
        (ClassDecl.isWellFormed_of_resolve hresolve hb).paramTypes
    · intro htypes
      rw [htypes]
  · -- There is no other method with the name.
    obtain rfl := ClassDecl.eq_of_name_eq hresolve ha hb hoverloaded hname
    exact iff_of_true rfl rfl

/-- A trait method that is refused for its name has the name of an earlier one. -/
theorem Unsupported.exists_namesake {earlier : List NativeMethod} {method : NativeMethod}
    {cause : UnsupportedCause} (h : Unsupported earlier method cause) {name : String}
    (hcause : cause = .repeatedTraitMethod name) :
    traitMethodName method = name ∧ ∃ other ∈ earlier, traitMethodName other = name := by
  cases h with
  | dollarInName => contradiction
  | dollarInParam => contradiction
  | voidParam => contradiction
  | repeatedTraitMethod hother hsame =>
    obtain rfl := UnsupportedCause.repeatedTraitMethod.inj hcause
    exact ⟨rfl, _, hother, hsame⟩

/-- Two methods with one name get one trait method name if and only if they take the same types. So
whenever a method is refused because an earlier trait method has its name, the earlier method takes
the same types, or is itself called by another name. -/
theorem overloads_clash_iff (hresolve : decl.resolve = .ok c) :
    (∀ a ∈ c.methods, ∀ b ∈ c.methods, a.name = b.name →
      (traitMethodName a = traitMethodName b ↔ a.paramTypes = b.paramTypes)) ∧
      ∀ (options : Options) (name : String) (method : Option String) (trait : String),
        options.render c = .error (.unsupported name method (.repeatedTraitMethod trait)) →
          ∃ i b, c.methods[i]? = some b ∧ method = some b.name ∧ traitMethodName b = trait ∧
            (∃ a ∈ c.methods.take i, traitMethodName a = trait) ∧
            ∀ a ∈ c.methods.take i, traitMethodName a = trait → a.name = b.name →
              a.paramTypes = b.paramTypes := by
  refine ⟨fun a ha b hb hname => traitMethodName_eq_iff hresolve ha hb hname,
    fun options name method trait hrender => ?_⟩
  rcases unsupported_of_render hresolve hrender with ⟨-, hcause⟩ | ⟨i, b, hat, hmethod, hcause⟩
  · contradiction
  · obtain ⟨hsame, hearlier⟩ := hcause.exists_namesake rfl
    refine ⟨i, b, hat, hmethod, hsame, hearlier, fun a ha htrait hname => ?_⟩
    exact (traitMethodName_eq_iff hresolve (List.mem_of_mem_take ha) (List.mem_of_getElem? hat)
      hname).mp (htrait.trans hsame.symm)

/-- A class with overloads that differ in the case of letters, in array levels, or in an underscore
in place of a dot. -/
def caseDecl : ClassDecl where
  name := "p.C"
  methods := [
    { name := "f", params := [⟨"", "a.Bar"⟩] },
    { name := "f", params := [⟨"", "a.BAR"⟩] },
    { name := "f", params := [⟨"", "a.Bar[]"⟩] },
    { name := "f", params := [⟨"", "a_Bar"⟩] }]

/-- An overload in that class, with its parameter type and its position. -/
def caseOverload (type : JavaType) (position : Nat) : NativeMethod where
  owner := ⟨"p.C"⟩
  name := "f"
  params := [⟨"arg0", type⟩]
  returns := .void
  isStatic := false
  isOverloaded := true
  position := position

/-- The native methods of that class. -/
def caseClass : NativeClass where
  name := ⟨"p.C"⟩
  methods := [
    caseOverload (.object "a.Bar") 0, caseOverload (.object "a.BAR") 1,
    caseOverload (.array (.object "a.Bar")) 2, caseOverload (.object "a_Bar") 3]

/-- A class with two methods that have one name in snake case. -/
def snakeDecl : ClassDecl where
  name := "p.C"
  methods := [{ name := "g_b" }, { name := "gB" }]

/-- The native methods of that class. -/
def snakeClass : NativeClass where
  name := ⟨"p.C"⟩
  methods := [
    { owner := ⟨"p.C"⟩, name := "gB", params := [], returns := .void, isStatic := false
      isOverloaded := false, position := 1 },
    { owner := ⟨"p.C"⟩, name := "g_b", params := [], returns := .void, isStatic := false
      isOverloaded := false, position := 0 }]

/-- The overloads have different trait methods. What is refused is a method with another name. -/
theorem overloads_clash_iff_case :
    (caseDecl.resolve = .ok caseClass ∧
      ∀ b ∈ caseClass.methods.tail, traitMethodName (caseOverload (.object "a.Bar") 0) ≠
        traitMethodName b) ∧
      snakeDecl.resolve = .ok snakeClass ∧
      Options.render {} snakeClass =
        .error (.unsupported "p.C" (some "g_b") (.repeatedTraitMethod "g_b")) ∧
      ∃ i b, snakeClass.methods[i]? = some b ∧ some "g_b" = some b.name ∧
        traitMethodName b = "g_b" ∧
        (∃ a ∈ snakeClass.methods.take i, traitMethodName a = "g_b") ∧
        ∀ a ∈ snakeClass.methods.take i, traitMethodName a = "g_b" → a.name = b.name →
          a.paramTypes = b.paramTypes := by
  have hcase : caseDecl.resolve = .ok caseClass := by
    rw [ClassDecl.resolve, ClassDecl.natives_eq_insertionSort]
    decide +kernel
  have hsnake : snakeDecl.resolve = .ok snakeClass := by
    rw [ClassDecl.resolve, ClassDecl.natives_eq_insertionSort]
    decide +kernel
  have hcheck : checkClass snakeClass =
      .error (.unsupported "p.C" (some "g_b") (.repeatedTraitMethod "g_b")) := by decide
  have hrender := render_of_checkClass hcheck {}
  have hothers : ∀ b ∈ caseClass.methods.tail,
      b.name = "f" ∧ [JavaType.object "a.Bar"] ≠ b.paramTypes := by decide
  refine ⟨⟨hcase, fun b hb => ?_⟩, hsnake, hrender,
    (overloads_clash_iff hsnake).2 {} "p.C" (some "g_b") "g_b" hrender⟩
  obtain ⟨hname, htypes⟩ := hothers b hb
  have hiff := (overloads_clash_iff hcase).1 (caseOverload (.object "a.Bar") 0) List.mem_cons_self b
    (List.mem_of_mem_tail hb) hname.symm
  exact hiff.not.mpr htypes

end NativeBindings.Binding
