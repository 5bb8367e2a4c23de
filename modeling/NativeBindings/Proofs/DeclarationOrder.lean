import NativeBindings.Proofs.Lists
import NativeBindings.Proofs.ModuleChecks
import NativeBindings.Proofs.NativeSurface

/-!
# What the order of declarations decides

A binding does not tell in which order methods with different names were declared, nor that there
are methods that are not native. Resolving goes through the native methods sorted by names, and a
sorted list is determined by what it holds under each name. Two declarations that hold the same
under each name therefore resolve alike: the same method fails first, for the same reason, or the
resolved methods differ in their positions only. Rendering looks at no position.
-/

namespace NativeBindings

namespace ClassDecl

/-- The native methods with a given name, in the order of declaration. -/
def nativesNamed (decl : ClassDecl) (name : String) : List MethodDecl :=
  decl.methods.filter fun method => method.isNative && method.name == name

/-- Two declarations of one class with the same native methods under each name, in the same order.
Methods with different names may be declared in any order, and methods that are not native may
stand anywhere. -/
structure SameNatives (decl decl' : ClassDecl) : Prop where
  name : decl.name = decl'.name
  natives : ∀ name, decl.nativesNamed name = decl'.nativesNamed name

/-- Only the names of declared methods need to be compared. -/
theorem sameNatives_iff {decl decl' : ClassDecl} :
    decl.SameNatives decl' ↔ decl.name = decl'.name ∧
      ∀ method ∈ decl.methods ++ decl'.methods,
        decl.nativesNamed method.name = decl'.nativesNamed method.name := by
  constructor
  · intro h
    exact ⟨h.name, fun method _ => h.natives method.name⟩
  · intro hparts
    obtain ⟨hname, hnatives⟩ := hparts
    refine ⟨hname, fun name => ?_⟩
    by_cases hdeclared : ∃ method ∈ decl.methods ++ decl'.methods, method.name = name
    · obtain ⟨method, hmethod, rfl⟩ := hdeclared
      exact hnatives method hmethod
    · -- Neither class declares a method with such a name.
      have hnone : ∀ method ∈ decl.methods ++ decl'.methods,
          ¬ (method.isNative && method.name == name) := by
        intro method hmethod hnamed
        simp only [Bool.and_eq_true, beq_iff_eq] at hnamed
        exact hdeclared ⟨method, hmethod, hnamed.2⟩
      rw [nativesNamed, nativesNamed,
        List.filter_eq_nil_iff.mpr fun m hm => hnone m (List.mem_append_left _ hm),
        List.filter_eq_nil_iff.mpr fun m hm => hnone m (List.mem_append_right _ hm)]

instance (decl decl' : ClassDecl) : Decidable (decl.SameNatives decl') :=
  decidable_of_iff _ sameNatives_iff.symm

/-- Without their positions, the native methods are those of the declaration. -/
theorem map_fst_declared (decl : ClassDecl) :
    decl.declared.map Prod.fst = decl.methods.filter (·.isNative) := by
  conv_rhs => rw [← List.zipIdx_map_fst 0 decl.methods, List.filter_map]
  rfl

/-- Sorting keeps what is declared under a name. -/
theorem filter_map_fst_natives (decl : ClassDecl) (name : String) :
    (decl.natives.map Prod.fst).filter (·.name = name) = decl.nativesNamed name := by
  calc (decl.natives.map Prod.fst).filter (·.name = name)
      = (decl.natives.filter (·.1.name = name)).map Prod.fst := List.filter_map
    _ = (decl.declared.filter (·.1.name = name)).map Prod.fst := by
        rw [natives_eq_mergeSort_byName, filter_mergeSort_byName]
    _ = (decl.declared.map Prod.fst).filter (·.name = name) := by
        rw [List.filter_map]
        rfl
    _ = decl.nativesNamed name := by
        rw [map_fst_declared, List.filter_filter, nativesNamed]
        simp only [Bool.and_comm, beq_eq_decide]

/-- The native methods are sorted by names. -/
theorem pairwise_map_fst_natives (decl : ClassDecl) :
    (decl.natives.map Prod.fst).Pairwise (·.name ≤ ·.name) := by
  refine List.pairwise_map.mpr (decl.pairwise_natives.imp fun hlt => ?_)
  rcases Prod.Lex.toLex_lt_toLex.mp hlt with hname | ⟨hname, -⟩
  · exact hname.le
  · exact hname.le

/-- A name is overloaded if several native methods stand under it. -/
theorem overloads_eq (decl : ClassDecl) (name : String) :
    decl.overloads name = decide ((decl.nativesNamed name).length > 1) := by
  rw [overloads, nativesNamed, List.countP_eq_length_filter]

namespace SameNatives

variable {decl decl' : ClassDecl}

/-- Positions apart, the sorted native methods are the same. -/
theorem map_fst_natives (h : decl.SameNatives decl') :
    decl.natives.map Prod.fst = decl'.natives.map Prod.fst := by
  refine eq_of_pairwise_of_filter_eq decl.pairwise_map_fst_natives decl'.pairwise_map_fst_natives
    fun name => ?_
  rw [filter_map_fst_natives, filter_map_fst_natives, h.natives]

/-- The same names are overloaded. -/
theorem overloads (h : decl.SameNatives decl') : decl.overloads = decl'.overloads := by
  funext name
  rw [overloads_eq, overloads_eq, h.natives]

/-- The class names resolve to one name, or fail in one way. -/
theorem resolveName (h : decl.SameNatives decl') : decl.resolveName = decl'.resolveName := by
  rw [ClassDecl.resolveName, ClassDecl.resolveName, h.name]

end SameNatives

end ClassDecl

/-- Two methods that differ in their positions at most. -/
def NativeMethod.SameButPosition (method method' : NativeMethod) : Prop :=
  { method with position := method'.position } = method'

namespace NativeMethod.SameButPosition

variable {method method' : NativeMethod}

/-- Both have one name. -/
theorem name (h : method.SameButPosition method') : method.name = method'.name := by
  rw [← h]

/-- Both have the same parameters. -/
theorem params (h : method.SameButPosition method') : method.params = method'.params := by
  rw [← h]

/-- Both are overloaded, or none is. -/
theorem isOverloaded (h : method.SameButPosition method') :
    method.isOverloaded = method'.isOverloaded := by
  rw [← h]

/-- Both are exported under one symbol. -/
theorem symbol (h : method.SameButPosition method') : method.symbol = method'.symbol := by
  rw [← h]
  rfl

/-- Both have the same native parameters. -/
theorem signature (h : method.SameButPosition method') : method.signature = method'.signature := by
  rw [← h]
  rfl

/-- Both return the same. -/
theorem nativeReturn (h : method.SameButPosition method') :
    method.nativeReturn = method'.nativeReturn := by
  rw [← h]
  rfl

/-- Both have one trait method name. -/
theorem traitMethodName (h : method.SameButPosition method') :
    Binding.traitMethodName method = Binding.traitMethodName method' :=
  Binding.traitMethodName_congr h.symbol h.name h.isOverloaded

end NativeMethod.SameButPosition

/-- Two classes that differ in the positions of their methods at most. -/
structure NativeClass.SameButPositions (c c' : NativeClass) : Prop where
  name : c.name = c'.name
  methods : List.Forall₂ NativeMethod.SameButPosition c.methods c'.methods

/-- The position of a method is taken over and decides nothing. -/
theorem MethodDecl.resolve_sameOutcome (method : MethodDecl) (owner : ClassName)
    (overloaded : Bool) (position position' : Nat) :
    SameOutcome NativeMethod.SameButPosition (method.resolve owner overloaded position)
      (method.resolve owner overloaded position') := by
  unfold MethodDecl.resolve
  split
  · exact .error _
  · refine SameOutcome.bind (.refl _) fun params params' hparams => ?_
    refine SameOutcome.bind (.refl _) fun returns returns' hreturns => ?_
    subst hparams hreturns
    exact .ok rfl

namespace ClassDecl

/-- Declarations with the same native methods resolve alike. -/
theorem SameNatives.resolve {decl decl' : ClassDecl} (h : decl.SameNatives decl') :
    SameOutcome NativeClass.SameButPositions decl.resolve decl'.resolve := by
  unfold ClassDecl.resolve
  rw [h.name, h.overloads, h.resolveName]
  refine SameOutcome.bind (.refl _) fun name name' hname => ?_
  subst hname
  have hnatives : List.Forall₂ (fun entry entry' => entry.1 = entry'.1) decl.natives
      decl'.natives := by
    have hfst := h.map_fst_natives
    rwa [← List.forall₂_eq_eq_eq, List.forall₂_map_left_iff, List.forall₂_map_right_iff] at hfst
  refine SameOutcome.bind (SameOutcome.mapM hnatives ?_) fun methods methods' hmethods =>
    .ok ⟨rfl, hmethods⟩
  rintro ⟨method, position⟩ ⟨method', position'⟩ rfl
  exact (method.resolve_sameOutcome name _ position position').mapError

/-- A class that does not resolve fails with a cause in its name or in one of its methods. -/
theorem resolve_eq_error {decl : ClassDecl} {failure : Failure}
    (h : decl.resolve = .error failure) :
    ∃ method cause, failure = .unresolved decl.name method cause := by
  unfold ClassDecl.resolve at h
  rcases bind_eq_error_iff.mp h with h | ⟨name, -, h⟩
  · obtain ⟨cause, -, rfl⟩ := mapError_eq_error_iff.mp h
    exact ⟨none, cause, rfl⟩
  · rcases bind_eq_error_iff.mp h with h | ⟨methods, -, h⟩
    · obtain ⟨⟨method, position⟩, -, h⟩ := exists_mem_of_mapM_eq_error h
      obtain ⟨cause, -, rfl⟩ := mapError_eq_error_iff.mp h
      exact ⟨some method.name, cause, rfl⟩
    · contradiction

end ClassDecl

namespace Binding

variable {c c' : NativeClass} {method method' : NativeMethod}

/-- What is wrong with a method is not its position. -/
theorem methodFault?_congr (h : method.SameButPosition method') (earlier : List String) :
    methodFault? earlier method = methodFault? earlier method' := by
  rw [methodFault?, methodFault?, h.symbol, h.params, h.traitMethodName]

/-- The checks look at no position. -/
theorem checkMethods_congr {methods methods' : List NativeMethod} (className : String)
    (earlier : List String)
    (h : List.Forall₂ NativeMethod.SameButPosition methods methods') :
    checkMethods className earlier methods = checkMethods className earlier methods' := by
  induction h generalizing earlier with
  | nil => rfl
  | cons hhead _ ih =>
    rw [checkMethods, checkMethods, methodFault?_congr hhead, hhead.name, hhead.traitMethodName, ih]

/-- A class passes the checks, or fails them, wherever its methods were declared. -/
theorem checkClass_congr (h : c.SameButPositions c') : checkClass c = checkClass c' := by
  rw [checkClass, checkClass, h.name, checkMethods_congr _ _ h.methods]

/-- The function behind a method does not tell the position of the method. -/
theorem functionOf_congr (h : c.name = c'.name) (hmethod : method.SameButPosition method') :
    functionOf c method = functionOf c' method' := by
  have hparams : moduleParams method = moduleParams method' := by
    rw [moduleParams, moduleParams, hmethod.signature]
  rw [functionOf, functionOf, h, hmethod.name, hmethod.symbol, hmethod.nativeReturn,
    hmethod.traitMethodName, hparams]

/-- A module does not tell where the methods of its class were declared. -/
theorem moduleOf_congr (implModule : String) (h : c.SameButPositions c') :
    moduleOf implModule c = moduleOf implModule c' := by
  have hfunctions : SameOutcome (List.Forall₂ (· = ·)) (c.methods.mapM (functionOf c))
      (c'.methods.mapM (functionOf c')) := by
    refine SameOutcome.mapM h.methods fun method method' hmethod => ?_
    rw [functionOf_congr h.name hmethod]
    exact .refl _
  rw [List.forall₂_eq_eq_eq] at hfunctions
  rw [moduleOf, moduleOf, checkClass_congr h, hfunctions.eq, h.name]

/-- Declarations of one class that have, under each name, the same native methods in the same order
either fail for one reason, or resolve to classes that differ in positions at most and are rendered
alike, whatever the options. -/
theorem binding_of_sameNatives {decl decl' : ClassDecl} (h : decl.SameNatives decl') :
    (∃ method cause, decl.resolve = .error (.unresolved decl.name method cause) ∧
        decl'.resolve = .error (.unresolved decl.name method cause)) ∨
      ∃ c c', decl.resolve = .ok c ∧ decl'.resolve = .ok c' ∧ c.SameButPositions c' ∧
        ∀ options : Options, options.render c = options.render c' := by
  have houtcome := h.resolve
  generalize hfirst : decl.resolve = first at houtcome
  generalize hsecond : decl'.resolve = second at houtcome
  cases houtcome with
  | error failure =>
    obtain ⟨method, cause, rfl⟩ := ClassDecl.resolve_eq_error hfirst
    exact Or.inl ⟨method, cause, rfl, rfl⟩
  | ok hsame =>
    refine Or.inr ⟨_, _, rfl, rfl, hsame, fun options => ?_⟩
    rw [Options.render, Options.render, render, render, moduleOf_congr _ hsame]

/-- A class that declares a method between two others with one name. -/
def mixedDecl : ClassDecl where
  name := "p.C"
  methods := [
    { name := "put", params := [⟨"key", "int"⟩] },
    { name := "get", returns := "int[]" },
    { name := "put", params := [⟨"key", "java.lang.String"⟩] }]

/-- That class with its methods in another order, and one more that is not native and has a type
that cannot be read. -/
def shuffledDecl : ClassDecl where
  name := "p.C"
  methods := [
    { name := "get", returns := "int[]" },
    { name := "put", isNative := false, returns := "not a type" },
    { name := "put", params := [⟨"key", "int"⟩] },
    { name := "put", params := [⟨"key", "java.lang.String"⟩] }]

/-- Both orders resolve, and are rendered alike. -/
theorem binding_of_sameNatives_shuffled :
    mixedDecl.SameNatives shuffledDecl ∧
      ∃ c c', mixedDecl.resolve = .ok c ∧ shuffledDecl.resolve = .ok c' ∧ c.SameButPositions c' ∧
        ∀ options : Options, options.render c = options.render c' := by
  have hsame : mixedDecl.SameNatives shuffledDecl := by decide
  have hresolves : mixedDecl.resolve.toBool := by
    rw [ClassDecl.resolve, ClassDecl.natives_eq_insertionSort]
    decide +kernel
  rcases binding_of_sameNatives hsame with ⟨method, cause, hfailed, -⟩ | hresolved
  · rw [hfailed] at hresolves
    contradiction
  · exact ⟨hsame, hresolved⟩

end Binding

end NativeBindings
