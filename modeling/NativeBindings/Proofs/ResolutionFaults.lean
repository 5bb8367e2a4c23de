import Mathlib.Order.Bounds.Basic
import NativeBindings.Proofs.DeclarationOrder
import NativeBindings.Proofs.Lists
import NativeBindings.Proofs.TypeNotation

/-!
# Why a class does not resolve

A class is refused for its name or else for one of its native methods: of those that cannot be
resolved, the one that comes first by name and then by position. Which checks a method fails is
listed in the order in which they are made, and the first of these is the cause that is reported.
-/

namespace NativeBindings

/-- What is wrong with a text that has to name a type. -/
def typeFaults (text : String) : List ResolutionCause :=
  match JavaType.parse text with
  | .ok _ => []
  | .error e => [.invalidType e]

/-- Nothing is wrong with a text that is read as a type. -/
theorem typeFaults_eq_nil_iff {text : String} :
    typeFaults text = [] ↔ ∃ type, JavaType.parse text = .ok type := by
  rw [typeFaults]
  cases JavaType.parse text <;> simp

/-- Reading a type stops at what is wrong with its text. -/
theorem stopsAt_parse (text : String) :
    StopsAt ((JavaType.parse text).mapError ResolutionCause.invalidType) (typeFaults text) := by
  rw [typeFaults]
  cases JavaType.parse text with
  | ok type => exact .ok type
  | error e => exact .error (ResolutionCause.invalidType e) []

namespace ParamDecl

/-- A parameter can be resolved: its name is an identifier, if it has one, and its type is read. -/
structure IsResolvable (param : ParamDecl) : Prop where
  name : param.name = "" ∨ isIdentifier param.name
  type : ∃ type, JavaType.parse param.type = .ok type

/-- What is wrong with a parameter: first its name, then its type. -/
def faults (param : ParamDecl) : List ResolutionCause :=
  faultUnless (param.name = "" ∨ isIdentifier param.name) (.invalidParamName param.name) ++
    typeFaults param.type

/-- Nothing is wrong with a parameter that can be resolved. -/
theorem faults_eq_nil_iff {param : ParamDecl} : param.faults = [] ↔ param.IsResolvable := by
  rw [faults, List.append_eq_nil_iff, faultUnless_eq_nil_iff, typeFaults_eq_nil_iff]
  constructor
  · intro hparts
    exact ⟨hparts.1, hparts.2⟩
  · intro h
    exact ⟨h.name, h.type⟩

/-- Resolving a parameter stops at what is wrong with it. -/
theorem stopsAt_resolve (param : ParamDecl) (position : Nat) :
    StopsAt (param.resolve position) param.faults := by
  refine StopsAt.bind ?_ fun name => (stopsAt_parse _).bind_ok
  unfold resolveName
  split
  · next hempty => exact .of_check (Or.inl hempty) _ _
  · next hempty =>
    split
    · next hname => exact .of_check (Or.inr hname) _ _
    · next hname => exact .of_not_check (not_or.mpr ⟨hempty, hname⟩) _

end ParamDecl

namespace MethodDecl

/-- A method can be resolved: its name is an identifier, and its parameters and its return type can
be resolved. -/
structure IsResolvable (method : MethodDecl) : Prop where
  name : isIdentifier method.name
  params : ∀ param ∈ method.params, param.IsResolvable
  returns : ∃ type, JavaType.parse method.returns = .ok type

/-- What is wrong with a method: first its name, then its parameters in order, then the type that
it returns. -/
def faults (method : MethodDecl) : List ResolutionCause :=
  faultUnless (isIdentifier method.name) (.invalidMethodName method.name) ++
    (method.params.flatMap ParamDecl.faults ++ typeFaults method.returns)

/-- Nothing is wrong with a method that can be resolved. -/
theorem faults_eq_nil_iff {method : MethodDecl} : method.faults = [] ↔ method.IsResolvable := by
  simp only [faults, List.append_eq_nil_iff, List.flatMap_eq_nil_iff, faultUnless_eq_nil_iff,
    ParamDecl.faults_eq_nil_iff, typeFaults_eq_nil_iff]
  constructor
  · intro hparts
    obtain ⟨hname, hparams, hreturns⟩ := hparts
    exact ⟨hname, hparams, hreturns⟩
  · intro h
    exact ⟨h.name, h.params, h.returns⟩

/-- Resolving a method stops at what is wrong with it. -/
theorem stopsAt_resolve (method : MethodDecl) (owner : ClassName) (overloaded : Bool)
    (position : Nat) : StopsAt (method.resolve owner overloaded position) method.faults := by
  have hparams : StopsAt (method.params.zipIdx.mapM fun entry => entry.1.resolve entry.2)
      (method.params.flatMap ParamDecl.faults) := by
    have hplaces : method.params.flatMap ParamDecl.faults =
        method.params.zipIdx.flatMap fun entry => entry.1.faults := by
      conv_lhs => rw [← List.zipIdx_map_fst 0 method.params, List.flatMap_map]
    rw [hplaces]
    exact .mapM fun entry _ => entry.1.stopsAt_resolve entry.2
  unfold resolve faults
  by_cases hname : isIdentifier method.name
  · rw [faultUnless_eq_nil_iff.mpr hname, List.nil_append]
    simp only [hname, Bool.not_true, Bool.false_eq_true, if_false]
    exact hparams.bind fun params => (stopsAt_parse _).bind_ok
  · rw [faultUnless, if_neg hname]
    simp only [hname, Bool.not_false, if_true]
    exact .error _ _

end MethodDecl

/-- What a class can be called: a qualified name that is no keyword. -/
structure IsClassName (name : String) : Prop where
  qualified : isQualifiedName name
  notKeyword : ∀ kind : Primitive, name ≠ kind.keyword

/-- Exactly the names of classes are read as the classes of these names. -/
theorem JavaType.parse_eq_object_iff {name : String} :
    parse name = .ok (object name) ↔ IsClassName name := by
  constructor
  · intro hparse
    have hname : isQualifiedName name := isWellFormed_parse hparse
    refine ⟨hname, ?_⟩
    rintro kind rfl
    rw [parse_of_isQualifiedName hname] at hparse
    exact named_ne_object _ kind (Except.ok.inj hparse)
  · intro h
    rw [parse_of_isQualifiedName h.qualified, named,
      Primitive.ofKeyword?_eq_none_iff.mpr h.notKeyword]

namespace ClassDecl

/-- What is wrong with the name of a class: it names no type, or not the class of that name. -/
def nameFaults (decl : ClassDecl) : List ResolutionCause :=
  typeFaults decl.name ++
    faultUnless (JavaType.parse decl.name = .ok (.object decl.name)) .notAClassName

/-- Nothing is wrong with the name of a class that it can have. -/
theorem nameFaults_eq_nil_iff {decl : ClassDecl} :
    decl.nameFaults = [] ↔ IsClassName decl.name := by
  rw [nameFaults, List.append_eq_nil_iff, typeFaults_eq_nil_iff, faultUnless_eq_nil_iff,
    ← JavaType.parse_eq_object_iff]
  constructor
  · intro hparts
    exact hparts.2
  · intro hparse
    exact ⟨⟨_, hparse⟩, hparse⟩

/-- Resolving the name of a class stops at what is wrong with it. -/
theorem stopsAt_resolveName (decl : ClassDecl) : StopsAt decl.resolveName decl.nameFaults := by
  unfold resolveName nameFaults typeFaults
  split
  · next name hparse =>
    rw [hparse]
    split
    · next hsame => exact .of_check (by rw [hsame]) _ _
    · next hsame => exact .of_not_check (by simpa using hsame) _
  · next type hother hparse =>
    rw [hparse]
    exact .of_not_check (by simpa using hother decl.name) _
  · next e hparse =>
    rw [hparse]
    exact .error _ _

/-- Everything that resolving a class may stop at, in order. -/
def failures (decl : ClassDecl) : List Failure :=
  decl.nameFaults.map (.unresolved decl.name none) ++
    decl.natives.flatMap fun entry =>
      entry.1.faults.map (.unresolved decl.name (some entry.1.name))

/-- Resolving a class stops at the first of its failures. -/
theorem stopsAt_resolve (decl : ClassDecl) : StopsAt decl.resolve decl.failures := by
  unfold resolve failures
  refine decl.stopsAt_resolveName.mapError.bind fun name => ?_
  refine StopsAt.bind_ok (.mapM fun entry _ => ?_)
  exact (entry.1.stopsAt_resolve name _ entry.2).mapError

end ClassDecl

/-- Two methods that are the same as soon as one of them is native. -/
def MethodDecl.SameIfNative (method method' : MethodDecl) : Prop :=
  method.isNative ∨ method'.isNative → method = method'

namespace ClassDecl

/-- The ranks of the native methods that cannot be resolved. -/
def unresolvable (decl : ClassDecl) : Set (String ×ₗ Nat) :=
  { place | ∃ method position, decl.methods[position]? = some method ∧ method.isNative ∧
      ¬ method.IsResolvable ∧ rank (method, position) = place }

/-- How a class is refused: for its name, if no class can be called that, or else for the first
native method that cannot be resolved. The cause is the first thing that is wrong with either. -/
inductive Refusal (decl : ClassDecl) : Failure → Prop
  | name {cause : ResolutionCause} (hname : ¬ IsClassName decl.name)
      (hcause : decl.nameFaults.head? = some cause) :
      Refusal decl (.unresolved decl.name none cause)
  | method {method : MethodDecl} {position : Nat} {cause : ResolutionCause}
      (hname : IsClassName decl.name) (hat : decl.methods[position]? = some method)
      (hfirst : IsLeast decl.unresolvable (rank (method, position)))
      (hcause : method.faults.head? = some cause) :
      Refusal decl (.unresolved decl.name (some method.name) cause)

/-- A native method is the first that cannot be resolved if no other such method precedes it. -/
theorem isLeast_unresolvable_iff {decl : ClassDecl} {method : MethodDecl} {position : Nat}
    (hat : decl.methods[position]? = some method) :
    IsLeast decl.unresolvable (rank (method, position)) ↔
      (method, position) ∈ decl.natives ∧ ¬ method.IsResolvable ∧
        ∀ entry ∈ decl.natives, ¬ entry.1.IsResolvable → rank (method, position) ≤ rank entry := by
  constructor
  · rintro ⟨⟨other, index, hother, hnative, hbad, hrank⟩, hleast⟩
    obtain ⟨-, rfl⟩ := Prod.mk.inj (toLex.injective hrank)
    obtain rfl : other = method := Option.some.inj (hother.symm.trans hat)
    refine ⟨mem_natives.mpr ⟨hat, hnative⟩, hbad, ?_⟩
    rintro ⟨another, place⟩ hentry hbad
    obtain ⟨hat, hnative⟩ := mem_natives.mp hentry
    exact hleast ⟨another, place, hat, hnative, hbad, rfl⟩
  · rintro ⟨hentry, hbad, hleast⟩
    refine ⟨⟨method, position, hat, (mem_natives.mp hentry).2, hbad, rfl⟩, ?_⟩
    rintro _ ⟨other, index, hother, hnative, hbad, rfl⟩
    exact hleast (other, index) (mem_natives.mpr ⟨hother, hnative⟩) hbad

/-- The first of the failures is the one that a class is refused with. -/
theorem head?_failures_iff {decl : ClassDecl} {failure : Failure} :
    decl.failures.head? = some failure ↔ decl.Refusal failure := by
  rw [failures, List.head?_append, Option.or_eq_some_iff, List.head?_eq_none_iff,
    List.map_eq_nil_iff, nameFaults_eq_nil_iff, head?_flatMap_eq_some_iff decl.pairwise_natives]
  simp only [List.head?_map, Option.map_eq_some_iff, ne_eq, List.map_eq_nil_iff,
    MethodDecl.faults_eq_nil_iff]
  constructor
  · rintro (⟨cause, hcause, rfl⟩ | ⟨hname, ⟨method, position⟩, hentry, hleast, cause, hcause, rfl⟩)
    · refine .name (fun hname => ?_) hcause
      rw [nameFaults_eq_nil_iff.mpr hname] at hcause
      contradiction
    · have hat := (mem_natives.mp hentry).1
      refine .method hname hat ((isLeast_unresolvable_iff hat).mpr ⟨hentry, ?_, hleast⟩) hcause
      intro hgood
      rw [MethodDecl.faults_eq_nil_iff.mpr hgood] at hcause
      contradiction
  · intro h
    cases h with
    | name hname hcause => exact Or.inl ⟨_, hcause, rfl⟩
    | method hname hat hfirst hcause =>
      obtain ⟨hentry, -, hleast⟩ := (isLeast_unresolvable_iff hat).mp hfirst
      exact Or.inr ⟨hname, _, hentry, hleast, _, hcause, rfl⟩

/-- There are no failures if the class can have its name and its native methods can be resolved. -/
theorem failures_eq_nil_iff {decl : ClassDecl} :
    decl.failures = [] ↔ IsClassName decl.name ∧
      ∀ method ∈ decl.methods, method.isNative → method.IsResolvable := by
  rw [failures, List.append_eq_nil_iff, List.map_eq_nil_iff, nameFaults_eq_nil_iff,
    List.flatMap_eq_nil_iff]
  simp only [List.map_eq_nil_iff, MethodDecl.faults_eq_nil_iff]
  refine and_congr_right fun _ => ⟨fun h method hmethod hnative => ?_, fun h entry hentry => ?_⟩
  · obtain ⟨position, hat⟩ := List.mem_iff_getElem?.mp hmethod
    exact h (method, position) (mem_natives.mpr ⟨hat, hnative⟩)
  · obtain ⟨hat, hnative⟩ := mem_natives.mp hentry
    exact h entry.1 (List.mem_of_getElem? hat) hnative

/-- Classes that differ in methods that are not native have the same native ones. -/
theorem declared_eq_of_forall₂ {decl decl' : ClassDecl}
    (h : List.Forall₂ MethodDecl.SameIfNative decl.methods decl'.methods) :
    decl.declared = decl'.declared := by
  have hfrom : ∀ {methods methods' : List MethodDecl} (start : Nat),
      List.Forall₂ MethodDecl.SameIfNative methods methods' →
        (methods.zipIdx start).filter (·.1.isNative) =
          (methods'.zipIdx start).filter (·.1.isNative) := by
    intro methods methods' start hmethods
    induction hmethods generalizing start with
    | nil => rfl
    | @cons method method' _ _ hsame _ ih =>
      rw [List.zipIdx_cons, List.zipIdx_cons]
      by_cases hnative : method.isNative ∨ method'.isNative
      · obtain rfl := hsame hnative
        rw [List.filter_cons, List.filter_cons, ih]
      · obtain ⟨hmethod, hmethod'⟩ := not_or.mp hnative
        rw [List.filter_cons, List.filter_cons, if_neg hmethod, if_neg hmethod', ih]
  exact hfrom 0 h

/-- Resolving a class does not depend on what is said of methods that are not native. -/
theorem resolve_eq_of_forall₂ {decl decl' : ClassDecl} (hname : decl.name = decl'.name)
    (h : List.Forall₂ MethodDecl.SameIfNative decl.methods decl'.methods) :
    decl.resolve = decl'.resolve := by
  have hnatives : decl.natives = decl'.natives :=
    congrArg (List.mergeSort · precedes) (declared_eq_of_forall₂ h)
  have hsame : decl.SameNatives decl' := by
    refine ⟨hname, fun name => ?_⟩
    rw [← filter_map_fst_natives, ← filter_map_fst_natives, hnatives]
  unfold resolve
  rw [hsame.resolveName, hsame.overloads, hname, hnatives]

/-- A class resolves exactly if it has the name of a class and all its native methods can be
resolved. Any other is refused, for its name or else for the first of its native methods that cannot
be resolved, with the first thing that is wrong. Methods that are not native do not matter. -/
theorem resolve_outcome (decl : ClassDecl) :
    ((∃ c, decl.resolve = .ok c) ↔ IsClassName decl.name ∧
        ∀ method ∈ decl.methods, method.isNative → method.IsResolvable) ∧
      (∀ failure, decl.resolve = .error failure ↔ decl.Refusal failure) ∧
      ∀ decl' : ClassDecl, decl.name = decl'.name →
        List.Forall₂ MethodDecl.SameIfNative decl.methods decl'.methods →
          decl.resolve = decl'.resolve := by
  refine ⟨?_, fun failure => ?_, fun decl' => resolve_eq_of_forall₂⟩
  · rw [decl.stopsAt_resolve.exists_ok_iff, failures_eq_nil_iff]
  · rw [decl.stopsAt_resolve failure, head?_failures_iff]

/-- A class whose native methods cannot be resolved, and a method that is not native. -/
def faultyDecl (other : MethodDecl) : ClassDecl where
  name := "p.C"
  methods := [
    { name := "put", params := [⟨"key", "in t"⟩] },
    other,
    { name := "get", params := [⟨"a", "int"⟩, ⟨"b-c", "void[]"⟩], returns := "[]" },
    { name := "get", returns := "?" }]

/-- The class is refused for the name of a parameter alone, whatever the other method is. -/
theorem resolve_outcome_faulty :
    (∀ other : MethodDecl, ¬ other.isNative → (faultyDecl other).resolve =
        .error (.unresolved "p.C" (some "get") (.invalidParamName "b-c"))) ∧
      (faultyDecl { name := "?", isNative := false }).Refusal
        (.unresolved "p.C" (some "get") (.invalidParamName "b-c")) := by
  obtain ⟨-, hrefused, hother⟩ := resolve_outcome (faultyDecl { name := "?", isNative := false })
  have hresolve : (faultyDecl { name := "?", isNative := false }).resolve =
      .error (.unresolved "p.C" (some "get") (.invalidParamName "b-c")) := by
    rw [resolve, natives_eq_insertionSort]
    decide +kernel
  refine ⟨fun other hnative => ?_, (hrefused _).mp hresolve⟩
  rw [← hresolve]
  have hsame : ∀ method : MethodDecl, method.SameIfNative method := fun method _ => rfl
  refine (hother (faultyDecl other) rfl ?_).symm
  refine .cons (hsame _) (.cons (fun hone => ?_) (.cons (hsame _) (.cons (hsame _) .nil)))
  exact absurd (hone.resolve_left (by decide)) hnative

end ClassDecl

end NativeBindings
