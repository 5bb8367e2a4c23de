import Mathlib.Order.Bounds.Basic
import NativeBindings.Proofs.ModuleChecks
import NativeBindings.Proofs.NativeSurface
import NativeBindings.Proofs.SymbolWords

/-!
# What comes of rendering

A class is refused for the first reason in the way: a dollar sign in its name, then a method that
has no form in the module, then a reserved word for the implementation module. If none is in the
way, the class is rendered. The checks look for dollar signs in symbols, which stand there for a
dollar sign in the name of the method or, where the symbol carries the parameters, in the name of a
class among these.
-/

namespace NativeBindings.Binding

/-! ### Methods without a form -/

/-- A reason why a method has no form in a module, given the methods before it. -/
inductive Unsupported (earlier : List NativeMethod) (method : NativeMethod) :
    UnsupportedCause → Prop
  | dollarInName (hdollar : '$' ∈ method.name.toList) : Unsupported earlier method .dollarInSymbol
  | dollarInParam {param : Param JavaType} {name : String} (hoverloaded : method.isOverloaded)
      (hparam : param ∈ method.params) (hbase : param.type.base = .object name)
      (hdollar : '$' ∈ name.toList) : Unsupported earlier method .dollarInSymbol
  | voidParam {param : Param JavaType} (hparam : param ∈ method.params)
      (hvoid : param.type = .void) : Unsupported earlier method (.voidParam param.name)
  | repeatedTraitMethod {other : NativeMethod} (hother : other ∈ earlier)
      (hname : traitMethodName other = traitMethodName method) :
      Unsupported earlier method (.repeatedTraitMethod (traitMethodName method))

/-- The positions of the methods that have no form, given the methods before all of these. -/
def unsupportedFrom (earlier methods : List NativeMethod) : Set Nat :=
  {i | ∃ method cause, methods[i]? = some method ∧
    Unsupported (earlier ++ methods.take i) method cause}

section

variable {earlier methods : List NativeMethod} {method : NativeMethod}

/-- The first method has no form if there is a reason. -/
theorem zero_mem_unsupportedFrom :
    0 ∈ unsupportedFrom earlier (method :: methods) ↔
      ∃ cause, Unsupported earlier method cause := by
  simp [unsupportedFrom]

/-- For a later method the first one is one of those before it. -/
theorem succ_mem_unsupportedFrom {i : Nat} :
    i + 1 ∈ unsupportedFrom earlier (method :: methods) ↔
      i ∈ unsupportedFrom (earlier ++ [method]) methods := by
  simp [unsupportedFrom]

/-- If the first method has a form, the first one without is the first one without among the
others. -/
theorem isLeast_unsupportedFrom_succ {i : Nat} (h : ∀ cause, ¬ Unsupported earlier method cause)
    (hleast : IsLeast (unsupportedFrom (earlier ++ [method]) methods) i) :
    IsLeast (unsupportedFrom earlier (method :: methods)) (i + 1) := by
  refine ⟨succ_mem_unsupportedFrom.mpr hleast.1, fun j hj => ?_⟩
  cases j with
  | zero =>
    obtain ⟨cause, hcause⟩ := zero_mem_unsupportedFrom.mp hj
    exact absurd hcause (h cause)
  | succ j => exact Nat.succ_le_succ (hleast.2 (succ_mem_unsupportedFrom.mp hj))

/-- If the first method and all others have forms, then none has not. -/
theorem unsupportedFrom_eq_empty (h : ∀ cause, ¬ Unsupported earlier method cause)
    (hempty : unsupportedFrom (earlier ++ [method]) methods = ∅) :
    unsupportedFrom earlier (method :: methods) = ∅ := by
  refine Set.eq_empty_of_forall_notMem fun j hj => ?_
  cases j with
  | zero =>
    obtain ⟨cause, hcause⟩ := zero_mem_unsupportedFrom.mp hj
    exact h cause hcause
  | succ j => exact Set.notMem_empty j (hempty ▸ succ_mem_unsupportedFrom.mp hj)

/-- What the check of a method finds is a reason. -/
theorem unsupported_of_methodFault? {names : List String} {cause : UnsupportedCause}
    (hnames : ∀ name, name ∈ names ↔ name ∈ earlier.map traitMethodName)
    (howner : '$' ∉ method.owner.qualified.toList) (h : methodFault? names method = some cause) :
    Unsupported earlier method cause := by
  unfold methodFault? at h
  split at h
  · next hdollar =>
    obtain rfl := Option.some.inj h
    rcases Symbol.dollar_mem_symbol_iff.mp hdollar with hclass | hname | ⟨hoverloaded, hparams⟩
    · contradiction
    · exact .dollarInName hname
    · obtain ⟨param, hparam, name, hbase, hdollar⟩ := hparams
      exact .dollarInParam hoverloaded hparam hbase hdollar
  · split at h
    · next param hfound =>
      obtain rfl := Option.some.inj h
      have hvoid : param.type.isVoid := by simpa using List.find?_some hfound
      exact .voidParam (List.mem_of_find?_eq_some hfound) (of_decide_eq_true hvoid)
    · split at h
      · next hmem =>
        obtain rfl := Option.some.inj h
        obtain ⟨other, hother, hname⟩ := List.mem_map.mp ((hnames _).mp hmem)
        exact .repeatedTraitMethod hother hname
      · contradiction

/-- The check of a method finds something if there is a reason. -/
theorem not_unsupported_of_methodFault? {names : List String}
    (hnames : ∀ name, name ∈ names ↔ name ∈ earlier.map traitMethodName)
    (h : methodFault? names method = none) (cause : UnsupportedCause) :
    ¬ Unsupported earlier method cause := by
  obtain ⟨hsymbol, hparams, hname⟩ := methodFault?_eq_none_iff.mp h
  rw [Symbol.dollar_mem_symbol_iff, not_or, not_or] at hsymbol
  obtain ⟨-, hmethod, hclasses⟩ := hsymbol
  intro hunsupported
  cases hunsupported with
  | dollarInName hdollar => exact hmethod hdollar
  | dollarInParam hoverloaded hparam hbase hdollar =>
    exact hclasses ⟨hoverloaded, _, hparam, _, hbase, hdollar⟩
  | voidParam hparam hvoid => exact hparams _ hparam (decide_eq_true hvoid)
  | repeatedTraitMethod hother hsame =>
    exact hname ((hnames _).mpr (List.mem_map.mpr ⟨_, hother, hsame⟩))

/-- Methods pass if all of them have forms. Otherwise the first one without is what stops the
check. -/
theorem checkMethods_outcome {names : List String} (className : String)
    (hnames : ∀ name, name ∈ names ↔ name ∈ earlier.map traitMethodName)
    (howner : ∀ method ∈ methods, '$' ∉ method.owner.qualified.toList) :
    (unsupportedFrom earlier methods = ∅ ∧ checkMethods className names methods = .ok ()) ∨
      ∃ first method cause, IsLeast (unsupportedFrom earlier methods) first ∧
        methods[first]? = some method ∧
        Unsupported (earlier ++ methods.take first) method cause ∧
        checkMethods className names methods =
          .error (.unsupported className (some method.name) cause) := by
  induction methods generalizing earlier names with
  | nil => exact Or.inl ⟨by simp [unsupportedFrom], rfl⟩
  | cons method methods ih =>
    rw [List.forall_mem_cons] at howner
    rw [checkMethods]
    cases hfault : methodFault? names method with
    | some cause =>
      have hcause := unsupported_of_methodFault? hnames howner.1 hfault
      have hzero : IsLeast (unsupportedFrom earlier (method :: methods)) 0 :=
        ⟨zero_mem_unsupportedFrom.mpr ⟨cause, hcause⟩, fun j _ => Nat.zero_le j⟩
      exact Or.inr ⟨0, method, cause, hzero, rfl, by simpa using hcause, rfl⟩
    | none =>
      have hform := not_unsupported_of_methodFault? hnames hfault
      -- The method that passed is one of the earlier ones from here on.
      have hgrown : ∀ name, name ∈ traitMethodName method :: names ↔
          name ∈ (earlier ++ [method]).map traitMethodName := by
        intro name
        simp [hnames, or_comm]
      rcases ih hgrown howner.2 with ⟨hempty, hok⟩ | ⟨i, m, cause, hleast, hat, hcause, herror⟩
      · exact Or.inl ⟨unsupportedFrom_eq_empty hform hempty, hok⟩
      · have hfirst := isLeast_unsupportedFrom_succ hform hleast
        exact Or.inr ⟨i + 1, m, cause, hfirst, by simpa using hat, by simpa using hcause, herror⟩

end

/-! ### The outcome -/

variable {decl : ClassDecl} {c : NativeClass}

/-- A resolved class without a dollar sign in its name passes if all its methods have forms.
Otherwise the first one without is what stops the check. -/
theorem checkClass_outcome (h : decl.resolve = .ok c) (hplain : '$' ∉ c.name.qualified.toList) :
    (unsupportedFrom [] c.methods = ∅ ∧ checkClass c = .ok ()) ∨
      ∃ first method cause, IsLeast (unsupportedFrom [] c.methods) first ∧
        c.methods[first]? = some method ∧ Unsupported (c.methods.take first) method cause ∧
        checkClass c = .error (.unsupported c.name.qualified (some method.name) cause) := by
  have howner : ∀ method ∈ c.methods, '$' ∉ method.owner.qualified.toList := by
    intro method hmethod
    rwa [ClassDecl.owner_of_resolve h hmethod]
  have hnames : ∀ name, name ∈ ([] : List String) ↔
      name ∈ ([] : List NativeMethod).map traitMethodName := by
    simp
  rw [checkClass, if_neg hplain]
  exact checkMethods_outcome c.name.qualified hnames howner

/-- What is reported as unsupported is the class for its name, or a method for a reason that is
there. -/
theorem unsupported_of_render (h : decl.resolve = .ok c) {options : Options} {name : String}
    {method : Option String} {cause : UnsupportedCause}
    (hrender : options.render c = .error (.unsupported name method cause)) :
    (method = none ∧ cause = .dollarInClassName) ∨
      ∃ i m, c.methods[i]? = some m ∧ method = some m.name ∧
        Unsupported (c.methods.take i) m cause := by
  by_cases hdollar : '$' ∈ c.name.qualified.toList
  · rw [render_of_checkClass (if_pos hdollar)] at hrender
    obtain ⟨-, hmethod, hcause⟩ := Failure.unsupported.inj (Except.error.inj hrender)
    exact Or.inl ⟨hmethod.symm, hcause.symm⟩
  · rcases checkClass_outcome h hdollar with
      ⟨-, hok⟩ | ⟨i, m, found, -, hat, hcause, herror⟩
    · have hmodule := render_of_checkClass_ok hok options
      rw [hrender] at hmodule
      split at hmodule
      · simp at hmodule
      · simp at hmodule
    · rw [render_of_checkClass herror] at hrender
      obtain ⟨-, hmethod, rfl⟩ := Failure.unsupported.inj (Except.error.inj hrender)
      exact Or.inr ⟨i, m, hat, hmethod.symm, hcause⟩

/-- A class with a dollar sign in its name is refused. If it has none, the first method without a
form is refused. If all methods have forms, the class is refused if a reserved word is to name the
implementation module, and is rendered otherwise. That a result has no placeholder is never
reported. -/
theorem render_outcome (h : decl.resolve = .ok c) (options : Options) :
    ('$' ∈ c.name.qualified.toList →
        options.render c = .error (.unsupported c.name.qualified none .dollarInClassName)) ∧
      ('$' ∉ c.name.qualified.toList →
        (∀ first, IsLeast (unsupportedFrom [] c.methods) first →
          ∃ method cause, c.methods[first]? = some method ∧
            Unsupported (c.methods.take first) method cause ∧
            options.render c =
              .error (.unsupported c.name.qualified (some method.name) cause)) ∧
        (unsupportedFrom [] c.methods = ∅ →
          if options.implModule ∈ ["self", "Self", "super", "crate"] then
            options.render c = .error (.config (.reservedImplModule options.implModule))
          else ∃ text, options.render c = .ok text)) ∧
      ∀ name method, options.render c ≠ .error (.unsupported name method .noPlaceholder) := by
  refine ⟨fun hdollar => render_of_checkClass (if_pos hdollar) options, fun hplain => ?_,
    fun name method hrender => ?_⟩
  · rcases checkClass_outcome h hplain with
      ⟨hempty, hok⟩ | ⟨i, method, cause, hleast, hat, hcause, herror⟩
    · refine ⟨fun first hfirst => ?_, fun _ => render_of_checkClass_ok hok options⟩
      exact absurd (hempty ▸ hfirst.1) (Set.notMem_empty first)
    · refine ⟨fun first hfirst => ?_, fun hempty => ?_⟩
      · obtain rfl := hfirst.unique hleast
        exact ⟨method, cause, hat, hcause, render_of_checkClass herror options⟩
      · exact absurd (hempty ▸ hleast.1) (Set.notMem_empty i)
  · -- A missing placeholder is no reason.
    rcases unsupported_of_render h hrender with ⟨-, hcause⟩ | ⟨i, m, -, -, hcause⟩
    · contradiction
    · cases hcause

/-- A class with one native method, which takes a nested class. -/
def getterDecl : ClassDecl where
  name := "p.C"
  methods := [{ name := "get", params := [⟨"", "q.R$S"⟩] }]

/-- A class with overloads besides. One takes the nested class too, and another takes `void`. -/
def nestedDecl : ClassDecl where
  name := "p.C"
  methods := getterDecl.methods ++ [
    { name := "put", params := [⟨"", "q.R$S[]"⟩] },
    { name := "put", params := [⟨"", "void"⟩] }]

/-- The method that is not overloaded. -/
def getter : NativeMethod where
  owner := ⟨"p.C"⟩
  name := "get"
  params := [⟨"arg0", .object "q.R$S"⟩]
  returns := .void
  isStatic := false
  isOverloaded := false
  position := 0

/-- The overload that takes the nested class. -/
def nestedSetter : NativeMethod where
  owner := ⟨"p.C"⟩
  name := "put"
  params := [⟨"arg0", .array (.object "q.R$S")⟩]
  returns := .void
  isStatic := false
  isOverloaded := true
  position := 1

/-- The native methods of the class with overloads. -/
def nestedClass : NativeClass where
  name := ⟨"p.C"⟩
  methods := [getter, nestedSetter,
    { nestedSetter with params := [⟨"arg0", .void⟩], position := 2 }]

/-- The method that is not overloaded has a form, since its symbol does not carry its parameter. -/
theorem not_unsupported_getter (cause : UnsupportedCause) : ¬ Unsupported [] getter cause := by
  have hnames : ∀ name, name ∈ ([] : List String) ↔
      name ∈ ([] : List NativeMethod).map traitMethodName := by
    simp
  exact not_unsupported_of_methodFault? hnames (by decide) cause

/-- The overload with the nested class is the first method without a form. By itself the other
method is rendered, but not into an implementation module that is called `super`. -/
theorem render_outcome_nested :
    (nestedDecl.resolve = .ok nestedClass ∧ ∃ cause, Options.render {} nestedClass =
        .error (.unsupported "p.C" (some "put") cause)) ∧
      getterDecl.resolve = .ok ⟨⟨"p.C"⟩, [getter]⟩ ∧
      (∃ text, Options.render {} ⟨⟨"p.C"⟩, [getter]⟩ = .ok text) ∧
      Options.render ⟨"super", none⟩ ⟨⟨"p.C"⟩, [getter]⟩ =
        .error (.config (.reservedImplModule "super")) := by
  have hnested : nestedDecl.resolve = .ok nestedClass := by
    rw [ClassDecl.resolve, ClassDecl.natives_eq_insertionSort]
    decide +kernel
  have hgetter : getterDecl.resolve = .ok ⟨⟨"p.C"⟩, [getter]⟩ := by
    rw [ClassDecl.resolve, ClassDecl.natives_eq_insertionSort]
    decide +kernel
  have hplain : '$' ∉ "p.C".toList := by decide
  have hsetter : Unsupported [getter] nestedSetter .dollarInSymbol :=
    .dollarInParam rfl List.mem_cons_self rfl (by decide)
  have hfirst : IsLeast (unsupportedFrom [] nestedClass.methods) 1 := by
    refine isLeast_unsupportedFrom_succ not_unsupported_getter ⟨?_, fun j _ => Nat.zero_le j⟩
    exact zero_mem_unsupportedFrom.mpr ⟨_, hsetter⟩
  have hnone : unsupportedFrom [] [getter] = ∅ :=
    unsupportedFrom_eq_empty not_unsupported_getter (by simp [unsupportedFrom])
  obtain ⟨method, cause, hat, -, hrefused⟩ := ((render_outcome hnested {}).2.1 hplain).1 1 hfirst
  obtain rfl : nestedSetter = method := Option.some.inj hat
  exact ⟨⟨hnested, cause, hrefused⟩, hgetter,
    ((render_outcome hgetter {}).2.1 hplain).2 hnone,
    ((render_outcome hgetter ⟨"super", none⟩).2.1 hplain).2 hnone⟩

end NativeBindings.Binding
