import NativeBindings.Binding.Backend
import NativeBindings.Proofs.SymbolDecoding

/-!
# What a binding module is built from

Each step on the way to the text of a module is described once, by when it succeeds. The checks
let a class through exactly if no dollar sign and no `void` parameter is in the way and no two trait
methods have one name. Everything that a module then contains comes from one method of the class
each, in order.
-/

namespace NativeBindings.Binding

/-- A trait method is named by the symbol, the name and the kind of the method behind it. -/
theorem traitMethodName_congr {a b : NativeMethod} (hsymbol : a.symbol = b.symbol)
    (hname : a.name = b.name) (hoverloaded : a.isOverloaded = b.isOverloaded) :
    traitMethodName a = traitMethodName b := by
  rw [traitMethodName, traitMethodName, hsymbol, hname, hoverloaded]

/-- An overload is named by its name and the descriptors of its parameters, any other method by its
name alone. -/
theorem traitMethodName_eq {decl : ClassDecl} {c : NativeClass} (hresolve : decl.resolve = .ok c)
    {method : NativeMethod} (hmethod : method ∈ c.methods) :
    traitMethodName method =
      if method.isOverloaded then
        snakeName method.name ++ "__" ++
          Symbol.escapeDescriptor (String.join (method.paramTypes.map JavaType.descriptor))
      else nameFor method.name := by
  rw [traitMethodName, (Symbol.describes_symbol hresolve hmethod).suffix]
  cases method.isOverloaded with
  | false => rfl
  | true => rfl

/-- A method passes if no dollar sign is in its symbol, no parameter is `void`, and no earlier
trait method has its name. -/
theorem methodFault?_eq_none_iff {earlier : List String} {method : NativeMethod} :
    methodFault? earlier method = none ↔
      '$' ∉ method.symbol.toList ∧ (∀ param ∈ method.params, ¬ param.type.isVoid) ∧
        traitMethodName method ∉ earlier := by
  unfold methodFault?
  split
  · next hdollar => simp [hdollar]
  · next hdollar =>
    split
    · next param hvoid =>
      have hmem := List.mem_of_find?_eq_some hvoid
      have hparam : param.type.isVoid := by simpa using List.find?_some hvoid
      simp only [reduceCtorEq, false_iff, not_and]
      intro _ hparams
      exact absurd hparam (hparams param hmem)
    · next hparams =>
      have hparams : ∀ param ∈ method.params, ¬ param.type.isVoid := by
        simpa using hparams
      simp only [hdollar, not_false_eq_true, true_and]
      split
      · next hearlier => simp [hearlier]
      · next hearlier => simp only [hearlier, not_false_eq_true, and_true, true_iff]; exact hparams

/-- Methods pass one after the other exactly if each has a form of its own and all their trait
methods have different names, which no earlier one has. -/
theorem checkMethods_eq_ok_iff {className : String} {earlier : List String}
    {methods : List NativeMethod} :
    checkMethods className earlier methods = .ok () ↔
      (∀ method ∈ methods, '$' ∉ method.symbol.toList ∧
        ∀ param ∈ method.params, ¬ param.type.isVoid) ∧
        (methods.map traitMethodName).Nodup ∧
        ∀ method ∈ methods, traitMethodName method ∉ earlier := by
  induction methods generalizing earlier with
  | nil => simp [checkMethods]
  | cons method methods ih =>
    rw [checkMethods]
    split
    · next cause hfault =>
      have hsome : methodFault? earlier method ≠ none := by simp [hfault]
      rw [Ne, methodFault?_eq_none_iff] at hsome
      simp only [reduceCtorEq, false_iff]
      intro hparts
      obtain ⟨hform, -, hearlier⟩ := hparts
      obtain ⟨hdollar, hparams⟩ := hform method List.mem_cons_self
      exact hsome ⟨hdollar, hparams, hearlier method List.mem_cons_self⟩
    · next hfault =>
      obtain ⟨hdollar, hparams, hearlier⟩ := methodFault?_eq_none_iff.mp hfault
      rw [ih, List.forall_mem_cons, List.forall_mem_cons, List.map_cons, List.nodup_cons]
      constructor
      · intro hparts
        obtain ⟨hforms, hnodup, hlater⟩ := hparts
        simp only [List.mem_cons, not_or] at hlater
        refine ⟨⟨⟨hdollar, hparams⟩, hforms⟩, ⟨?_, hnodup⟩, hearlier, fun m hm => (hlater m hm).2⟩
        intro hmem
        obtain ⟨m, hm, heq⟩ := List.mem_map.mp hmem
        exact (hlater m hm).1 heq
      · intro hparts
        obtain ⟨⟨-, hforms⟩, ⟨hfirst, hnodup⟩, -, hlater⟩ := hparts
        refine ⟨hforms, hnodup, fun m hm hmem => ?_⟩
        rcases List.mem_cons.mp hmem with heq | hmem
        · exact hfirst (List.mem_map.mpr ⟨m, hm, heq⟩)
        · exact hlater m hm hmem

/-- Methods that do not pass are refused in the name of their class. -/
theorem checkMethods_cases (className : String) (earlier : List String)
    (methods : List NativeMethod) :
    checkMethods className earlier methods = .ok () ∨ ∃ method cause,
      checkMethods className earlier methods = .error (.unsupported className method cause) := by
  induction methods generalizing earlier with
  | nil => exact Or.inl rfl
  | cons method methods ih =>
    rw [checkMethods]
    split
    · next cause _ => exact Or.inr ⟨some method.name, cause, rfl⟩
    · exact ih (traitMethodName method :: earlier)

/-- A class passes exactly if its name holds no dollar sign and its methods pass. -/
theorem checkClass_eq_ok_iff {c : NativeClass} :
    checkClass c = .ok () ↔
      '$' ∉ c.name.qualified.toList ∧
        (∀ method ∈ c.methods, '$' ∉ method.symbol.toList ∧
          ∀ param ∈ method.params, ¬ param.type.isVoid) ∧
        (c.methods.map traitMethodName).Nodup := by
  unfold checkClass
  split
  · next hdollar => simp [hdollar]
  · next hdollar => simp [hdollar, checkMethods_eq_ok_iff]

/-- A class that does not pass is refused by name. -/
theorem checkClass_cases (c : NativeClass) :
    checkClass c = .ok () ∨ ∃ method cause,
      checkClass c = .error (.unsupported c.name.qualified method cause) := by
  unfold checkClass
  split
  · exact Or.inr ⟨none, .dollarInClassName, rfl⟩
  · exact checkMethods_cases c.name.qualified [] c.methods

/-- A method has a function in the module exactly if its result has a placeholder. -/
theorem functionOf_eq_ok_iff {c : NativeClass} {method : NativeMethod} {f : Function} :
    functionOf c method = .ok f ↔
      placeholder? method.nativeReturn = some f.placeholder ∧
        f.traitMethod = traitMethodName method ∧ f.symbol = method.symbol ∧
        f.params = moduleParams method ∧ f.returns = method.nativeReturn := by
  unfold functionOf
  split
  · next hnone => simp [hnone]
  · next placeholder hsome =>
    obtain ⟨traitMethod, symbol, params, returns, placeholder'⟩ := f
    simp only [Except.ok.injEq, Function.mk.injEq, hsome, Option.some.injEq]
    constructor
    · intro hparts
      obtain ⟨htrait, hsymbol, hparams, hreturns, hplaceholder⟩ := hparts
      exact ⟨hplaceholder, htrait.symm, hsymbol.symm, hparams.symm, hreturns.symm⟩
    · intro hparts
      obtain ⟨hplaceholder, htrait, hsymbol, hparams, hreturns⟩ := hparts
      exact ⟨htrait.symm, hsymbol.symm, hparams.symm, hreturns.symm, hplaceholder⟩

/-- A class has a module exactly if it passes the checks, the implementation module has a name in
the generated code, and every method has a function. -/
theorem moduleOf_eq_ok_iff {implModule : String} {c : NativeClass} {m : Module} :
    moduleOf implModule c = .ok m ↔
      checkClass c = .ok () ∧ rawName? implModule = some m.implModule ∧
        m.traitName = "Jni" ++ c.name.simple ∧
        List.Forall₂ (fun method f => functionOf c method = .ok f) c.methods m.functions := by
  unfold moduleOf
  rw [bind_eq_ok_iff]
  obtain ⟨rawModule, traitName, functions⟩ := m
  constructor
  · intro hparts
    obtain ⟨⟨⟩, hcheck, h⟩ := hparts
    refine ⟨hcheck, ?_⟩
    split at h
    · simp [throw, throwThe, MonadExceptOf.throw] at h
    · next name hname =>
      obtain ⟨functions', hfunctions, h⟩ := bind_eq_ok_iff.mp h
      obtain ⟨rfl, rfl, rfl⟩ := Module.mk.inj (Except.ok.inj h)
      exact ⟨hname, rfl, mapM_eq_ok_iff.mp hfunctions⟩
  · intro hparts
    obtain ⟨hcheck, hname, rfl, hfunctions⟩ := hparts
    refine ⟨(), hcheck, ?_⟩
    rw [hname]
    exact bind_eq_ok_iff.mpr ⟨functions, mapM_eq_ok_iff.mpr hfunctions, rfl⟩

/-- A class is rendered exactly if it has a module, whose text is then the result. -/
theorem render_eq_ok_iff {options : Options} {c : NativeClass} {text : String} :
    options.render c = .ok text ↔
      ∃ m, moduleOf options.implModule c = .ok m ∧ m.text = text := by
  exact map_eq_ok_iff

/-- Every type of a result has a placeholder. -/
theorem exists_placeholder (type : JavaType) :
    ∃ expression, placeholder? type.nativeType = some expression := by
  have hresult : type.nativeType ≠ .environment := by
    fun_cases JavaType.nativeType type with
    | case1 kind => cases kind <;> simp [Primitive.nativeType]
    | case2 kind => cases kind <;> simp [Primitive.arrayType]
    | _ => simp
  cases hscalar : type.nativeType.isScalar with
  | true => exact ⟨_, if_pos hscalar⟩
  | false =>
    have hreference : type.nativeType.isReference := by
      simp [NativeType.isReference, hscalar, hresult]
    exact ⟨_, by rw [placeholder?, if_neg (by simp [hscalar]), if_pos hreference]⟩

/-- Every list of methods has its functions. -/
theorem exists_functions (c : NativeClass) (methods : List NativeMethod) :
    ∃ functions, List.Forall₂ (fun method f => functionOf c method = .ok f) methods functions := by
  induction methods with
  | nil => exact ⟨[], .nil⟩
  | cons method methods ih =>
    obtain ⟨functions, hfunctions⟩ := ih
    obtain ⟨placeholder, hplaceholder⟩ := exists_placeholder method.returns
    have hfunction : ∃ f, functionOf c method = .ok f := by
      rw [functionOf, NativeMethod.nativeReturn, hplaceholder]
      exact ⟨_, rfl⟩
    obtain ⟨f, hf⟩ := hfunction
    exact ⟨f :: functions, .cons hf hfunctions⟩

/-- A class is rendered exactly if it passes the checks and the implementation module is called by
no reserved word. -/
theorem exists_render_iff {options : Options} {c : NativeClass} :
    (∃ text, options.render c = .ok text) ↔
      checkClass c = .ok () ∧ options.implModule ∉ reservedWords := by
  constructor
  · intro hparts
    obtain ⟨text, htext⟩ := hparts
    obtain ⟨m, hm, -⟩ := render_eq_ok_iff.mp htext
    obtain ⟨hcheck, hname, -, -⟩ := moduleOf_eq_ok_iff.mp hm
    refine ⟨hcheck, fun hreserved => ?_⟩
    rw [rawName?, if_pos hreserved] at hname
    contradiction
  · intro hparts
    obtain ⟨hcheck, hreserved⟩ := hparts
    obtain ⟨functions, hfunctions⟩ := exists_functions c c.methods
    have hname : ∃ name, rawName? options.implModule = some name := by
      rw [rawName?, if_neg hreserved]
      split
      · exact ⟨_, rfl⟩
      · exact ⟨_, rfl⟩
    obtain ⟨name, hname⟩ := hname
    refine ⟨_, render_eq_ok_iff.mpr ⟨⟨name, "Jni" ++ c.name.simple, functions⟩, ?_, rfl⟩⟩
    exact moduleOf_eq_ok_iff.mpr ⟨hcheck, hname, rfl, hfunctions⟩

/-- A class that is rendered passed the checks. -/
theorem checkClass_of_render {options : Options} {c : NativeClass} {text : String}
    (h : options.render c = .ok text) : checkClass c = .ok () := by
  exact (exists_render_iff.mp ⟨text, h⟩).1

/-- A class that does not pass the checks is refused for what they found. -/
theorem render_of_checkClass {c : NativeClass} {failure : Failure}
    (h : checkClass c = .error failure) (options : Options) :
    options.render c = .error failure := by
  unfold Options.render render moduleOf
  rw [h]
  rfl

/-- A class that does not pass the checks is refused by name. -/
theorem render_eq_error (options : Options) {c : NativeClass} (h : checkClass c ≠ .ok ()) :
    ∃ method cause, options.render c = .error (.unsupported c.name.qualified method cause) := by
  obtain hok | ⟨method, cause, herror⟩ := checkClass_cases c
  · contradiction
  · exact ⟨method, cause, render_of_checkClass herror options⟩

/-- A class that passes the checks is refused if a reserved word is to name the implementation
module, and rendered otherwise. -/
theorem render_of_checkClass_ok {c : NativeClass} (h : checkClass c = .ok ()) (options : Options) :
    if options.implModule ∈ reservedWords then
      options.render c = .error (.config (.reservedImplModule options.implModule))
    else ∃ text, options.render c = .ok text := by
  split
  · next hreserved =>
    unfold Options.render render moduleOf
    rw [h, rawName?, if_pos hreserved]
    rfl
  · next hfree => exact exists_render_iff.mpr ⟨h, hfree⟩

end NativeBindings.Binding
