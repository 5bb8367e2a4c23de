import NativeBindings.Proofs.ModuleLines

/-!
# A module can be read back

The text of a module is cut into lines and read without knowledge of the class. The lines are those
that were written, as no name holds a line break, and no name holds any punctuation that would shift
the parts of a line. So each header and each body gives back what it was written with.
-/

namespace NativeBindings.Binding

/-! ### Functions -/

/-- A function that is written with names free of punctuation, and with types and a placeholder that
hold none where they stand. -/
structure Function.IsReadable (f : Function) : Prop where
  traitMethod : isUnpunctuated f.traitMethod
  symbol : isUnpunctuated f.symbol
  params_ne_nil : f.params ≠ []
  params : ∀ inTrait, ∀ param ∈ spelled inTrait f.params, IsListed param
  placeholder : '\n' ∉ f.placeholder.toList

/-- Parameters keep their names. -/
theorem map_name_spelled (inTrait : Bool) (params : List (Param NativeType)) :
    (spelled inTrait params).map (·.name) = params.map (·.name) := by
  rw [spelled, List.map_map]
  rfl

/-- Parameters get the spellings of their types. -/
theorem map_type_spelled (inTrait : Bool) (params : List (Param NativeType)) :
    (spelled inTrait params).map (·.type) = params.map (paramSpelling inTrait ·.type) := by
  rw [spelled, List.map_map]
  rfl

/-- Unless it is `void`, the type of a parameter ends neither a line, nor an item, nor a list. -/
theorem notMem_paramSpelling {type : NativeType} (h : type ≠ .void) (inTrait : Bool) :
    '\n' ∉ (paramSpelling inTrait type).toList ∧ ',' ∉ (paramSpelling inTrait type).toList ∧
      ')' ∉ (paramSpelling inTrait type).toList := by
  revert h
  cases inTrait <;> cases type <;> decide

/-- What is written about a result does not end a line. -/
theorem lineBreak_notMem_result (type : NativeType) :
    '\n' ∉ (rawSpelling type).toList ∧ '\n' ∉ (returnSign type).toList ∧
      ∀ placeholder ∈ placeholder? type, '\n' ∉ placeholder.toList := by
  cases type <;> decide

/-- Only `void` itself has the native type of that name. -/
theorem isVoid_of_nativeType {type : JavaType} (h : type.nativeType = .void) : type.isVoid := by
  cases type with
  | primitive kind =>
    revert h
    cases kind <;> decide
  | array element =>
    cases element with
    | primitive kind => cases kind <;> contradiction
    | array element => contradiction
    | object name => contradiction
  | object name =>
    rw [JavaType.nativeType] at h
    split at h
    · contradiction
    · split at h <;> contradiction

/-- No parameter of a function is `void` if no declared one is. -/
theorem ne_void_of_mem_moduleParams {method : NativeMethod}
    (hvoid : ∀ param ∈ method.params, ¬ param.type.isVoid) :
    ∀ param ∈ moduleParams method, param.type ≠ .void := by
  intro param hparam htype
  have hmem : NativeType.void ∈ method.signature.map (·.type) := by
    rw [← map_type_moduleParams, ← htype]
    exact List.mem_map_of_mem hparam
  rw [NativeMethod.signature, List.map_cons, List.map_cons, List.map_map] at hmem
  rcases List.mem_cons.mp hmem with henv | hmem
  · contradiction
  · rcases List.mem_cons.mp hmem with hreceiver | hmem
    · split at hreceiver <;> contradiction
    · obtain ⟨declared, hdeclared, hnative⟩ := List.mem_map.mp hmem
      exact hvoid declared hdeclared (isVoid_of_nativeType hnative)

section

variable {decl : ClassDecl} {c : NativeClass} {method : NativeMethod} {f : Function}

/-- The functions of a class that passes the checks are readable. -/
theorem isReadable_of_functionOf (hresolve : decl.resolve = .ok c) (hcheck : checkClass c = .ok ())
    (hmethod : method ∈ c.methods) (hf : functionOf c method = .ok f) : f.IsReadable := by
  have hwell := ClassDecl.isWellFormed_of_resolve hresolve hmethod
  obtain ⟨-, hforms, -⟩ := checkClass_eq_ok_iff.mp hcheck
  obtain ⟨hplaceholder, htrait, hsymbol, hparams, -⟩ := functionOf_eq_ok_iff.mp hf
  refine ⟨?_, ?_, ?_, fun inTrait => ?_, ?_⟩
  · rw [htrait]
    exact isUnpunctuated_traitMethodName hresolve hmethod
  · rw [hsymbol]
    exact Symbol.isUnpunctuated_symbol hwell
  · rw [hparams, moduleParams, NativeMethod.signature]
    exact List.cons_ne_nil _ _
  · rw [hparams, spelled, List.forall_mem_map]
    intro param hparam
    have hname := isUnpunctuated_of_mem_moduleParams hwell.paramNames
      (List.mem_map_of_mem (f := (·.name)) hparam)
    have htype := ne_void_of_mem_moduleParams (hforms method hmethod).2 param hparam
    obtain ⟨hbreak, hcomma, hclose⟩ := notMem_paramSpelling htype inTrait
    exact ⟨hname, hbreak, hcomma, hclose⟩
  · exact (lineBreak_notMem_result method.nativeReturn).2.2 f.placeholder hplaceholder

end

/-- The header of readable parts is one line. -/
theorem Layout.lineBreak_notMem_line {layout : Layout}
    (hlayout : '\n' ∉ layout.opening.toList ++ layout.beforeParams.toList ++
      layout.beforeResult.toList ++ layout.closing.toList) {name : String}
    {params : List (Param String)} {result : String} (hname : isUnpunctuated name)
    (hparams : ∀ param ∈ params, IsListed param) (hresult : '\n' ∉ result.toList) :
    '\n' ∉ (layout.line name params result).toList := by
  have hname : '\n' ∉ name.toList := notMem_of_isUnpunctuated hname (by decide)
  have hlist : '\n' ∉ (String.intercalate ", " (params.map paramText)).toList := by
    refine notMem_intercalate (by decide) ?_
    rw [List.forall_mem_map]
    exact fun param hparam => (notMem_paramText (hparams param hparam)).1
  simp only [List.mem_append, not_or] at hlayout
  obtain ⟨⟨⟨hopening, hbeforeParams⟩, hbeforeResult⟩, hclosing⟩ := hlayout
  rw [toList_line]
  simp only [List.mem_append, hopening, hbeforeParams, hbeforeResult, hclosing, hname, hlist,
    hresult, false_or, or_false]
  decide

namespace Function

variable {f : Function} (h : f.IsReadable)

include h

/-- A readable function has parameters. -/
theorem IsReadable.spelled_ne_nil (inTrait : Bool) : spelled inTrait f.params ≠ [] := by
  simpa [spelled] using h.params_ne_nil

/-- The names of the parameters are free of punctuation. -/
theorem IsReadable.isUnpunctuated_param : ∀ param ∈ f.params, isUnpunctuated param.name := by
  intro param hparam
  exact (h.params true ⟨param.name, paramSpelling true param.type⟩
    (List.mem_map_of_mem hparam)).name

/-- The line of a trait method is one line. -/
theorem IsReadable.lineBreak_notMem_traitLine : '\n' ∉ f.traitLine.toList := by
  rw [traitLine_eq_line]
  exact Layout.lineBreak_notMem_line (by decide) h.traitMethod (h.params true)
    (lineBreak_notMem_result f.returns).1

/-- The header of an exported function is one line. -/
theorem IsReadable.lineBreak_notMem_exportLine : '\n' ∉ f.exportLine.toList := by
  rw [exportLine_eq_line]
  exact Layout.lineBreak_notMem_line (by decide) h.symbol (h.params false)
    (lineBreak_notMem_result f.returns).2.1

/-- The body of an exported function is one line. -/
theorem IsReadable.lineBreak_notMem_bodyLine {implType : String} (himpl : isUnpunctuated implType) :
    '\n' ∉ (f.bodyLine implType).toList := by
  have himpl : '\n' ∉ implType.toList := notMem_of_isUnpunctuated himpl (by decide)
  have hmethod : '\n' ∉ f.traitMethod.toList := notMem_of_isUnpunctuated h.traitMethod (by decide)
  have harguments : '\n' ∉ (String.intercalate ", " f.arguments).toList := by
    refine notMem_intercalate (by decide) ?_
    rw [arguments, List.forall_mem_cons, List.forall_mem_map]
    exact ⟨by decide, fun param hparam => notMem_of_isUnpunctuated
      (h.isUnpunctuated_param param (List.mem_of_mem_drop hparam)) (by decide)⟩
  have hopening : '\n' ∉ callOpening.toList := by decide
  rw [toList_bodyLine]
  simp only [List.mem_append, hopening, himpl, hmethod, harguments, h.placeholder, false_or]
  decide

/-- The line of a trait method is read as it is written. -/
theorem IsReadable.read?_traitLine :
    Layout.ofTrait.read? f.traitLine =
      some ⟨f.traitMethod, f.params.map (·.name), f.params.map (paramSpelling true ·.type),
        rawSpelling f.returns⟩ := by
  rw [traitLine_eq_line, Layout.read?_line _ _ h.traitMethod (h.spelled_ne_nil true)
    (h.params true), map_name_spelled, map_type_spelled]

/-- The header of an exported function is read as it is written. -/
theorem IsReadable.read?_exportLine :
    Layout.ofExport.read? f.exportLine =
      some ⟨f.symbol, f.params.map (·.name), f.params.map (paramSpelling false ·.type),
        returnSign f.returns⟩ := by
  rw [exportLine_eq_line, Layout.read?_line _ _ h.symbol (h.spelled_ne_nil false)
    (h.params false), map_name_spelled, map_type_spelled]

end Function

/-! ### Modules -/

/-- What a list of functions is mapped to is read off the methods behind them. -/
theorem map_functions_eq {α : Type} {c : NativeClass} {methods : List NativeMethod}
    {functions : List Function} {ofFunction : Function → α} {ofMethod : NativeMethod → α}
    (hfunctions : List.Forall₂ (fun method f => functionOf c method = .ok f) methods functions)
    (h : ∀ method ∈ methods, ∀ f, functionOf c method = .ok f → ofFunction f = ofMethod method) :
    functions.map ofFunction = methods.map ofMethod := by
  induction hfunctions with
  | nil => rfl
  | @cons method f methods functions hf _ ih =>
    rw [List.forall_mem_cons] at h
    rw [List.map_cons, List.map_cons, h.1 f hf, ih h.2]

section

variable {decl : ClassDecl} {c : NativeClass} {implModule : String} {m : Module}
  (hresolve : decl.resolve = .ok c) (hmodule : isIdentifier implModule)
  (hm : moduleOf implModule c = .ok m)

include hresolve hm

/-- The functions of a module are readable. -/
theorem isReadable_of_mem_functions : ∀ f ∈ m.functions, f.IsReadable := by
  obtain ⟨hcheck, -, -, hfunctions⟩ := moduleOf_eq_ok_iff.mp hm
  intro f hf
  obtain ⟨method, hmethod, hf⟩ := exists_mem_of_forall₂ hfunctions hf
  exact isReadable_of_functionOf hresolve hcheck hmethod hf

include hmodule

/-- No line of a module holds a line break. -/
theorem lineBreak_notMem_of_mem_lines : ∀ line ∈ m.lines, '\n' ∉ line.toList := by
  have hreadable := isReadable_of_mem_functions hresolve hm
  have hnames := isUnpunctuated_of_mem_names hresolve hmodule hm
  simp only [Module.names, List.forall_mem_cons] at hnames
  obtain ⟨himplModule, htraitName, himplType, -⟩ := hnames
  have hbreak {name : String} (h : isUnpunctuated name) : '\n' ∉ name.toList :=
    notMem_of_isUnpunctuated h (by decide)
  have hopening : ∀ line ∈ m.opening, '\n' ∉ line.toList := by
    have hsub : '\n' ∉ ("mod " ++ m.implModule ++ ";").toList := by
      simp only [String.toList_append, List.mem_append, hbreak himplModule, or_false]
      decide
    have huse : '\n' ∉ ("use self::" ++ m.implModule ++ "::" ++ m.implType ++ ";").toList := by
      simp only [String.toList_append, List.mem_append, hbreak himplModule, hbreak himplType,
        or_false]
      decide
    simp only [Module.opening, List.forall_mem_append, List.forall_mem_cons, hsub, huse]
    decide +kernel
  have htrait : '\n' ∉ ("trait " ++ m.traitName ++ "<'a> \x7b").toList := by
    simp only [String.toList_append, List.mem_append, hbreak htraitName, or_false]
    decide
  have htraitLines : ∀ line ∈ m.traitLines, '\n' ∉ line.toList := by
    simp only [Module.traitLines, List.forall_mem_append, List.forall_mem_cons, htrait,
      List.forall_mem_map]
    exact ⟨⟨by decide, fun f hf => (hreadable f hf).lineBreak_notMem_traitLine⟩, by decide⟩
  rw [Module.lines, List.forall_mem_append, List.forall_mem_append]
  refine ⟨⟨hopening, htraitLines⟩, fun line hline => ?_⟩
  obtain ⟨f, hf, hline⟩ := List.mem_flatMap.mp hline
  have hexport : ∀ line ∈ f.exportLines m.implType, '\n' ∉ line.toList := by
    simp only [Function.exportLines, List.forall_mem_cons,
      (hreadable f hf).lineBreak_notMem_exportLine,
      (hreadable f hf).lineBreak_notMem_bodyLine himplType]
    decide
  exact hexport line hline

end

/-- The arguments of a call are the names of the parameters, where the environment is borrowed. -/
theorem arguments_eq_modifyHead {method : NativeMethod} {f : Function}
    (hparams : f.params = moduleParams method) :
    f.arguments = ((moduleParams method).map (·.name)).modifyHead ("&mut " ++ ·) := by
  rw [Function.arguments, List.map_drop, hparams, map_name_moduleParams]
  rfl

section

variable {decl : ClassDecl} {c : NativeClass}

/-- The text of a module is read back method by method. Its lines are as many as the methods ask for
and no name adds, splits or hides one. The lines that begin like a header of either kind, and the
lines after those of exported functions, belong to the methods in order. They hold the name of the
trait method, the symbol, the names of the parameters, the same thrice, the spellings of the types,
and the placeholder of the result. -/
theorem module_reads_back {options : Options} {text : String} (hresolve : decl.resolve = .ok c)
    (hmodule : isIdentifier options.implModule) (hrender : options.render c = .ok text) :
    (∃ m, moduleOf options.implModule c = .ok m ∧ textLines text = m.lines) ∧
    (textLines text).length = 30 + 6 * c.methods.length ∧
    ((textLines text).filter Layout.ofTrait.opens).map Layout.ofTrait.read? =
      c.methods.map (fun method => some {
        name := traitMethodName method
        paramNames := (moduleParams method).map (·.name)
        paramTypes := method.signature.map (paramSpelling true ·.type)
        result := rawSpelling method.nativeReturn }) ∧
    ((textLines text).filter Layout.ofExport.opens).map Layout.ofExport.read? =
      c.methods.map (fun method => some {
        name := method.symbol
        paramNames := (moduleParams method).map (·.name)
        paramTypes := method.signature.map (paramSpelling false ·.type)
        result := returnSign method.nativeReturn }) ∧
    (linesAfter Layout.ofExport.opens (textLines text)).map readCall? =
      c.methods.map (fun method => (placeholder? method.nativeReturn).map fun placeholder => {
        implType := "Jni" ++ c.name.simple ++ "Impl"
        method := traitMethodName method
        arguments := ((moduleParams method).map (·.name)).modifyHead ("&mut " ++ ·)
        placeholder := placeholder }) ∧
    ∀ method ∈ c.methods, (placeholder? method.nativeReturn).isSome := by
  obtain ⟨m, hm, htext⟩ := render_eq_ok_iff.mp hrender
  obtain ⟨hcheck, -, htraitName, hfunctions⟩ := moduleOf_eq_ok_iff.mp hm
  have hlines : textLines text = m.lines := by
    rw [← htext]
    exact textLines_join (lineBreak_notMem_of_mem_lines hresolve hmodule hm)
  have himpl : isUnpunctuated m.implType := by
    have hnames := isUnpunctuated_of_mem_names hresolve hmodule hm
    exact hnames m.implType (by simp [Module.names])
  have htypes (inTrait : Bool) (method : NativeMethod) :
      (moduleParams method).map (paramSpelling inTrait ·.type) =
        method.signature.map (paramSpelling inTrait ·.type) := by
    have h := congrArg (List.map (paramSpelling inTrait)) (map_type_moduleParams method)
    rwa [List.map_map, List.map_map] at h
  refine ⟨⟨m, hm, hlines⟩, ?_, ?_, ?_, ?_, ?_⟩
  · rw [hlines, length_lines, hfunctions.length_eq]
  · rw [hlines, filter_ofTrait_lines, List.map_map]
    refine map_functions_eq hfunctions fun method hmethod f hf => ?_
    have hreadable := isReadable_of_functionOf hresolve hcheck hmethod hf
    obtain ⟨-, htrait, -, hparams, hreturns⟩ := functionOf_eq_ok_iff.mp hf
    rw [Function.comp_apply, hreadable.read?_traitLine, htrait, hparams, hreturns, htypes]
  · rw [hlines, filter_ofExport_lines, List.map_map]
    refine map_functions_eq hfunctions fun method hmethod f hf => ?_
    have hreadable := isReadable_of_functionOf hresolve hcheck hmethod hf
    obtain ⟨-, -, hsymbol, hparams, hreturns⟩ := functionOf_eq_ok_iff.mp hf
    rw [Function.comp_apply, hreadable.read?_exportLine, hsymbol, hparams, hreturns, htypes]
  · rw [hlines, linesAfter_lines, List.map_map]
    refine map_functions_eq hfunctions fun method hmethod f hf => ?_
    have hreadable := isReadable_of_functionOf hresolve hcheck hmethod hf
    obtain ⟨hplaceholder, htrait, -, hparams, -⟩ := functionOf_eq_ok_iff.mp hf
    rw [Function.comp_apply, readCall?_bodyLine himpl hreadable.traitMethod
      hreadable.isUnpunctuated_param, hplaceholder, Option.map_some, htrait,
      arguments_eq_modifyHead hparams, Module.implType, htraitName]
  · intro method _
    obtain ⟨placeholder, hplaceholder⟩ := exists_placeholder method.returns
    rw [NativeMethod.nativeReturn, hplaceholder]
    rfl

end

/-- A class named outside ASCII. One method is called by a keyword, and two of its parameters would
get one name. -/
def menuDecl : ClassDecl where
  name := "shop.Menü"
  methods := [
    { name := "match", params := [⟨"Self", "int"⟩, ⟨"self", "shop.Menü[]"⟩]
      returns := "java.lang.String", isStatic := true },
    { name := "size", returns := "long" }]

/-- The native methods of that class. -/
def menuClass : NativeClass where
  name := ⟨"shop.Menü"⟩
  methods := [
    { owner := ⟨"shop.Menü"⟩, name := "match", isStatic := true, isOverloaded := false
      position := 0, params := [⟨"Self", .primitive .int⟩, ⟨"self", .array (.object "shop.Menü")⟩]
      returns := .object "java.lang.String" },
    { owner := ⟨"shop.Menü"⟩, name := "size", isStatic := false, isOverloaded := false
      position := 1, params := [], returns := .primitive .long }]

/-- Keywords and names outside ASCII are read back as well. -/
theorem module_reads_back_menu :
    menuDecl.resolve = .ok menuClass ∧ isIdentifier "loop" ∧
      ∃ text, ({ implModule := "loop" } : Options).render menuClass = .ok text ∧
        (textLines text).length = 42 ∧
        ((textLines text).filter Layout.ofTrait.opens).map Layout.ofTrait.read? = [
          some ⟨"r#match", ["env", "clazz", "self_", "self_1"],
            ["&mut JNIEnv<'a>", "JClass<'a>", "jint", "jobjectArray"], "jstring"⟩,
          some ⟨"size", ["env", "this"], ["&mut JNIEnv<'a>", "JObject<'a>"], "jlong"⟩] ∧
        ((textLines text).filter Layout.ofExport.opens).map Layout.ofExport.read? = [
          some ⟨"Java_shop_Menü_match", ["env", "clazz", "self_", "self_1"],
            ["JNIEnv", "JClass", "jint", "jobjectArray"], " -> jstring"⟩,
          some ⟨"Java_shop_Menü_size", ["env", "this"], ["JNIEnv", "JObject"], " -> jlong"⟩] ∧
        (linesAfter Layout.ofExport.opens (textLines text)).map readCall? = [
          some ⟨"JniMenüImpl", "r#match", ["&mut env", "clazz", "self_", "self_1"],
            "JObject::null().into_raw()"⟩,
          some ⟨"JniMenüImpl", "size", ["&mut env", "this"], "Default::default()"⟩] := by
  have hresolve : menuDecl.resolve = .ok menuClass := by
    rw [ClassDecl.resolve, ClassDecl.natives_eq_insertionSort]
    decide +kernel
  have hmodule : isIdentifier "loop" := by decide
  have hcheck : checkClass menuClass = .ok () := by decide +kernel
  have hrendered : ∃ text, ({ implModule := "loop" } : Options).render menuClass = .ok text :=
    exists_render_iff.mpr ⟨hcheck, by decide⟩
  obtain ⟨text, htext⟩ := hrendered
  obtain ⟨-, hlength, htrait, hexport, hcalls, -⟩ := module_reads_back hresolve hmodule htext
  refine ⟨hresolve, hmodule, text, htext, ?_, ?_, ?_, ?_⟩
  · rw [hlength]
    rfl
  · rw [htrait]
    decide +kernel
  · rw [hexport]
    decide +kernel
  · rw [hcalls]
    decide +kernel

end NativeBindings.Binding
