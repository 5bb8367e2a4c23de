import Mathlib.Data.List.TakeWhile
import NativeBindings.Proofs.ModuleChecks
import NativeBindings.Proofs.NativeSurface
import NativeBindings.Proofs.ParameterNames
import NativeBindings.Proofs.SymbolWords

/-!
# The names of a generated module

A module that passes the checks is written with names of five kinds: the implementation module, the
trait and its implementation, the trait methods, the exported functions and the parameters. If the
class is named in ASCII, each of them can be used or is a missed name. Only names that are spelled
as they are declared can be missed, so the module is usable exactly if no declared name is missed;
the trait methods of overloads never are, whatever they are called.
-/

namespace NativeBindings

/-- Every character of the last segment stands in the text and is not the separator. -/
theorem mem_of_mem_lastSegment {separator c : Char} {cs : List Char}
    (h : c ∈ lastSegment separator cs) : c ∈ cs ∧ c ≠ separator := by
  have hmem : c ∈ cs.reverse.takeWhile (· ≠ separator) := List.mem_reverse.mp h
  have hsource := (List.takeWhile_sublist _).mem hmem
  have hne := List.mem_takeWhile_imp hmem
  exact ⟨List.mem_reverse.mp hsource, of_decide_eq_true hne⟩

/-- The implementation module of faultless settings is an identifier without dollar signs. -/
theorem Settings.implModule_of_fault? {settings : Settings} (h : settings.fault? = none) :
    isIdentifier settings.implModule ∧ '$' ∉ settings.implModule.toList := by
  unfold fault? at h
  split at h
  · contradiction
  · split at h
    · contradiction
    · split at h
      · contradiction
      · next hmodule => simpa using hmodule

namespace Binding

open Text (isAscii)

/-- The names that a function is written with. -/
def Function.names (f : Function) : List String :=
  f.traitMethod :: f.symbol :: f.params.map (·.name)

/-- The names that a module is written with. -/
def Module.names (m : Module) : List String :=
  m.implModule :: m.traitName :: m.implType :: m.functions.flatMap Function.names

/-- What holds of all names of a list of functions holds of all names made for their methods. -/
theorem forall_mem_flatMap_names_iff {P : String → Prop} {c : NativeClass}
    {methods : List NativeMethod} {functions : List Function}
    (h : List.Forall₂ (fun method f => functionOf c method = .ok f) methods functions) :
    (∀ name ∈ functions.flatMap Function.names, P name) ↔
      ∀ method ∈ methods, P (traitMethodName method) ∧ P method.symbol ∧
        ∀ name ∈ (moduleParams method).map (·.name), P name := by
  induction h with
  | nil => simp
  | @cons method f methods functions hhead _ ih =>
    obtain ⟨-, htrait, hsymbol, hparams, -⟩ := functionOf_eq_ok_iff.mp hhead
    rw [List.flatMap_cons, List.forall_mem_append, ih, List.forall_mem_cons, Function.names,
      List.forall_mem_cons, List.forall_mem_cons, htrait, hsymbol, hparams]

/-- What holds of all names of a module holds of all names made for its class. -/
theorem forall_mem_names_iff {P : String → Prop} {implModule : String} {c : NativeClass}
    {m : Module} (hm : moduleOf implModule c = .ok m) :
    (∀ name ∈ m.names, P name) ↔
      P m.implModule ∧ P m.traitName ∧ P m.implType ∧
        ∀ method ∈ c.methods, P (traitMethodName method) ∧ P method.symbol ∧
          ∀ name ∈ (moduleParams method).map (·.name), P name := by
  obtain ⟨-, -, -, hfunctions⟩ := moduleOf_eq_ok_iff.mp hm
  rw [Module.names, List.forall_mem_cons, List.forall_mem_cons, List.forall_mem_cons,
    forall_mem_flatMap_names_iff hfunctions]

section

variable {decl : ClassDecl} {c : NativeClass} {method : NativeMethod}

/-- A trait method has the name for the method, or, for an overload, that name in snake case with a
part of the symbol. -/
theorem traitMethodName_cases (hresolve : decl.resolve = .ok c) (hmethod : method ∈ c.methods) :
    (method.isOverloaded = false ∧ traitMethodName method = nameFor method.name) ∨
      method.isOverloaded ∧ ∃ suffix : String,
        (∀ d ∈ suffix.toList, d ∈ method.symbol.toList) ∧
          traitMethodName method = snakeName method.name ++ "__" ++ suffix := by
  rw [traitMethodName_eq hresolve hmethod]
  cases hoverloaded : method.isOverloaded with
  | false => exact Or.inl ⟨rfl, rfl⟩
  | true =>
    refine Or.inr ⟨rfl, _, fun d hd => ?_, rfl⟩
    rw [Symbol.escapeDescriptor, String.toList_ofList, JavaType.toList_join_descriptor] at hd
    rw [Symbol.toList_symbol, if_pos hoverloaded]
    exact List.mem_append_right _ (List.mem_cons_of_mem _ (List.mem_cons_of_mem _ hd))

section

variable (hresolve : decl.resolve = .ok c) (hascii : c.IsAscii) (hmethod : method ∈ c.methods)
  (hdollar : '$' ∉ method.symbol.toList)

include hresolve hascii hmethod hdollar

/-- The symbol of a method that passes the checks holds word characters only. -/
theorem isWordPart_symbol : ∀ d ∈ method.symbol.toList, isWordPart d := by
  intro d hd
  have howner : isAscii method.owner.qualified := by
    rw [ClassDecl.owner_of_resolve hresolve hmethod]
    exact hascii.name
  have hne : d ≠ '$' := fun heq => hdollar (heq ▸ hd)
  exact Symbol.isWordPart_of_mem_symbol (ClassDecl.isWellFormed_of_resolve hresolve hmethod) howner
    (hascii.methods method hmethod) hd hne

/-- The symbol of a method that passes the checks can be used. -/
theorem isUsable_symbol : isUsable method.symbol := by
  have hpart := isWordPart_symbol hresolve hascii hmethod hdollar
  obtain ⟨rest, hchars⟩ := Symbol.exists_symbol_cons method
  refine isUsable_of_capital hchars fun d hd => hpart d ?_
  rw [hchars]
  exact List.mem_cons_of_mem _ hd

/-- The name of the trait method of an overload can be used, whatever the overload is called. -/
theorem isUsable_overload {suffix : String}
    (hsuffix : ∀ d ∈ suffix.toList, d ∈ method.symbol.toList) :
    isUsable (snakeName method.name ++ "__" ++ suffix) := by
  have hwell := ClassDecl.isWellFormed_of_resolve hresolve hmethod
  have hpart := isWordPart_symbol hresolve hascii hmethod hdollar
  have hsnake := isWordChars_snakeName hwell.name (hascii.methods method hmethod).name
  have hseparator : "__".toList = ['_', '_'] := by decide
  have hchars : (snakeName method.name ++ "__" ++ suffix).toList =
      (snakeName method.name).toList ++ '_' :: '_' :: suffix.toList := by
    rw [String.append_assoc, String.toList_append, String.toList_append, hseparator]
    simp only [List.cons_append, List.nil_append]
  refine isUsable_of_underscore ?_ ?_ ?_
  · rw [hchars]
    apply isWordChars_append hsnake
    rw [List.forall_mem_cons, List.forall_mem_cons]
    exact ⟨isWordPart_underscore, isWordPart_underscore, fun d hd => hpart d (hsuffix d hd)⟩
  · rw [hchars]
    exact List.mem_append_right _ List.mem_cons_self
  · rw [hchars, List.length_append, List.length_cons, List.length_cons]
    omega

/-- A trait method has a name that can be used, or a missed one. -/
theorem isUsable_or_missed_traitMethodName :
    isUsable (traitMethodName method) ∨ traitMethodName method ∈ missedNames := by
  have hwell := ClassDecl.isWellFormed_of_resolve hresolve hmethod
  rcases traitMethodName_cases hresolve hmethod with ⟨-, hname⟩ | ⟨-, suffix, hsuffix, hname⟩
  · rw [hname]
    exact isUsable_or_missed_nameFor
      (isWordChars_snakeName hwell.name (hascii.methods method hmethod).name)
  · rw [hname]
    exact Or.inl (isUsable_overload hresolve hascii hmethod hdollar hsuffix)

/-- A trait method has a missed name exactly if its method is missed and not overloaded. -/
theorem traitMethodName_notMem_missedNames_iff :
    traitMethodName method ∉ missedNames ↔
      method.isOverloaded ∨ snakeName method.name ∉ missedNames := by
  rcases traitMethodName_cases hresolve hmethod with
    ⟨hplain, hname⟩ | ⟨hover, suffix, hsuffix, hname⟩
  · rw [hname, nameFor_mem_missedNames_iff, hplain]
    simp only [Bool.false_eq_true, false_or]
  · rw [hname]
    have husable := isUsable_overload hresolve hascii hmethod hdollar hsuffix
    exact iff_of_true (notMem_missedNames_of_usable husable) (Or.inl hover)

end

/-- The trait of a class has a name that can be used, also with an ending. -/
theorem isUsable_traitName (hresolve : decl.resolve = .ok c) (hascii : c.IsAscii) (ending : String)
    (hending : ∀ d ∈ ending.toList, isWordPart d) :
    isUsable ("Jni" ++ c.name.simple ++ ending) := by
  obtain ⟨hname, hqualified⟩ :=
    ClassDecl.resolveName_eq_ok (ClassDecl.resolve_eq_ok_iff.mp hresolve).1
  have hwell : isQualifiedChars c.name.qualified.toList := by
    rw [hname]
    exact hqualified
  have hsimple : ∀ d ∈ c.name.simple.toList, isWordPart d := by
    intro d hd
    rw [ClassName.simple, String.toList_ofList] at hd
    obtain ⟨hlast, hne⟩ := mem_of_mem_lastSegment hd
    obtain ⟨hmem, hdot⟩ := mem_of_mem_lastSegment hlast
    have hcode := Text.isAscii_iff.mp hascii.name d hmem
    rcases isIdentifierPart_or_dot hwell hmem with hpart | heq
    · exact isWordPart_of_identifierPart hpart hcode hne
    · contradiction
  have hjni : "Jni".toList = ['J', 'n', 'i'] := by decide
  have hchars : ("Jni" ++ c.name.simple ++ ending).toList =
      'J' :: 'n' :: 'i' :: (c.name.simple.toList ++ ending.toList) := by
    rw [String.append_assoc, String.toList_append, String.toList_append, hjni]
    simp only [List.cons_append, List.nil_append]
  apply isUsable_of_capital hchars
  rw [List.forall_mem_cons, List.forall_mem_cons, List.forall_mem_append]
  exact ⟨by decide, by decide, hsimple, hending⟩

section

variable {implModule : String} {m : Module}

/-- The names of the trait and of its implementation can be used. -/
theorem isUsable_trait_names (hresolve : decl.resolve = .ok c) (hascii : c.IsAscii)
    (hm : moduleOf implModule c = .ok m) : isUsable m.traitName ∧ isUsable m.implType := by
  obtain ⟨-, -, htrait, -⟩ := moduleOf_eq_ok_iff.mp hm
  have himpl : "Impl".toList.all isWordPart := by decide
  have hplain := isUsable_traitName hresolve hascii "" (by simp)
  rw [String.append_empty] at hplain
  rw [Module.implType, htrait]
  exact ⟨hplain, isUsable_traitName hresolve hascii "Impl" (List.all_eq_true.mp himpl)⟩

/-- Every name of the module of a class that is named in ASCII can be used, but for missed
names. -/
theorem isUsable_or_missed_of_mem_names (hresolve : decl.resolve = .ok c) (hascii : c.IsAscii)
    (hword : isWordChars implModule.toList) (hm : moduleOf implModule c = .ok m) :
    ∀ name ∈ m.names, isUsable name ∨ name ∈ missedNames := by
  obtain ⟨hcheck, himpl, -, -⟩ := moduleOf_eq_ok_iff.mp hm
  obtain ⟨-, hforms, -⟩ := checkClass_eq_ok_iff.mp hcheck
  obtain ⟨htrait, himplType⟩ := isUsable_trait_names hresolve hascii hm
  refine (forall_mem_names_iff hm).mpr
    ⟨isUsable_or_missed_of_rawName? hword himpl, Or.inl htrait, Or.inl himplType, ?_⟩
  intro method hmethod
  have hdollar := (hforms method hmethod).1
  refine ⟨isUsable_or_missed_traitMethodName hresolve hascii hmethod hdollar,
    Or.inl (isUsable_symbol hresolve hascii hmethod hdollar), ?_⟩
  intro name hname
  exact isUsable_or_missed_of_mem_moduleParams
    (ClassDecl.isWellFormed_of_resolve hresolve hmethod).paramNames
    (hascii.methods method hmethod).paramNames hname

/-- No name of a module is missed exactly if neither the implementation module, nor a method that is
not overloaded, nor a parameter is. -/
theorem names_notMem_missedNames_iff (hresolve : decl.resolve = .ok c) (hascii : c.IsAscii)
    (hm : moduleOf implModule c = .ok m) :
    (∀ name ∈ m.names, name ∉ missedNames) ↔
      implModule ∉ missedNames ∧ ∀ method ∈ c.methods,
        (method.isOverloaded ∨ snakeName method.name ∉ missedNames) ∧
          ∀ param ∈ method.params, snakeName param.name ∉ missedNames := by
  obtain ⟨hcheck, himpl, -, -⟩ := moduleOf_eq_ok_iff.mp hm
  obtain ⟨-, hforms, -⟩ := checkClass_eq_ok_iff.mp hcheck
  obtain ⟨htrait, himplType⟩ := isUsable_trait_names hresolve hascii hm
  have hmethods : ∀ method ∈ c.methods,
      ((traitMethodName method ∉ missedNames ∧ method.symbol ∉ missedNames ∧
        ∀ name ∈ (moduleParams method).map (·.name), name ∉ missedNames) ↔
      (method.isOverloaded ∨ snakeName method.name ∉ missedNames) ∧
        ∀ param ∈ method.params, snakeName param.name ∉ missedNames) := by
    intro method hmethod
    have hdollar := (hforms method hmethod).1
    have hsymbol := notMem_missedNames_of_usable (isUsable_symbol hresolve hascii hmethod hdollar)
    rw [traitMethodName_notMem_missedNames_iff hresolve hascii hmethod hdollar,
      moduleParams_notMem_missedNames_iff]
    simp only [hsymbol, not_false_eq_true, true_and]
  rw [forall_mem_names_iff hm, rawName?_mem_missedNames_iff himpl]
  simp only [notMem_missedNames_of_usable htrait, notMem_missedNames_of_usable himplType,
    not_false_eq_true, true_and]
  exact and_congr_right fun _ => forall₂_congr hmethods

end

/-- A class that is named in ASCII, with settings that are too, is rendered with names that can be
used, but for missed names. All of them can be used exactly if neither the implementation module,
nor a method that is not overloaded, nor a parameter has a missed name. -/
theorem usable_names_iff {settings : Settings} {text : String} (hresolve : decl.resolve = .ok c)
    (hascii : c.IsAscii) (hsettings : settings.fault? = none)
    (hmodule : isAscii settings.implModule)
    (hrender : (Options.ofSettings settings).render c = .ok text) :
    ∃ m, moduleOf settings.implModule c = .ok m ∧ m.text = text ∧
      (∀ name ∈ m.names, isUsable name ∨ name ∈ missedNames) ∧
      ((∀ name ∈ m.names, isUsable name) ↔
        settings.implModule ∉ missedNames ∧ ∀ method ∈ c.methods,
          (method.isOverloaded ∨ snakeName method.name ∉ missedNames) ∧
            ∀ param ∈ method.params, snakeName param.name ∉ missedNames) := by
  obtain ⟨m, hm, htext⟩ := render_eq_ok_iff.mp hrender
  have hm : moduleOf settings.implModule c = .ok m := hm
  obtain ⟨hidentifier, hdollar⟩ := Settings.implModule_of_fault? hsettings
  have hword := isWordChars_of_identifier hidentifier hmodule hdollar
  have hnames := isUsable_or_missed_of_mem_names hresolve hascii hword hm
  refine ⟨m, hm, htext, hnames, ?_⟩
  rw [← names_notMem_missedNames_iff hresolve hascii hm]
  -- Every name is usable or missed, and none is both.
  constructor
  · intro h name hname
    exact notMem_missedNames_of_usable (h name hname)
  · intro h name hname
    exact (hnames name hname).resolve_right (h name hname)

end

/-- A class with keywords for names of parameters and the underscore for the name of overloads. -/
def keywordDecl : ClassDecl where
  name := "p.Loop"
  methods := [
    { name := "_", params := [⟨"Self", "int"⟩, ⟨"Match", "p.Loop[]"⟩], isStatic := true },
    { name := "_" }]

/-- The native methods of that class. -/
def keywordClass : NativeClass where
  name := ⟨"p.Loop"⟩
  methods := [
    { owner := ⟨"p.Loop"⟩, name := "_", isStatic := true, isOverloaded := true
      position := 0, returns := .void
      params := [⟨"Self", .primitive .int⟩, ⟨"Match", .array (.object "p.Loop")⟩] },
    { owner := ⟨"p.Loop"⟩, name := "_", isStatic := false, isOverloaded := true
      position := 1, returns := .void, params := [] }]

/-- A class with a parameter that is called by a missed name. -/
def missedDecl : ClassDecl where
  name := "a.B"
  methods := [{ name := "f", params := [⟨"final", "int"⟩] }]

/-- The native methods of that class. -/
def missedClass : NativeClass where
  name := ⟨"a.B"⟩
  methods := [
    { owner := ⟨"a.B"⟩, name := "f", isStatic := false, isOverloaded := false, position := 0
      params := [⟨"final", .primitive .int⟩], returns := .void }]

/-- Keywords that only small letters make give names that can be used, and so do overloads that are
called by a missed name. A parameter that is called by one does not. -/
theorem usable_names_iff_keywords :
    (keywordDecl.resolve = .ok keywordClass ∧ keywordClass.IsAscii ∧
      ({ implModule := "mod" } : Settings).fault? = none ∧ isAscii "mod" ∧
      ∃ m, moduleOf "mod" keywordClass = .ok m ∧ ∀ name ∈ m.names, isUsable name) ∧
      missedDecl.resolve = .ok missedClass ∧ missedClass.IsAscii ∧
      ({} : Settings).fault? = none ∧ isAscii "imp" ∧
      ∃ m, moduleOf "imp" missedClass = .ok m ∧ ¬ ∀ name ∈ m.names, isUsable name := by
  have hkeyword : keywordDecl.resolve = .ok keywordClass := by
    rw [ClassDecl.resolve, ClassDecl.natives_eq_insertionSort]
    decide +kernel
  have hkeywordAscii : keywordClass.IsAscii := by decide
  have hkeywordCheck : checkClass keywordClass = .ok () := by rfl
  have hmod : ({ implModule := "mod" } : Settings).fault? = none := by decide
  have hmissed : missedDecl.resolve = .ok missedClass := by
    rw [ClassDecl.resolve, ClassDecl.natives_eq_insertionSort]
    decide +kernel
  have hmissedAscii : missedClass.IsAscii := by decide
  have hmissedCheck : checkClass missedClass = .ok () := by rfl
  have himp : ({} : Settings).fault? = none := by decide
  have hmodule : ∀ name ∈ ["mod", "imp"], isAscii name ∧ name ∉ reservedWords := by decide
  obtain ⟨hmodAscii, hmodFree⟩ := hmodule "mod" (by simp)
  obtain ⟨himpAscii, himpFree⟩ := hmodule "imp" (by simp)
  have hrendered : ∃ text,
      (Options.ofSettings { implModule := "mod" }).render keywordClass = .ok text :=
    exists_render_iff.mpr ⟨hkeywordCheck, hmodFree⟩
  have hrendered' : ∃ text, (Options.ofSettings {}).render missedClass = .ok text :=
    exists_render_iff.mpr ⟨hmissedCheck, himpFree⟩
  obtain ⟨text, htext⟩ := hrendered
  obtain ⟨text', htext'⟩ := hrendered'
  obtain ⟨m, hm, -, -, hiff⟩ := usable_names_iff hkeyword hkeywordAscii hmod hmodAscii htext
  obtain ⟨m', hm', -, -, hiff'⟩ := usable_names_iff hmissed hmissedAscii himp himpAscii htext'
  refine ⟨⟨hkeyword, hkeywordAscii, hmod, hmodAscii, m, hm, hiff.mpr (by decide)⟩,
    hmissed, hmissedAscii, himp, himpAscii, m', hm', ?_⟩
  rw [hiff']
  decide

end Binding

end NativeBindings
