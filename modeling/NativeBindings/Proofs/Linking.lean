import Mathlib.Data.List.Nodup
import NativeBindings.Proofs.Lists
import NativeBindings.Proofs.ModuleChecks
import NativeBindings.Proofs.NativeSurface
import NativeBindings.Proofs.SymbolUniqueness

/-!
# Exported functions never clash

The checks compare the names of trait methods within one class and look at no symbol. That is
enough: methods of a class that share a symbol share the name, the kind and the suffix that their
trait methods are named by, and methods of different classes never share a symbol. A class that
declares one method twice is refused, because the two trait methods have one name.
-/

namespace NativeBindings

/-- A class that declares two native methods with one name and parameters of the same types, named
and returning as they like. -/
def ClassDecl.RepeatsMethod (decl : ClassDecl) : Prop :=
  ∃ i j : Nat, ∃ a b : MethodDecl, i ≠ j ∧ decl.methods[i]? = some a ∧ decl.methods[j]? = some b ∧
    a.isNative ∧ b.isNative ∧ a.name = b.name ∧
      a.params.map (fun param => JavaType.parse param.type) =
        b.params.map fun param => JavaType.parse param.type

namespace Binding

/-- Declarations with one name and parameters of the same types resolve to methods with one trait
method name. -/
theorem traitMethodName_eq_of_resolve {a b : MethodDecl} {owner : ClassName}
    {overloads : String → Bool} {position position' : Nat} {first second : NativeMethod}
    (ha : a.resolve owner (overloads a.name) position = .ok first)
    (hb : b.resolve owner (overloads b.name) position' = .ok second) (hname : a.name = b.name)
    (hparams : a.params.map (fun param => JavaType.parse param.type) =
      b.params.map fun param => JavaType.parse param.type) :
    traitMethodName first = traitMethodName second := by
  obtain ⟨-, -, -, howner, hfirst, -, hkind, -⟩ := MethodDecl.resolve_eq_ok_iff.mp ha
  obtain ⟨-, -, -, howner', hsecond, -, hkind', -⟩ := MethodDecl.resolve_eq_ok_iff.mp hb
  have hok : Function.Injective (Except.ok : JavaType → Except TypeNameError JavaType) :=
    fun _ _ => Except.ok.inj
  have htypes : first.paramTypes = second.paramTypes := by
    apply List.map_injective_iff.mpr hok
    rw [← MethodDecl.map_parse_params ha, hparams, MethodDecl.map_parse_params hb]
  have hsameName : first.name = second.name := by
    rw [hfirst, hsecond, hname]
  have hsameKind : first.isOverloaded = second.isOverloaded := by
    rw [hkind, hkind', hname]
  refine traitMethodName_congr ?_ hsameName hsameKind
  rw [NativeMethod.symbol, NativeMethod.symbol, howner, howner', hsameName, hsameKind, htypes]

section

variable {decl : ClassDecl} {c : NativeClass}

/-- A class that passes the checks exports no symbol twice. -/
theorem map_symbol_nodup (hresolve : decl.resolve = .ok c) (hcheck : checkClass c = .ok ()) :
    (c.methods.map NativeMethod.symbol).Nodup := by
  have hnames := (checkClass_eq_ok_iff.mp hcheck).2.2
  rw [List.Nodup, List.pairwise_map] at hnames ⊢
  -- Methods with one symbol would have one trait method name, which the checks rule out.
  refine hnames.imp_of_mem ?_
  intro a b ha hb hne hsymbol
  obtain ⟨-, hname, hoverloaded, -⟩ :=
    Symbol.symbol_inj (ClassDecl.isWellFormed_of_resolve hresolve ha)
      (ClassDecl.isWellFormed_of_resolve hresolve hb) hsymbol
  exact hne (traitMethodName_congr hsymbol hname hoverloaded)

/-- A class that declares a method twice does not pass the checks. -/
theorem checkClass_ne_ok_of_repeatsMethod (hresolve : decl.resolve = .ok c)
    (hrepeats : decl.RepeatsMethod) : checkClass c ≠ .ok () := by
  obtain ⟨i, j, a, b, hij, ha, hb, hanative, hbnative, hname, hparams⟩ := hrepeats
  intro hcheck
  have hmethods := (ClassDecl.resolve_eq_ok_iff.mp hresolve).2
  have hmema : (a, i) ∈ decl.natives := ClassDecl.mem_natives.mpr ⟨ha, hanative⟩
  have hmemb : (b, j) ∈ decl.natives := ClassDecl.mem_natives.mpr ⟨hb, hbnative⟩
  have hentries : (a, i) ≠ (b, j) := fun heq => hij (Prod.mk.inj heq).2
  refine not_nodup_of_forall₂ hmethods hmema hmemb hentries ?_ (checkClass_eq_ok_iff.mp hcheck).2.2
  intro first second hfirst hsecond
  exact traitMethodName_eq_of_resolve hfirst hsecond hname hparams

end

/-- Methods of classes with different names have different symbols. -/
theorem symbol_ne_of_name_ne {decl decl' : ClassDecl} {c c' : NativeClass}
    (hresolve : decl.resolve = .ok c) (hresolve' : decl'.resolve = .ok c')
    (hname : decl.name ≠ decl'.name) {a b : NativeMethod} (ha : a ∈ c.methods)
    (hb : b ∈ c'.methods) : a.symbol ≠ b.symbol := by
  intro hsymbol
  have howner := (Symbol.symbol_inj (ClassDecl.isWellFormed_of_resolve hresolve ha)
    (ClassDecl.isWellFormed_of_resolve hresolve' hb) hsymbol).1
  rw [ClassDecl.owner_of_resolve hresolve ha, ClassDecl.owner_of_resolve hresolve' hb,
    ClassDecl.name_of_resolve hresolve, ClassDecl.name_of_resolve hresolve'] at howner
  exact hname howner

/-- Classes with different names share no symbol. -/
theorem pairwise_disjoint_symbols {decls : List ClassDecl} {classes : List NativeClass}
    (hnames : (decls.map (·.name)).Nodup)
    (hresolve : List.Forall₂ (fun decl c => decl.resolve = .ok c) decls classes) :
    classes.Pairwise (Function.onFun List.Disjoint fun c => c.methods.map NativeMethod.symbol) := by
  induction hresolve with
  | nil => exact List.Pairwise.nil
  | cons hhead htail ih =>
    rw [List.map_cons, List.nodup_cons] at hnames
    refine List.Pairwise.cons ?_ (ih hnames.2)
    intro c' hc' symbol hfirst hsecond
    obtain ⟨decl', hdecl', hresolve'⟩ := exists_mem_of_forall₂ htail hc'
    obtain ⟨a, ha, rfl⟩ := List.mem_map.mp hfirst
    obtain ⟨b, hb, hsame⟩ := List.mem_map.mp hsecond
    have hne := fun heq => hnames.1 (List.mem_map.mpr ⟨decl', hdecl', heq⟩)
    exact symbol_ne_of_name_ne hresolve' hhead hne hb ha hsame

/-- The exported functions of differently named classes that are all rendered, with whatever
options, have different symbols, and the methods of each of their traits have different names. A
class that declares a method twice is refused. -/
theorem exported_functions_nodup {decls : List ClassDecl} {classes : List NativeClass}
    (hnames : (decls.map (·.name)).Nodup)
    (hrendered : List.Forall₂
      (fun decl c => decl.resolve = .ok c ∧ ∃ options text, Options.render options c = .ok text)
      decls classes) :
    ((classes.flatMap fun c => c.methods.map NativeMethod.symbol).Nodup ∧
      ∀ c ∈ classes, (c.methods.map traitMethodName).Nodup) ∧
      ∀ {decl : ClassDecl} {c : NativeClass}, decl.resolve = .ok c → decl.RepeatsMethod →
        ∀ options : Options, ∃ method cause,
          options.render c = .error (.unsupported decl.name method cause) := by
  have hclass :
      ∀ c ∈ classes, ∃ decl : ClassDecl, decl.resolve = .ok c ∧ checkClass c = .ok () := by
    intro c hc
    obtain ⟨decl, -, hresolve, options, text, htext⟩ := exists_mem_of_forall₂ hrendered hc
    exact ⟨decl, hresolve, checkClass_of_render htext⟩
  refine ⟨⟨?_, ?_⟩, ?_⟩
  · refine List.nodup_flatMap.mpr ⟨?_, ?_⟩
    · intro c hc
      obtain ⟨decl, hresolve, hcheck⟩ := hclass c hc
      exact map_symbol_nodup hresolve hcheck
    · exact pairwise_disjoint_symbols hnames
        (hrendered.imp fun decl c hboth => hboth.1)
  · intro c hc
    obtain ⟨decl, -, hcheck⟩ := hclass c hc
    exact (checkClass_eq_ok_iff.mp hcheck).2.2
  · intro decl c hresolve hrepeats options
    have hname := ClassDecl.name_of_resolve hresolve
    have hrefused := checkClass_ne_ok_of_repeatsMethod hresolve hrepeats
    obtain ⟨method, cause, herror⟩ := render_eq_error options hrefused
    rw [hname] at herror
    exact ⟨method, cause, herror⟩

/-- A class in the package of another, with the other's name at the front of a method. -/
def packagedDecl : ClassDecl where
  name := "p"
  methods := [{ name := "_q_m" }]

/-- The native methods of that class. -/
def packagedClass : NativeClass where
  name := ⟨"p"⟩
  methods := [
    { owner := ⟨"p"⟩, name := "_q_m", params := [], returns := .void, isStatic := false
      isOverloaded := false, position := 0 }]

/-- A class that declares a method twice, with different results. -/
def repeatingDecl : ClassDecl where
  name := "p.R"
  methods := [
    { name := "run", params := [⟨"x", "java.lang.String"⟩] },
    { name := "run", params := [⟨"y", " java.lang.String"⟩], returns := "int" }]

/-- The native methods of that class. -/
def repeatingClass : NativeClass where
  name := ⟨"p.R"⟩
  methods := [
    { owner := ⟨"p.R"⟩, name := "run", params := [⟨"x", .object "java.lang.String"⟩]
      returns := .void, isStatic := false, isOverloaded := true, position := 0 },
    { owner := ⟨"p.R"⟩, name := "run", params := [⟨"y", .object "java.lang.String"⟩]
      returns := .primitive .int, isStatic := false, isOverloaded := true, position := 1 }]

/-- Two classes with underscores in all places are rendered together, and a class that overloads a
method by its result only is not. -/
theorem exported_functions_nodup_underscored :
    (([Symbol.underscoredDecl, packagedDecl].map (·.name)).Nodup ∧
      List.Forall₂
        (fun decl c => decl.resolve = .ok c ∧ ∃ options text, Options.render options c = .ok text)
        [Symbol.underscoredDecl, packagedDecl] [Symbol.underscoredClass, packagedClass] ∧
      ([Symbol.underscoredClass, packagedClass].flatMap fun c =>
        c.methods.map NativeMethod.symbol).Nodup) ∧
      repeatingDecl.resolve = .ok repeatingClass ∧ repeatingDecl.RepeatsMethod ∧
        ∃ method cause, Options.render {} repeatingClass =
          .error (.unsupported "p.R" method cause) := by
  have hnames : ([Symbol.underscoredDecl, packagedDecl].map (·.name)).Nodup := by decide
  have hfirst : Symbol.underscoredDecl.resolve = .ok Symbol.underscoredClass := by
    rw [ClassDecl.resolve, ClassDecl.natives_eq_insertionSort]
    decide +kernel
  have hsecond : packagedDecl.resolve = .ok packagedClass := by
    rw [ClassDecl.resolve, ClassDecl.natives_eq_insertionSort]
    decide +kernel
  have hrendered : List.Forall₂
      (fun decl c => decl.resolve = .ok c ∧ ∃ options text, Options.render options c = .ok text)
      [Symbol.underscoredDecl, packagedDecl] [Symbol.underscoredClass, packagedClass] := by
    have hunderscored : checkClass Symbol.underscoredClass = .ok () := by rfl
    have hpackaged : checkClass packagedClass = .ok () := by rfl
    have himp : "imp" ∉ reservedWords := by decide
    exact .cons ⟨hfirst, {}, exists_render_iff.mpr ⟨hunderscored, himp⟩⟩
      (.cons ⟨hsecond, {}, exists_render_iff.mpr ⟨hpackaged, himp⟩⟩ .nil)
  have hresolve : repeatingDecl.resolve = .ok repeatingClass := by
    rw [ClassDecl.resolve, ClassDecl.natives_eq_insertionSort]
    decide +kernel
  have hrepeats : repeatingDecl.RepeatsMethod := by
    refine ⟨0, 1, _, _, by decide, rfl, rfl, rfl, rfl, rfl, ?_⟩
    decide
  obtain ⟨⟨hsymbols, -⟩, hrefused⟩ := exported_functions_nodup hnames hrendered
  exact ⟨⟨hnames, hrendered, hsymbols⟩, hresolve, hrepeats, hrefused hresolve hrepeats {}⟩

end Binding

end NativeBindings
