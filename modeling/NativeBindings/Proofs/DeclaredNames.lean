import Mathlib.Data.List.Nodup
import NativeBindings.Batch

/-!
# The names of a manifest

A manifest is refused for the first class whose name is blank or belongs to a class before it. So
the names of one that is accepted are distinct, a name leads to its own declaration, and a batch
over all names generates each declared class once, from that declaration.
-/

namespace NativeBindings

/-- Generate the file of a declared class. -/
def generateDecl (backend : Backend) (base : Path) (decl : ClassDecl) (tree : FileTree) :
    FileTree × Except Failure GeneratedFile :=
  match decl.resolve with
  | .error failure => (tree, .error failure)
  | .ok c => backend.generate base c tree

/-- Generate the files of declared classes, one after the other. -/
def generateDecls (backend : Backend) (base : Path) :
    List ClassDecl → FileTree → FileTree × Report
  | [], tree => (tree, {})
  | decl :: rest, tree =>
    let (tree, outcome) := generateDecl backend base decl tree
    let (tree, report) := generateDecls backend base rest tree
    (tree, Report.record decl.name outcome report)

namespace Manifest

/-- Every class has a name, which is not blank, and no two have the same. -/
structure AreNamed (classes : List ClassDecl) : Prop where
  notBlank : ∀ decl ∈ classes, ∃ c ∈ decl.name.toList, ¬ Unicode.isBlank c
  distinct : (classes.map (·.name)).Nodup

/-- The name of a class is blank, or one of others before it. -/
def IsMisnamed (earlier : List String) (decl : ClassDecl) : Prop :=
  Text.isBlankText decl.name ∨ decl.name ∈ earlier

/-- What is wrong with a misnamed class, which so many others precede. -/
def nameCause (position : Nat) (decl : ClassDecl) : ConfigCause :=
  if Text.isBlankText decl.name then .emptyClassName position else .repeatedClass decl.name

/-! ### The first misnamed class -/

section

variable {earlier : List String} {decl : ClassDecl} {classes before rest : List ClassDecl}

/-- A misnamed class is the first fault. -/
theorem faultAfter?_cons_of_isMisnamed (h : IsMisnamed earlier decl) :
    faultAfter? earlier (decl :: rest) = some (nameCause earlier.length decl) := by
  rw [faultAfter?, nameCause]
  split
  · rfl
  · next hblank => rw [if_pos (h.resolve_left hblank)]

/-- A class with a name of its own is no fault. -/
theorem faultAfter?_cons_of_not_isMisnamed (h : ¬ IsMisnamed earlier decl) :
    faultAfter? earlier (decl :: rest) = faultAfter? (earlier ++ [decl.name]) rest := by
  obtain ⟨hblank, hnew⟩ := not_or.mp h
  rw [faultAfter?, if_neg hblank, if_neg hnew]

/-- Classes without a fault only add their names to those that later ones must not have. -/
theorem faultAfter?_append (h : faultAfter? earlier before = none) :
    faultAfter? earlier (before ++ rest) =
      faultAfter? (earlier ++ before.map (·.name)) rest := by
  induction before generalizing earlier with
  | nil => simp
  | cons decl before ih =>
    by_cases hdecl : IsMisnamed earlier decl
    · rw [faultAfter?_cons_of_isMisnamed hdecl] at h
      contradiction
    · rw [faultAfter?_cons_of_not_isMisnamed hdecl] at h
      rw [List.cons_append, faultAfter?_cons_of_not_isMisnamed hdecl, ih h]
      simp

/-- Classes after others have no fault exactly if they are named and have none of the names before
them. -/
theorem faultAfter?_eq_none_iff :
    faultAfter? earlier classes = none ↔
      (∀ decl ∈ classes, ¬ Text.isBlankText decl.name) ∧ (classes.map (·.name)).Nodup ∧
        ∀ decl ∈ classes, decl.name ∉ earlier := by
  induction classes generalizing earlier with
  | nil => simp [faultAfter?]
  | cons decl classes ih =>
    by_cases hdecl : IsMisnamed earlier decl
    · rw [faultAfter?_cons_of_isMisnamed hdecl]
      refine iff_of_false (by simp) ?_
      rintro ⟨hblank, -, hnew⟩
      rcases hdecl with hdecl | hdecl
      · exact hblank decl List.mem_cons_self hdecl
      · exact hnew decl List.mem_cons_self hdecl
    · rw [faultAfter?_cons_of_not_isMisnamed hdecl, ih]
      obtain ⟨hblank, hnew⟩ := not_or.mp hdecl
      have hhead : decl.name ∉ classes.map (·.name) ↔
          ∀ other ∈ classes, other.name ≠ decl.name := by
        simp [List.mem_map]
      simp only [List.forall_mem_cons, List.map_cons, List.nodup_cons, hhead, List.mem_append,
        List.mem_singleton, not_or, forall_and]
      tauto

/-- The fault of classes is that of the first misnamed one. -/
theorem exists_of_faultAfter?_eq_some {cause : ConfigCause}
    (h : faultAfter? earlier classes = some cause) :
    ∃ before decl after, classes = before ++ decl :: after ∧ faultAfter? earlier before = none ∧
      IsMisnamed (earlier ++ before.map (·.name)) decl ∧
      cause = nameCause (earlier.length + before.length) decl := by
  induction classes generalizing earlier with
  | nil => simp [faultAfter?] at h
  | cons first classes ih =>
    by_cases hfirst : IsMisnamed earlier first
    · rw [faultAfter?_cons_of_isMisnamed hfirst] at h
      exact ⟨[], first, classes, rfl, rfl, by simpa using hfirst, (Option.some.inj h).symm⟩
    · rw [faultAfter?_cons_of_not_isMisnamed hfirst] at h
      obtain ⟨before, decl, after, rfl, hbefore, hdecl, rfl⟩ := ih h
      refine ⟨first :: before, decl, after, rfl, ?_, by simpa using hdecl, ?_⟩
      · rw [faultAfter?_cons_of_not_isMisnamed hfirst, hbefore]
      · rw [List.length_append, List.length_singleton, List.length_cons, Nat.add_assoc,
          Nat.add_comm 1]

end

/-- A name is not blank exactly if a character of it is not. -/
theorem not_isBlankText_iff {name : String} :
    ¬ Text.isBlankText name ↔ ∃ c ∈ name.toList, ¬ Unicode.isBlank c := by
  simp [Text.isBlankText]

/-- Classes have no fault exactly if they are named. -/
theorem faultAfter?_nil_eq_none_iff {classes : List ClassDecl} :
    faultAfter? [] classes = none ↔ AreNamed classes := by
  rw [faultAfter?_eq_none_iff]
  simp only [not_isBlankText_iff, List.not_mem_nil, not_false_eq_true, implies_true, and_true]
  exact ⟨fun ⟨hblank, hdistinct⟩ => ⟨hblank, hdistinct⟩, fun h => ⟨h.notBlank, h.distinct⟩⟩

/-- A manifest holds classes exactly if they are named. -/
theorem ofClasses_eq_ok_iff {classes : List ClassDecl} {manifest : Manifest} :
    ofClasses classes = .ok manifest ↔ AreNamed classes ∧ manifest = ⟨classes⟩ := by
  rw [ofClasses, ← faultAfter?_nil_eq_none_iff]
  cases faultAfter? [] classes with
  | none => simp [eq_comm]
  | some cause => simp

/-- Classes are refused exactly for the first misnamed one. -/
theorem ofClasses_eq_error_iff {classes : List ClassDecl} {failure : Failure} :
    ofClasses classes = .error failure ↔
      ∃ before decl after, classes = before ++ decl :: after ∧ AreNamed before ∧
        IsMisnamed (before.map (·.name)) decl ∧
        failure = .config (nameCause before.length decl) := by
  rw [ofClasses]
  constructor
  · intro h
    cases hfault : faultAfter? [] classes with
    | none => simp [hfault] at h
    | some cause =>
      rw [hfault] at h
      obtain ⟨before, decl, after, hclasses, hbefore, hdecl, rfl⟩ :=
        exists_of_faultAfter?_eq_some hfault
      refine ⟨before, decl, after, hclasses, faultAfter?_nil_eq_none_iff.mp hbefore,
        by simpa using hdecl, ?_⟩
      simpa using (Except.error.inj h).symm
  · rintro ⟨before, decl, after, rfl, hbefore, hdecl, rfl⟩
    rw [faultAfter?_append (faultAfter?_nil_eq_none_iff.mpr hbefore), List.nil_append,
      faultAfter?_cons_of_isMisnamed hdecl, List.length_map]

/-! ### Loading by name -/

section

variable {classes : List ClassDecl}

/-- A class whose name no other one has is what its name leads to. -/
theorem load_of_mem {decl : ClassDecl} (h : (classes.map (·.name)).Nodup)
    (hdecl : decl ∈ classes) : load ⟨classes⟩ decl.name = .ok decl := by
  rw [load]
  cases hfound : classes.find? (·.name == decl.name) with
  | none =>
    have hother := List.find?_eq_none.mp hfound decl hdecl
    simp at hother
  | some found =>
    have hname : found.name = decl.name := by simpa using List.find?_some hfound
    rw [List.inj_on_of_nodup_map h (List.mem_of_find?_eq_some hfound) hdecl hname]

/-- A name that no class has leads to none. -/
theorem load_of_notMem {name : String} (h : name ∉ classes.map (·.name)) :
    load ⟨classes⟩ name = .error (.classNotFound name) := by
  have hnone : classes.find? (·.name == name) = none := by
    refine List.find?_eq_none.mpr fun decl hdecl hname => h ?_
    exact List.mem_map.mpr ⟨decl, hdecl, beq_iff_eq.mp hname⟩
  rw [load, hnone]

/-- Generating a class by its name is generating what the name leads to. -/
theorem generateOne_of_load {manifest : Manifest} {decl : ClassDecl} {name : String}
    (backend : Backend) (base : Path) (tree : FileTree) (h : manifest.load name = .ok decl) :
    generateOne manifest backend base name tree = generateDecl backend base decl tree := by
  rw [generateOne, h]
  rfl

/-- A batch over the names of declarations that these lead to generates just the declarations. -/
theorem generateAll_of_load {manifest : Manifest} {decls : List ClassDecl} (backend : Backend)
    (base : Path) (tree : FileTree) (h : ∀ decl ∈ decls, manifest.load decl.name = .ok decl) :
    generateAll manifest backend base (decls.map (·.name)) tree =
      generateDecls backend base decls tree := by
  induction decls generalizing tree with
  | nil => rfl
  | cons decl decls ih =>
    obtain ⟨hload, hrest⟩ := List.forall_mem_cons.mp h
    rw [List.map_cons, generateAll, generateDecls, generateOne_of_load backend base tree hload]
    simp only [ih _ hrest]

end

/-! ### The outcome -/

/-- A manifest is a map from the names of classes to the classes, in order. -/
structure IsMapOf (manifest : Manifest) (classes : List ClassDecl) : Prop where
  names : manifest.classNames = classes.map (·.name)
  found : ∀ decl ∈ classes, manifest.load decl.name = .ok decl
  missing : ∀ name, name ∉ classes.map (·.name) →
    manifest.load name = .error (.classNotFound name)
  /-- A batch over all names generates each class once, as it is declared. -/
  generated : ∀ backend base tree,
    generateAll manifest backend base manifest.classNames tree =
      generateDecls backend base classes tree

/-- A manifest of named classes is a map of them. -/
theorem isMapOf_of_areNamed {classes : List ClassDecl} (h : AreNamed classes) :
    IsMapOf ⟨classes⟩ classes where
  names := rfl
  found _ hdecl := load_of_mem h.distinct hdecl
  missing _ hname := load_of_notMem hname
  generated backend base tree :=
    generateAll_of_load backend base tree fun _ hdecl => load_of_mem h.distinct hdecl

/-- Classes make a manifest exactly if they all have names, which are distinct and not blank. Others
are refused for the first class whose name is blank or belongs to a class before it: by its position
if the name is blank, and else by the name. The manifest is a map from names to classes, and a batch
over its names is a batch over the classes. -/
theorem ofClasses_outcome (classes : List ClassDecl) :
    ((∃ manifest, ofClasses classes = .ok manifest) ↔ AreNamed classes) ∧
      (∀ failure, ofClasses classes = .error failure ↔
        ∃ before decl after, classes = before ++ decl :: after ∧ AreNamed before ∧
          IsMisnamed (before.map (·.name)) decl ∧
          failure = .config (nameCause before.length decl) ∧
          failure.message = "configuration error: " ++
            if Text.isBlankText decl.name then
              "class #" ++ toString before.length ++ " has an empty name"
            else "class " ++ decl.name ++ " is declared more than once") ∧
      ∀ manifest, ofClasses classes = .ok manifest → manifest.IsMapOf classes := by
  refine ⟨?_, fun failure => ?_, fun manifest h => ?_⟩
  · simp [ofClasses_eq_ok_iff]
  · rw [ofClasses_eq_error_iff]
    constructor
    · rintro ⟨before, decl, after, hclasses, hbefore, hdecl, rfl⟩
      refine ⟨before, decl, after, hclasses, hbefore, hdecl, rfl, ?_⟩
      rw [nameCause]
      split
      · rfl
      · rfl
    · rintro ⟨before, decl, after, hclasses, hbefore, hdecl, hfailure, -⟩
      exact ⟨before, decl, after, hclasses, hbefore, hdecl, hfailure⟩
  · obtain ⟨hnamed, rfl⟩ := ofClasses_eq_ok_iff.mp h
    exact isMapOf_of_areNamed hnamed

/-- Classes whose names differ in blanks and in case only. -/
def nearbyClasses : List ClassDecl :=
  [{ name := "a" }, { name := "A" }, { name := " a", methods := [{ name := "f" }] }]

/-- These classes make a manifest, in which each has its own name. A further class with one of their
names makes none, and neither does one with a blank name before it. -/
theorem ofClasses_outcome_nearby :
    (∃ manifest, ofClasses nearbyClasses = .ok manifest ∧ manifest.IsMapOf nearbyClasses) ∧
      ofClasses (nearbyClasses ++ [{ name := " a" }]) = .error (.config (.repeatedClass " a")) ∧
      ofClasses (nearbyClasses ++ [{ name := "\u00a0 " }, { name := " a" }]) =
        .error (.config (.emptyClassName 3)) := by
  have hnamed : AreNamed nearbyClasses :=
    faultAfter?_nil_eq_none_iff.mp (by decide)
  obtain ⟨hmade, -, hmap⟩ := ofClasses_outcome nearbyClasses
  obtain ⟨manifest, hmanifest⟩ := hmade.mpr hnamed
  refine ⟨⟨manifest, hmanifest, hmap manifest hmanifest⟩, ?_, ?_⟩
  · refine ((ofClasses_outcome _).2.1 _).mpr
      ⟨nearbyClasses, _, [], rfl, hnamed, Or.inr (by decide), by decide, by decide⟩
  · refine ((ofClasses_outcome _).2.1 _).mpr
      ⟨nearbyClasses, _, _, rfl, hnamed, Or.inl (by decide), by decide, by decide⟩

end Manifest

end NativeBindings
