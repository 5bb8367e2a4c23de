import NativeBindings.Batch
import NativeBindings.Proofs.Delivery
import NativeBindings.Proofs.ModulePath
import NativeBindings.Proofs.Resolution

/-!
# Requests do not disturb each other

In a batch without a formatter, the outcome for each requested class is the one that the request has
alone. What earlier requests leave behind are modules, each at a place of its own that is on the way
of no other, and directories. Neither changes what a later request meets: a file on its way, or a
directory in the place of its module.
-/

namespace NativeBindings

open FileTree

/-- The class of a manifest with a name, resolved. -/
def Manifest.nativeClass (manifest : Manifest) (name : String) : Except Failure NativeClass := do
  (← manifest.load name).resolve

/-- A class that resolves has the name that was asked for, which is a qualified name. -/
theorem Manifest.name_of_nativeClass {manifest : Manifest} {name : String} {c : NativeClass}
    (h : manifest.nativeClass name = .ok c) :
    c.name.qualified = name ∧ isQualifiedName name := by
  obtain ⟨decl, hload, hresolve⟩ := bind_eq_ok_iff.mp h
  have hname : decl.name = name := by
    unfold Manifest.load at hload
    split at hload
    · next found hfound =>
      obtain rfl := Except.ok.inj hload
      have hsame := List.find?_some hfound
      exact beq_iff_eq.mp hsame
    · contradiction
  obtain ⟨hclass, hqualified⟩ :=
    ClassDecl.resolveName_eq_ok (ClassDecl.resolve_eq_ok_iff.mp hresolve).1
  rw [hclass, ← hname]
  exact ⟨rfl, hqualified⟩

/-- A file takes the place of no directory, so all directories stay. -/
theorem FileTree.Receives.directory {before after : FileTree} {way : List Place} {path : Path}
    {content : List UInt8} {target place : Place}
    (h : before.Receives after way path content target)
    (hdirectory : before.get? place = some .directory) : after.get? place = some .directory := by
  have hplace : place ≠ target := by
    rintro rfl
    exact h.replaced hdirectory
  exact (h.elsewhere place hplace).directory hdirectory

/-- The failure of an outcome. -/
def failure? {α : Type} : Except Failure α → Option Failure
  | .error failure => some failure
  | .ok _ => none

/-- The report of requests with given outcomes. -/
def Report.ofOutcomes (outcome : String → Except Failure GeneratedFile) (names : List String) :
    Report where
  generated := names.filterMap fun name => (outcome name).toOption
  failed := names.filterMap fun name => (failure? (outcome name)).map (name, ·)

/-- Recording an outcome puts it in front of the others. -/
theorem Report.record_ofOutcomes (outcome : String → Except Failure GeneratedFile) (name : String)
    (names : List String) :
    Report.record name (outcome name) (Report.ofOutcomes outcome names) =
      Report.ofOutcomes outcome (name :: names) := by
  cases h : outcome name <;> simp [Report.record, Report.ofOutcomes, failure?, h, Except.toOption]

namespace Binding

section

variable (manifest : Manifest) (launch : Launcher) (implModule : String) (base : Path)

/-- The text that the module of a class is to have. -/
def moduleText (name : String) : Except Failure String := do
  render implModule (← manifest.nativeClass name)

/-- Generate the module of one class, and leave it as it is written. -/
def request (name : String) (tree : FileTree) : FileTree × Except Failure GeneratedFile :=
  generateOne manifest (backend launch { implModule }) base name tree

/-- What a request does once its class is resolved. -/
theorem request_eq (name : String) (tree : FileTree) :
    request manifest launch implModule base name tree =
      match manifest.nativeClass name with
      | .error failure => (tree, .error failure)
      | .ok c =>
        match (Options.emit { implModule } c).deliver base (base.join (modulePath name)) tree with
        | (after, some failure) => (after, .error failure)
        | (after, none) => (after, .ok ⟨name, base.join (modulePath name), none⟩) := by
  have hgenerate : request manifest launch implModule base name tree =
      match manifest.nativeClass name with
      | .error failure => (tree, .error failure)
      | .ok c => (backend launch { implModule }).generate base c tree := by
    unfold request generateOne Manifest.nativeClass
    cases manifest.load name with
    | error failure => rfl
    | ok decl => rfl
  rw [hgenerate]
  cases hclass : manifest.nativeClass name with
  | error failure => rfl
  | ok c =>
    obtain ⟨hname, -⟩ := manifest.name_of_nativeClass hclass
    dsimp only [Backend.generate, backend]
    rw [outputPath_eq, hname]
    generalize (Options.emit { implModule } c).deliver base (base.join (modulePath name)) tree =
      result
    rcases result with ⟨after, failure | _⟩
    · rfl
    · rfl

/-- The outcome of a request. -/
theorem request_snd (name : String) (tree : FileTree) :
    (request manifest launch implModule base name tree).2 =
      match manifest.nativeClass name with
      | .error failure => .error failure
      | .ok c =>
        match
          ((Options.emit { implModule } c).deliver base (base.join (modulePath name)) tree).2 with
        | some failure => .error failure
        | none => .ok ⟨name, base.join (modulePath name), none⟩ := by
  rw [request_eq]
  cases manifest.nativeClass name with
  | error failure => rfl
  | ok c =>
    dsimp only
    generalize (Options.emit { implModule } c).deliver base (base.join (modulePath name)) tree =
      result
    rcases result with ⟨after, failure | _⟩
    · rfl
    · rfl

/-- What is written for a class that has a module is the text of the module. -/
theorem bytes_emit {c : NativeClass} (h : (Options.emit { implModule } c).outcome = .ok ()) :
    ∃ text, render implModule c = .ok text ∧
      (Options.emit { implModule } c).bytes = Utf8.encode text := by
  unfold Options.emit Options.render at h ⊢
  cases hrender : render implModule c with
  | error failure => simp [hrender] at h
  | ok text => exact ⟨text, rfl, by simp [Emission.bytes]⟩

/-- A request either fails and leaves at most directories on the way, or brings the module of its
class to its place. -/
theorem request_cases (name : String) (tree : FileTree) :
    (∃ failure after,
        request manifest launch implModule base name tree = (after, .error failure) ∧
        tree.GrowsAlong (moduleWay base name) after) ∨
      ∃ text after,
        request manifest launch implModule base name tree =
          (after, .ok ⟨name, base.join (modulePath name), none⟩) ∧
        isQualifiedName name ∧ moduleText manifest implModule name = .ok text ∧
        tree.Receives after (moduleWay base name) (base.join (modulePath name)) (Utf8.encode text)
          (modulePlace base name) := by
  rw [request_eq]
  cases hclass : manifest.nativeClass name with
  | error failure => exact Or.inl ⟨failure, tree, rfl, GrowsAlong.refl tree _⟩
  | ok c =>
    obtain ⟨-, hname⟩ := manifest.name_of_nativeClass hclass
    have hcases := (Options.emit { implModule } c).deliver_cases base
      (base.join (modulePath name)) tree .willing
    rw [onWay_directoryOf base hname] at hcases
    rcases hcases with ⟨failure, after, hdeliver, hgrows⟩ |
      ⟨target, after, hdeliver, houtcome, hreceives⟩
    · exact Or.inl ⟨failure, after, by simp only [hdeliver], hgrows⟩
    · obtain ⟨text, hrender, hbytes⟩ := bytes_emit implModule houtcome
      have htarget : target = modulePlace base name := by
        rw [← wayEnd_modulePath base hname]
        exact locate_eq_ok hreceives.locate
      rw [hbytes, htarget] at hreceives
      have htext : moduleText manifest implModule name = .ok text :=
        bind_eq_ok_iff.mpr ⟨c, hclass, hrender⟩
      exact Or.inr ⟨text, after, by simp only [hdeliver], hname, htext, hreceives⟩

/-- Requests have the same outcome in trees with the same files on the way, and a directory in the
place of the module or none. -/
theorem request_snd_congr {name : String} {tree other : FileTree}
    (hfiles : ∀ passed ∈ moduleWay base name, tree.SameFileAt other passed)
    (hend : modulePlace base name ∉ moduleWay base name →
      (tree.get? (modulePlace base name) = some .directory ↔
        other.get? (modulePlace base name) = some .directory)) :
    (request manifest launch implModule base name tree).2 =
      (request manifest launch implModule base name other).2 := by
  rw [request_snd, request_snd]
  cases hclass : manifest.nativeClass name with
  | error failure => rfl
  | ok c =>
    obtain ⟨-, hname⟩ := manifest.name_of_nativeClass hclass
    have hsegments : (base.join (modulePath name)).segments =
        (directoryOf base (base.join (modulePath name))).segments ++ [fileName] := by
      rw [segments_directoryOf base hname, segments_join_modulePath base hname,
        List.append_assoc]
      rfl
    rw [← onWay_directoryOf base hname] at hfiles hend
    rw [← wayEnd_modulePath base hname] at hend
    have hsame := (Options.emit { implModule } c).deliver_snd_congr hsegments (by decide)
      (by decide) (by decide) hfiles hend
    dsimp only
    rw [hsame]

/-- Whether a request succeeds in a tree. -/
def Succeeds (tree : FileTree) (name : String) : Prop :=
  ∃ file, (request manifest launch implModule base name tree).2 = .ok file

/-- How far requests have brought a tree. The successful ones have their modules, and elsewhere
there are at most new directories on the way to modules. -/
structure Progress (before after : FileTree) (done : List String) : Prop where
  held : ∀ name ∈ done, Succeeds manifest launch implModule base before name →
    ∃ text, moduleText manifest implModule name = .ok text ∧
      after.locate (base.join (modulePath name)) = .ok (modulePlace base name) ∧
      after.get? (modulePlace base name) = some (.file (Utf8.encode text) false)
  elsewhere : ∀ place,
    (∀ name ∈ done, Succeeds manifest launch implModule base before name →
      place ≠ modulePlace base name) →
    before.GrowsAt (done.flatMap (moduleWay base)) after place

end

section

variable {manifest : Manifest} {launch : Launcher} {implModule : String} {base : Path}
  {before after tree : FileTree} {name : String} {done : List String}

/-- What a successful request needs and finds. -/
theorem Succeeds.receives (h : Succeeds manifest launch implModule base tree name) :
    ∃ text after,
      request manifest launch implModule base name tree =
          (after, .ok ⟨name, base.join (modulePath name), none⟩) ∧
      isQualifiedName name ∧ moduleText manifest implModule name = .ok text ∧
      tree.Receives after (moduleWay base name) (base.join (modulePath name)) (Utf8.encode text)
        (modulePlace base name) := by
  obtain ⟨file, hfile⟩ := h
  rcases request_cases manifest launch implModule base name tree with
    ⟨failure, after, hrequest, -⟩ | hcase
  · rw [hrequest] at hfile
    contradiction
  · exact hcase

/-- The module of a successful request is on the way of no other. -/
theorem Succeeds.notMem_moduleWay (h : Succeeds manifest launch implModule base tree name)
    (other : String) : modulePlace base name ∉ moduleWay base other := by
  obtain ⟨text, after, -, -, -, hreceives⟩ := h.receives
  intro hmem
  have hpassed := hreceives.passed (modulePlace base name)
    (modulePlace_mem_moduleWay_iff.mpr (modulePlace_mem_moduleWay_iff.mp hmem))
  rw [hreceives.held] at hpassed
  simp at hpassed

variable (manifest launch implModule base tree) in
/-- Nothing has happened before the first request. -/
theorem Progress.refl : Progress manifest launch implModule base tree tree [] where
  held := by simp
  elsewhere := fun _ _ => Or.inl rfl

/-- Whatever requests came before, the next one has the outcome that it has alone. -/
theorem Progress.request_snd (h : Progress manifest launch implModule base before after done)
    (name : String) :
    (request manifest launch implModule base name after).2 =
      (request manifest launch implModule base name before).2 := by
  apply request_snd_congr
  -- Only directories have come to a place on the way, as no earlier module stands there.
  · intro passed hmem content executable
    refine (h.elsewhere passed ?_).file_iff
    rintro earlier - hsucceeds rfl
    exact hsucceeds.notMem_moduleWay name hmem
  -- At the end of the way there may be an earlier module, but that replaced no directory.
  · intro hclear
    by_cases htaken : ∃ earlier ∈ done, Succeeds manifest launch implModule base before earlier ∧
        modulePlace base name = modulePlace base earlier
    · obtain ⟨earlier, hearlier, hsucceeds, hsame⟩ := htaken
      obtain ⟨text, -, -, hheld⟩ := h.held earlier hearlier hsucceeds
      obtain ⟨_, _, -, -, -, hreceives⟩ := hsucceeds.receives
      rw [hsame, hheld]
      simp [hreceives.replaced]
    · have hgrows := h.elsewhere (modulePlace base name) fun earlier hearlier hsucceeds hsame =>
        htaken ⟨earlier, hearlier, hsucceeds, hsame⟩
      rw [hgrows.get?_eq]
      intro hmem
      obtain ⟨earlier, -, hway⟩ := List.mem_flatMap.mp hmem
      exact hclear (modulePlace_mem_moduleWay_iff.mpr (modulePlace_mem_moduleWay_iff.mp hway))

/-- Each request is progress. -/
theorem Progress.request_fst (h : Progress manifest launch implModule base before after done)
    (name : String) :
    Progress manifest launch implModule base before
      (request manifest launch implModule base name after).1 (done ++ [name]) := by
  have hsame := h.request_snd name
  have hdone : done.flatMap (moduleWay base) ⊆ (done ++ [name]).flatMap (moduleWay base) := by
    simp
  have hnew : moduleWay base name ⊆ (done ++ [name]).flatMap (moduleWay base) := by
    simp
  rcases request_cases manifest launch implModule base name after with
    ⟨failure, next, hrequest, hgrows⟩ | ⟨text, next, hrequest, hname, htext, hreceives⟩
  · rw [hrequest] at hsame ⊢
    constructor
    · intro earlier hearlier hsucceeds
      rcases List.mem_append.mp hearlier with hearlier | hearlier
      · obtain ⟨text, htext, hlocate, hheld⟩ := h.held earlier hearlier hsucceeds
        exact ⟨text, htext,
          locate_eq_ok_of_directories (fun place => (hgrows place).directory) hlocate,
          (hgrows _).file_iff.mpr hheld⟩
      · obtain rfl := List.mem_singleton.mp hearlier
        obtain ⟨file, hfile⟩ := hsucceeds
        rw [← hsame] at hfile
        contradiction
    · intro place hplace
      have hearlier := h.elsewhere place fun earlier hearlier =>
        hplace earlier (List.mem_append_left [name] hearlier)
      exact (hearlier.mono hdone).trans ((hgrows place).mono hnew)
  · rw [hrequest] at hsame ⊢
    have hsucceeds : Succeeds manifest launch implModule base before name := ⟨_, hsame.symm⟩
    constructor
    · intro earlier hearlier hsucceeds'
      -- The same class may have been requested before; any other has its module elsewhere.
      by_cases heq : earlier = name
      · subst heq
        exact ⟨text, htext, hreceives.locate, hreceives.held⟩
      · have hearlier : earlier ∈ done := by simpa [heq] using hearlier
        obtain ⟨text', htext', hlocate, hheld⟩ := h.held earlier hearlier hsucceeds'
        obtain ⟨-, -, -, hqualified, -⟩ := hsucceeds'.receives
        have hplace : modulePlace base earlier ≠ modulePlace base name :=
          fun hplace => heq (modulePlace_inj hqualified hname hplace)
        exact ⟨text', htext',
          locate_eq_ok_of_directories (fun place => hreceives.directory) hlocate,
          (hreceives.elsewhere _ hplace).file_iff.mpr hheld⟩
    · intro place hplace
      have hearlier := h.elsewhere place fun earlier hearlier =>
        hplace earlier (List.mem_append_left [name] hearlier)
      have hother : place ≠ modulePlace base name :=
        hplace name (List.mem_append_right done List.mem_cons_self) hsucceeds
      exact (hearlier.mono hdone).trans ((hreceives.elsewhere place hother).mono hnew)

/-- A batch is progress, and each of its requests has the outcome that it has alone. -/
theorem Progress.generateAll (h : Progress manifest launch implModule base before after done)
    (names : List String) :
    Progress manifest launch implModule base before
        (generateAll manifest (backend launch { implModule }) base names after).1 (done ++ names) ∧
      (generateAll manifest (backend launch { implModule }) base names after).2 =
        Report.ofOutcomes
          (fun name => (request manifest launch implModule base name before).2) names := by
  induction names generalizing after done with
  | nil =>
    rw [List.append_nil]
    exact ⟨h, rfl⟩
  | cons name names ih =>
    obtain ⟨hprogress, hreport⟩ := ih (h.request_fst name)
    rw [List.append_assoc, List.singleton_append] at hprogress
    refine ⟨hprogress, ?_⟩
    rw [← Report.record_ofOutcomes, ← hreport, ← h.request_snd name]
    rfl

end

end Binding

end NativeBindings
