import NativeBindings.Proofs.BatchIsolation
import NativeBindings.Proofs.TextDecoding
import NativeBindings.Proofs.TreeShape

/-!
# A formatter only warns

Whatever a formatter does to the modules that it is given, and however it ends, a batch generates
the same files and fails in the same places as without one. The trees of the two batches differ,
but only in what files hold, and no later request looks at that. What comes of the formatter is a
warning for exactly those files for which it did not end cleanly.
-/

namespace NativeBindings

open FileTree

/-- A launched program did its work: it started, exited with success, and wrote nothing but text to
its error stream. -/
def LaunchResult.IsClean (result : LaunchResult) : Prop :=
  ∃ errors : String, result = .ended (.exited 0) (Utf8.encode errors)

namespace Formatter

/-- There is no warning exactly if the formatter ended cleanly. -/
theorem warning?_eq_none_iff {program : String} {result : LaunchResult} :
    warning? program result = none ↔ result.IsClean := by
  cases result with
  | failed fault => simp [warning?, LaunchResult.IsClean]
  | ended ending errors =>
    simp only [warning?, LaunchResult.IsClean, LaunchResult.ended.injEq]
    cases htext : Utf8.text errors with
    | error fault =>
      have hnot : ∀ text, errors ≠ Utf8.encode text := by
        intro text hencode
        rw [Utf8.text_eq_ok_iff.mpr hencode] at htext
        contradiction
      simp [hnot]
    | ok text =>
      have hencode : errors = Utf8.encode text := Utf8.text_eq_ok_iff.mp htext
      by_cases hsuccess : ending = .exited 0
      · simp [Ending.isSuccess, hsuccess, hencode]
      · simp [Ending.isSuccess, hsuccess]

instance (result : LaunchResult) : Decidable result.IsClean :=
  decidable_of_iff (warning? "" result = none) warning?_eq_none_iff

/-- A formatter does nothing to the tree but rewrite the file that it is given. -/
def OnlyRewrites (launch : Launcher) (program : String) : Prop :=
  ∀ tree path place,
    let after := (launch tree (command program path)).1
    after.get? place = tree.get? place ∨
      tree.locate path = .ok place ∧
        (∃ content executable, tree.get? place = some (.file content executable)) ∧
        ∃ content executable, after.get? place = some (.file content executable)

/-- A formatter that only rewrites its file leaves all files and directories where they are. -/
theorem OnlyRewrites.sameShape {launch : Launcher} {program : String}
    (h : OnlyRewrites launch program) (tree : FileTree) (path : Path) :
    (format launch program path tree).1.SameShape tree := by
  intro place
  have hformat : (format launch program path tree).1 =
      (launch tree (command program path)).1 := rfl
  rw [hformat, shape, shape]
  rcases h tree path place with hsame | ⟨-, ⟨_, _, hbefore⟩, ⟨_, _, hafter⟩⟩
  · rw [hsame]
  · rw [hbefore, hafter]
    rfl

end Formatter

/-- A file that can be read stands where its path leads. -/
theorem FileTree.read_eq_ok {tree : FileTree} {path : Path} {content : List UInt8}
    (h : tree.read path = .ok content) :
    ∃ place executable, tree.locate path = .ok place ∧
      tree.get? place = some (.file content executable) := by
  obtain ⟨entry, hlookup, hread⟩ := bind_eq_ok_iff.mp h
  obtain ⟨place, hlocate, hentry⟩ := bind_eq_ok_iff.mp hlookup
  cases hplace : tree.get? place with
  | none => simp [hplace] at hentry
  | some found =>
    rw [hplace] at hentry
    obtain rfl := Except.ok.inj hentry
    cases found with
    | directory => contradiction
    | file content' executable =>
      obtain rfl := Except.ok.inj hread
      exact ⟨place, executable, hlocate, hplace⟩

/-- Generate requested classes one after the other, each with a backend of its own. -/
def generateEach (manifest : Manifest) (base : Path) :
    List (String × Backend) → FileTree → FileTree × Report
  | [], tree => (tree, {})
  | (name, backend) :: rest, tree =>
    let (tree, outcome) := generateOne manifest backend base name tree
    let (tree, report) := generateEach manifest base rest tree
    (tree, Report.record name outcome report)

/-- With the same backend for each request, this is a batch. -/
theorem generateEach_eq_generateAll (manifest : Manifest) (backend : Backend) (base : Path)
    (names : List String) (tree : FileTree) :
    generateEach manifest base (names.map (·, backend)) tree =
      generateAll manifest backend base names tree := by
  induction names generalizing tree with
  | nil => rfl
  | cons name names ih =>
    rw [List.map_cons, generateEach, generateAll]
    simp only [ih]

/-- What the report of a batch with formatters has to do with the report of one without them, given
how the formatters ended. -/
structure Report.Formatted (program : String) (plain report : Report)
    (runs : List LaunchResult) : Prop where
  files : report.generated.map (fun file => (file.className, file.path)) =
    plain.generated.map fun file => (file.className, file.path)
  failed : report.failed = plain.failed
  warnings : List.Forall₂ (fun file result => file.warning = Formatter.warning? program result)
    report.generated runs

namespace Report.Formatted

variable {program : String} {plain report : Report} {runs : List LaunchResult}

/-- A request that fails with and without the formatter. -/
theorem error (h : Report.Formatted program plain report runs) (name : String)
    (failure : Failure) :
    Report.Formatted program (record name (.error failure) plain)
      (record name (.error failure) report) runs where
  files := h.files
  failed := congrArg ((name, failure) :: ·) h.failed
  warnings := h.warnings

/-- A request for which the formatter runs. -/
theorem ok (h : Report.Formatted program plain report runs) (name : String) (file : GeneratedFile)
    (result : LaunchResult) :
    Report.Formatted program (record name (.ok file) plain)
      (record name (.ok { file with warning := Formatter.warning? program result }) report)
      (result :: runs) where
  files := congrArg ((file.className, file.path) :: ·) h.files
  failed := h.failed
  warnings := .cons rfl h.warnings

/-- The files with a warning are those for which the formatter did not end cleanly. -/
theorem warned_eq (h : Report.Formatted program plain report runs) :
    report.warned =
      ((report.generated.zip runs).filter fun run => ¬ run.2.IsClean).map Prod.fst := by
  obtain ⟨-, -, hwarnings⟩ := h
  unfold Report.warned
  generalize report.generated = files at hwarnings ⊢
  induction hwarnings with
  | nil => rfl
  | @cons file result files runs hwarning _ ih =>
    by_cases hclean : result.IsClean
    · have hnone : file.warning = none :=
        hwarning.trans (Formatter.warning?_eq_none_iff.mpr hclean)
      rw [List.zip_cons_cons, List.filter_cons_of_neg (by simp [hnone]),
        List.filter_cons_of_neg (by simpa using hclean), ih]
    · have hsome : file.warning.isSome := by
        rw [Option.isSome_iff_ne_none, hwarning, Ne, Formatter.warning?_eq_none_iff]
        exact hclean
      rw [List.zip_cons_cons, List.filter_cons_of_pos (by exact hsome),
        List.filter_cons_of_pos (by simpa using hclean), List.map_cons, ih]

end Report.Formatted

namespace Binding

section

variable (manifest : Manifest) (launch : Launcher) (implModule : String) (base : Path)

/-- A request does the same to trees of the same shape. -/
theorem request_sameEffect {tree other : FileTree} (h : tree.SameShape other) (name : String) :
    SameEffect (request manifest launch implModule base name tree)
      (request manifest launch implModule base name other) := by
  rw [request_eq, request_eq]
  cases manifest.nativeClass name with
  | error failure => exact ⟨h, rfl⟩
  | ok c =>
    obtain ⟨after, after', failure?, hafter, hafter', hshape⟩ :=
      (SameShape.deliver h .willing (Options.emit { implModule } c) base
        (base.join (modulePath name))).cases
    simp only [hafter, hafter']
    cases failure? with
    | some failure => exact ⟨hshape, rfl⟩
    | none => exact ⟨hshape, rfl⟩

/-- With a formatter, a request is as without one, and then the formatter runs. -/
theorem generateOne_formatted (program name : String) (tree : FileTree) :
    generateOne manifest (backend launch { implModule, formatter := some program }) base name
        tree =
      match request manifest launch implModule base name tree with
      | (after, .error failure) => (after, .error failure)
      | (staged, .ok file) =>
        ((Formatter.format launch program file.path staged).1,
          .ok { file with warning := (Formatter.format launch program file.path staged).2 }) := by
  unfold request generateOne
  cases manifest.load name with
  | error failure => rfl
  | ok decl =>
    dsimp only
    cases decl.resolve with
    | error failure => rfl
    | ok c =>
      unfold Backend.generate
      dsimp only [backend]
      have hemit : Options.emit { implModule, formatter := some program } c =
          Options.emit { implModule } c := rfl
      rw [hemit]
      generalize (Options.emit { implModule } c).deliver base (base.join (outputPath c)) tree = run
      obtain ⟨after, _ | failure⟩ := run
      · rfl
      · rfl

/-- How the formatters of a batch end, one after the other for each file that is generated. -/
def formatterRuns (program : String) : List (String × Launcher) → FileTree → List LaunchResult
  | [], _ => []
  | (name, launch) :: rest, tree =>
    match request manifest launch implModule base name tree with
    | (after, .error _) => formatterRuns program rest after
    | (staged, .ok file) =>
      let (after, result) := launch staged (Formatter.command program file.path)
      result :: formatterRuns program rest after

/-- A request with the launcher of its formatter. -/
def formattedRequest (program : String) (request : String × Launcher) : String × Backend :=
  (request.1, backend request.2 { implModule, formatter := some program })

/-- In trees of the same shape, batches with and without formatters go the same way. -/
theorem formatted_of_sameShape (program : String) {requests : List (String × Launcher)}
    (hrewrites : ∀ request ∈ requests, Formatter.OnlyRewrites request.2 program)
    {tree other : FileTree} (h : tree.SameShape other) :
    Report.Formatted program
      (generateAll manifest (backend launch { implModule }) base (requests.map Prod.fst) other).2
      (generateEach manifest base (requests.map (formattedRequest implModule program)) tree).2
      (formatterRuns manifest implModule base program requests tree) := by
  induction requests generalizing tree other with
  | nil => exact ⟨rfl, rfl, .nil⟩
  | cons request requests ih =>
    obtain ⟨name, formatter⟩ := request
    rw [List.forall_mem_cons] at hrewrites
    obtain ⟨hrewrites, hrest⟩ := hrewrites
    have hplain : generateOne manifest (backend launch { implModule }) base name other =
        request manifest formatter implModule base name other := rfl
    obtain ⟨staged, staged', outcome, hstaged, hstaged', hshape⟩ :=
      (request_sameEffect manifest formatter implModule base h name).cases
    rw [List.map_cons, List.map_cons, generateAll, generateEach, formatterRuns, hplain]
    simp only [formattedRequest, generateOne_formatted, hstaged, hstaged']
    cases outcome with
    | error failure => exact (ih hrest hshape).error name failure
    | ok file =>
      have hformatted := (hrewrites.sameShape staged file.path).trans hshape
      exact (ih hrest hformatted).ok name file _

end

/-- A formatter can only cause warnings. Whatever it does on each request, as long as it touches
nothing but the content of its file, the batch generates the same files and fails in the same places
as without one. A file has no warning exactly if its formatter ended cleanly, and the report warns
of the others in order. If the formatter is the same for all requests, this is the batch of the
backend with that formatter. -/
theorem formatter_only_warns (manifest : Manifest) (launch : Launcher) (implModule : String)
    (base : Path) (tree : FileTree) (program : String) (requests : List (String × Launcher))
    (hrewrites : ∀ request ∈ requests, Formatter.OnlyRewrites request.2 program) :
    let plain :=
      (generateAll manifest (backend launch { implModule }) base (requests.map Prod.fst) tree).2
    let report :=
      (generateEach manifest base (requests.map (formattedRequest implModule program)) tree).2
    let runs := formatterRuns manifest implModule base program requests tree
    report.generated.map (fun file => (file.className, file.path)) =
        plain.generated.map (fun file => (file.className, file.path)) ∧
      report.failed = plain.failed ∧ report.isSuccess = plain.isSuccess ∧
      List.Forall₂ (fun file result => file.warning = none ↔ result.IsClean)
        report.generated runs ∧
      report.warned =
        ((report.generated.zip runs).filter fun run => ¬ run.2.IsClean).map Prod.fst ∧
      ∀ names formatter, requests = names.map (·, formatter) →
        report = (generateAll manifest
          (backend formatter { implModule, formatter := some program }) base names tree).2 := by
  intro plain report runs
  have h : Report.Formatted program plain report runs :=
    formatted_of_sameShape manifest launch implModule base program hrewrites (SameShape.refl tree)
  refine ⟨h.files, h.failed, ?_, ?_, h.warned_eq, ?_⟩
  · rw [Report.isSuccess, Report.isSuccess, h.failed]
  · refine h.warnings.imp fun file result hwarning => ?_
    rw [hwarning]
    exact Formatter.warning?_eq_none_iff
  · rintro names formatter rfl
    have hrequests : (names.map (·, formatter)).map (formattedRequest implModule program) =
        names.map (·, backend formatter { implModule, formatter := some program }) := by
      rw [List.map_map]
      rfl
    rw [← generateEach_eq_generateAll, ← hrequests]

/-- A formatter that empties the file it is given, writes no text to its error stream, and fails. -/
def emptyingFormatter : Launcher := fun tree command =>
  let path : Path := ⟨command.arguments.getLast?.getD ""⟩
  match tree.read path with
  | .ok _ => ((tree.write path []).toOption.getD tree, .ended (.exited 1) [0xFF])
  | .error fault => (tree, .failed fault)

/-- A formatter that finds nothing to do. -/
def quietFormatter : Launcher := fun tree _ =>
  (tree, .ended (.exited 0) [])

/-- Emptying a file is rewriting it. -/
theorem onlyRewrites_emptyingFormatter (program : String) :
    Formatter.OnlyRewrites emptyingFormatter program := by
  intro tree path place
  have hpath : (⟨(Formatter.command program path).arguments.getLast?.getD ""⟩ : Path) = path := rfl
  dsimp only [emptyingFormatter]
  rw [hpath]
  cases hread : tree.read path with
  | error fault => exact Or.inl rfl
  | ok content =>
    obtain ⟨target, executable, hlocate, hheld⟩ := read_eq_ok hread
    have hroot : target ≠ [] := by
      rintro rfl
      simp at hheld
    have hwrite : tree.write path [] = .ok (tree.put target (.file [] executable)) := by
      rw [FileTree.write, hlocate]
      simp only [bind, Except.bind, hheld]
      rfl
    dsimp only
    rw [hwrite, Except.toOption, Option.getD_some, get?_put tree hroot]
    split
    · next hsame =>
      subst hsame
      exact Or.inr ⟨hlocate, ⟨_, _, hheld⟩, _, _, rfl⟩
    · exact Or.inl rfl

/-- A manifest with a single class, which has no methods. -/
def singleManifest : Manifest :=
  ⟨[{ name := "a.B" }]⟩

/-- The class is requested twice, with another one in between that is not there. The formatter fails
the first time. -/
def repeatedRequests : List (String × Launcher) :=
  [("a.B", emptyingFormatter), ("a.C", quietFormatter), ("a.B", quietFormatter)]

/-- The class is generated twice, and the first file has a warning. -/
theorem formatter_only_warns_emptying :
    (∀ request ∈ repeatedRequests, Formatter.OnlyRewrites request.2 "fmt") ∧
      ∃ first second,
        (generateEach singleManifest ⟨"out"⟩
            (repeatedRequests.map (formattedRequest "imp" "fmt")) .empty).2 =
          ⟨[first, second], [("a.C", .classNotFound "a.C")]⟩ ∧
        first.path = ⟨"out/a_B/mod.rs"⟩ ∧ second.path = ⟨"out/a_B/mod.rs"⟩ ∧
        first.warning ≠ none ∧ second.warning = none := by
  have hrewrites : ∀ request ∈ repeatedRequests, Formatter.OnlyRewrites request.2 "fmt" := by
    simp only [repeatedRequests, List.forall_mem_cons, List.not_mem_nil, false_implies,
      implies_true, and_true]
    exact ⟨onlyRewrites_emptyingFormatter "fmt", fun _ _ _ => Or.inl rfl, fun _ _ _ => Or.inl rfl⟩
  have hplain : (generateAll singleManifest (backend quietFormatter { implModule := "imp" }) ⟨"out"⟩
      (repeatedRequests.map Prod.fst) .empty).2 =
        ⟨[⟨"a.B", ⟨"out/a_B/mod.rs"⟩, none⟩, ⟨"a.B", ⟨"out/a_B/mod.rs"⟩, none⟩],
          [("a.C", .classNotFound "a.C")]⟩ := by decide +kernel
  have hruns : formatterRuns singleManifest "imp" ⟨"out"⟩ "fmt" repeatedRequests .empty =
      [.ended (.exited 1) [0xFF], .ended (.exited 0) []] := by decide +kernel
  have hdirty : ¬ LaunchResult.IsClean (.ended (.exited 1) [0xFF]) := by decide
  have hclean : LaunchResult.IsClean (.ended (.exited 0) []) := by decide
  obtain ⟨hfiles, hfailed, -, hwarnings, -⟩ := formatter_only_warns singleManifest
    quietFormatter "imp" ⟨"out"⟩ .empty "fmt" repeatedRequests hrewrites
  rw [hplain] at hfiles hfailed
  rw [hruns] at hwarnings
  refine ⟨hrewrites, ?_⟩
  generalize (generateEach singleManifest ⟨"out"⟩
    (repeatedRequests.map (formattedRequest "imp" "fmt")) .empty).2 = report at *
  obtain ⟨generated, failed⟩ := report
  obtain _ | ⟨hfirst, _ | ⟨hsecond, _ | _⟩⟩ := hwarnings
  simp only [List.map_cons, List.map_nil, List.cons.injEq, Prod.mk.injEq, and_true] at hfiles
  obtain ⟨⟨-, hfirstPath⟩, -, hsecondPath⟩ := hfiles
  refine ⟨_, _, congrArg _ hfailed, hfirstPath, hsecondPath, ?_, ?_⟩
  · rw [Ne, hfirst]
    exact hdirty
  · rw [hsecond]
    exact hclean

end Binding

end NativeBindings
