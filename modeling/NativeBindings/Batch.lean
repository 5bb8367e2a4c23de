import NativeBindings.Backend
import NativeBindings.Manifest

/-!
# Generating many classes

Each requested class is loaded, resolved and written. One that fails is recorded and does not
stop the others.
-/

namespace NativeBindings

/-- Generate the file of one class of a manifest. -/
def generateOne (manifest : Manifest) (backend : Backend) (base : Path) (name : String)
    (tree : FileTree) : FileTree × Except Failure GeneratedFile :=
  match manifest.load name with
  | .error failure => (tree, .error failure)
  | .ok decl =>
    match decl.resolve with
    | .error failure => (tree, .error failure)
    | .ok c => backend.generate base c tree

/-- What became of the requested classes, in the order of the requests. -/
structure Report where
  generated : List GeneratedFile := []
  failed : List (String × Failure) := []
  deriving DecidableEq, Repr

namespace Report

/-- Whether every requested class was generated. -/
def isSuccess (report : Report) : Bool :=
  report.failed.isEmpty

/-- The generated files that a warning came with. -/
def warned (report : Report) : List GeneratedFile :=
  report.generated.filter (·.warning.isSome)

/-- Put the outcome for a class in front of a report. -/
def record (name : String) : Except Failure GeneratedFile → Report → Report
  | .ok file, report => { report with generated := file :: report.generated }
  | .error failure, report => { report with failed := (name, failure) :: report.failed }

end Report

/-- Generate the files of requested classes, one after the other. -/
def generateAll (manifest : Manifest) (backend : Backend) (base : Path) :
    List String → FileTree → FileTree × Report
  | [], tree => (tree, {})
  | name :: rest, tree =>
    let (tree, outcome) := generateOne manifest backend base name tree
    let (tree, report) := generateAll manifest backend base rest tree
    (tree, Report.record name outcome report)

end NativeBindings
