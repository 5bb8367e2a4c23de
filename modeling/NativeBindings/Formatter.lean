import NativeBindings.FileTree
import NativeBindings.Signal
import NativeBindings.Text

/-!
# Running a formatter

A generated file is handed to a program that lays it out. What the program does is a parameter,
its launcher: it may change the tree, and it either does not start or ends with a status and some
bytes of complaint. Whatever it does, at worst a warning comes of it.
-/

namespace NativeBindings

/-- A program with its arguments. -/
structure Command where
  program : String
  arguments : List String
  deriving DecidableEq, Repr

/-- How a program that ran has ended. -/
inductive Ending
  | exited (status : Nat)
  | killed (signal : Signal)
  deriving DecidableEq, Repr

namespace Ending

/-- Whether a program did what it was asked to. -/
def isSuccess (ending : Ending) : Bool :=
  ending = exited 0

/-- The wording of an ending. -/
def text : Ending → String
  | exited status => "exit status: " ++ toString status
  | killed signal => "signal: " ++ signal.text

end Ending

/-- How the start of a program ends: it fails, or the program runs, ends in some way, and leaves
what it wrote to its error stream. -/
inductive LaunchResult
  | failed (fault : IoFault)
  | ended (ending : Ending) (errors : List UInt8)
  deriving DecidableEq, Repr

/-- What programs do to the tree, and how they end. -/
abbrev Launcher := FileTree → Command → FileTree × LaunchResult

/-- A problem with a formatter. The generated file stays. -/
inductive ToolWarning
  | notFound (tool : String)
  | notRun (tool : String) (fault : IoFault)
  | failed (tool : String) (ending : Ending) (errors : String)
  deriving DecidableEq, Repr

/-- The message of a warning. -/
def ToolWarning.message : ToolWarning → String
  | notFound tool => tool ++ " isn't available in PATH, skipping"
  | notRun tool fault => "failed to run " ++ tool ++ ": " ++ fault.text
  | failed tool ending errors => tool ++ " exited with " ++ ending.text ++ ": " ++ errors

namespace Formatter

/-- The edition of the language that the generated code is written for. -/
def edition : String :=
  "2021"

/-- The command that formats a file. -/
def command (program : String) (path : Path) : Command :=
  ⟨program, ["--edition", edition, path.text]⟩

/-- A program that does not start. -/
def startWarning (program : String) (fault : IoFault) : ToolWarning :=
  if fault = .notFound then .notFound program else .notRun program fault

/-- The warning that the end of a formatter calls for. Its errors have to be text, even if it
succeeds. -/
def warning? (program : String) : LaunchResult → Option ToolWarning
  | .failed fault => some (startWarning program fault)
  | .ended ending errors =>
    match Utf8.text errors with
    | .error _ => some (startWarning program .notText)
    | .ok text =>
      if ending.isSuccess then none else some (.failed program ending (Text.trimmed text))

/-- Format a file. -/
def format (launch : Launcher) (program : String) (path : Path) (tree : FileTree) :
    FileTree × Option ToolWarning :=
  let (tree, result) := launch tree (command program path)
  (tree, warning? program result)

end Formatter

end NativeBindings
