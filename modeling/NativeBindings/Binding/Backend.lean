import NativeBindings.Backend
import NativeBindings.Binding.Printer
import NativeBindings.Settings

/-!
# The backend for binding modules

Where the module of a class stands, what is written to it, and the formatter that goes over it.
-/

namespace NativeBindings.Binding

/-- The choices that binding modules depend on. -/
structure Options where
  /-- The submodule with the hand-written implementation. -/
  implModule : String := "imp"
  /-- The program that formats a generated module, if one does. -/
  formatter : Option String := none
  deriving DecidableEq, Repr

namespace Options

/-- The options that settings ask for. -/
def ofSettings (settings : Settings) : Options where
  implModule := settings.implModule
  formatter := if settings.applyFormatter then some settings.formatter else none

/-- The text of the module of a class. -/
def render (options : Options) (c : NativeClass) : Except Failure String :=
  Binding.render options.implModule c

/-- What is written for a class: the whole text in one piece, or nothing at all. -/
def emit (options : Options) (c : NativeClass) : Emission :=
  match options.render c with
  | .ok text => ⟨[Utf8.encode text], .ok (), .inputOutput (.writingBindings c.name.qualified)⟩
  | .error failure => ⟨[], .error failure, .inputOutput (.writingBindings c.name.qualified)⟩

/-- Format a finished module. -/
def finish (options : Options) (launch : Launcher) (path : Path) (tree : FileTree) :
    FileTree × Option ToolWarning :=
  match options.formatter with
  | some program => Formatter.format launch program path tree
  | none => (tree, none)

end Options

/-- The name of the file of each module. -/
def fileName : String :=
  "mod.rs"

/-- The module of a class stands in a directory of its own, named by the escaped class name. -/
def outputPath (c : NativeClass) : Path :=
  (Path.mk c.name.escaped).join ⟨fileName⟩

/-- The backend, given what the programs that it starts do. -/
def backend (launch : Launcher) (options : Options) : Backend where
  name := "rust"
  outputPath := outputPath
  emit := options.emit
  finish := options.finish launch

end NativeBindings.Binding
