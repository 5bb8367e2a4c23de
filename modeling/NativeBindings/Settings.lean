import NativeBindings.Document.Source
import NativeBindings.Identifier
import NativeBindings.Text

/-!
# Settings

What a user chooses: the backend, the formatter, and the module that holds the hand-written part
of a binding.
-/

namespace NativeBindings

/-- The settings of a run. -/
structure Settings where
  backend : String := "rust"
  /-- Whether generated files are formatted. -/
  applyFormatter : Bool := true
  /-- The program that formats them. -/
  formatter : String := "rustfmt"
  /-- The module with the implementation of the generated traits. -/
  implModule : String := "imp"
  deriving DecidableEq, Repr

namespace Settings

open Document (Format Value optional)

/-- What is wrong with settings that were read from a document. -/
def fault? (settings : Settings) : Option ConfigCause :=
  if Text.isBlankText settings.backend then some .emptyBackend
  else if settings.applyFormatter && Text.isBlankText settings.formatter then some .emptyFormatter
  else if !isIdentifier settings.implModule || settings.implModule.toList.contains '$' then
    some (.invalidImplModule settings.implModule)
  else none

/-- The settings that a value stands for. -/
def ofValue? (format : Format) (value : Value) : Option Settings := do
  match ← value.fields? format ["backend", "apply_formatter", "formatter", "impl_module"] with
  | [backend, applyFormatter, formatter, implModule] =>
    return {
      backend := ← optional "rust" Value.text? backend
      applyFormatter := ← optional true Value.boolean? applyFormatter
      formatter := ← optional "rustfmt" Value.text? formatter
      implModule := ← optional "imp" Value.text? implModule }
  | _ => none

/-- Settings without a fault. -/
def check (settings : Settings) : Except Failure Settings :=
  match settings.fault? with
  | some cause => .error (.config cause)
  | none => .ok settings

/-- Read settings from a document. An empty JSON document stands for the default. -/
def ofSource (source : Document.Source) : Except Failure Settings :=
  if source = .json [] then .ok {}
  else match source.value?.bind (ofValue? source.format) with
    | some settings => settings.check
    | none => .error (.config .unreadable)

/-- Read settings from a file. -/
def ofFile (tree : FileTree) (path : Path) : Except Failure Settings := do
  ofSource (← Document.Source.ofFile tree path)

end Settings

end NativeBindings
