import NativeBindings.Declaration
import NativeBindings.Document.Source

/-!
# Manifests

A manifest declares classes, each under a name of its own. It is read from a document or made from
declarations at hand.
-/

namespace NativeBindings

open Document (Format Value optional required)

/-- The parameter that a value stands for. -/
def ParamDecl.ofValue? (format : Format) (value : Value) : Option ParamDecl := do
  match ← value.fields? format ["name", "type"] with
  | [name, type] =>
    return {
      name := ← optional "" Value.text? name
      type := ← required Value.text? type }
  | _ => none

/-- The method that a value stands for. -/
def MethodDecl.ofValue? (format : Format) (value : Value) : Option MethodDecl := do
  match ← value.fields? format ["name", "params", "returns", "static", "native"] with
  | [name, params, returns, isStatic, isNative] =>
    return {
      name := ← required Value.text? name
      params := ← optional [] (Value.list? (ParamDecl.ofValue? format)) params
      returns := ← optional "void" Value.text? returns
      isStatic := ← optional false Value.boolean? isStatic
      isNative := ← optional true Value.boolean? isNative }
  | _ => none

/-- The class that a value stands for. -/
def ClassDecl.ofValue? (format : Format) (value : Value) : Option ClassDecl := do
  match ← value.fields? format ["name", "methods"] with
  | [name, methods] =>
    return {
      name := ← required Value.text? name
      methods := ← optional [] (Value.list? (MethodDecl.ofValue? format)) methods }
  | _ => none

/-- Declared classes in order. -/
structure Manifest where
  classes : List ClassDecl
  deriving DecidableEq, Repr

namespace Manifest

/-- The first fault among classes that follow others: a blank name, or the name of a class before
it. -/
def faultAfter? (earlier : List String) : List ClassDecl → Option ConfigCause
  | [] => none
  | decl :: rest =>
    if Text.isBlankText decl.name then some (.emptyClassName earlier.length)
    else if decl.name ∈ earlier then some (.repeatedClass decl.name)
    else faultAfter? (earlier ++ [decl.name]) rest

/-- A manifest of classes, whose names have to be distinct and not blank. -/
def ofClasses (classes : List ClassDecl) : Except Failure Manifest :=
  match faultAfter? [] classes with
  | some cause => .error (.config cause)
  | none => .ok ⟨classes⟩

/-- The classes that a value declares. -/
def classesOfValue? (format : Format) (value : Value) : Option (List ClassDecl) := do
  match ← value.fields? format ["classes"] with
  | [classes] => optional [] (Value.list? (ClassDecl.ofValue? format)) classes
  | _ => none

/-- The manifest that a value stands for. -/
def ofValue (format : Format) (value : Value) : Except Failure Manifest :=
  match classesOfValue? format value with
  | some classes => ofClasses classes
  | none => .error (.config .unreadable)

/-- Read a manifest from a document. -/
def ofSource (source : Document.Source) : Except Failure Manifest :=
  match source.value? with
  | some value => ofValue source.format value
  | none => .error (.config .unreadable)

/-- Read a manifest from a file. -/
def ofFile (tree : FileTree) (path : Path) : Except Failure Manifest := do
  ofSource (← Document.Source.ofFile tree path)

/-- The names of the classes in order. -/
def classNames (manifest : Manifest) : List String :=
  manifest.classes.map (·.name)

/-- The class with a name. -/
def load (manifest : Manifest) (name : String) : Except Failure ClassDecl :=
  match manifest.classes.find? (·.name == name) with
  | some decl => .ok decl
  | none => .error (.classNotFound name)

end Manifest

end NativeBindings
