import NativeBindings.JavaType.Notation
import NativeBindings.Path
import NativeBindings.Utf8

/-!
# Failures

Why generating a binding can fail, as causes, and the wording of each.
-/

namespace NativeBindings

/-- Why a file operation or a write fails. -/
inductive IoFault
  | notFound
  | permissionDenied
  | badExecutable
  | alreadyPresent
  | notADirectory
  | isADirectory
  | nameTooLong
  /-- A script whose interpreter is a script, and so on. -/
  | endlessInterpreters
  /-- A path with a null byte. -/
  | nullInPath
  /-- A command with a null byte. -/
  | nullInCommand
  /-- The bytes read are no text. -/
  | notText
  /-- A sink that takes nothing more. -/
  | closed
  /-- A sink that took nothing and said so. -/
  | nothingTaken
  deriving DecidableEq, Repr

/-- What a fault is, in words. -/
def IoFault.reason : IoFault → String
  | notFound => "No such file or directory"
  | permissionDenied => "Permission denied"
  | badExecutable => "Exec format error"
  | alreadyPresent => "File exists"
  | notADirectory => "Not a directory"
  | isADirectory => "Is a directory"
  | nameTooLong => "File name too long"
  | endlessInterpreters => "Too many levels of symbolic links"
  | nullInPath => "file name contained an unexpected NUL byte"
  | nullInCommand => "nul byte found in provided data"
  | notText => "stream did not contain valid UTF-8"
  | closed => "closed"
  | nothingTaken => "failed to write whole buffer"

/-- The number that the system gives a fault, if the system reports it. -/
def IoFault.number? : IoFault → Option Nat
  | notFound => some 2
  | badExecutable => some 8
  | permissionDenied => some 13
  | alreadyPresent => some 17
  | notADirectory => some 20
  | isADirectory => some 21
  | nameTooLong => some 36
  | endlessInterpreters => some 40
  | _ => none

/-- The wording of a fault. -/
def IoFault.text (fault : IoFault) : String :=
  match fault.number? with
  | some number => fault.reason ++ " (os error " ++ toString number ++ ")"
  | none => fault.reason

/-- Why a declaration cannot be resolved. -/
inductive ResolutionCause
  | notAClassName
  | invalidType (error : TypeNameError)
  | invalidMethodName (name : String)
  | invalidParamName (name : String)
  deriving DecidableEq, Repr

/-- The wording of a cause. -/
def ResolutionCause.text : ResolutionCause → String
  | notAClassName => "not a class name"
  | invalidType error => error.message
  | invalidMethodName name => "invalid method name `" ++ name ++ "`"
  | invalidParamName name => "invalid parameter name `" ++ name ++ "`"

/-- Why a declaration has no binding. -/
inductive UnsupportedCause
  | dollarInClassName
  | dollarInSymbol
  | voidParam (name : String)
  | repeatedTraitMethod (name : String)
  | noPlaceholder
  deriving DecidableEq, Repr

/-- The wording of a cause. -/
def UnsupportedCause.text : UnsupportedCause → String
  | dollarInClassName => "`$` in class name"
  | dollarInSymbol => "`$` in exported symbol"
  | voidParam name => "parameter `" ++ name ++ "` has type void"
  | repeatedTraitMethod name => "trait method `" ++ name ++ "` would be declared twice"
  | noPlaceholder => "return type has no default value"

/-- What is wrong with settings, a manifest or the choice of a backend. -/
inductive ConfigCause
  /-- The document is malformed, or its fields do not fit. -/
  | unreadable
  | notText (path : Path) (fault : Utf8.Fault)
  | emptyBackend
  | emptyFormatter
  | invalidImplModule (name : String)
  | reservedImplModule (name : String)
  | emptyClassName (index : Nat)
  | repeatedClass (name : String)
  | unknownBackend (name : String)
  | unregisteredBackend (name : String) (available : List String)
  deriving DecidableEq, Repr

/-- The wording of a cause. -/
def ConfigCause.text : ConfigCause → String
  | unreadable => "the document cannot be read"
  | notText path fault => path.text ++ " is not valid UTF-8: " ++ fault.text
  | emptyBackend => "backend cannot be empty"
  | emptyFormatter => "formatter cannot be empty while apply_formatter is set"
  | invalidImplModule name => "impl_module `" ++ name ++ "` is not a valid module name"
  | reservedImplModule name => "impl_module `" ++ name ++ "` is a reserved Rust keyword"
  | emptyClassName index => "class #" ++ toString index ++ " has an empty name"
  | repeatedClass name => "class " ++ name ++ " is declared more than once"
  | unknownBackend name => "unknown backend: " ++ name
  | unregisteredBackend name available =>
    "unknown backend: " ++ name ++ " (available: " ++ String.intercalate ", " available ++ ")"

/-- What was being done when a file operation failed. -/
inductive IoStep
  | reading (path : Path)
  | creatingDirectory (path : Path)
  | creatingScratchFile (directory : Path)
  | flushing (path : Path)
  | writing (path : Path)
  | writingBindings (className : String)
  deriving DecidableEq, Repr

/-- The wording of a step. -/
def IoStep.text : IoStep → String
  | reading path => "reading " ++ path.text
  | creatingDirectory path => "creating directory " ++ path.text
  | creatingScratchFile directory => "creating temporary file in " ++ directory.text
  | flushing path => "flushing " ++ path.text
  | writing path => "writing " ++ path.text
  | writingBindings className => "writing bindings for " ++ className

/-- Why a binding is not generated. -/
inductive Failure
  /-- A declared name or type does not resolve. -/
  | unresolved (className : String) (method : Option String) (cause : ResolutionCause)
  | classNotFound (name : String)
  /-- The backend has no form for a declaration. -/
  | unsupported (className : String) (method : Option String) (cause : UnsupportedCause)
  | inputOutput (step : IoStep) (fault : IoFault)
  | config (cause : ConfigCause)
  deriving DecidableEq, Repr

/-- A class, or a method of it. -/
def location (className : String) : Option String → String
  | some method => className ++ "." ++ method
  | none => className

namespace Failure

/-- The message of a failure. -/
def message : Failure → String
  | unresolved className method cause =>
    "cannot resolve type in " ++ location className method ++ ": " ++ cause.text
  | classNotFound name => "class not found: " ++ name
  | unsupported className method cause =>
    "unsupported type in " ++ location className method ++ ": " ++ cause.text
  | inputOutput step fault => "I/O error while " ++ step.text ++ ": " ++ fault.text
  | config cause => "configuration error: " ++ cause.text

/-- The class that a failure is about. -/
def className? : Failure → Option String
  | unresolved className _ _ => some className
  | classNotFound name => some name
  | unsupported className _ _ => some className
  | inputOutput _ _ => none
  | config _ => none

end Failure

end NativeBindings
