import NativeBindings.NativeType
import NativeBindings.SnakeCase
import NativeBindings.Text

/-!
# Spellings in a binding module

How native types and Java names are written in the generated Rust code. Most reference types have
two spellings there: the raw one of the native interface, and a wrapper that carries a lifetime.
Parameters that are the environment, a class, a text or a plain object use the wrapper; all
others, and every result, use the raw one.
-/

namespace NativeBindings.Binding

/-- The raw spelling of a type. A function without a result returns the empty tuple. -/
def rawSpelling (type : NativeType) : String :=
  if type = .void then "()" else type.name

/-- The wrapper of a type, if its parameters use one. A trait method borrows the environment. -/
def wrapper? (inTrait : Bool) : NativeType → Option String
  | .classRef => some "JClass"
  | .string => some "JString"
  | .object => some "JObject"
  | .environment => some (if inTrait then "&mut JNIEnv" else "JNIEnv")
  | _ => none

/-- The spelling of a parameter's type. In a trait method wrappers carry the lifetime of the
trait; an exported function leaves it out. -/
def paramSpelling (inTrait : Bool) (type : NativeType) : String :=
  match wrapper? inTrait type with
  | some wrapper => if inTrait then wrapper ++ "<'a>" else wrapper
  | none => rawSpelling type

/-- The end of an exported function's header: an arrow and the type of the result, if it has
one. -/
def returnSign (type : NativeType) : String :=
  if type = .void then "" else " -> " ++ rawSpelling type

/-- The expression that stands for a result after an exception has been thrown. The environment
is never a result. -/
def placeholder? (type : NativeType) : Option String :=
  if type.isScalar then some "Default::default()"
  else if type.isReference then some "JObject::null().into_raw()"
  else none

/-- The words that are names only in raw form. -/
def keywords : List String :=
  ["as", "async", "await", "box", "break", "const", "continue", "do", "dyn", "else", "enum",
    "extern", "false", "fn", "for", "gen", "if", "impl", "in", "let", "loop", "macro", "match",
    "mod", "move", "mut", "priv", "pub", "ref", "return", "static", "struct", "trait", "true",
    "try", "type", "typeof", "unsafe", "unsized", "use", "virtual", "where", "while", "yield"]

/-- The words that are no names even in raw form. -/
def reservedWords : List String :=
  ["self", "Self", "super", "crate"]

/-- A name as the generated code accepts it, keywords in raw form; the reserved words have none. -/
def rawName? (name : String) : Option String :=
  if name ∈ reservedWords then none
  else if name ∈ keywords then some ("r#" ++ name)
  else some name

/-- A Java name in snake case, without dollar signs. -/
def snakeName (javaName : String) : String :=
  String.ofList (Text.substitute '$' '_' (snakeCase javaName).toList)

/-- The name in the generated code for a Java name; a reserved word gets an underscore at its
end. -/
def nameFor (javaName : String) : String :=
  (rawName? (snakeName javaName)).getD (snakeName javaName ++ "_")

end NativeBindings.Binding
