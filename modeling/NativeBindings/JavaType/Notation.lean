import NativeBindings.Identifier
import NativeBindings.JavaType

/-!
# Reading types from declarations

A type is a keyword or a qualified class name, followed by any number of `[]`; blanks may stand
around the whole and before each pair of brackets. Type arguments are dropped: from the first
`<` on, a class name that ends in `>` is cut off.
-/

namespace NativeBindings

/-- Why a text names no type. -/
inductive TypeNameFault
  | missingName
  | unbalancedBrackets
  | voidElement
  | unterminatedArguments
  | notQualified
  | truncatedDescriptor
  | unterminatedClass
  | unknownLetter
  deriving DecidableEq, Repr

/-- The wording of a fault. -/
def TypeNameFault.text : TypeNameFault → String
  | missingName => "missing type name"
  | unbalancedBrackets => "unbalanced array brackets"
  | voidElement => "void cannot be an array element"
  | unterminatedArguments => "unterminated type arguments"
  | notQualified => "not a valid qualified class name"
  | truncatedDescriptor => "truncated descriptor"
  | unterminatedClass => "unterminated class descriptor"
  | unknownLetter => "unknown descriptor character"

/-- A text that names no type, as it was given, and what is wrong with it. -/
structure TypeNameError where
  name : String
  fault : TypeNameFault
  deriving DecidableEq, Repr

/-- The message for a text that names no type. -/
def TypeNameError.message (e : TypeNameError) : String :=
  "invalid type `" ++ e.name ++ "`: " ++ e.fault.text

namespace JavaType

/-- Take `[]` and blanks off the front of a reversed text: the number of pairs, and what is left. -/
def stripBrackets : List Char → Nat × List Char
  | [] => (0, [])
  | ']' :: '[' :: rest => let inner := stripBrackets rest; (inner.1 + 1, inner.2)
  | c :: rest => if Unicode.isBlank c then stripBrackets rest else (0, c :: rest)

/-- The number of trailing `[]` of a text, and the text before them without its outer blanks. -/
def splitBrackets (cs : List Char) : Nat × List Char :=
  let stripped := stripBrackets cs.reverse
  (stripped.1, Text.trimStart stripped.2.reverse)

/-- Drop the type arguments of a class name: everything from the first `<`, if a `>` ends the
name. -/
def eraseArguments (cs : List Char) : Except TypeNameFault (List Char) :=
  if '<' ∈ cs then
    if cs.getLast? = some '>' then .ok (Text.trimEnd (cs.takeWhile (· ≠ '<')))
    else .error .unterminatedArguments
  else .ok cs

/-- A class by its written name, with or without type arguments. -/
def ofClassName (cs : List Char) : Except TypeNameFault JavaType := do
  let name ← eraseArguments cs
  if isQualifiedChars name then .ok (object (String.ofList name)) else .error .notQualified

/-- The type that the characters name, or what is wrong with them. -/
def ofNotation (cs : List Char) : Except TypeNameFault JavaType :=
  let (levels, name) := splitBrackets cs
  if name.isEmpty then .error .missingName
  else if '[' ∈ name ∨ ']' ∈ name then .error .unbalancedBrackets
  else match Primitive.ofKeyword? (String.ofList name) with
    | some kind =>
      if kind = .void ∧ levels > 0 then .error .voidElement
      else .ok (arrayOf levels (primitive kind))
    | none => (ofClassName name).map (arrayOf levels)

/-- Read a type as it is written in a declaration. -/
def parse (source : String) : Except TypeNameError JavaType :=
  (ofNotation source.toList).mapError (⟨source, ·⟩)

end JavaType

end NativeBindings
