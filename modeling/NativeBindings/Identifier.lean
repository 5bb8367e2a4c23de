import NativeBindings.Unicode.Numeric

/-!
# Identifiers and qualified names

An identifier starts with a letter, `_` or `$` and goes on with letters, numbers, `_` and `$`,
where letters and numbers are those of any script. A qualified name is one or more identifiers
joined by dots.
-/

namespace NativeBindings

open Unicode (isAlphabetic isAlphanumeric)

/-- A character that may open an identifier. -/
def isIdentifierStart (c : Char) : Bool :=
  c = '_' || c = '$' || isAlphabetic c

/-- A character that may stand in an identifier after the first. -/
def isIdentifierPart (c : Char) : Bool :=
  c = '_' || c = '$' || isAlphanumeric c

/-- Whether the characters form an identifier. -/
def isIdentifierChars : List Char → Bool
  | [] => false
  | first :: rest => isIdentifierStart first && rest.all isIdentifierPart

/-- Whether the characters form identifiers joined by dots. -/
def isQualifiedChars (cs : List Char) : Bool :=
  (cs.splitOn '.').all isIdentifierChars

/-- Whether a name is an identifier. -/
def isIdentifier (name : String) : Bool :=
  isIdentifierChars name.toList

/-- Whether a name is a qualified name. -/
def isQualifiedName (name : String) : Bool :=
  isQualifiedChars name.toList

end NativeBindings
