import NativeBindings.Unicode.Case

/-!
# Snake case

The form of a name with capitals written as `_` and the small letter.
-/

namespace NativeBindings

/-- Lower-case every capital, with `_` in front of it unless it is the first character. -/
def snakeChars : List Char → List Char
  | [] => []
  | first :: rest =>
    Unicode.lowercase first ++
      rest.flatMap fun c => if Unicode.isUppercase c then '_' :: Unicode.lowercase c else [c]

/-- A name in snake case; capitals that stand together are not grouped. -/
def snakeCase (name : String) : String :=
  String.ofList (snakeChars name.toList)

end NativeBindings
