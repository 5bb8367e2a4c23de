import NativeBindings.Symbol

/-!
# Class names

The binary name of a class and its forms: the simple name, the name with another separator, and
the name as it stands in symbols.
-/

namespace NativeBindings

/-- What follows the last separator. -/
def lastSegment (separator : Char) (cs : List Char) : List Char :=
  (cs.reverse.takeWhile (· ≠ separator)).reverse

/-- The binary name of a class. -/
structure ClassName where
  qualified : String
  deriving DecidableEq, Repr

namespace ClassName

/-- The name without package and enclosing classes: what follows the last dot, and the last dollar
sign after that. -/
def simple (name : ClassName) : String :=
  String.ofList (lastSegment '$' (lastSegment '.' name.qualified.toList))

/-- The name as it stands in symbols. -/
def escaped (name : ClassName) : String :=
  Symbol.escape name.qualified

/-- The name with another text in the place of every dot. -/
def delimitedWith (name : ClassName) (separator : String) : String :=
  String.ofList (name.qualified.toList.flatMap fun c => if c = '.' then separator.toList else [c])

end ClassName

end NativeBindings
