/-!
# Paths

A path is a text whose parts are separated by slashes. Joining keeps the text as it was given;
the parts that lead through a file tree leave out empty ones and single dots.
-/

namespace NativeBindings

/-- The place of a file or directory, as written. -/
structure Path where
  text : String
  deriving DecidableEq, Repr

namespace Path

/-- The text between the slashes, with empty parts. -/
def segments (path : Path) : List String :=
  (path.text.toList.splitOn '/').map String.ofList

/-- Whether a segment names something; an empty one and a single dot stay where they are. -/
def isNamed (segment : String) : Bool :=
  segment ≠ "" && segment ≠ "."

/-- The parts that name something. -/
def parts (path : Path) : List String :=
  path.segments.filter isNamed

/-- Whether a path starts at the root. -/
def isAbsolute (path : Path) : Bool :=
  path.text.toList.head? == some '/'

/-- A path below another one; an absolute path stands for itself. -/
def join (path below : Path) : Path :=
  if below.isAbsolute || path.text = "" then below
  else if path.text.toList.getLast? = some '/' then ⟨path.text ++ below.text⟩
  else ⟨path.text ++ "/" ++ below.text⟩

/-- Drop the segments at the front of a reversed path that name nothing, except the last, which
tells an absolute path from a relative one. -/
def dropUnnamed : List String → List String
  | segment :: next :: rest =>
    if segment = "" || segment = "." then dropUnnamed (next :: rest) else segment :: next :: rest
  | segments => segments

/-- The path without its last part; the root and the empty path have no part to leave out. -/
def parent? (path : Path) : Option Path :=
  match dropUnnamed path.segments.reverse with
  | [""] => none
  | segments =>
    match dropUnnamed (segments.drop 1) with
    | [""] => some ⟨"/"⟩
    | above => some ⟨String.intercalate "/" above.reverse⟩

/-- The last part, if it names a file. -/
def fileName? (path : Path) : Option String :=
  path.parts.getLast?.filter (· ≠ "..")

/-- What follows the last dot of the file name; a dot at its front does not count. -/
def extension? (path : Path) : Option String :=
  path.fileName?.bind fun name =>
    let chars := name.toList
    let after := (chars.reverse.takeWhile (· ≠ '.')).reverse
    if after.length + 1 < chars.length then some (String.ofList after) else none

end Path

end NativeBindings
