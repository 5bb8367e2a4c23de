import NativeBindings.Document.Toml.Quoted
import NativeBindings.Document.Toml.Table

/-!
# Reading TOML

A reader of TOML 1.1. The whole document has to be valid, also the parts that nothing reads.
Arrays and inline tables nest at most eighty levels deep, and a dotted key has at most eighty
parts.
-/

namespace NativeBindings.Document.Toml

/-- The limit on levels of nesting and on the parts of a key. -/
def nestingLimit : Nat :=
  80

/-- Whether a character is a blank within a line. -/
def isSpace (c : Char) : Bool :=
  c = ' ' || c = '\t'

/-- Drop the blanks at the front. -/
def skipSpace (cs : List Char) : List Char :=
  cs.dropWhile isSpace

/-- Whether a character may stand in a comment. -/
def isCommentChar (c : Char) : Bool :=
  c = '\t' || (' ' ≤ c && c ≠ '\x7f')

/-- Drop blanks, line ends and comments; a line ends in LF or CR LF. -/
def skipLines (inComment : Bool) : List Char → Option (List Char)
  | [] => some []
  | '\n' :: rest => skipLines false rest
  | '\r' :: '\n' :: rest => skipLines false rest
  | c :: rest =>
    if inComment then if isCommentChar c then skipLines true rest else none
    else if isSpace c then skipLines false rest
    else if c = '#' then skipLines true rest
    else some (c :: rest)

/-- Drop the blanks and the comment at the end of a line, and the line end; the end of the
document ends a line too. -/
def skipLineEnd (cs : List Char) : Option (List Char) :=
  let rest := skipSpace cs
  let rest := match rest with
    | '#' :: comment => comment.dropWhile isCommentChar
    | _ => rest
  match rest with
  | [] => some []
  | '\n' :: rest => some rest
  | '\r' :: '\n' :: rest => some rest
  | _ => none

/-- Whether a character may stand in a key without quotes. -/
def isBareKeyChar (c : Char) : Bool :=
  isDigit c || ('a' ≤ c && c ≤ 'z') || ('A' ≤ c && c ≤ 'Z') || c = '_' || c = '-'

/-- One part of a key. -/
def keyPart (cs : List Char) : Option (String × List Char) :=
  match lineText cs with
  | some found => some found
  | none =>
    let bare := cs.takeWhile isBareKeyChar
    if bare.isEmpty then none else some (String.ofList bare, cs.dropWhile isBareKeyChar)

/-- The parts of a dotted key, at most so many. -/
def keyParts : Nat → List Char → Option (List String × List Char)
  | 0, _ => none
  | limit + 1, cs => do
    let (part, rest) ← keyPart (skipSpace cs)
    match skipSpace rest with
    | '.' :: rest =>
      let (more, rest) ← keyParts limit rest
      return (part :: more, rest)
    | rest => return ([part], rest)

/-- The parts of a key before the last, and the last one. -/
def splitKey (parts : List String) : Option (List String × String) :=
  parts.getLast?.map (parts.dropLast, ·)

/-- Whether a character ends an unquoted value. Quotes do not, once a value has begun. -/
def endsWord (c : Char) : Bool :=
  c = '\n' || c = '\r' || c = ',' || c = ']' || c = '}' || c = '[' || c = '{' || c = '#' || c = '='

/-- An unquoted value and what follows it. Blanks belong to the value if more of it comes after
them, as they may between a date and a time of day. -/
def takeWord (cs : List Char) : List Char × List Char :=
  let spaced := cs.takeWhile (!endsWord ·)
  let word := (spaced.reverse.dropWhile isSpace).reverse
  (word, cs.drop word.length)

/-- The value of an unquoted word. -/
def wordValue (word : List Char) : Option Value :=
  if word = "true".toList then some (.boolean true)
  else if word = "false".toList then some (.boolean false)
  else if isTimestamp word then some .timestamp
  else match (wholeFits? word).or (floatFits? word) with
    | some true => some .number
    | some false => some .unfit
    | none => none

/-- Items up to a closing bracket, separated by commas; a comma may stand after the last one, and
blanks, line ends and comments may stand anywhere between. -/
def items {α : Type} (item : List Char → Option (α × List Char)) (close : Char) :
    Nat → List Char → Option (List α × List Char)
  | 0, _ => none
  | fuel + 1, cs => do
    match ← skipLines false cs with
    | [] => none
    | c :: rest =>
      if c = close then some ([], rest)
      else
        let (first, rest) ← item (c :: rest)
        match ← skipLines false rest with
        | [] => none
        | c :: rest =>
          if c = close then some ([first], rest)
          else if c = ',' then
            let (more, rest) ← items item close fuel rest
            return (first :: more, rest)
          else none

/-- A key, an equals sign and a value, with whatever `skip` passes over around the sign. -/
def assignment (skip : List Char → Option (List Char))
    (value : List Char → Option (Value × List Char)) (cs : List Char) :
    Option (Assignment × List Char) := do
  let (parts, rest) ← keyParts nestingLimit cs
  let (path, key) ← splitKey parts
  match ← skip rest with
  | '=' :: rest =>
    let (content, rest) ← value (← skip rest)
    return (⟨path, key, content⟩, rest)
  | _ => none

/-- A value that has no other values in it. -/
def scalar (cs : List Char) : Option (Value × List Char) :=
  match cs with
  | '"' :: _ => (quotedText cs).map fun (content, rest) => (.text content, rest)
  | '\'' :: _ => (quotedText cs).map fun (content, rest) => (.text content, rest)
  | _ => do
    let (word, rest) := takeWord cs
    return (← wordValue word, rest)

/-- The value at the front, in which arrays and inline tables nest at most so many levels deep. In
an inline table the equals sign may stand on a line of its own. -/
def value : Nat → List Char → Option (Value × List Char)
  | 0, cs => scalar cs
  | depth + 1, cs =>
    match cs with
    | '[' :: rest =>
      (items (value depth) ']' rest.length rest).map fun (contents, rest) => (.list contents, rest)
    | '{' :: rest => do
      let (assignments, rest) ←
        items (assignment (skipLines false) (value depth)) '}' rest.length rest
      return (← inlineTable assignments, rest)
    | _ => scalar cs

/-- A header after its first bracket. -/
def header (cs : List Char) : Option (Header × List Char) :=
  match cs with
  | '[' :: rest => do
    let (parts, rest) ← keyParts nestingLimit rest
    let (path, key) ← splitKey parts
    match rest with
    | ']' :: ']' :: rest => return (⟨path, key, true⟩, rest)
    | _ => none
  | _ => do
    let (parts, rest) ← keyParts nestingLimit cs
    let (path, key) ← splitKey parts
    match rest with
    | ']' :: rest => return (⟨path, key, false⟩, rest)
    | _ => none

/-- A line of a document that says something. -/
inductive Statement
  | header (header : Header)
  | assignment (assignment : Assignment)

/-- One statement and the rest of its line. -/
def statement (cs : List Char) : Option (Statement × List Char) :=
  match cs with
  | '[' :: rest => do
    let (found, rest) ← header rest
    return (.header found, ← skipLineEnd rest)
  | _ => do
    let (found, rest) ← assignment (some <| skipSpace ·) (value nestingLimit) cs
    return (.assignment found, ← skipLineEnd rest)

/-- The statements of a document, one a line. -/
def statements : Nat → List Char → Option (List Statement)
  | 0, _ => none
  | fuel + 1, cs => do
    match ← skipLines false cs with
    | [] => return []
    | cs =>
      let (first, rest) ← statement cs
      return first :: (← statements fuel rest)

/-- The assignments before the first header, and the section of every header. -/
def sections : List Statement → List Assignment × List Section
  | [] => ([], [])
  | .assignment found :: rest =>
    let (assignments, parts) := sections rest
    (found :: assignments, parts)
  | .header found :: rest =>
    let (assignments, parts) := sections rest
    ([], ⟨found, assignments⟩ :: parts)

/-- The record that a document holds. A byte order mark may stand at its front. -/
def read (document : String) : Option Value := do
  let cs := match document.toList with
    | '\ufeff' :: rest => rest
    | cs => cs
  let (assignments, parts) := sections (← statements (cs.length + 1) cs)
  let root ← assignAll [] assignments
  let root ← parts.foldlM addSection root
  return .record (fieldsOf root)

end NativeBindings.Document.Toml
