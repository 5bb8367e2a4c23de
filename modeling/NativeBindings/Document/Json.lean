import NativeBindings.Document.Value
import NativeBindings.Utf8

/-!
# Reading JSON

A strict reader of RFC 8259: no comments, no trailing commas, nothing before or after the value.
It works on bytes, because a text that nothing reads need not be Unicode text: its stray bytes
and lone surrogates are passed over, and the tree only says that the text is garbled.
-/

namespace NativeBindings.Document.Json

open Utf8 (Piece)

/-- The four characters that may stand between tokens. -/
def isSpace (piece : Piece) : Bool :=
  piece = .char ' ' || piece = .char '\t' || piece = .char '\n' || piece = .char '\r'

/-- Drop the space at the front. -/
def skipSpace (pieces : List Piece) : List Piece :=
  pieces.dropWhile isSpace

/-- The value of a hexadecimal digit. -/
def hexDigit? (c : Char) : Option Nat :=
  if '0' ≤ c ∧ c ≤ '9' then some (c.toNat - '0'.toNat)
  else if 'a' ≤ c ∧ c ≤ 'f' then some (c.toNat - 'a'.toNat + 10)
  else if 'A' ≤ c ∧ c ≤ 'F' then some (c.toNat - 'A'.toNat + 10)
  else none

/-- The value of four hexadecimal digits. -/
def hexUnit? (a b c d : Char) : Option Nat := do
  return (((← hexDigit? a) * 16 + (← hexDigit? b)) * 16 + (← hexDigit? c)) * 16 + (← hexDigit? d)

/-- What an element of a string stands for: a character, a UTF-16 unit written as an escape, or
bytes that form no character. -/
inductive Element
  | char (c : Char)
  | unit (code : Nat)
  | stray
  deriving DecidableEq, Repr

/-- The character of a one-letter escape. -/
def escape? : Char → Option Char
  | '"' => some '"'
  | '\\' => some '\\'
  | '/' => some '/'
  | 'b' => some '\x08'
  | 'f' => some '\x0c'
  | 'n' => some '\n'
  | 'r' => some '\r'
  | 't' => some '\t'
  | _ => none

/-- The elements of a string up to its closing quote, and what follows it. -/
def elements : List Piece → Option (List Element × List Piece)
  | [] => none
  | .char '"' :: rest => some ([], rest)
  | .char '\\' :: .char 'u' :: .char a :: .char b :: .char c :: .char d :: rest => do
    let code ← hexUnit? a b c d
    let (more, rest) ← elements rest
    return (.unit code :: more, rest)
  | .char '\\' :: .char letter :: rest => do
    let c ← escape? letter
    let (more, rest) ← elements rest
    return (.char c :: more, rest)
  | .char c :: rest =>
    if c = '\\' ∨ c < ' ' then none
    else (elements rest).map fun (more, rest) => (.char c :: more, rest)
  | .stray _ _ :: rest => (elements rest).map fun (more, rest) => (.stray :: more, rest)

/-- Whether a UTF-16 unit is the first half of a pair. -/
def isHighHalf (code : Nat) : Bool :=
  0xD800 ≤ code && code ≤ 0xDBFF

/-- Whether a UTF-16 unit is the second half of a pair. -/
def isLowHalf (code : Nat) : Bool :=
  0xDC00 ≤ code && code ≤ 0xDFFF

/-- The characters of a string's elements, if none is stray and every half has its other half. -/
def elementChars? : List Element → Option (List Char)
  | [] => some []
  | .char c :: rest => (elementChars? rest).map (c :: ·)
  | .unit high :: .unit low :: rest =>
    if isHighHalf high && isLowHalf low then
      (elementChars? rest).map
        (Char.ofNat (0x10000 + (high - 0xD800) * 0x400 + (low - 0xDC00)) :: ·)
    else if isHighHalf high || isLowHalf high then none
    else (elementChars? (.unit low :: rest)).map (Char.ofNat high :: ·)
  | .unit code :: rest =>
    if isHighHalf code || isLowHalf code then none
    else (elementChars? rest).map (Char.ofNat code :: ·)
  | .stray :: _ => none

/-- The text of a string, if it is Unicode text. -/
def elementText? (es : List Element) : Option String :=
  (elementChars? es).map String.ofList

/-- Whether a piece is a decimal digit. -/
def isDigit : Piece → Bool
  | .char c => '0' ≤ c && c ≤ '9'
  | .stray _ _ => false

/-- Drop one or more digits. -/
def skipDigits (pieces : List Piece) : Option (List Piece) :=
  if pieces.head?.any isDigit then some (pieces.dropWhile isDigit) else none

/-- Drop the whole part of a number: a zero, or digits that start with another one. -/
def skipWhole : List Piece → Option (List Piece)
  | .char '0' :: rest => some rest
  | pieces => skipDigits pieces

/-- Drop the fraction of a number, if it has one. -/
def skipFraction : List Piece → Option (List Piece)
  | .char '.' :: rest => skipDigits rest
  | pieces => some pieces

/-- Drop the sign of an exponent, if it has one. -/
def skipSign : List Piece → List Piece
  | .char '+' :: rest => rest
  | .char '-' :: rest => rest
  | pieces => pieces

/-- Drop the exponent of a number, if it has one. -/
def skipExponent : List Piece → Option (List Piece)
  | .char 'e' :: rest => skipDigits (skipSign rest)
  | .char 'E' :: rest => skipDigits (skipSign rest)
  | pieces => some pieces

/-- Drop a number; only its form is looked at. -/
def skipNumber (pieces : List Piece) : Option (List Piece) :=
  let unsigned := match pieces with
    | .char '-' :: rest => rest
    | _ => pieces
  do skipExponent (← skipFraction (← skipWhole unsigned))

/-- Items separated by commas up to the closing bracket: one item, then either the bracket or a
comma and more of them. -/
def itemsFrom {α : Type} (item : List Piece → Option (α × List Piece)) (close : Char) :
    Nat → List Piece → Option (List α × List Piece)
  | 0, _ => none
  | fuel + 1, pieces => do
    let (first, rest) ← item pieces
    match skipSpace rest with
    | .char c :: rest =>
      if c = close then some ([first], rest)
      else if c = ',' then
        (itemsFrom item close fuel rest).map fun (more, rest) => (first :: more, rest)
      else none
    | _ => none

/-- The items between an opening bracket, already taken, and its closing one. -/
def items {α : Type} (item : List Piece → Option (α × List Piece)) (close : Char)
    (pieces : List Piece) : Option (List α × List Piece) :=
  match skipSpace pieces with
  | .char c :: rest =>
    if c = close then some ([], rest) else itemsFrom item close pieces.length pieces
  | _ => none

/-- A key with its value. The key is missing if it is no Unicode text. -/
def member (value : List Piece → Option (Value × List Piece)) (pieces : List Piece) :
    Option ((Option String × Value) × List Piece) :=
  match skipSpace pieces with
  | .char '"' :: rest => do
    let (key, rest) ← elements rest
    match skipSpace rest with
    | .char ':' :: rest =>
      let (content, rest) ← value rest
      return ((elementText? key, content), rest)
    | _ => none
  | _ => none

/-- An object of members; it is garbled if one of its keys is. -/
def ofMembers (members : List (Option String × Value)) : Value :=
  match members.mapM fun (key, content) => key.map (·, content) with
  | some fields => .record fields
  | none => .garbled

/-- The value at the front, nested at most so many levels deep, and what follows it. -/
def value : Nat → List Piece → Option (Value × List Piece)
  | 0, _ => none
  | depth + 1, pieces =>
    match skipSpace pieces with
    | .char '"' :: rest =>
      (elements rest).map fun (es, rest) => (((elementText? es).map .text).getD .garbled, rest)
    | .char '[' :: rest =>
      (items (value depth) ']' rest).map fun (contents, rest) => (.list contents, rest)
    | .char '{' :: rest =>
      (items (member (value depth)) '}' rest).map fun (members, rest) => (ofMembers members, rest)
    | .char 'n' :: .char 'u' :: .char 'l' :: .char 'l' :: rest => some (.null, rest)
    | .char 't' :: .char 'r' :: .char 'u' :: .char 'e' :: rest => some (.boolean true, rest)
    | .char 'f' :: .char 'a' :: .char 'l' :: .char 's' :: .char 'e' :: rest =>
      some (.boolean false, rest)
    | rest => (skipNumber rest).map fun rest => (.number, rest)

/-- The value that a document holds, and nothing else. Every level of nesting takes a byte, so
their number bounds the depth. -/
def read (bytes : List UInt8) : Option Value :=
  let pieces := Utf8.decode bytes
  match value (pieces.length + 1) pieces with
  | some (content, rest) => if (skipSpace rest).isEmpty then some content else none
  | none => none

end NativeBindings.Document.Json
