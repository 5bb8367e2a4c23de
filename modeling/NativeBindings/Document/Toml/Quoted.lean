import NativeBindings.Document.Toml.Word

/-!
# Quoted text of TOML

Text stands in double quotes, where a backslash opens an escape, or in single quotes, where it
does not. Three quotes open a text of several lines; a line end right after them is dropped, and
so are a backslash at the end of a line and all blanks and line ends after it.
-/

namespace NativeBindings.Document.Toml

/-- A character of a quoted text, or the mark of a backslash at the end of a line. -/
inductive Element
  | literal (c : Char)
  | escaped (c : Char)
  | fold
  deriving DecidableEq, Repr

/-- The end of a quoted text, if it stands at the front: quotes that still belong to the text, and
what follows. At the end of a text of several lines up to two quotes belong to it. -/
def closing? (quote : Char) (multiline : Bool) (cs : List Char) :
    Option (List Element × List Char) :=
  if multiline then
    match cs with
    | a :: b :: c :: rest =>
      if a = quote ∧ b = quote ∧ c = quote then
        let extra := (rest.take 2).takeWhile (· = quote)
        some (extra.map .literal, rest.drop extra.length)
      else none
    | _ => none
  else
    match cs with
    | a :: rest => if a = quote then some ([], rest) else none
    | [] => none

/-- The character of a one-letter escape. -/
def escape? : Char → Option Char
  | 'b' => some '\x08'
  | 't' => some '\t'
  | 'n' => some '\n'
  | 'f' => some '\x0c'
  | 'r' => some '\r'
  | 'e' => some '\x1b'
  | '"' => some '"'
  | '\\' => some '\\'
  | _ => none

/-- The character with a code in hexadecimal digits. -/
def codeEscape? (digits : List Char) : Option Char :=
  if digits.all isHexDigit then
    let code := digitsValue 16 digits
    if code < 0xD800 ∨ (0xDFFF < code ∧ code < 0x110000) then some (Char.ofNat code) else none
  else none

/-- Whether a text may hold the character as it stands; `next` is the character after it. -/
def isPlain (multiline : Bool) (c : Char) (next : Option Char) : Bool :=
  c = '\t' || (' ' ≤ c && c ≠ '\x7f') ||
    (multiline && (c = '\n' || (c = '\r' && next == some '\n')))

/-- The elements of a quoted text up to its end, and what follows it. -/
def elements (quote : Char) (multiline : Bool) : List Char → Option (List Element × List Char)
  | [] => none
  | c :: rest =>
    match closing? quote multiline (c :: rest) with
    | some found => some found
    | none =>
      if c = '\\' ∧ quote = '"' then
        match rest with
        | 'x' :: h₁ :: h₂ :: rest => do
          let code ← codeEscape? [h₁, h₂]
          let (more, rest) ← elements quote multiline rest
          return (.escaped code :: more, rest)
        | 'u' :: h₁ :: h₂ :: h₃ :: h₄ :: rest => do
          let code ← codeEscape? [h₁, h₂, h₃, h₄]
          let (more, rest) ← elements quote multiline rest
          return (.escaped code :: more, rest)
        | 'U' :: h₁ :: h₂ :: h₃ :: h₄ :: h₅ :: h₆ :: h₇ :: h₈ :: rest => do
          let code ← codeEscape? [h₁, h₂, h₃, h₄, h₅, h₆, h₇, h₈]
          let (more, rest) ← elements quote multiline rest
          return (.escaped code :: more, rest)
        | letter :: after =>
          match escape? letter with
          | some code => do
            let (more, rest) ← elements quote multiline after
            return (.escaped code :: more, rest)
          | none =>
            if multiline then do
              let (more, rest) ← elements quote multiline (letter :: after)
              return (.fold :: more, rest)
            else none
        | [] => none
      else if isPlain multiline c rest.head? then do
        let (more, rest) ← elements quote multiline rest
        return (.literal c :: more, rest)
      else none

/-- Whether an element is a blank that stands in the text itself. -/
def isLiteralBlank (element : Element) : Bool :=
  element = .literal ' ' || element = .literal '\t'

/-- Whether an element belongs to a line end that stands in the text itself. -/
def isLiteralLineEnd (element : Element) : Bool :=
  element = .literal '\n' || element = .literal '\r'

/-- The characters of the elements, with every folded line end dropped. Before a line end only
blanks may follow the backslash. -/
def foldElements : List Element → Option (List Element)
  | [] => some []
  | .fold :: rest => do
    let more ← foldElements rest
    let more := more.dropWhile isLiteralBlank
    if more.head?.any isLiteralLineEnd then
      some (more.dropWhile fun element => isLiteralBlank element || isLiteralLineEnd element)
    else none
  | element :: rest => (foldElements rest).map (element :: ·)

/-- The character of an element. -/
def Element.char? : Element → Option Char
  | literal c => some c
  | escaped c => some c
  | fold => none

/-- Drop the line end right after the opening quotes. -/
def dropFirstLineEnd : List Char → List Char
  | '\n' :: rest => rest
  | '\r' :: '\n' :: rest => rest
  | cs => cs

/-- A quoted text after its opening quotes. -/
def quotedBody (quote : Char) (multiline : Bool) (cs : List Char) :
    Option (String × List Char) := do
  let (found, rest) ← elements quote multiline (if multiline then dropFirstLineEnd cs else cs)
  let folded ← foldElements found
  return (String.ofList (folded.filterMap Element.char?), rest)

/-- A text in single or double quotes on one line. -/
def lineText : List Char → Option (String × List Char)
  | '"' :: rest => quotedBody '"' false rest
  | '\'' :: rest => quotedBody '\'' false rest
  | _ => none

/-- A quoted text of one or several lines. -/
def quotedText (cs : List Char) : Option (String × List Char) :=
  match cs with
  | '"' :: '"' :: '"' :: rest => quotedBody '"' true rest
  | '\'' :: '\'' :: '\'' :: rest => quotedBody '\'' true rest
  | _ => lineText cs

end NativeBindings.Document.Toml
