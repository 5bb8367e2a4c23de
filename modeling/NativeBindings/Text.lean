import NativeBindings.Unicode.Blank

/-!
# Text as a list of characters

The few operations on text that the other modules share: taking blanks off the ends and putting
one character in the place of another. Names and documents are kept as `String`; the rules that
read and write them work on the list of their characters.
-/

namespace NativeBindings.Text

open Unicode (isBlank)

/-- Drop the blanks at the front. -/
def trimStart (cs : List Char) : List Char :=
  cs.dropWhile isBlank

/-- Drop the blanks at the back. -/
def trimEnd (cs : List Char) : List Char :=
  (cs.reverse.dropWhile isBlank).reverse

/-- Drop the blanks at both ends. -/
def trim (cs : List Char) : List Char :=
  trimEnd (trimStart cs)

/-- A text without its outer blanks. -/
def trimmed (s : String) : String :=
  String.ofList (trim s.toList)

/-- Whether a text is empty or holds nothing but blanks. -/
def isBlankText (s : String) : Bool :=
  s.toList.all isBlank

/-- Write `new` wherever `old` stands. -/
def substitute (old new : Char) (cs : List Char) : List Char :=
  cs.map fun c => if c = old then new else c

/-- Whether two texts are the same but for the case of ASCII letters. -/
def sameLetters : List Char → List Char → Bool
  | [], [] => true
  | a :: as, b :: bs => a.toLower == b.toLower && sameLetters as bs
  | _, _ => false

end NativeBindings.Text
