/-!
# UTF-8

Bytes are decoded one at a time. A sequence that cannot be completed is reported as one stray
piece as long as its well-formed beginning, so that every byte belongs to exactly one piece.
-/

namespace NativeBindings.Utf8

/-- A piece of decoded text: a character, or bytes that form none. -/
inductive Piece
  | char (c : Char)
  /-- So many bytes that form no character; `cut` if the text ends inside a sequence. -/
  | stray (size : Nat) (cut : Bool)
  deriving DecidableEq, Repr

/-- A sequence that has begun: how many bytes are missing, the range of the next one, the value
of the bits so far and the number of bytes seen. -/
structure Pending where
  missing : Nat
  low : UInt8
  high : UInt8
  bits : Nat
  seen : Nat
  deriving DecidableEq, Repr

/-- A byte that stands where a sequence may begin. The ranges of the second byte shut out long
forms, surrogates and values beyond the last code point. -/
def start (b : UInt8) : List Piece × Option Pending :=
  if b < 0x80 then ([.char (Char.ofNat b.toNat)], none)
  else if b < 0xC2 then ([.stray 1 false], none)
  else if b < 0xE0 then ([], some ⟨1, 0x80, 0xBF, b.toNat - 0xC0, 1⟩)
  else if b < 0xF0 then
    ([], some ⟨2, if b = 0xE0 then 0xA0 else 0x80, if b = 0xED then 0x9F else 0xBF,
      b.toNat - 0xE0, 1⟩)
  else if b < 0xF5 then
    ([], some ⟨3, if b = 0xF0 then 0x90 else 0x80, if b = 0xF4 then 0x8F else 0xBF,
      b.toNat - 0xF0, 1⟩)
  else ([.stray 1 false], none)

/-- Take one more byte. -/
def step : Option Pending → UInt8 → List Piece × Option Pending
  | none, b => start b
  | some pending, b =>
    if pending.low ≤ b ∧ b ≤ pending.high then
      let bits := pending.bits * 64 + (b.toNat - 0x80)
      if pending.missing = 1 then ([.char (Char.ofNat bits)], none)
      else ([], some ⟨pending.missing - 1, 0x80, 0xBF, bits, pending.seen + 1⟩)
    else
      let begun := start b
      (.stray pending.seen false :: begun.1, begun.2)

/-- Decode the bytes after those of a sequence that has begun. -/
def decodeFrom : Option Pending → List UInt8 → List Piece
  | none, [] => []
  | some pending, [] => [.stray pending.seen true]
  | pending, b :: rest =>
    let taken := step pending b
    taken.1 ++ decodeFrom taken.2 rest

/-- The pieces of a text in bytes. -/
def decode (bytes : List UInt8) : List Piece :=
  decodeFrom none bytes

/-- The bytes of a text. -/
def encode (text : String) : List UInt8 :=
  text.toList.flatMap String.utf8EncodeChar

/-- Where bytes stop being text: the offset of the first stray piece, and its size unless the
text is cut off there. -/
structure Fault where
  offset : Nat
  size : Option Nat
  deriving DecidableEq, Repr

/-- The wording of a fault. -/
def Fault.text (fault : Fault) : String :=
  match fault.size with
  | some size =>
    "invalid utf-8 sequence of " ++ toString size ++ " bytes from index " ++ toString fault.offset
  | none => "incomplete utf-8 byte sequence from index " ++ toString fault.offset

/-- The characters of pieces that start at an offset, if there is no stray one. -/
def charsFrom (offset : Nat) : List Piece → Except Fault (List Char)
  | [] => .ok []
  | .char c :: rest => (charsFrom (offset + c.utf8Size) rest).map (c :: ·)
  | .stray size cut :: _ => .error ⟨offset, if cut then none else some size⟩

/-- The text that the bytes encode. -/
def text (bytes : List UInt8) : Except Fault String :=
  (charsFrom 0 (decode bytes)).map String.ofList

end NativeBindings.Utf8
