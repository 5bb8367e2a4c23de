/-!
# Unquoted values of TOML

An unquoted value is one word: a truth value, a whole number, a floating-point number, or a date
and time. Numbers and times are only checked, since no field holds one: a number has to be well
formed wherever it stands, and it has to fit a machine number wherever it is looked at. Whole
numbers with underscores are well formed if the underscores are; which other characters stand
between these only counts where the number is looked at.
-/

namespace NativeBindings.Document.Toml

/-- Whether a character is a decimal digit. -/
def isDigit (c : Char) : Bool :=
  '0' ≤ c && c ≤ '9'

/-- Whether a character is a hexadecimal digit. -/
def isHexDigit (c : Char) : Bool :=
  isDigit c || ('a' ≤ c && c ≤ 'f') || ('A' ≤ c && c ≤ 'F')

/-- The value of a digit in any base up to sixteen. -/
def digitValue (c : Char) : Nat :=
  if isDigit c then c.toNat - '0'.toNat
  else if 'a' ≤ c then c.toNat - 'a'.toNat + 10
  else c.toNat - 'A'.toNat + 10

/-- The number that digits form. -/
def digitsValue (radix : Nat) (digits : List Char) : Nat :=
  digits.foldl (fun value digit => value * radix + digitValue digit) 0

/-- The digits of a number, which single underscores may separate. -/
def digits? (isDigit : Char → Bool) (cs : List Char) : Option (List Char) :=
  let groups := cs.splitOn '_'
  if groups.all (fun group => !group.isEmpty && group.all isDigit) then some groups.flatten
  else none

/-- A sign. -/
inductive Sign
  | plus
  | minus
  deriving DecidableEq, Repr

/-- The sign of a number, if it has one, and what follows it. -/
def takeSign : List Char → Option Sign × List Char
  | '-' :: rest => (some .minus, rest)
  | '+' :: rest => (some .plus, rest)
  | rest => (none, rest)

/-- Decimal digits without a needless zero in front. One underscore may stand after the sign;
zeros after it are not needless. -/
def wholeDigits? (sign : Option Sign) (cs : List Char) : Option (List Char) :=
  match sign, cs with
  | some _, '_' :: rest => digits? isDigit rest
  | _, _ => (digits? isDigit cs).filter fun digits => digits.length = 1 || digits.head? != some '0'

/-- Whether a word counts as a whole number by its underscores alone: only digits stand before the
first one, without a zero in front, and every underscore has a hexadecimal digit on both sides or
the sign before it. Spaces and the marks of a floating-point number may stand nowhere. -/
def isGrouped (sign : Option Sign) (cs : List Char) : Bool :=
  match cs.splitOn '_' with
  | first :: second :: rest =>
    let groups := second :: rest
    first.all isDigit && first.head? != some '0' && (sign.isSome || !first.isEmpty) &&
      groups.all (fun group => group.head?.any isHexDigit && group.all (· ∉ ['.', 'e', 'E', ' ']))
      && groups.dropLast.all (·.getLast?.any isHexDigit)
  | _ => false

/-- Whole numbers have to fit in 128 bits, with or without a sign. -/
def fitsWhole (sign : Option Sign) (magnitude : Nat) : Bool :=
  if sign = some .minus then magnitude ≤ Nat.pow 2 127 else magnitude < Nat.pow 2 128

/-- Whether a whole number fits: decimal with an optional sign, or hexadecimal, octal or binary
without. A base without digits after it is a number that does not fit, and so is a number that
counts as one by its underscores alone; `none` means that the word is no whole number. -/
def wholeFits? (cs : List Char) : Option Bool :=
  match cs with
  | '0' :: 'x' :: rest => inBase 16 isHexDigit rest
  | '0' :: 'o' :: rest => inBase 8 (fun c => '0' ≤ c && c ≤ '7') rest
  | '0' :: 'b' :: rest => inBase 2 (fun c => c = '0' || c = '1') rest
  | _ =>
    let (sign, rest) := takeSign cs
    match wholeDigits? sign rest with
    | some digits => some (fitsWhole sign (digitsValue 10 digits))
    | none => if isGrouped sign rest then some false else none
where
  inBase (radix : Nat) (isDigit : Char → Bool) (cs : List Char) : Option Bool :=
    if cs.isEmpty then some false
    else (digits? isDigit cs).map fun digits => fitsWhole none (digitsValue radix digits)

/-- Whether the decimal number `0.digits · 10 ^ scale` stays below the point where a
double-precision number becomes infinite. The digits start with no zero; a scale beyond four
hundred decides the question alone. -/
def isFiniteDecimal (digits : List Char) (scale : Int) : Bool :=
  if digits.isEmpty || scale < -400 then true
  else if scale > 400 then false
  else
    let bound := Nat.pow 2 1024 - Nat.pow 2 970
    if scale ≥ digits.length then
      digitsValue 10 digits * Nat.pow 10 (scale - digits.length).toNat < bound
    else digitsValue 10 digits < bound * Nat.pow 10 ((digits.length : Int) - scale).toNat

/-- The parts of a word around the first exponent mark. -/
def splitExponent (cs : List Char) : List Char × Option (List Char) :=
  match cs.dropWhile (fun c => c ≠ 'e' ∧ c ≠ 'E') with
  | [] => (cs, none)
  | _ :: rest => (cs.takeWhile (fun c => c ≠ 'e' ∧ c ≠ 'E'), some rest)

/-- The exponent of a number; a missing one is zero. -/
def exponent? : Option (List Char) → Option Int
  | none => some 0
  | some cs =>
    let (sign, rest) := takeSign cs
    (digits? isDigit rest).map fun digits =>
      if sign = some .minus then -(digitsValue 10 digits : Int) else digitsValue 10 digits

/-- Whether a floating-point number fits: whole digits with a fraction, an exponent or both, or the
words for infinity and for no number; `none` means that the word is no such number. -/
def floatFits? (cs : List Char) : Option Bool :=
  let (sign, unsigned) := takeSign cs
  if unsigned = "inf".toList ∨ unsigned = "nan".toList then some true
  else
    let (mantissa, exponent) := splitExponent unsigned
    let parts := match mantissa.splitOn '.' with
      | [whole] => if exponent.isSome then some (whole, none) else none
      | [whole, fraction] => some (whole, some fraction)
      | _ => none
    match parts with
    | none => none
    | some (whole, fraction) =>
      match wholeDigits? sign whole, (fraction.map (digits? isDigit)).getD (some []),
          exponent? exponent with
      | some whole, some fraction, some exponent =>
        let digits := whole ++ fraction
        let significant := digits.dropWhile (· = '0')
        some (isFiniteDecimal significant
          (exponent + whole.length - (digits.length - significant.length : Nat)))
      | _, _, _ => none

/-- The value of two decimal digits. -/
def twoDigits? (a b : Char) : Option Nat :=
  if isDigit a && isDigit b then some (digitsValue 10 [a, b]) else none

/-- The number of days of a month. -/
def daysInMonth (year month : Nat) : Nat :=
  if month = 2 then
    if year % 4 = 0 ∧ (year % 100 ≠ 0 ∨ year % 400 = 0) then 29 else 28
  else if month = 4 ∨ month = 6 ∨ month = 9 ∨ month = 11 then 30
  else 31

/-- A date at the front of a word, and what follows it. -/
def takeDate : List Char → Option (List Char)
  | y₁ :: y₂ :: y₃ :: y₄ :: '-' :: m₁ :: m₂ :: '-' :: d₁ :: d₂ :: rest => do
    let century ← twoDigits? y₁ y₂
    let year ← twoDigits? y₃ y₄
    let month ← twoDigits? m₁ m₂
    let day ← twoDigits? d₁ d₂
    if 1 ≤ month ∧ month ≤ 12 ∧ 1 ≤ day ∧ day ≤ daysInMonth (century * 100 + year) month then
      some rest
    else none
  | _ => none

/-- The fraction of a second, if there is one, and what follows it. -/
def takeSecondFraction : List Char → Option (List Char)
  | '.' :: rest => if rest.head?.any isDigit then some (rest.dropWhile isDigit) else none
  | rest => some rest

/-- The seconds of a time, if there are any, and what follows them. -/
def takeSeconds : List Char → Option (List Char)
  | ':' :: s₁ :: s₂ :: rest => do
    if (← twoDigits? s₁ s₂) ≤ 60 then takeSecondFraction rest else none
  | ':' :: _ => none
  | rest => some rest

/-- A time of day at the front of a word, and what follows it. -/
def takeTime : List Char → Option (List Char)
  | h₁ :: h₂ :: ':' :: m₁ :: m₂ :: rest => do
    if (← twoDigits? h₁ h₂) ≤ 23 ∧ (← twoDigits? m₁ m₂) ≤ 59 then takeSeconds rest else none
  | _ => none

/-- An offset from universal time. -/
def isOffset : List Char → Bool
  | ['Z'] => true
  | ['z'] => true
  | [sign, h₁, h₂, ':', m₁, m₂] =>
    (sign = '+' || sign = '-') && (twoDigits? h₁ h₂).any (· ≤ 23) && (twoDigits? m₁ m₂).any (· ≤ 59)
  | _ => false

/-- A time of day with an optional offset. -/
def isTimeWithOffset (cs : List Char) : Bool :=
  (takeTime cs).any fun rest => rest.isEmpty || isOffset rest

/-- A date, alone. -/
def isDate (cs : List Char) : Bool :=
  takeDate cs = some []

/-- A date, a time of day, or both with an optional offset. -/
def isTimestamp (cs : List Char) : Bool :=
  isDate cs || takeTime cs = some [] ||
    (takeDate cs).any fun rest =>
      match rest with
      | separator :: time =>
        (separator = 'T' || separator = 't' || separator = ' ') && isTimeWithOffset time
      | [] => false

end NativeBindings.Document.Toml
