/-!
# Ranges of code points

Properties of characters are tables of inclusive ranges of code points.
-/

namespace NativeBindings.Unicode

/-- The first and the last code point of a range. -/
abbrev CodeRange := Nat × Nat

/-- Whether one of the ranges holds the code point. -/
def inRanges (ranges : List CodeRange) (code : Nat) : Bool :=
  ranges.any fun range => range.1 ≤ code && code ≤ range.2

end NativeBindings.Unicode
