/-! # Sets of code points

Character properties are tables of code points: intervals, and stretches that
take every code point of an interval or every second one.
-/

namespace ActionHandler.Text

/-- A first and a last code point, both included. -/
abbrev Interval := Nat × Nat

namespace Interval

/-- Whether an interval holds a code point. -/
def contains (interval : Interval) (point : Nat) : Bool :=
  interval.1 ≤ point && point ≤ interval.2

/-- Whether one of the intervals holds a code point. -/
def anyContains (intervals : List Interval) (point : Nat) : Bool :=
  intervals.any (·.contains point)

end Interval

/-- The code points `first`, `first + stride`, … up to `last`. -/
structure Stretch where
  first : Nat
  last : Nat
  stride : Nat

/-- Whether a stretch holds a code point. -/
def Stretch.contains (stretch : Stretch) (point : Nat) : Bool :=
  stretch.first ≤ point && point ≤ stretch.last && (point - stretch.first) % stretch.stride == 0

end ActionHandler.Text
