import LevelCross.Number.Binary

/-!
# Float helpers

The few operations on doubles that this library needs beyond the arithmetic of core: the
larger of two values with a NaN giving way to the other operand, the class tests, and the
conversion of a count to the nearest double.
-/

namespace LevelCross.Number

/-- A double is finite: neither NaN nor an infinity. -/
def isFinite (x : Float) : Bool := shape x == .finite

/-- A double is NaN. -/
def isNaN (x : Float) : Bool := shape x == .nan

/-- The larger of two doubles; when one of them is NaN the other is the answer. -/
def fmax (a b : Float) : Float :=
  if isNaN a then b else if isNaN b then a else if a < b then b else a

/-- The double nearest to a natural number. -/
def ofNat (n : Nat) : Float := nearestOfRatio false n 1

/-- The double nearest to an integer. -/
def ofInt (n : Int) : Float := nearestOfRatio (n < 0) n.natAbs 1

/-- The integer a finite double equals, when it has no fraction: `mant · 2^exp` is whole when
the exponent is not negative or the low bits of the significand that it cuts are zero. -/
def exactInt? (x : Float) : Option Int :=
  if shape x != .finite then none
  else
    let m := magnitude x
    let n : Option Nat :=
      if 0 ≤ m.exp then some (m.mant * Nat.pow 2 m.exp.toNat)
      else if m.mant % Nat.pow 2 (-m.exp).toNat == 0 then some (m.mant / Nat.pow 2 (-m.exp).toNat)
      else none
    n.map fun k => if signBit x then -(k : Int) else k

/-- Positive infinity. -/
def infinity : Float := Float.ofBits 0x7FF0000000000000

/-- A quiet NaN. -/
def nan : Float := Float.ofBits 0x7FF8000000000000

end LevelCross.Number
