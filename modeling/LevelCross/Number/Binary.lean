/-!
# Doubles as exact numbers

A finite double is `mant · 2^exp` for a natural `mant` and an integer `exp`. This module reads
that pair off the bit pattern, with the sign and the class of the value, so that every decimal
text of a double can be computed in exact natural-number arithmetic. It also builds a double
from such a pair, rounding to the nearest representable value with ties to the even one.

The examples at the end pin the decoded pairs of the smallest subnormal, the smallest normal
value and one.
-/

namespace LevelCross.Number

/-- The three classes of a double. -/
inductive Shape where
  /-- not a number -/
  | nan
  /-- an infinity of either sign -/
  | infinite
  /-- zero or a finite non-zero value -/
  | finite
deriving DecidableEq, Repr

/-- A finite magnitude `mant · 2^exp`. `narrowBelow` marks a power of two above the smallest
normal one, whose lower neighbour is half as far away as its upper neighbour. -/
structure Binary where
  mant : Nat
  exp : Int
  narrowBelow : Bool
deriving DecidableEq, Repr

/-- The magnitude encoded by the low 63 bits of a pattern whose exponent field is not all ones. -/
def Binary.ofBits (b : UInt64) : Binary :=
  let e := ((b >>> 52) &&& 0x7FF).toNat
  let f := (b &&& 0xFFFFFFFFFFFFF).toNat
  if e == 0 then ⟨f, -1074, false⟩ else ⟨Nat.pow 2 52 + f, (e : Int) - 1075, f == 0 && e > 1⟩

/-- Whether the sign bit of a double is set; true for `-0.0` and for negative NaNs. -/
def signBit (x : Float) : Bool := x.toBits >>> 63 == 1

/-- The class of a double, read off its exponent field and fraction. -/
def shape (x : Float) : Shape :=
  let b := x.toBits
  if (b >>> 52) &&& 0x7FF == 0x7FF then
    if b &&& 0xFFFFFFFFFFFFF == 0 then .infinite else .nan
  else .finite

/-- The magnitude of a finite double. -/
def magnitude (x : Float) : Binary := Binary.ofBits x.toBits

/-- An exact non-negative decimal `digits / 10^scale`. -/
structure Exact where
  digits : Nat
  scale : Nat
deriving DecidableEq, Repr

/-- The magnitude as a decimal fraction: `mant · 2^exp` is `mant · 5^(-exp) / 10^(-exp)` when the
exponent is negative. -/
def Binary.toExact (x : Binary) : Exact :=
  if x.exp < 0 then ⟨x.mant * Nat.pow 5 (-x.exp).toNat, (-x.exp).toNat⟩
  else ⟨x.mant * Nat.pow 2 x.exp.toNat, 0⟩

/-- `num / den` rounded to the nearest natural number, a half going to the even neighbour. -/
def roundHalfEven (num den : Nat) : Nat :=
  let q := num / den
  let r := num % den
  if 2 * r < den then q
  else if 2 * r > den then q + 1
  else if q % 2 == 0 then q else q + 1

/-- The double nearest to `num / den`, with the given sign; a value beyond the largest finite
double becomes an infinity. Ties go to the even significand. -/
def nearestOfRatio (neg : Bool) (num den : Nat) : Float :=
  let signPart : UInt64 := if neg then 0x8000000000000000 else 0
  if num == 0 || den == 0 then Float.ofBits signPart
  else
    -- 2^(a - b - 1) < num / den < 2^(a - b + 1)
    let a : Int := num.log2
    let b : Int := den.log2
    let scaled (e : Int) : Nat × Nat × Nat :=
      let n := if e < 0 then num * Nat.pow 2 (-e).toNat else num
      let d := if e < 0 then den else den * Nat.pow 2 e.toNat
      (n / d, n % d, d)
    let e1 : Int := max (a - b - 53) (-1074)
    let (q1, _, _) := scaled e1
    let e : Int := if q1 ≥ Nat.pow 2 53 then e1 + 1 else e1
    let (q, r, d) := scaled e
    let m := if 2 * r > d || (2 * r == d && q % 2 == 1) then q + 1 else q
    -- a carry into bit 53 moves the value to the next binade
    let (m, e) := if m ≥ Nat.pow 2 53 then (m / 2, e + 1) else (m, e)
    if m < Nat.pow 2 52 then
      Float.ofBits (signPart ||| m.toUInt64)
    else
      let biased := e + 1075
      if biased ≥ 2047 then Float.ofBits (signPart ||| 0x7FF0000000000000)
      else Float.ofBits (signPart ||| (biased.toNat.toUInt64 <<< 52) ||| (m - Nat.pow 2 52).toUInt64)

/-- The double nearest to `digits · 10^exp10`, with the given sign. -/
def nearestOfDecimal (neg : Bool) (digits : Nat) (exp10 : Int) : Float :=
  let len : Int := (toString digits).length
  if digits == 0 then nearestOfRatio neg 0 1
  -- beyond these bounds the value is certainly infinite or certainly rounds to zero
  else if exp10 + len > 310 then
    Float.ofBits ((if neg then 0x8000000000000000 else 0) ||| 0x7FF0000000000000)
  else if exp10 + len < -326 then nearestOfRatio neg 0 1
  else if exp10 ≥ 0 then nearestOfRatio neg (digits * Nat.pow 10 exp10.toNat) 1
  else nearestOfRatio neg digits (Nat.pow 10 (-exp10).toNat)

example : Binary.ofBits 0x3FF0000000000000 = ⟨Nat.pow 2 52, -52, true⟩ := by decide
example : Binary.ofBits 0x0000000000000001 = ⟨1, -1074, false⟩ := by decide
example : Binary.ofBits 0x0010000000000000 = ⟨Nat.pow 2 52, -1074, false⟩ := by decide

end LevelCross.Number
