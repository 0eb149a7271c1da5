import LevelCross.Number.Binary

/-!
# Shortest decimals of a double

The shortest decimal of a finite non-zero double is the decimal with the fewest significant
digits that lies among the reals rounding to the double; of the two candidates of that length
around the exact value the nearer is taken, and an exact tie is broken by a `Tie` rule.

`Binary.readsBack` is the specification: it compares a decimal with the ends of the rounding
interval in exact arithmetic. `Binary.shortest` searches the grids of 1, 2, … 17 significant
digits and returns the first hit, with trailing zeros removed.
-/

namespace LevelCross.Number

/-- A decimal `digits · 10^exp`. -/
structure Dec where
  digits : Nat
  exp : Int
deriving DecidableEq, Repr

/-- How a tie between the two nearest candidates of one length is broken. -/
inductive Tie where
  /-- take the larger candidate -/
  | up
  /-- take the candidate with an even last digit -/
  | even
deriving DecidableEq, Repr

/-- Compare `a · 10^i` with `n · 2^j`, exactly. -/
def cmpScaled (a : Nat) (i : Int) (n : Nat) (j : Int) : Ordering :=
  compare (a * Nat.pow 10 i.toNat * Nat.pow 2 (-j).toNat) (n * Nat.pow 2 j.toNat * Nat.pow 10 (-i).toNat)

/-- The decimal `d` lies among the reals that round to `x`, ties going to the even
significand: the ends belong to the interval exactly when the significand is even. -/
def Binary.readsBack (x : Binary) (d : Dec) : Bool :=
  let lo := if x.narrowBelow then 4 * x.mant - 1 else 4 * x.mant - 2
  let hi := 4 * x.mant + 2
  let incl := x.mant % 2 == 0
  let cl := cmpScaled d.digits d.exp lo (x.exp - 2)
  let ch := cmpScaled d.digits d.exp hi (x.exp - 2)
  (cl == .gt || (incl && cl == .eq)) && (ch == .lt || (incl && ch == .eq))

/-- Number of decimal digits of a natural number, with `0` taken to have one. -/
def digitCount (n : Nat) : Nat := (toString n).length

/-- Remove the trailing zeros of the digits, moving them into the exponent. -/
def Dec.trim (d : Dec) : Dec :=
  if h : d.digits ≠ 0 ∧ d.digits % 10 = 0 then
    have : d.digits / 10 < d.digits := Nat.div_lt_self (Nat.pos_of_ne_zero h.1) (by decide)
    Dec.trim ⟨d.digits / 10, d.exp + 1⟩
  else d
termination_by d.digits

/-- The candidate of `n` significant digits for the exact value `e`, whose leading digit has
decimal exponent `lead`, if one of the two grid points around it reads back. -/
def Binary.candidate (x : Binary) (e : Exact) (lead : Int) (tie : Tie) (n : Nat) : Option Dec :=
  let k : Int := lead - n + 1
  let shift : Int := e.scale + k
  let (c, r, den) :=
    if shift ≥ 0 then (e.digits / Nat.pow 10 shift.toNat, e.digits % Nat.pow 10 shift.toNat, Nat.pow 10 shift.toNat)
    else (e.digits * Nat.pow 10 (-shift).toNat, 0, 1)
  let below : Dec := ⟨c, k⟩
  let above : Dec := ⟨c + 1, k⟩
  let okBelow := x.readsBack below
  let okAbove := r != 0 && x.readsBack above
  if okBelow && okAbove then
    if 2 * r < den then some below
    else if 2 * r > den then some above
    else match tie with
      | .up => some above
      | .even => if c % 2 == 0 then some below else some above
  else if okBelow then some below
  else if okAbove then some above
  else none

/-- The shortest decimal of a non-zero finite magnitude; the exact value if no length up to
seventeen digits reads back, which does not happen for a double. -/
def Binary.shortest (x : Binary) (tie : Tie) : Dec :=
  let e := x.toExact
  let lead : Int := (digitCount e.digits : Int) - 1 - e.scale
  match (List.range 17).findSome? (fun i => x.candidate e lead tie (i + 1)) with
  | some d => d.trim
  | none => (Dec.mk e.digits (-(e.scale : Int))).trim

end LevelCross.Number
