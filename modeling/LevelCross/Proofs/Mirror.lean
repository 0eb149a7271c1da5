import Mathlib
import LevelCross.Proofs.Detection
import LevelCross.Proofs.RealCell

/-!
# The down rules mirror the up rules

Reflect a pair of candles and a level through zero: every price is negated, so the high and the
low of a candle trade places, and the direction of the level is mirrored, up and down exchanged
and wick up and wick down exchanged. A body crossing up then becomes a body crossing down and a
wick poking up a wick poking down, so the level raises the mirror image of the kind it raised.
This holds for every double, NaN and the infinities included, because negating both sides of a
comparison of doubles turns it round and a NaN compares with nothing either way.

Negation is read on the logical model of `Float`: it flips the sign of the unpacked value, and
packing, which keeps the sign in a field of its own, carries the flip over to the bits.

* `Float.neg_lt_neg_iff`: `-a < -b` exactly when `b < a`, for all doubles.
* `Kind.crosses_mirror`: each crossing rule on the mirrored candles and level is the mirrored
  rule on the originals.
* `evaluateLevel_mirror`: on the mirrored candles a mirrored level raises the mirror image of
  what the level raises on the originals.
-/

namespace LevelCross.Number

open Float.Model (UnpackedFloat)
open Float.Model.UnpackedFloat

/-! ### Negation of doubles -/

/-- The sign field of a packed pattern reads back as the sign packed. -/
theorem ofBitVec_unpackSign_packComponents (s : Sign) (e : BitVec 11) (m : BitVec 52) :
    Sign.ofBitVec (@unpackSign .binary64 (packComponents .binary64 s e m)) = s := by
  simp only [unpackSign, packComponents, BitVec.extractLsb]
  rw [BitVec.extractLsb'_append_eq_of_le (by omega), BitVec.extractLsb'_append_eq_of_le (by omega)]
  cases s <;> rfl

/-- A pattern with its sign flipped unpacks to the negated value: unpacking reads the exponent
and the fraction apart from the sign. -/
theorem unpack_packComponents_neg (s : Sign) (e : BitVec 11) (m : BitVec 52) :
    unpack .binary64 (packComponents .binary64 (-s) e m) =
      (unpack .binary64 (packComponents .binary64 s e m)).neg := by
  unfold unpack
  simp only [unpackMantissa_packComponents, unpackExponent_packComponents,
    ofBitVec_unpackSign_packComponents]
  split_ifs <;> rfl

/-- Packing a negated value and unpacking it negates what packing the value gives back. -/
theorem unpack_pack_neg (u : UnpackedFloat) :
    unpack .binary64 (pack .binary64 u.neg) = (unpack .binary64 (pack .binary64 u)).neg := by
  cases u with
  | notANumber => rfl
  | infinity s => exact unpack_packComponents_neg s _ _
  | zero s => exact unpack_packComponents_neg s _ _
  | finite s m e hm =>
    -- packing a finite value picks its branch from the mantissa and the exponent alone
    show unpack .binary64 (pack .binary64 (.finite (-s) m e hm)) =
      (unpack .binary64 (pack .binary64 (.finite s m e hm))).neg
    simp only [pack]
    split_ifs
    all_goals exact unpack_packComponents_neg s _ _

/-- Unpacking what packing an unpacked pattern gives changes nothing: a NaN stays a NaN, and any
other pattern is packed to itself. -/
theorem unpack_pack_unpack (b : BitVec 64) :
    unpack .binary64 (pack .binary64 (unpack .binary64 b)) = unpack .binary64 b := by
  by_cases hnan : b.toNat / 2 ^ 52 % 2 ^ 11 = 2047 ∧ b.toNat % 2 ^ 52 ≠ 0
  · -- all exponent bits set and a fraction: a NaN, which packs to the canonical NaN
    have hexp : @unpackExponent .binary64 b = -1#11 :=
      BitVec.eq_of_toNat_eq (by rw [unpackExponent_toNat, hnan.1]; rfl)
    have hman : @unpackMantissa .binary64 b ≠ 0#52 := fun h0 =>
      hnan.2 (by rw [← unpackMantissa_toNat, h0]; rfl)
    have hb : unpack .binary64 b = .notANumber := by
      unfold unpack
      simp only [hexp, hman, if_true, if_false]
    rw [hb]
    rfl
  · rw [pack_unpack_binary64 b hnan]

/-- Negating a double negates its unpacked form. -/
theorem Float.unpack_toModel_neg (a : Float) : (-a).toModel.unpack = a.toModel.unpack.neg := by
  show unpack .binary64 (pack .binary64 (unpack .binary64 a.toModel.toBits.toBitVec).neg) = _
  rw [unpack_pack_neg, unpack_pack_unpack]
  rfl

/-- Comparing two negated values compares the values the other way round. -/
theorem unpackedCompare_neg (a b : UnpackedFloat) : a.neg.compare b.neg = b.compare a := by
  -- negative finite values compare by magnitude reversed, which is the swap of the positive
  -- comparison
  rcases a with ⟨s⟩ | _ | ⟨s⟩ | ⟨s, m, e, hm⟩ <;>
    rcases b with ⟨t⟩ | _ | ⟨t⟩ | ⟨t, n, f, hn⟩ <;>
    (try cases s) <;> (try cases t) <;>
    simp [UnpackedFloat.neg, UnpackedFloat.compare, Ordering.swap_then, Int.compare_swap,
      Nat.compare_swap] <;> rfl

/-- Negating both sides of a comparison of doubles turns it round, for every double: a NaN, which
compares with nothing, stays a NaN. -/
theorem Float.neg_lt_neg_iff (a b : Float) : -a < -b ↔ b < a := by
  rw [Float.lt_iff_compare, Float.lt_iff_compare, Float.unpack_toModel_neg,
    Float.unpack_toModel_neg, unpackedCompare_neg]

end LevelCross.Number

namespace LevelCross

open LevelCross.Number

/-! ### Mirror images -/

/-- The direction that watches the other side: up and down exchanged, wick up and wick down
exchanged; both and wick both are their own mirror images. -/
def Direction.mirror : Direction → Direction
  | .up => .down
  | .down => .up
  | .both => .both
  | .wickUp => .wickDown
  | .wickDown => .wickUp
  | .wickBoth => .wickBoth

/-- The kind seen on the other side: crossing up and down exchanged, wick up and wick down
exchanged. -/
def Kind.mirror : Kind → Kind
  | .crossUp => .crossDown
  | .crossDown => .crossUp
  | .wickUp => .wickDown
  | .wickDown => .wickUp
  | .atrSurge => .atrSurge

/-- A candle reflected through zero: its prices negated, so its high and its low trade
places. -/
def Candle.mirror (c : Candle) : Candle :=
  { c with openPrice := -c.openPrice, high := -c.low, low := -c.high, close := -c.close }

/-- A level reflected through zero: its price negated and the direction it names mirrored; a
direction text that names no direction is kept as it is. -/
def PriceLevel.mirror (l : PriceLevel) : PriceLevel :=
  { l with
    value := -l.value
    direction := match l.parsedDirection with
      | some d => d.mirror.name
      | none => l.direction }

@[simp]
theorem Kind.mirror_mirror (k : Kind) : k.mirror.mirror = k := by
  cases k <;> rfl

/-- A direction reads back from its name. -/
theorem Direction.parse_name (d : Direction) : Direction.parse d.name = .ok d := by
  cases d <;> decide +kernel

/-- The mirrored level names the mirrored direction, or none when the level names none. -/
theorem PriceLevel.parsedDirection_mirror (l : PriceLevel) :
    l.mirror.parsedDirection = l.parsedDirection.map Direction.mirror := by
  cases h : l.parsedDirection with
  | none =>
    simp only [PriceLevel.mirror, h]
    exact h
  | some d =>
    simp only [PriceLevel.mirror, h]
    show (Direction.parse d.mirror.name).toOption = _
    rw [Direction.parse_name]
    rfl

theorem Direction.watches_mirror (d : Direction) (k : Kind) :
    d.mirror.watches k = d.watches k.mirror := by
  cases d <;> cases k <;> rfl

/-- Each crossing rule read on the mirrored candles and level is the mirrored rule read on the
originals: every comparison with the level turns round under negation. -/
theorem Kind.crosses_mirror (k : Kind) (previous current : Candle) (level : PriceLevel) :
    k.Crosses previous.mirror current.mirror level.mirror ↔
      k.mirror.Crosses previous current level := by
  cases k <;>
    simp [Kind.Crosses, Kind.mirror, Candle.mirror, PriceLevel.mirror, Float.neg_lt_neg_iff]

/-! ### The mirrored level raises the mirrored kind -/

section Mirror

variable {previous current : Candle} {level : PriceLevel}

/-- A level whose direction watches a kind whose rule holds raises that kind: no other kind it
watches can hold as well. -/
theorem evaluateLevel_eq_some_of_crosses {d : Direction} {k : Kind}
    (hd : level.parsedDirection = some d) (hk : d.watches k = true)
    (ck : k.Crosses previous current level) : evaluateLevel previous current level = some k := by
  obtain ⟨j, hj⟩ := Option.ne_none_iff_exists'.mp (evaluateLevel_ne_none hd hk ck)
  obtain ⟨d', hd', hj', cj⟩ := crosses_of_evaluateLevel hj
  rw [hd, Option.some.injEq] at hd'
  subst hd'
  rw [hj, Kind.eq_of_crosses hj' hk cj ck]

/-- What a level raises, its mirror image raises mirrored on the mirrored candles. -/
theorem evaluateLevel_mirror_of_eq_some {k : Kind}
    (h : evaluateLevel previous current level = some k) :
    evaluateLevel previous.mirror current.mirror level.mirror = some k.mirror := by
  obtain ⟨d, hd, hw, ck⟩ := crosses_of_evaluateLevel h
  have hd' : level.mirror.parsedDirection = some d.mirror := by
    rw [PriceLevel.parsedDirection_mirror, hd, Option.map_some]
  have hw' : d.mirror.watches k.mirror = true := by
    rw [Direction.watches_mirror, Kind.mirror_mirror, hw]
  have ck' : k.mirror.Crosses previous.mirror current.mirror level.mirror := by
    rw [Kind.crosses_mirror, Kind.mirror_mirror]
    exact ck
  exact evaluateLevel_eq_some_of_crosses hd' hw' ck'

/-- What the mirror image of a level raises on the mirrored candles, the level raises mirrored
back. -/
theorem eq_some_of_evaluateLevel_mirror {k : Kind}
    (h : evaluateLevel previous.mirror current.mirror level.mirror = some k) :
    evaluateLevel previous current level = some k.mirror := by
  obtain ⟨d', hd', hw, ck⟩ := crosses_of_evaluateLevel h
  rw [PriceLevel.parsedDirection_mirror] at hd'
  obtain ⟨d, hd, rfl⟩ := Option.map_eq_some_iff.mp hd'
  rw [Direction.watches_mirror] at hw
  exact evaluateLevel_eq_some_of_crosses hd hw ((Kind.crosses_mirror _ _ _ _).mp ck)

end Mirror

/-- The down rules are the mirror image of the up rules: on candles and a level reflected through
zero, the level raises the mirror image of what it raises on the originals, up and down
exchanged, for every pair of candles and every level, NaN and the infinities included. A level
whose direction does not parse raises nothing either way. -/
theorem evaluateLevel_mirror (previous current : Candle) (level : PriceLevel) :
    evaluateLevel previous.mirror current.mirror level.mirror =
      (evaluateLevel previous current level).map Kind.mirror := by
  cases h : evaluateLevel previous current level with
  | some k => exact evaluateLevel_mirror_of_eq_some h
  | none =>
    -- a kind raised on the mirrored candles would be raised, mirrored back, on the originals
    cases h' : evaluateLevel previous.mirror current.mirror level.mirror with
    | none => rfl
    | some k => cases h.symm.trans (eq_some_of_evaluateLevel_mirror h')

end LevelCross
