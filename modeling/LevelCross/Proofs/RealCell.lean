import Mathlib
import LevelCross.Store.Value

/-!
# Doubles in real columns

A real column keeps a double without fraction as an integer and hands it back as the double
nearest to that integer. This module shows that nothing is lost on the way: the double handed
back is the double written, except that a negative zero comes back as zero. The argument runs
on the bit patterns: a double that is not a NaN is rebuilt from its bits by the logical model of
`Float`, and `nearestOfRatio` on a whole number `mant · 2^E` with a significand of 53 bits packs
exactly the fields it was read from.

* `ofBits_toBits`: a double that is not a NaN is rebuilt from its bits.
* `nearestOfRatio_exact`: the nearest double to a representable whole number is exact.
* `ofInt_exactInt?`: the nearest double to the whole number a double spells is that double,
  unless it is a negative zero.
* `Store.Value.loadAs_storeAs_real`: what a real column gives back for a double written into
  it: nothing for a NaN, else `keptReal` of it.
-/

namespace LevelCross.Number

open Float.Model.UnpackedFloat

/-! ### The fields of a bit pattern, as numbers -/

/-- The exponent field, the eleven bits above the fraction. -/
theorem exponentField_toNat (b : UInt64) :
    ((b >>> 52) &&& 0x7FF).toNat = b.toNat / 2 ^ 52 % 2 ^ 11 := by
  rw [UInt64.toNat_and, UInt64.toNat_shiftRight, Nat.shiftRight_eq_div_pow,
    show (0x7FF : UInt64).toNat = 2 ^ 11 - 1 from rfl, Nat.and_two_pow_sub_one_eq_mod]
  rfl

/-- The fraction field, the low 52 bits. -/
theorem fractionField_toNat (b : UInt64) : (b &&& 0xFFFFFFFFFFFFF).toNat = b.toNat % 2 ^ 52 := by
  rw [UInt64.toNat_and, show (0xFFFFFFFFFFFFF : UInt64).toNat = 2 ^ 52 - 1 from rfl,
    Nat.and_two_pow_sub_one_eq_mod]

/-- The sign bit, the top bit. -/
theorem signBit_iff (x : Float) : signBit x = true ↔ x.toBits.toNat / 2 ^ 63 = 1 := by
  rw [signBit, beq_iff_eq, ← UInt64.toNat_inj, UInt64.toNat_shiftRight, Nat.shiftRight_eq_div_pow]
  rfl

/-- A NaN has all exponent bits set and a fraction that is not zero. -/
theorem shape_eq_nan_iff (x : Float) :
    shape x = .nan ↔
      x.toBits.toNat / 2 ^ 52 % 2 ^ 11 = 2047 ∧ x.toBits.toNat % 2 ^ 52 ≠ 0 := by
  have he := exponentField_toNat x.toBits
  have hf := fractionField_toNat x.toBits
  have h7 : (0x7FF : UInt64).toNat = 2047 := rfl
  have h0 : (0 : UInt64).toNat = 0 := rfl
  unfold shape
  simp only [beq_iff_eq, ← UInt64.toNat_inj, he, hf, h7, h0]
  split_ifs <;> simp_all

/-- A finite double has an exponent field that is not all ones. -/
theorem shape_eq_finite_iff (x : Float) :
    shape x = .finite ↔ x.toBits.toNat / 2 ^ 52 % 2 ^ 11 ≠ 2047 := by
  have he := exponentField_toNat x.toBits
  have h7 : (0x7FF : UInt64).toNat = 2047 := rfl
  unfold shape
  simp only [beq_iff_eq, ← UInt64.toNat_inj, he, h7]
  split
  · split <;> simp_all
  · simp_all

/-- The magnitude of a finite double, read off the exponent field `e` and the fraction field `f`
of its bits: a subnormal or zero below `e = 1`, else the hidden bit added. -/
theorem magnitude_eq (x : Float) :
    magnitude x =
      let N := x.toBits.toNat
      if N / 2 ^ 52 % 2 ^ 11 = 0 then ⟨N % 2 ^ 52, -1074, false⟩
      else ⟨2 ^ 52 + N % 2 ^ 52, ((N / 2 ^ 52 % 2 ^ 11 : Nat) : Int) - 1075,
        N % 2 ^ 52 == 0 && N / 2 ^ 52 % 2 ^ 11 > 1⟩ := by
  simp only [magnitude, Binary.ofBits, exponentField_toNat, fractionField_toNat, Nat.pow_eq,
    beq_iff_eq]

/-- The bits assembled from a sign, an exponent field and a fraction field. -/
theorem assemble_toNat (s : Bool) (e f : Nat) (he : e < 2 ^ 11) (hf : f < 2 ^ 52) :
    ((if s then 0x8000000000000000 else 0 : UInt64) ||| (e.toUInt64 <<< 52) ||| f.toUInt64).toNat =
      (if s then 2 ^ 63 else 0) + e * 2 ^ 52 + f := by
  have hsh : (e.toUInt64 <<< 52).toNat = e <<< 52 := by
    have h52 : (52 : UInt64).toNat % 64 = 52 := rfl
    rw [UInt64.toNat_shiftLeft, Nat.toUInt64, UInt64.toNat_ofNat', h52,
      Nat.mod_eq_of_lt (a := e) (by omega), Nat.mod_eq_of_lt (by rw [Nat.shiftLeft_eq]; omega)]
  have hf' : f.toUInt64.toNat = f := by
    rw [Nat.toUInt64, UInt64.toNat_ofNat', Nat.mod_eq_of_lt (by omega)]
  rw [UInt64.toNat_or, UInt64.toNat_or, hsh, hf']
  cases s with
  | false =>
    rw [if_neg Bool.false_ne_true, if_neg Bool.false_ne_true, show (0 : UInt64).toNat = 0 from rfl,
      Nat.zero_or, ← Nat.shiftLeft_add_eq_or_of_lt hf, Nat.shiftLeft_eq]
    omega
  | true =>
    rw [if_pos rfl, if_pos rfl,
      show (0x8000000000000000 : UInt64).toNat = (1 <<< 11) <<< 52 from rfl,
      ← Nat.shiftLeft_or_distrib, ← Nat.shiftLeft_add_eq_or_of_lt he,
      ← Nat.shiftLeft_add_eq_or_of_lt hf, Nat.shiftLeft_eq, Nat.shiftLeft_eq]
    omega

/-! ### Rebuilding a double from its bits -/

/-! The logical model of `Float` unpacks a pattern into its sign, exponent and mantissa fields
and packs them back; on a pattern that is not a NaN the two are inverse. -/

theorem unpackMantissa_toNat (b : BitVec 64) :
    (@unpackMantissa .binary64 b).toNat = b.toNat % 2 ^ 52 := by
  simp [unpackMantissa]

theorem unpackExponent_toNat (b : BitVec 64) :
    (@unpackExponent .binary64 b).toNat = b.toNat / 2 ^ 52 % 2 ^ 11 := by
  simp [unpackExponent, Nat.shiftRight_eq_div_pow]

theorem ofBitVec_unpackSign_toNat (b : BitVec 64) :
    (Sign.ofBitVec (@unpackSign .binary64 b)).toBitVec.toNat = b.toNat / 2 ^ 63 := by
  have hs : (@unpackSign .binary64 b).toNat = b.toNat / 2 ^ 63 := by
    have := b.isLt
    simp [unpackSign, Nat.shiftRight_eq_div_pow]
    omega
  have hlt := (@unpackSign .binary64 b).isLt
  unfold Sign.ofBitVec
  split
  · next h =>
    rw [h] at hs
    simp only [Sign.toBitVec]
    simp at hs
    simp
    omega
  · next h =>
    have : (@unpackSign .binary64 b).toNat ≠ 0 :=
      fun h0 => h (BitVec.eq_of_toNat_eq (by simpa using h0))
    simp only [Sign.toBitVec]
    simp
    omega

theorem packComponents_toNat (s : Sign) (e : BitVec 11) (m : BitVec 52) :
    (packComponents .binary64 s e m).toNat =
      s.toBitVec.toNat * 2 ^ 63 + e.toNat * 2 ^ 52 + m.toNat := by
  simp only [packComponents, BitVec.toNat_append]
  rw [← Nat.shiftLeft_add_eq_or_of_lt m.isLt, ← Nat.shiftLeft_add_eq_or_of_lt e.isLt]
  simp only [Nat.shiftLeft_eq]
  omega

/-- Packing the unpacked form of a pattern that is not a NaN gives the pattern back. -/
theorem pack_unpack_binary64 (b : BitVec 64)
    (h : ¬ (b.toNat / 2 ^ 52 % 2 ^ 11 = 2047 ∧ b.toNat % 2 ^ 52 ≠ 0)) :
    pack .binary64 (unpack .binary64 b) = b := by
  have hs := ofBitVec_unpackSign_toNat b
  have he := unpackExponent_toNat b
  have hm := unpackMantissa_toNat b
  have hb := b.isLt
  have hbias : Float.Model.Format.binary64.exponentBias = 1023 := rfl
  have hmb : Float.Model.Format.binary64.mantissaBits = 53 := rfl
  apply BitVec.eq_of_toNat_eq
  unfold unpack
  simp only
  split
  · next hexp =>
    have h1 : (@unpackExponent .binary64 b).toNat = 2047 := by rw [hexp]; rfl
    split
    · next hman =>
      -- an infinity
      have h2 : (@unpackMantissa .binary64 b).toNat = 0 := by rw [hman]; rfl
      simp only [pack, packedInfinity, packComponents_toNat, hs,
        show (-1#11 : BitVec 11).toNat = 2047 from rfl]
      simp
      omega
    · next hman =>
      have h2 : (@unpackMantissa .binary64 b).toNat ≠ 0 :=
        fun h0 => hman (BitVec.eq_of_toNat_eq (by simpa using h0))
      omega
  · next hexp =>
    split
    · next hexp0 =>
      have h1 : (@unpackExponent .binary64 b).toNat = 0 := by rw [hexp0]; rfl
      split
      · next hman =>
        -- a zero
        have h2 : (@unpackMantissa .binary64 b).toNat = 0 := by rw [hman]; rfl
        simp only [pack, packedZero, packComponents_toNat, hs]
        simp
        omega
      · next hman =>
        -- a subnormal: the biased exponent is one and the hidden bit is missing
        have h2 : (@unpackMantissa .binary64 b).toNat ≠ 0 :=
          fun h0 => hman (BitVec.eq_of_toNat_eq (by simpa using h0))
        have hlog : (@unpackMantissa .binary64 b).toNat.log2 < 52 :=
          (Nat.log2_lt h2).2 (by omega)
        simp only [pack, hbias, hmb, h1]
        rw [if_neg (by omega), if_neg (by omega), packComponents_toNat, hs]
        simp
        omega
    · next hexp0 =>
      -- a normal value: the hidden bit is added back and dropped again
      have h1 : (@unpackExponent .binary64 b).toNat ≠ 2047 :=
        fun h0 => hexp (BitVec.eq_of_toNat_eq (by simpa using h0))
      have h1' : (@unpackExponent .binary64 b).toNat ≠ 0 :=
        fun h0 => hexp0 (BitVec.eq_of_toNat_eq (by simpa using h0))
      have hlt := (@unpackExponent .binary64 b).isLt
      have hmant : (1#1 ++ @unpackMantissa .binary64 b).toNat =
          2 ^ 52 + (@unpackMantissa .binary64 b).toNat := by
        rw [BitVec.toNat_append, ← Nat.shiftLeft_add_eq_or_of_lt (unpackMantissa _).isLt,
          Nat.shiftLeft_eq]
        simp
      have hlog : (1#1 ++ @unpackMantissa .binary64 b).toNat.log2 = 52 := by
        rw [hmant, Nat.log2_eq_iff (by omega)]
        omega
      simp only [pack, hbias, hmb, hlog]
      rw [if_neg (by omega), if_pos trivial, packComponents_toNat, hs]
      simp [hmant]
      omega

/-- A double that is not a NaN is rebuilt from its bits. -/
theorem ofBits_toBits {x : Float} (h : shape x ≠ .nan) : Float.ofBits x.toBits = x := by
  have hnan : ¬ (x.toBits.toNat / 2 ^ 52 % 2 ^ 11 = 2047 ∧ x.toBits.toNat % 2 ^ 52 ≠ 0) :=
    fun hn => h ((shape_eq_nan_iff x).2 hn)
  obtain ⟨⟨bits, valid⟩⟩ := x
  simp only [Float.ofBits, Float.Model.ofBits, Float.Model.pack, Float.ofModel.injEq,
    Float.Model.mk.injEq]
  rw [pack_unpack_binary64 _ hnan]
  rfl

/-! ### Doubles that are whole numbers -/


/-- `nearestOfRatio` on a whole numerator over one, once the binade and the quotients of its two
scalings are known: no rounding happens and the significand is packed as it is. -/
theorem nearestOfRatio_of_quotients (neg : Bool) (k mant : Nat) (E : Int) (hlo : 2 ^ 52 ≤ mant)
    (hhi : mant < 2 ^ 53) (hE : -52 ≤ E) (hE' : E + 1075 < 2047) (hk0 : k ≠ 0)
    (hlog : (k.log2 : Int) = 52 + E)
    (hq1 : (if E - 1 < 0 then k * 2 ^ (-(E - 1)).toNat else k) /
        (if E - 1 < 0 then 1 else 1 * 2 ^ (E - 1).toNat) = 2 * mant)
    (hq : (if E < 0 then k * 2 ^ (-E).toNat else k) / (if E < 0 then 1 else 1 * 2 ^ E.toNat) = mant)
    (hr : (if E < 0 then k * 2 ^ (-E).toNat else k) % (if E < 0 then 1 else 1 * 2 ^ E.toNat) = 0) :
    nearestOfRatio neg k 1 = Float.ofBits ((if neg then 0x8000000000000000 else 0 : UInt64) |||
      ((E + 1075).toNat.toUInt64 <<< 52) ||| (mant - 2 ^ 52).toUInt64) := by
  have hmax : max ((k.log2 : Int) - (Nat.log2 1 : Nat) - 53) (-1074) = E - 1 := by
    have : Nat.log2 1 = 0 := by decide
    rw [hlog, this]; omega
  have hpow := Nat.two_pow_pos E.toNat
  have hd0 : (0 = if E < 0 then 1 else 2 ^ E.toNat) = False := by
    apply eq_false; split <;> omega
  have hcarry : 2 * mant ≥ 2 ^ 53 := by omega
  have h1 : ¬ 9007199254740992 ≤ mant := by omega
  have h2 : ¬ mant < 4503599627370496 := by omega
  have h3 : ¬ 2047 ≤ E + 1075 := by omega
  unfold nearestOfRatio
  simp only [Nat.pow_eq, hmax, hq1, if_pos hcarry, Int.sub_add_cancel, hq, hr]
  simp [hk0, hd0, h1, h2, h3]

/-- The nearest double to `k` is exact when `k` is `mant · 2^E` for a significand `mant` of 53
bits and an exponent in range: `hk` says `k · 2^(-E) = mant` for negative `E` and
`k = mant · 2^E` otherwise. -/
theorem nearestOfRatio_exact (neg : Bool) (k mant : Nat) (E : Int) (hlo : 2 ^ 52 ≤ mant)
    (hhi : mant < 2 ^ 53) (hE : -52 ≤ E) (hE' : E + 1075 < 2047)
    (hk : k * 2 ^ (-E).toNat = mant * 2 ^ E.toNat) :
    nearestOfRatio neg k 1 = Float.ofBits ((if neg then 0x8000000000000000 else 0 : UInt64) |||
      ((E + 1075).toNat.toUInt64 <<< 52) ||| (mant - 2 ^ 52).toUInt64) := by
  rcases Int.lt_trichotomy E 0 with hneg | rfl | hpos
  · -- a fraction: `k` is `mant` shifted right by `j` places
    obtain ⟨j, hj⟩ : ∃ j : Nat, E = -((j : Int) + 1) := ⟨(-E - 1).toNat, by omega⟩
    have hj' : (-E).toNat = j + 1 := by omega
    have hE0 : E.toNat = 0 := by omega
    rw [hj', hE0, Nat.pow_zero, Nat.mul_one] at hk
    have hk0 : k ≠ 0 := by rintro rfl; omega
    have hlog : k.log2 = 52 - (j + 1) := by
      rw [Nat.log2_eq_iff hk0]
      constructor
      · apply Nat.le_of_mul_le_mul_right _ (Nat.two_pow_pos (j + 1))
        rw [← Nat.pow_add, Nat.sub_add_cancel (by omega), hk]; exact hlo
      · apply Nat.lt_of_mul_lt_mul_right (a := 2 ^ (j + 1))
        rw [← Nat.pow_add, show 52 - (j + 1) + 1 + (j + 1) = 53 by omega, hk]; exact hhi
    apply nearestOfRatio_of_quotients neg k mant E hlo hhi hE hE' hk0 (by omega)
    · rw [if_pos (by omega), if_pos (by omega), show (-(E - 1)).toNat = (j + 1) + 1 by omega,
        Nat.pow_succ, ← Nat.mul_assoc, hk]
      omega
    · rw [if_pos hneg, if_pos hneg, hj', hk, Nat.div_one]
    · rw [if_pos hneg, if_pos hneg, Nat.mod_one]
  · -- already whole at the unit exponent
    simp only [Int.neg_zero, Int.toNat_zero, Nat.pow_zero, Nat.mul_one] at hk
    subst hk
    have hk0 : k ≠ 0 := by omega
    have hlog : k.log2 = 52 := by rw [Nat.log2_eq_iff hk0]; omega
    apply nearestOfRatio_of_quotients neg k k 0 hlo hhi (by omega) (by omega) hk0 (by omega)
    · simp; omega
    · simp
    · simp [Nat.mod_one]
  · -- a multiple: `k` is `mant` shifted left by `i` places
    obtain ⟨i, hi⟩ : ∃ i : Nat, E = (i : Int) + 1 := ⟨(E - 1).toNat, by omega⟩
    have hi' : E.toNat = i + 1 := by omega
    have hE0 : (-E).toNat = 0 := by omega
    rw [hi', hE0, Nat.pow_zero, Nat.mul_one] at hk
    subst hk
    have hk0 : mant * 2 ^ (i + 1) ≠ 0 :=
      Nat.mul_ne_zero (by omega) (Nat.pos_iff_ne_zero.mp (Nat.two_pow_pos _))
    have hlog : (mant * 2 ^ (i + 1)).log2 = 52 + (i + 1) := by
      rw [Nat.log2_eq_iff hk0, Nat.pow_add 2 52 (i + 1),
        show 52 + (i + 1) + 1 = 53 + (i + 1) by omega, Nat.pow_add 2 53 (i + 1)]
      exact ⟨Nat.mul_le_mul_right _ hlo, Nat.mul_lt_mul_of_pos_right hhi (Nat.two_pow_pos _)⟩
    apply nearestOfRatio_of_quotients neg _ mant E hlo hhi hE hE' hk0 (by omega)
    · rw [if_neg (by omega), if_neg (by omega), show (E - 1).toNat = i by omega, Nat.one_mul,
        Nat.pow_succ, Nat.mul_comm (2 ^ i), ← Nat.mul_assoc,
        Nat.mul_div_cancel _ (Nat.two_pow_pos i)]
      omega
    · rw [if_neg (by omega), if_neg (by omega), hi', Nat.one_mul,
        Nat.mul_div_cancel _ (Nat.two_pow_pos _)]
    · rw [if_neg (by omega), if_neg (by omega), hi', Nat.one_mul, Nat.mul_mod_left]



theorem exactInt?_eq_some {x : Float} {n : Int} (h : exactInt? x = some n) :
    shape x = .finite ∧ ∃ k : Nat, n = (if signBit x then -(k : Int) else k) ∧
      k * 2 ^ (-(magnitude x).exp).toNat = (magnitude x).mant * 2 ^ (magnitude x).exp.toNat := by
  unfold exactInt? at h
  by_cases hfin : shape x = .finite
  · refine ⟨hfin, ?_⟩
    by_cases hexp : 0 ≤ (magnitude x).exp
    · -- a whole magnitude: the significand scaled up
      simp [hfin, hexp] at h
      refine ⟨(magnitude x).mant * 2 ^ (magnitude x).exp.toNat, by simp [← h], ?_⟩
      rw [show (-(magnitude x).exp).toNat = 0 by omega, Nat.pow_zero, Nat.mul_one]
    · -- a fraction that cuts only zero bits: the significand scaled down
      by_cases hdvd : (magnitude x).mant % 2 ^ (-(magnitude x).exp).toNat = 0
      · simp [hfin, hexp, hdvd] at h
        refine ⟨(magnitude x).mant / 2 ^ (-(magnitude x).exp).toNat, by simp [← h], ?_⟩
        rw [show (magnitude x).exp.toNat = 0 by omega, Nat.pow_zero, Nat.mul_one]
        exact Nat.div_mul_cancel (Nat.dvd_of_mod_eq_zero hdvd)
      · simp [hfin, hexp, hdvd] at h
  · simp [hfin] at h


/-- The nearest double to the whole number a double spells is that double, unless it is a
negative zero, which spells `0`, whose nearest double is the positive zero. -/
theorem ofInt_exactInt? {x : Float} {n : Int} (h : exactInt? x = some n)
    (hzero : n = 0 → signBit x = false) : ofInt n = x := by
  obtain ⟨hfin, k, rfl, hk⟩ := exactInt?_eq_some h
  have hnan : shape x ≠ .nan := by rw [hfin]; decide
  have hb : x.toBits.toNat < 2 ^ 64 := x.toBits.toNat_lt
  have hfe := (shape_eq_finite_iff x).1 hfin
  have hs := signBit_iff x
  rw [magnitude_eq] at hk
  dsimp only at hk
  conv => rhs; rw [← ofBits_toBits hnan]
  -- the exponent field `e` and the fraction field `f` of the bits
  generalize he : x.toBits.toNat / 2 ^ 52 % 2 ^ 11 = e at hk hfe
  generalize hf : x.toBits.toNat % 2 ^ 52 = f at hk
  have hflt : f < 2 ^ 52 := hf ▸ Nat.mod_lt _ (Nat.two_pow_pos 52)
  by_cases he0 : e = 0
  · -- a zero or a subnormal: only a zero is whole, and it must be the positive one
    simp only [he0, ↓reduceIte] at hk
    rw [show (-1074 : Int).toNat = 0 from rfl, Nat.pow_zero, Nat.mul_one] at hk
    -- a whole subnormal is zero: the shift by 1074 places is wider than the fraction
    have hk0 : k = 0 := by
      rcases Nat.eq_zero_or_pos k with hk0 | hk0
      · exact hk0
      · have hwide : 2 ^ 52 ≤ 2 ^ (- -1074 : Int).toNat :=
          Nat.pow_le_pow_right (by decide) (by decide)
        have := Nat.le_mul_of_pos_left (2 ^ (- -1074 : Int).toNat) hk0
        omega
    subst hk0
    have hpos : signBit x = false := hzero (by simp)
    simp only [hpos, Bool.false_eq_true, false_iff] at hs
    have hbits : x.toBits = 0 := by
      rw [← UInt64.toNat_inj]
      change x.toBits.toNat = 0
      omega
    rw [hbits]
    simp [ofInt, nearestOfRatio]
  · -- a normal double: `k` is its significand `2^52 + f` shifted by `E = e - 1075`
    simp only [he0, ↓reduceIte] at hk
    generalize hE : (e : Int) - 1075 = E at hk
    have hk0 : k ≠ 0 := by
      rintro rfl
      rw [Nat.zero_mul] at hk
      exact absurd hk.symm
        (Nat.mul_ne_zero (by omega) (Nat.pos_iff_ne_zero.mp (Nat.two_pow_pos _)))
    -- the exponent is at least `-52`, or the shift would leave no whole number
    have hE52 : -52 ≤ E := by
      apply Int.not_lt.mp
      intro hlt
      rw [show E.toNat = 0 by omega, Nat.pow_zero, Nat.mul_one] at hk
      have hbig : 2 ^ 53 ≤ 2 ^ (-E).toNat := Nat.pow_le_pow_right (by decide) (by omega)
      have := Nat.le_mul_of_pos_left (2 ^ (-E).toNat) (Nat.pos_of_ne_zero hk0)
      omega
    have hneg : decide ((if signBit x = true then -(k : Int) else k) < 0) = signBit x := by
      cases signBit x
      · simp
      · simp; omega
    have habs : (if signBit x = true then -(k : Int) else k).natAbs = k := by
      cases signBit x <;> simp
    rw [ofInt, hneg, habs,
      nearestOfRatio_exact (signBit x) k _ _ (by omega) (by omega) hE52 (by omega) hk]
    congr 1
    rw [← UInt64.toNat_inj, show (E + 1075).toNat = e by omega, Nat.add_sub_cancel_left,
      assemble_toNat _ _ _ (by omega) hflt]
    cases hsb : signBit x <;> simp [hsb] at hs <;> simp <;> omega

/-! ### What a real column gives back -/

/-- The double a real column hands back for a double that is not a NaN: the double itself,
except that a negative zero comes back as zero. -/
def keptReal (x : Float) : Float := if x.toBits = 0x8000000000000000 then Float.ofBits 0 else x

/-- The negative zero spells the whole number `0`. -/
theorem exactInt?_negZero : exactInt? (Float.ofBits 0x8000000000000000) = some 0 := by
  decide +kernel

/-- A double that spells `0` has no bit set but, perhaps, its sign. -/
theorem toBits_of_exactInt?_zero {x : Float} (h : exactInt? x = some 0) :
    x.toBits.toNat % 2 ^ 63 = 0 := by
  obtain ⟨-, k, hk0, hk⟩ := exactInt?_eq_some h
  have hk0 : k = 0 := by cases hsb : signBit x <;> simp [hsb] at hk0 <;> omega
  subst hk0
  rw [Nat.zero_mul, magnitude_eq] at hk
  have hb : x.toBits.toNat < 2 ^ 64 := x.toBits.toNat_lt
  by_cases he0 : x.toBits.toNat / 2 ^ 52 % 2 ^ 11 = 0
  · simp only [he0, ↓reduceIte] at hk
    rw [show (-1074 : Int).toNat = 0 from rfl, Nat.pow_zero, Nat.mul_one] at hk
    omega
  · simp only [he0, ↓reduceIte] at hk
    exact absurd hk.symm (Nat.mul_ne_zero (by omega) (Nat.pos_iff_ne_zero.mp (Nat.two_pow_pos _)))

/-- The nearest double to the whole number a double spells is the double as a real column keeps
it. -/
theorem ofInt_exactInt?_eq_keptReal {x : Float} {n : Int} (h : exactInt? x = some n) :
    ofInt n = keptReal x := by
  have hnan : shape x ≠ .nan := by rw [(exactInt?_eq_some h).1]; decide
  have hb : x.toBits.toNat < 2 ^ 64 := x.toBits.toNat_lt
  unfold keptReal
  split
  · next hneg =>
    -- the negative zero spells `0`
    have : x = Float.ofBits 0x8000000000000000 := by rw [← hneg, ofBits_toBits hnan]
    rw [this, exactInt?_negZero, Option.some.injEq] at h
    subst h
    decide
  · next hneg =>
    apply ofInt_exactInt? h
    intro hn0
    subst hn0
    have h63 := toBits_of_exactInt?_zero h
    have hs := signBit_iff x
    cases hsb : signBit x
    · rfl
    · exact absurd (UInt64.toNat_inj.mp (by simp [hsb] at hs; change _ = 2 ^ 63; omega)) hneg

/-- A double that does not spell `0` is kept as it is. -/
theorem keptReal_of_exactInt?_ne {x : Float} (hnan : shape x ≠ .nan)
    (h : exactInt? x ≠ some 0) : keptReal x = x := by
  unfold keptReal
  split
  · next hneg =>
    have : x = Float.ofBits 0x8000000000000000 := by rw [← hneg, ofBits_toBits hnan]
    exact absurd (this ▸ exactInt?_negZero) h
  · rfl

end LevelCross.Number

namespace LevelCross.Store

open LevelCross.Number

/-- What a real column gives back for a double written into it: nothing for a NaN, else the
double as the column keeps it. -/
theorem Value.loadAs_storeAs_real (x : Float) :
    ((Value.ofFloat x).storeAs .real).loadAs .real =
      if isNaN x then .null else .real (keptReal x) := by
  unfold Value.ofFloat
  split
  · rfl
  · next hnan =>
    simp only [Value.storeAs, wholeOfReal]
    have hshape : shape x ≠ .nan := by simpa [isNaN] using hnan
    split
    · next n hn =>
      split
      · simp [Value.loadAs, ofInt_exactInt?_eq_keptReal hn]
      · next hrange =>
        -- beyond the integers of a cell, so not zero
        have hne : exactInt? x ≠ some 0 := by
          rw [hn]
          rintro ⟨⟩
          exact hrange (by decide)
        simp [Value.loadAs, keptReal_of_exactInt?_ne hshape hne]
    · next hn =>
      simp [Value.loadAs, keptReal_of_exactInt?_ne hshape (by rw [hn]; simp)]

end LevelCross.Store
