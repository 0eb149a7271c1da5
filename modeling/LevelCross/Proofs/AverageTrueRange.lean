import LevelCross.Proofs.Frame

/-!
# The average true range is Wilder's recurrence

`averageTrueRange` walks the candles once, carrying a running sum of true ranges and the last
average, and switches behaviour at the seed index `n`. This module gives the series a closed
description, read off the candles by position: `wilderValue` is zero during the warm-up, the
mean of the first `n` true ranges, added from left to right, at `n`, and after that the previous
value smoothed with the new true range. The walk and the recurrence meet through a loop
invariant (`AtrState.Carries`) whose shape changes at the seed: before it the state holds the
running sum, after it the last value.

* `averageTrueRange_points`: the series is one point per candle, with the candle's time, valid
  from position `n` on, and the value `wilderValue` there; empty for period zero.
* `valueAt_averageTrueRange`, `lastValue_averageTrueRange`: the values a caller can read.
* `averageTrueRange_follows_wilder`: the same, point by point, against the previous point.
* `wilderValue_take`, `valueAt_averageTrueRange_take`: a value depends only on the candles up
  to its own, so the series of a prefix is the prefix of the series.
* `detectAtrSurge_averageTrueRange_eq_some_iff`: a surge is raised on the last candle exactly
  when the series has values at the last two candles, both candles are well formed and the
  value rises past the threshold; so none is raised during the warm-up, whatever the threshold.
-/

namespace LevelCross

open LevelCross.Number

/-! ### The recurrence -/

/-- The true range of candle `j` against the close of candle `j - 1`; zero where either is
missing. -/
def trueRangeAt (candles : List Candle) (j : Nat) : Float :=
  match candles[j]?, candles[j - 1]? with
  | some c, some p => c.trueRange p.close
  | _, _ => 0.0

/-- The true ranges of candles `1..k`, added from left to right starting from zero. -/
def trueRangeSum (candles : List Candle) (k : Nat) : Float :=
  ((List.range' 1 k).map (trueRangeAt candles)).foldl (· + ·) 0.0

/-- Wilder's average true range of a positive period `n` at candle `i`: zero during the warm-up
`i < n`, the mean of the true ranges of candles `1..n` at `n`, and after that
`(previous * (n - 1) + tr) / n`. -/
def wilderValue (candles : List Candle) (n : Nat) : Nat → Float
  | 0 => 0.0
  | i + 1 =>
    if i + 1 < n then 0.0
    else if i + 1 = n then trueRangeSum candles n / ofNat n
    else (wilderValue candles n i * (ofNat n - 1.0) + trueRangeAt candles (i + 1)) / ofNat n

/-- The point of candle `c` at position `i`. -/
def wilderPoint (candles : List Candle) (n i : Nat) (c : Candle) : IndicatorPoint :=
  ⟨c.time, decide (n ≤ i), wilderValue candles n i⟩

theorem trueRangeAt_of_getElem? {candles : List Candle} {j : Nat} {c p : Candle}
    (hc : candles[j]? = some c) (hp : candles[j - 1]? = some p) :
    trueRangeAt candles j = c.trueRange p.close := by
  simp [trueRangeAt, hc, hp]

theorem trueRangeSum_succ (candles : List Candle) (k : Nat) :
    trueRangeSum candles (k + 1) = trueRangeSum candles k + trueRangeAt candles (k + 1) := by
  simp [trueRangeSum, List.range'_concat, Nat.add_comm]

theorem wilderValue_of_lt {candles : List Candle} {n i : Nat} (h : i < n) :
    wilderValue candles n i = 0.0 := by
  cases i with
  | zero => rfl
  | succ i => simp [wilderValue, h]

theorem wilderValue_self {candles : List Candle} {n : Nat} (hn : 0 < n) :
    wilderValue candles n n = trueRangeSum candles n / ofNat n := by
  obtain ⟨m, rfl⟩ := Nat.exists_eq_add_of_lt hn
  simp [wilderValue]

theorem wilderValue_of_gt {candles : List Candle} {n i : Nat} (h : n < i) :
    wilderValue candles n i =
      (wilderValue candles n (i - 1) * (ofNat n - 1.0) + trueRangeAt candles i) / ofNat n := by
  obtain ⟨m, rfl⟩ := Nat.exists_eq_add_of_lt h
  have h₁ : ¬ n + m + 1 < n := by omega
  have h₂ : ¬ n + m + 1 = n := by omega
  simp only [wilderValue, h₁, h₂, if_false, Nat.add_sub_cancel]

/-! ### The walk against the recurrence -/

/-- What the state carried into candle `i` (counted from one) holds: during the warm-up the sum
of the true ranges of candles `1..i-1`, after the seed the value at `i - 1`. -/
structure AtrState.Carries (candles : List Candle) (n i : Nat) (st : AtrState) : Prop where
  sum : i ≤ n → st.trSum = trueRangeSum candles (i - 1)
  avg : n < i → st.atr = wilderValue candles n (i - 1)

/-- The state the walk starts from carries into candle `1`. -/
theorem AtrState.carries_one (candles : List Candle) {n : Nat} (hn : 0 < n) :
    ({} : AtrState).Carries candles n 1 where
  sum _ := rfl
  avg h := absurd h (by omega)

/-- One step of the walk emits the point of the recurrence and carries the state on. -/
theorem atrStep_carries {candles : List Candle} {n i : Nat} {st : AtrState} {c p : Candle}
    (hi : 0 < i) (hc : candles[i]? = some c) (hp : candles[i - 1]? = some p)
    (hst : st.Carries candles n i) :
    (atrStep (ofNat n) n i st p.close c).1 = wilderPoint candles n i c ∧
      (atrStep (ofNat n) n i st p.close c).2.Carries candles n (i + 1) := by
  have htr := trueRangeAt_of_getElem? hc hp
  -- the running sum up to `i` is the one carried in plus the new true range
  have hsum : i ≤ n → st.trSum + c.trueRange p.close = trueRangeSum candles i := by
    intro h
    have hstep := trueRangeSum_succ candles (i - 1)
    rw [Nat.sub_add_cancel hi] at hstep
    rw [hstep, hst.sum h, htr]
  rcases Nat.lt_trichotomy i n with h | rfl | h
  · -- warm-up: no value yet, and the sum grows
    refine ⟨?_, ⟨fun _ ↦ ?_, fun h' ↦ absurd h' (by omega)⟩⟩
    · simp [atrStep, wilderPoint, h, wilderValue_of_lt h, Nat.not_le_of_lt h]
    · simpa [atrStep, h] using hsum (Nat.le_of_lt h)
  · -- the seed: the mean of the first `n` true ranges
    have hseed := hsum (Nat.le_refl i)
    refine ⟨?_, ⟨fun h' ↦ absurd h' (by omega), fun _ ↦ ?_⟩⟩
    · simp [atrStep, wilderPoint, wilderValue_self hi, hseed]
    · simp [atrStep, wilderValue_self hi, hseed]
  · -- smoothing: the previous value is the one carried in
    have hprev := hst.avg h
    have hval : wilderValue candles n i = _ := wilderValue_of_gt h
    refine ⟨?_, ⟨fun h' ↦ absurd h' (by omega), fun _ ↦ ?_⟩⟩
    · simp [atrStep, wilderPoint, Nat.not_lt_of_lt h, Nat.ne_of_gt h, Nat.le_of_lt h, hval,
        hprev, htr]
    · simp [atrStep, Nat.not_lt_of_lt h, Nat.ne_of_gt h, hval, hprev, htr]

/-- The walk from candle `i` on emits the points of the recurrence, for every state that carries
into `i`. -/
theorem atrPoints_eq_mapIdx (candles : List Candle) (n : Nat) :
    ∀ (cs : List Candle) (i : Nat) (st : AtrState) (p : Candle), 0 < i →
      candles.drop i = cs → candles[i - 1]? = some p → st.Carries candles n i →
      atrPoints (ofNat n) n i st p.close cs = cs.mapIdx fun k c ↦ wilderPoint candles n (i + k) c
  | [], _, _, _, _, _, _, _ => rfl
  | c :: cs, i, st, p, hi, hdrop, hp, hst => by
    have hc : candles[i]? = some c := by rw [← List.head?_drop, hdrop]; rfl
    have hrest : candles.drop (i + 1) = cs := by rw [← List.tail_drop, hdrop]; rfl
    obtain ⟨hpoint, hnext⟩ := atrStep_carries hi hc hp hst
    have ih := atrPoints_eq_mapIdx candles n cs (i + 1) _ c (by omega) hrest (by simpa using hc)
      hnext
    simp only [atrPoints, hpoint, ih, List.mapIdx_cons, Nat.add_zero]
    congr 2
    funext k c
    rw [Nat.add_assoc, Nat.add_comm 1 k]

/-- The series is one point per candle: its time, valid from position `n` on, and Wilder's
value there; empty for period zero. -/
theorem averageTrueRange_points (candles : List Candle) (n : Nat) :
    (averageTrueRange candles n).points =
      if n = 0 then [] else candles.mapIdx (wilderPoint candles n) := by
  cases n with
  | zero => simp [averageTrueRange]
  | succ m =>
    cases candles with
    | nil => simp [averageTrueRange]
    | cons c cs =>
      have hwalk := atrPoints_eq_mapIdx (c :: cs) (m + 1) cs 1 {} c
        (by omega) rfl rfl (AtrState.carries_one _ (by omega))
      -- the first point is in the warm-up; the walk counts the others from one
      simp only [averageTrueRange, hwalk, List.mapIdx_cons, Nat.add_one_ne_zero, if_false]
      congr 2
      funext k c
      rw [Nat.add_comm 1 k]

@[simp]
theorem length_averageTrueRange_points (candles : List Candle) (n : Nat) :
    (averageTrueRange candles n).points.length = if n = 0 then 0 else candles.length := by
  rw [averageTrueRange_points]
  split <;> simp

/-- The point at a position of the candles, for a positive period. -/
theorem getElem?_averageTrueRange_points {candles : List Candle} {n i : Nat} (hn : 0 < n)
    (hi : i < candles.length) :
    (averageTrueRange candles n).points[i]? = some (wilderPoint candles n i candles[i]) := by
  simp [averageTrueRange_points, Nat.pos_iff_ne_zero.mp hn, List.getElem?_mapIdx,
    List.getElem?_eq_getElem hi]

/-- A value is read at every position from `n` to the last candle, and nowhere else. -/
@[simp]
theorem valueAt_averageTrueRange (candles : List Candle) (n i : Nat) :
    (averageTrueRange candles n).valueAt i =
      if 0 < n ∧ n ≤ i ∧ i < candles.length then some (wilderValue candles n i)
      else none := by
  rw [Series.valueAt, averageTrueRange_points]
  by_cases hn : n = 0
  · simp [hn]
  · rw [if_neg hn, List.getElem?_mapIdx]
    by_cases hi : i < candles.length
    · simp [wilderPoint, hi, Nat.pos_of_ne_zero hn]
    · simp [hi]

/-- The last value is read exactly when there are more candles than the period. -/
theorem lastValue_averageTrueRange (candles : List Candle) (n : Nat) :
    (averageTrueRange candles n).lastValue =
      if 0 < n ∧ n < candles.length then some (wilderValue candles n (candles.length - 1))
      else none := by
  simp only [Series.lastValue, List.isEmpty_iff_length_eq_zero, length_averageTrueRange_points]
  by_cases hn : n = 0
  · simp [hn]
  · by_cases hc : candles.length = 0
    · simp [hn, hc]
    · simp only [hn, hc, if_false, valueAt_averageTrueRange]
      congr 1
      apply propext
      omega

/-- The average true range of period `n`, point by point. For period zero or no candles the
series is empty. Otherwise it has one point per candle, in order, with the candle's time; a
point is valid from position `n` on and is zero before; the value at `n` is the sum of the true
ranges of candles `1..n`, added from left to right, over `n`; every later value is the previous
point's value times `n - 1`, plus the new true range, over `n`. So a value is read exactly at
positions `n` to the last, and the last value exactly when there are more candles than `n`. -/
theorem averageTrueRange_follows_wilder (candles : List Candle) (n : Nat) :
    let A := averageTrueRange candles n
    (n = 0 ∨ candles = [] → A.points = []) ∧
    (0 < n → A.points.length = candles.length ∧
      ∀ i (hi : i < candles.length), ∃ p, A.points[i]? = some p ∧
        p.time = candles[i].time ∧ (p.valid = true ↔ n ≤ i) ∧
        (p.valid = false → p.value = 0.0) ∧
        (i = n → p.value = trueRangeSum candles n / ofNat n) ∧
        (n < i → ∃ q, A.points[i - 1]? = some q ∧
          p.value = (q.value * (ofNat n - 1.0) + trueRangeAt candles i) / ofNat n)) ∧
    (∀ i, (A.valueAt i).isSome ↔ 0 < n ∧ n ≤ i ∧ i < candles.length) ∧
    (A.lastValue.isSome ↔ 0 < n ∧ n < candles.length) := by
  intro A
  refine ⟨?empty, ?points, ?values, ?last⟩
  case empty =>
    rintro (rfl | rfl) <;> simp [A, averageTrueRange_points]
  case points =>
    intro hn
    refine ⟨by simp [A, Nat.pos_iff_ne_zero.mp hn], fun i hi ↦
      ⟨_, getElem?_averageTrueRange_points hn hi, rfl, by simp [wilderPoint], ?_, ?_, ?_⟩⟩
    · intro hv
      simp only [wilderPoint, decide_eq_false_iff_not, Nat.not_le] at hv
      exact wilderValue_of_lt hv
    · rintro rfl
      exact wilderValue_self hn
    · intro hlt
      exact ⟨_, getElem?_averageTrueRange_points hn (by omega), wilderValue_of_gt hlt⟩
  case values =>
    intro i
    rw [valueAt_averageTrueRange]
    split <;> simp_all
  case last =>
    rw [lastValue_averageTrueRange]
    split <;> simp_all

/-! ### Values of a prefix -/

theorem trueRangeAt_take {candles : List Candle} {k j : Nat} (h : j < k) :
    trueRangeAt (candles.take k) j = trueRangeAt candles j := by
  simp [trueRangeAt, List.getElem?_take_of_lt h,
    List.getElem?_take_of_lt (show j - 1 < k by omega)]

theorem trueRangeSum_take {candles : List Candle} {k m : Nat} (h : m < k) :
    trueRangeSum (candles.take k) m = trueRangeSum candles m := by
  simp only [trueRangeSum]
  congr 1
  refine List.map_congr_left fun j hj ↦ trueRangeAt_take ?_
  simp only [List.mem_range'_1] at hj
  omega

/-- A value of the recurrence reads only the candles up to its own. -/
theorem wilderValue_take {candles : List Candle} {n k : Nat} :
    ∀ {i : Nat}, i < k → wilderValue (candles.take k) n i = wilderValue candles n i
  | 0, _ => rfl
  | i + 1, h => by
    simp only [wilderValue, wilderValue_take (show i < k by omega), trueRangeAt_take h]
    -- the seed sums the true ranges up to `n`, here the position itself
    by_cases hn : i + 1 = n
    · subst hn
      rw [trueRangeSum_take h]
    · simp [hn]

/-- The series of a prefix has the values of the whole series up to the prefix's end. -/
theorem valueAt_averageTrueRange_take (candles : List Candle) (n : Nat) {k i : Nat} (h : i < k) :
    (averageTrueRange (candles.take k) n).valueAt i = (averageTrueRange candles n).valueAt i := by
  simp only [valueAt_averageTrueRange, List.length_take, wilderValue_take h]
  congr 1
  apply propext
  omega

/-! ### The surge of the last candle -/

theorem lastTwo_eq_some_iff {candles : List Candle} {prev cur : Candle} :
    lastTwo candles = some (prev, cur) ↔ ∃ before, candles = before ++ [prev, cur] := by
  constructor
  · intro h
    unfold lastTwo at h
    split at h
    · next rest hrev =>
      cases h
      refine ⟨rest.reverse, ?_⟩
      rw [← List.reverse_reverse candles, hrev]
      simp
    · cases h
  · rintro ⟨before, rfl⟩
    exact lastTwo_append_pair before prev cur

/-- For any series, a surge is raised on the last candle exactly when the last two candles are
well formed, the series has values at both, and the last exceeds the one before times the
threshold; the surge carries the two closes, the last value and the last candle's time. -/
theorem detectAtrSurge_eq_some_iff (pair : String) (candles : List Candle) (atr : Series)
    (threshold : Float) (e : Event) :
    detectAtrSurge pair candles atr threshold = some e ↔
      ∃ (before : List Candle) (prev cur : Candle) (now was : Float),
        candles = before ++ [prev, cur] ∧ prev.isWellFormed = true ∧ cur.isWellFormed = true ∧
        atr.valueAt (before.length + 1) = some now ∧ atr.valueAt before.length = some was ∧
        now > was * threshold ∧
        e = { pair := pair, kind := .atrSurge, levelId := none, levelValue := none,
              prevPrice := prev.close, currentPrice := cur.close, atrValue := some now,
              time := cur.time } := by
  constructor
  · intro h
    unfold detectAtrSurge at h
    split at h
    · cases h
    · next prev cur hlast =>
      obtain ⟨before, rfl⟩ := lastTwo_eq_some_iff.mp hlast
      have hlen : (before ++ [prev, cur]).length - 1 = before.length + 1 := by simp
      simp only [hlen, Nat.add_sub_cancel] at h
      -- a malformed candle among the last two raises nothing
      cases hp : prev.isWellFormed <;> cases hc : cur.isWellFormed <;>
        simp only [hp, hc, Bool.not_true, Bool.not_false, Bool.or_true,
          Bool.or_false, Bool.false_eq_true, if_true, if_false, reduceCtorEq] at h
      split at h
      · next now was hnow hwas =>
        split at h
        · next hgt =>
          exact ⟨before, prev, cur, now, was, rfl, hp, hc, hnow, hwas, hgt,
            (Option.some.inj h).symm⟩
        · cases h
      · cases h
  · rintro ⟨before, prev, cur, now, was, rfl, hp, hc, hnow, hwas, hgt, rfl⟩
    simp [detectAtrSurge, lastTwo_append_pair, hp, hc, hnow, hwas, hgt]

/-- A surge of the average true range of a positive period `n` is raised on the last candle
exactly when there are at least `n + 2` candles, the last two are well formed, and the value at
the last candle exceeds the value before it times the threshold. It then names the pair, has
kind `atrSurge`, no level, the last two closes, the last value and the last candle's time. So
no surge is raised during the warm-up, whatever the threshold. -/
theorem detectAtrSurge_averageTrueRange_eq_some_iff (pair : String) (candles : List Candle)
    (n : Nat) (hn : 0 < n) (threshold : Float) (e : Event) :
    detectAtrSurge pair candles (averageTrueRange candles n) threshold = some e ↔
      ∃ (before : List Candle) (prev cur : Candle), candles = before ++ [prev, cur] ∧
        n ≤ before.length ∧ prev.isWellFormed = true ∧ cur.isWellFormed = true ∧
        wilderValue candles n (before.length + 1) >
          wilderValue candles n before.length * threshold ∧
        e = { pair := pair, kind := .atrSurge, levelId := none, levelValue := none,
              prevPrice := prev.close, currentPrice := cur.close,
              atrValue := some (wilderValue candles n (before.length + 1)), time := cur.time } := by
  rw [detectAtrSurge_eq_some_iff]
  constructor
  · rintro ⟨before, prev, cur, now, was, rfl, hp, hc, hnow, hwas, hgt, rfl⟩
    simp only [valueAt_averageTrueRange, List.length_append, List.length_cons, List.length_nil]
      at hnow hwas
    split at hnow <;> split at hwas <;> simp only [Option.some.injEq, reduceCtorEq] at hnow hwas
    next hnow' hwas' =>
      subst hnow hwas
      exact ⟨before, prev, cur, rfl, hwas'.2.1, hp, hc, hgt, rfl⟩
  · rintro ⟨before, prev, cur, rfl, hlen, hp, hc, hgt, rfl⟩
    refine ⟨before, prev, cur, _, _, rfl, hp, hc, ?_, ?_, hgt, rfl⟩ <;>
      simp only [valueAt_averageTrueRange, List.length_append, List.length_cons,
        List.length_nil] <;>
      rw [if_pos (by omega)]

/-- Over three bars whose last one is three times as wide, the average true range of period one
triples, and a surge past one and a half times is raised. -/
theorem detectAtrSurge_of_wide_last_bar :
    let bar (m : Nat) (low high : Float) : Candle :=
      ⟨⟨2024, 1, 1, 0, m, 0, 0⟩, 1.0, high, low, 1.0, 0.0⟩
    let candles := [bar 0 0.5 1.5, bar 15 0.5 1.5, bar 30 0.0 3.0]
    0 < 1 ∧ (detectAtrSurge "BTC/USDT" candles (averageTrueRange candles 1) 1.5).isSome := by
  intro bar candles
  have hsurge := (detectAtrSurge_averageTrueRange_eq_some_iff "BTC/USDT" candles 1 (by decide)
    1.5 _).mpr ⟨[bar 0 0.5 1.5], bar 15 0.5 1.5, bar 30 0.0 3.0, rfl, by decide, by decide,
      by decide, by decide +kernel, rfl⟩
  exact ⟨by decide, by simp [hsurge]⟩

end LevelCross
