import LevelCross.Proofs.AverageTrueRange

/-!
# Every row of the strategy frame

The strategy frame has one row per candle. A row holds its candle, the average true range there
and at the candle before, the close before, the crossing marks of the candle, and the entry and
exit read off them. The marks come from `annotate`, which marks the last candle alone, so every
earlier row enters on the rise of the average true range only and never exits.

Each row looks only at its own candle and the ones before: the average true range at a position
reads no later candle (`valueAt_averageTrueRange_take`), so row `i` holds what the last row of
the strategy run on the first `i + 1` candles holds. The strategy has no look-ahead.

* `populateIndicators_getElem?`, `populateExit_populateEntry_getElem?`: row `i`, field by field,
  before and after entries and exits are marked.
* `strategyFlags_getElem?_of_lt`: every row but the last carries no marks.
* `annotate_marks_events`: the marks of a series; only the last candle can carry any, and it
  carries exactly the kinds of the events of the series and the level of the first event.
* `strategyFrame_rows`: the rows of the strategy frame, and the last row of every prefix run.
-/

namespace LevelCross

/-! ### Marks -/

theorem length_annotate (candles : List Candle) (levels : List PriceLevel) :
    (annotate candles levels).length = candles.length := by
  unfold annotate
  split <;> simp_all

/-- The marks the strategy puts on the candles: one set per candle. -/
theorem length_strategyFlags (c : StrategyConfig) (candles : List Candle)
    (levels : List PriceLevel) :
    (if c.levelsEnabled then annotate candles levels
      else List.replicate candles.length ({} : Flags)).length = candles.length := by
  split <;> simp [length_annotate]

/-- `annotate` leaves every candle but the last without marks. -/
theorem annotate_getElem?_of_lt (candles : List Candle) (levels : List PriceLevel) {i : Nat}
    (hi : i + 1 < candles.length) : (annotate candles levels)[i]? = some {} := by
  unfold annotate
  split
  · omega
  · next n hn =>
    rw [List.getElem?_append_left (by simp; omega), List.getElem?_replicate]
    simp only [if_pos (show i < n by omega)]

/-- Every candle but the last carries no marks. -/
theorem strategyFlags_getElem?_of_lt (c : StrategyConfig) (candles : List Candle)
    (levels : List PriceLevel) {i : Nat} (hi : i + 1 < candles.length) :
    (if c.levelsEnabled then annotate candles levels
      else List.replicate candles.length ({} : Flags))[i]? = some {} := by
  split
  · exact annotate_getElem?_of_lt candles levels hi
  · simp [show i < candles.length by omega]

/-- The last candle, when there is one, carries the marks of the events of the series. -/
theorem annotate_getLast? (candles : List Candle) (levels : List PriceLevel) :
    (annotate candles levels).getLast? =
      candles.getLast?.map fun _ ↦ lastFlags (detect candles levels) := by
  unfold annotate
  split
  · next h => simp [List.length_eq_zero_iff.mp h]
  · next n h =>
    obtain ⟨c, hc⟩ := Option.isSome_iff_exists.mp
      (List.getLast?_isSome.mpr (List.ne_nil_of_length_eq_add_one h))
    simp [hc]

/-- The marks of the last candle name the level of the first event. -/
theorem lastFlags_levelId (es : List Event) :
    (lastFlags es).levelId = es.head?.bind (·.levelId) := by
  cases es <;> rfl

/-- The marks of the last candle give the price of the level of the first event. -/
theorem lastFlags_levelValue (es : List Event) :
    (lastFlags es).levelValue = es.head?.bind (·.levelValue) := by
  cases es <;> rfl

/-- Something is marked exactly when one of the four kinds is. -/
theorem Flags.any_eq_has (f : Flags) :
    f.any = (f.has .crossUp || f.has .crossDown || f.has .wickUp || f.has .wickDown) := rfl

/-- The last candle carries the flag of a kind exactly when an event of the series has that
kind: `detect` raises level kinds only, the kinds that have a flag. -/
theorem lastFlags_detect_has (candles : List Candle) (levels : List PriceLevel) (k : Kind) :
    (lastFlags (detect candles levels)).has k = true ↔ ∃ e ∈ detect candles levels, e.kind = k := by
  rw [lastFlags_has, Bool.and_eq_true, List.any_eq_true]
  constructor
  · rintro ⟨-, e, he, hk⟩
    exact ⟨e, he, beq_iff_eq.mp hk⟩
  · rintro ⟨e, he, rfl⟩
    exact ⟨isLevelKind_of_mem_detect he, e, he, beq_self_eq_true _⟩

/-- The last candle marks something exactly when the series raises an event. -/
theorem lastFlags_detect_any (candles : List Candle) (levels : List PriceLevel) :
    (lastFlags (detect candles levels)).any = true ↔ detect candles levels ≠ [] := by
  simp only [Flags.any_eq_has, Bool.or_eq_true, lastFlags_detect_has]
  constructor
  · rintro (((⟨e, he, -⟩ | ⟨e, he, -⟩) | ⟨e, he, -⟩) | ⟨e, he, -⟩) <;> exact List.ne_nil_of_mem he
  · intro hne
    obtain ⟨e, he⟩ := List.exists_mem_of_ne_nil _ hne
    -- the first event is of a level kind, and that kind is flagged
    have hk := isLevelKind_of_mem_detect he
    cases hek : e.kind with
    | crossUp => exact .inl (.inl (.inl ⟨e, he, hek⟩))
    | crossDown => exact .inl (.inl (.inr ⟨e, he, hek⟩))
    | wickUp => exact .inl (.inr ⟨e, he, hek⟩)
    | wickDown => exact .inr ⟨e, he, hek⟩
    | atrSurge => simp [hek, Kind.isLevelKind] at hk

/-- The marks of a series, one set per candle: every set but the last is empty. The last
carries the flag of a kind exactly when the events of the series include one of that kind, and
names the level and price of the first event, or none when there is no event; so it marks
something exactly when there is an event. -/
theorem annotate_marks_events (candles : List Candle) (levels : List PriceLevel) :
    (annotate candles levels).length = candles.length ∧
    (∀ i, i + 1 < candles.length → (annotate candles levels)[i]? = some {}) ∧
    ∀ f, (annotate candles levels).getLast? = some f →
      (∀ k, f.has k = true ↔ ∃ e ∈ detect candles levels, e.kind = k) ∧
      f.levelId = (detect candles levels).head?.bind (·.levelId) ∧
      f.levelValue = (detect candles levels).head?.bind (·.levelValue) ∧
      (f.any = true ↔ detect candles levels ≠ []) := by
  refine ⟨length_annotate candles levels, fun i hi ↦ annotate_getElem?_of_lt candles levels hi,
    fun f hf ↦ ?_⟩
  rw [annotate_getLast?] at hf
  obtain ⟨-, -, rfl⟩ := Option.map_eq_some_iff.mp hf
  exact ⟨lastFlags_detect_has candles levels, lastFlags_levelId _, lastFlags_levelValue _,
    lastFlags_detect_any candles levels⟩

/-! ### Rows -/

/-- Row `i` of the frame, before entries and exits are marked: the candle, the average true
range at `i` and at `i - 1`, the close before, and the marks of the candle. -/
theorem populateIndicators_getElem? (pair : String) (candles : List Candle)
    (levels : List PriceLevel) (c : StrategyConfig) {i : Nat} (hi : i < candles.length) :
    let A := averageTrueRange candles c.atrPeriod
    ∃ f, (if c.levelsEnabled then annotate candles levels
        else List.replicate candles.length ({} : Flags))[i]? = some f ∧
      (populateIndicators pair candles levels c).rows[i]? =
        some { candle := candles[i], atr := A.valueAt i,
               atrPrev := if i = 0 then none else A.valueAt (i - 1),
               closePrev := if i = 0 then none else some candles[i - 1].close,
               flags := f } := by
  intro A
  have hlen := length_strategyFlags c candles levels
  obtain ⟨f, hf⟩ : ∃ f, (if c.levelsEnabled then annotate candles levels
      else List.replicate candles.length ({} : Flags))[i]? = some f :=
    ⟨_, List.getElem?_eq_getElem (by omega)⟩
  have hzip : (candles.zip _)[i]? = some (candles[i], f) :=
    List.getElem?_zip_eq_some.mpr ⟨List.getElem?_eq_getElem hi, hf⟩
  refine ⟨f, hf, ?_⟩
  simp only [populateIndicators, List.getElem?_map, List.getElem?_zipIdx, hzip, Option.map_some,
    Nat.zero_add, beq_iff_eq]
  by_cases h0 : i = 0
  · simp [h0, A]
  · simp [h0, A, List.getElem?_eq_getElem (show i - 1 < candles.length by omega)]

/-- Entries and exits of every row are marked from that row alone. -/
theorem populateExit_populateEntry_getElem? (frame : Frame) (c : StrategyConfig) (i : Nat) :
    (populateExit (populateEntry frame c) c).rows[i]? =
      frame.rows[i]?.map fun r ↦
        { r with
          enterLong := r.atrRises c.atrThreshold ||
            (c.checkLevelCrossing && (r.flags.crossUp || r.flags.wickUp || r.flags.wickDown))
          exitLong := c.checkLevelCrossing && r.flags.crossDown } := by
  simp [populateExit, populateEntry, Function.comp_def]

/-- The surge condition of a row reads only its two values of the average true range. -/
theorem FrameRow.atrRises_congr {r s : FrameRow} (hatr : r.atr = s.atr)
    (hprev : r.atrPrev = s.atrPrev) (threshold : Float) :
    r.atrRises threshold = s.atrRises threshold := by
  simp [FrameRow.atrRises, hatr, hprev]

/-- The last row of the strategy run on the first `i + 1` candles. -/
theorem strategyFrame_take_getLast? (pair : String) (candles : List Candle)
    (levels : List PriceLevel) (c : StrategyConfig) {i : Nat} (hi : i < candles.length) :
    let A := averageTrueRange candles c.atrPeriod
    ∃ last, (populateExit (populateEntry
        (populateIndicators pair (candles.take (i + 1)) levels c) c) c).rows.getLast? =
          some last ∧
      last.atr = A.valueAt i ∧ last.atrPrev = (if i = 0 then none else A.valueAt (i - 1)) ∧
      last.closePrev = (if i = 0 then none else some candles[i - 1].close) := by
  intro A
  have htake : candles.take (i + 1) = candles.take i ++ [candles[i]] := by
    rw [List.take_add_one, List.getElem?_eq_getElem hi, Option.toList_some]
  have hlen : (candles.take i).length = i := by simp; omega
  have hrow := populateIndicators_getLast? pair (candles.take i) candles[i] levels c
  rw [← htake, hlen] at hrow
  refine ⟨_, by rw [populateExit_populateEntry_getLast?, hrow, Option.map_some], ?_, ?_, ?_⟩
  · exact valueAt_averageTrueRange_take candles c.atrPeriod (Nat.lt_succ_self i)
  · by_cases h0 : i = 0
    · simp [h0]
    · simp only [beq_iff_eq, h0, if_false]
      exact valueAt_averageTrueRange_take candles c.atrPeriod (by omega)
  · by_cases h0 : i = 0
    · simp [h0]
    · simp [h0, List.getElem?_take_of_lt (show i - 1 < i + 1 by omega),
        List.getElem?_eq_getElem (show i - 1 < candles.length by omega)]

/-- The strategy frame over any candles, levels and settings, validated or not. It has the
average true range of the candles as its series and one row per candle. Row `i` holds candle
`i`, the value of the series at `i` and at `i - 1`, and the close of candle `i - 1` (none of the
last two for the first row); its marks are those `annotate` puts on candle `i` when level
checks are enabled and none otherwise; it enters on a rise of the series past the threshold or,
while crossings are checked, on an upward cross or a wick, and exits on a downward cross while
crossings are checked. Every row but the last carries no marks and never exits, and holds the
same values, the same previous close and, as its entry, the same surge condition as the last
row of the strategy run on the candles up to its own. -/
theorem strategyFrame_rows (pair : String) (candles : List Candle) (levels : List PriceLevel)
    (c : StrategyConfig) :
    let F := populateExit (populateEntry (populateIndicators pair candles levels c) c) c
    let A := averageTrueRange candles c.atrPeriod
    F.atr = A ∧ F.rows.length = candles.length ∧
    ∀ i (hi : i < candles.length), ∃ r, F.rows[i]? = some r ∧
      r.candle = candles[i] ∧ r.atr = A.valueAt i ∧
      r.atrPrev = (if i = 0 then none else A.valueAt (i - 1)) ∧
      r.closePrev = (if i = 0 then none else some candles[i - 1].close) ∧
      (if c.levelsEnabled then (annotate candles levels)[i]? else some {}) = some r.flags ∧
      r.enterLong = (r.atrRises c.atrThreshold ||
        (c.checkLevelCrossing && (r.flags.crossUp || r.flags.wickUp || r.flags.wickDown))) ∧
      r.exitLong = (c.checkLevelCrossing && r.flags.crossDown) ∧
      (i + 1 < candles.length →
        r.flags = {} ∧ r.exitLong = false ∧
        ∃ last, (populateExit (populateEntry
            (populateIndicators pair (candles.take (i + 1)) levels c) c) c).rows.getLast? =
              some last ∧
          r.atr = last.atr ∧ r.atrPrev = last.atrPrev ∧ r.closePrev = last.closePrev ∧
          r.enterLong = last.atrRises c.atrThreshold) := by
  intro F A
  refine ⟨rfl, ?_, fun i hi ↦ ?_⟩
  · simp [F, populateExit, populateEntry, populateIndicators, length_strategyFlags]
  obtain ⟨f, hf, hrow⟩ := populateIndicators_getElem? pair candles levels c hi
  refine ⟨_, by rw [populateExit_populateEntry_getElem?, hrow, Option.map_some], rfl, rfl, rfl,
    rfl, ?marks, rfl, rfl, fun hlast ↦ ?earlier⟩
  case marks =>
    show _ = some f
    rw [← hf]
    cases h : c.levelsEnabled <;> simp [hi]
  case earlier =>
    -- an earlier row carries no marks, so it enters on the surge condition alone
    have hnone : f = {} := Option.some.inj (hf.symm.trans (strategyFlags_getElem?_of_lt c candles
      levels hlast))
    subst hnone
    obtain ⟨last, hget, hatr, hprev, hclose⟩ :=
      strategyFrame_take_getLast? pair candles levels c hi
    refine ⟨rfl, by simp, last, hget, hatr.symm, hprev.symm, hclose.symm, ?_⟩
    simp only [Bool.or_false, Bool.and_false]
    exact FrameRow.atrRises_congr hatr.symm hprev.symm c.atrThreshold

end LevelCross
