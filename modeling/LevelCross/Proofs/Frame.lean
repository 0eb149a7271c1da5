import LevelCross.Analysis.Strategy

/-!
# The last row of the strategy frame

The strategy judges only the last candle of a series, and it does so twice: `annotate` puts the
kinds that `detect` raises on the last candle as marks, and the entry and exit columns are then
read off those marks and off the two newest values of the average true range. This module
states what the last row holds, so that the watcher's statements can compare it with the
events it records.

* `lastFlags_has`: the marks of the last candle carry exactly the level kinds of its events;
  a surge is never a mark.
* `isLevelKind_of_mem_detect`: `detect` raises only level kinds.
* `populateIndicators_getLast?` and `populateExit_populateEntry_getLast?`: the last row, field
  by field, before and after entries and exits are marked.
* `detectAtrSurge_isSome`: on two well-formed last candles, a surge is raised exactly when the
  last row's average true range rises past the threshold (`FrameRow.atrRises`).
-/

namespace LevelCross

/-! ### Marks -/

/-- Whether a set of marks carries a kind. The marks have no field for a surge, so a surge is
never carried. -/
def Flags.has (f : Flags) : Kind → Bool
  | .crossUp => f.crossUp
  | .crossDown => f.crossDown
  | .wickUp => f.wickUp
  | .wickDown => f.wickDown
  | .atrSurge => false

@[simp]
theorem Flags.has_empty (k : Kind) : ({} : Flags).has k = false := by
  cases k <;> rfl

theorem Flags.mark_has (f : Flags) (k j : Kind) :
    (f.mark k).has j = (f.has j || (j.isLevelKind && k == j)) := by
  cases k <;> cases j <;> simp [Flags.mark, Flags.has, Kind.isLevelKind]

/-- Marking the kinds of a list of events, one after the other, adds exactly the level kinds
among them. -/
theorem Flags.foldl_mark_has (j : Kind) :
    ∀ (es : List Event) (f : Flags),
      (es.foldl (fun (f : Flags) e ↦ f.mark e.kind) f).has j =
        (f.has j || (j.isLevelKind && es.any (·.kind == j)))
  | [], f => by simp
  | e :: es, f => by
    rw [List.foldl_cons, Flags.foldl_mark_has j es, Flags.mark_has]
    cases f.has j <;> cases j.isLevelKind <;> simp

/-- The marks of the last candle carry exactly the level kinds of its events; the level named
beside them does not change which kinds are carried. -/
theorem lastFlags_has (es : List Event) (j : Kind) :
    (lastFlags es).has j = (j.isLevelKind && es.any (·.kind == j)) := by
  cases es with
  | nil => cases j <;> rfl
  | cons e es =>
    have h := Flags.foldl_mark_has j (e :: es) {}
    rw [Flags.has_empty, Bool.false_or] at h
    rw [← h]
    cases j <;> rfl

/-! ### The kinds that `detect` raises -/

/-- A level raises only level kinds. -/
theorem evaluateLevel_isLevelKind {previous current : Candle} {level : PriceLevel} {k : Kind}
    (h : evaluateLevel previous current level = some k) : k.isLevelKind = true := by
  unfold evaluateLevel at h
  split at h
  · cases h
  · -- the four guarded checks, each answering a level kind
    simp only at h
    repeat' split at h
    all_goals cases h <;> rfl

/-- Ordering by priority keeps only events that were there. -/
theorem mem_of_mem_byPriority {e : Event} {es : List Event} (h : e ∈ byPriority es) : e ∈ es := by
  simp only [byPriority, List.mem_flatMap, List.mem_filter] at h
  obtain ⟨_, _, he, _⟩ := h
  exact he

/-- The events of `detect` are level events. -/
theorem isLevelKind_of_mem_detect {candles : List Candle} {levels : List PriceLevel} {e : Event}
    (h : e ∈ detect candles levels) : e.kind.isLevelKind = true := by
  unfold detect at h
  split at h
  · cases h
  · split at h
    · cases h
    · split at h
      · cases h
      · obtain ⟨l, -, hl⟩ := List.mem_filterMap.mp (mem_of_mem_byPriority h)
        obtain ⟨k, hk, rfl⟩ := Option.map_eq_some_iff.mp hl
        exact evaluateLevel_isLevelKind hk

/-- `detect` raises no surge. -/
theorem detect_any_atrSurge (candles : List Candle) (levels : List PriceLevel) :
    (detect candles levels).any (·.kind == .atrSurge) = false := by
  rw [List.any_eq_false]
  intro e he
  have := isLevelKind_of_mem_detect he
  cases hk : e.kind <;> simp_all [Kind.isLevelKind]

/-- Without levels nothing is raised. -/
@[simp]
theorem detect_nil_levels (candles : List Candle) : detect candles [] = [] := rfl

/-! ### The last row -/

/-- The marks the strategy puts on candles closing with `cur`: only the last candle can carry
any, and only when level checks are enabled. -/
theorem strategyFlags_concat (init : List Candle) (cur : Candle) (levels : List PriceLevel)
    (c : StrategyConfig) :
    (if c.levelsEnabled then annotate (init ++ [cur]) levels
      else List.replicate (init ++ [cur]).length ({} : Flags)) =
      List.replicate init.length ({} : Flags) ++
        [if c.levelsEnabled then lastFlags (detect (init ++ [cur]) levels) else {}] := by
  cases c.levelsEnabled with
  | true => simp [annotate]
  | false => simp [List.replicate_succ']

/-- The row of the last candle, before entries and exits are marked. -/
theorem populateIndicators_getLast? (pair : String) (init : List Candle) (cur : Candle)
    (levels : List PriceLevel) (c : StrategyConfig) :
    (populateIndicators pair (init ++ [cur]) levels c).rows.getLast? =
      let atr := averageTrueRange (init ++ [cur]) c.atrPeriod
      some { candle := cur, atr := atr.valueAt init.length,
             atrPrev := if init.length == 0 then none else atr.valueAt (init.length - 1),
             closePrev :=
               if init.length == 0 then none else ((init ++ [cur])[init.length - 1]?).map (·.close),
             flags := if c.levelsEnabled then lastFlags (detect (init ++ [cur]) levels) else {} } := by
  simp only [populateIndicators, strategyFlags_concat]
  rw [List.zip_append (by simp), List.zipIdx_append, List.map_append, List.getLast?_append]
  simp

/-- Entries and exits of the last row are marked from that row alone. -/
theorem populateExit_populateEntry_getLast? (frame : Frame) (c : StrategyConfig) :
    (populateExit (populateEntry frame c) c).rows.getLast? =
      frame.rows.getLast?.map fun r ↦
        { r with
          enterLong := r.atrRises c.atrThreshold ||
            (c.checkLevelCrossing && (r.flags.crossUp || r.flags.wickUp || r.flags.wickDown))
          exitLong := c.checkLevelCrossing && r.flags.crossDown } := by
  simp [populateExit, populateEntry, Function.comp_def]

/-! ### The surge of the last candle -/

theorem lastTwo_append_pair (before : List Candle) (prev cur : Candle) :
    lastTwo (before ++ [prev, cur]) = some (prev, cur) := by
  simp [lastTwo]

/-- On two well-formed last candles a surge is raised exactly when a row holding the last two
values of the series has its average true range rise past the threshold. -/
theorem detectAtrSurge_isSome (pair : String) (before : List Candle) (prev cur : Candle)
    (atr : Series) (threshold : Float) (hprev : prev.isWellFormed = true)
    (hcur : cur.isWellFormed = true) (r : FrameRow) (hnow : r.atr = atr.valueAt (before.length + 1))
    (hbefore : r.atrPrev = atr.valueAt before.length) :
    (detectAtrSurge pair (before ++ [prev, cur]) atr threshold).isSome = r.atrRises threshold := by
  simp only [detectAtrSurge, lastTwo_append_pair, hprev, hcur, Bool.not_true, Bool.or_false,
    FrameRow.atrRises, hnow, hbefore]
  have hlast : (before ++ [prev, cur]).length - 1 = before.length + 1 := by simp
  rw [hlast, Nat.add_sub_cancel]
  cases atr.valueAt (before.length + 1) <;> cases atr.valueAt before.length <;> simp
  split <;> simp_all

/-- A raised surge is an event of kind `atrSurge`. -/
theorem detectAtrSurge_kind {pair : String} {candles : List Candle} {atr : Series}
    {threshold : Float} {e : Event} (h : detectAtrSurge pair candles atr threshold = some e) :
    e.kind = .atrSurge := by
  unfold detectAtrSurge at h
  split at h
  · cases h
  · split at h
    · cases h
    · simp only at h
      split at h
      · split at h
        · cases h
          rfl
        · cases h
      · cases h

end LevelCross
