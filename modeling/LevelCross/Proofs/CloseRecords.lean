import Mathlib
import LevelCross.Watch
import LevelCross.Proofs.Frame
import LevelCross.Proofs.SignalStore

/-!
# A candle close on one store records every event

On live data, a candle close against a store with no outage records each event of the last
candle and then announces it. Recording refuses an event only when the level it names does not
exist or one of its prices is NaN, and neither can happen here: every level event names a level
of the snapshot just taken from the same store, and both prices of every event are closes of the
two well-formed last candles.

So the close appends the events to the log of signals, in order, under consecutive fresh
identifiers (`SignalLog.records`), answers each as recording does, and leaves a store that still
reads back every signal. A signal is listed as `Record.listed` has it, which is the answer of
recording except for a NaN or negative-zero double and a leap second
(`Record.listed_eq_returned`); an average true range that is NaN, as a NaN high and low of an
earlier candle makes it, is listed as none.

* `Event.Recordable`: what recording an event needs, and what keeps it readable.
* `recordable_of_mem_closeEvents`: every event of a close is recordable beside the levels of the
  store, given the candles' times are readings.
* `announceStep_store`, `foldl_announceStep_store`: one event, then all of them, through the
  store's services.
* `onCandleClose_records_events`: the run as a whole.
* `onCandleClose_lists_nan_atrValue_as_none`: the close that records a NaN average true range.
-/

namespace LevelCross

open LevelCross.Time LevelCross.Number LevelCross.Store

/-! ### Events that recording takes -/

/-- What recording an event beside the levels `M` needs, and what keeps it readable: the level
it names exists, its prices are numbers, and its time is one a reading can give. -/
structure Event.Recordable (M : List PriceLevel) (e : Event) : Prop where
  level : ∀ lid, e.levelId = some lid → (LevelMap.lookup M lid).isSome
  prevPrice : isNaN e.prevPrice = false
  currentPrice : isNaN e.currentPrice = false
  time : e.time.isReading = true

/-- Setting the average true range of an event changes nothing recording checks. -/
theorem Event.Recordable.withAtr {M : List PriceLevel} {e : Event} (h : e.Recordable M)
    (atr : Option Float) : ({ e with atrValue := atr } : Event).Recordable M :=
  ⟨h.level, h.prevPrice, h.currentPrice, h.time⟩

/-- A finite double is no NaN. -/
theorem isNaN_eq_false_of_isFinite {x : Float} (h : isFinite x = true) : isNaN x = false := by
  simp only [isFinite, isNaN] at h ⊢
  cases hs : shape x <;> simp_all

/-- The close of a well-formed candle is a number. -/
theorem Candle.isNaN_close {c : Candle} (h : c.isWellFormed = true) : isNaN c.close = false := by
  simp only [Candle.isWellFormed, Bool.and_eq_true] at h
  exact isNaN_eq_false_of_isFinite h.2

/-- The last two candles are candles of the series. -/
theorem mem_of_lastTwo {candles : List Candle} {prev cur : Candle}
    (h : lastTwo candles = some (prev, cur)) : prev ∈ candles ∧ cur ∈ candles := by
  unfold lastTwo at h
  split at h
  · next rest hrev =>
    cases h
    have hmem : ∀ x, x ∈ candles.reverse → x ∈ candles := fun x hx ↦ List.mem_reverse.mp hx
    exact ⟨hmem _ (by simp [hrev]), hmem _ (by simp [hrev])⟩
  · cases h

section Events

variable {M levels : List PriceLevel} {candles : List Candle}

/-- An event of two well-formed last candles, carrying their closes and the time of the last, is
recordable when the level it names exists. -/
theorem Event.recordable_of_lastTwo (htimes : ∀ x ∈ candles, x.time.isReading = true)
    {prev cur : Candle} (hlast : lastTwo candles = some (prev, cur))
    (hwf : ¬(!cur.isWellFormed || !prev.isWellFormed) = true) {e : Event}
    (hprev : e.prevPrice = prev.close) (hcur : e.currentPrice = cur.close) (htime : e.time = cur.time)
    (hlevel : ∀ lid, e.levelId = some lid → (LevelMap.lookup M lid).isSome) : e.Recordable M := by
  simp only [Bool.or_eq_true, Bool.not_eq_true', not_or, Bool.not_eq_false] at hwf
  refine ⟨hlevel, hprev ▸ Candle.isNaN_close hwf.2, hcur ▸ Candle.isNaN_close hwf.1, ?_⟩
  rw [htime]
  exact htimes cur (mem_of_lastTwo hlast).2

/-- Every level event of the last candle is recordable beside levels that hold those it was
detected against. -/
theorem recordable_of_mem_detect (hM : ∀ l ∈ levels, l ∈ M)
    (htimes : ∀ x ∈ candles, x.time.isReading = true) {e : Event}
    (he : e ∈ detect candles levels) : e.Recordable M := by
  unfold detect at he
  split at he
  · cases he
  · cases hlast : lastTwo candles with
    | none => simp [hlast] at he
    | some pc =>
      obtain ⟨prev, cur⟩ := pc
      simp only [hlast] at he
      split at he
      · cases he
      · next hwf =>
        -- the event is the crossing of one level of the snapshot by the last two closes
        obtain ⟨level, hlevel, hev⟩ := List.mem_filterMap.mp (mem_of_mem_byPriority he)
        simp only [levelEvent, Option.map_eq_some_iff] at hev
        obtain ⟨k, -, rfl⟩ := hev
        refine Event.recordable_of_lastTwo htimes hlast hwf rfl rfl rfl fun lid hlid ↦ ?_
        cases hlid
        rw [LevelMap.isSome_lookup, List.any_eq_true]
        exact ⟨level, hM level hlevel, by simp⟩

/-- A surge names no level, and its prices are the closes of the two well-formed last candles. -/
theorem recordable_of_detectAtrSurge (htimes : ∀ x ∈ candles, x.time.isReading = true)
    {pair : String} {atr : Series} {threshold : Float} {e : Event}
    (he : detectAtrSurge pair candles atr threshold = some e) : e.Recordable M := by
  unfold detectAtrSurge at he
  cases hlast : lastTwo candles with
  | none => simp [hlast] at he
  | some pc =>
    obtain ⟨prev, cur⟩ := pc
    simp only [hlast] at he
    split at he
    · cases he
    · next hwf =>
      split at he
      · split at he
        · cases he
          exact Event.recordable_of_lastTwo htimes hlast hwf rfl rfl rfl fun _ h ↦ by cases h
        · cases he
      · cases he

/-- Every event of a close is recordable beside levels that hold those it ran with. -/
theorem recordable_of_mem_closeEvents (hM : ∀ l ∈ levels, l ∈ M)
    (htimes : ∀ x ∈ candles, x.time.isReading = true) {frame : Frame} {c : StrategyConfig}
    {pair : String} {e : Event} (he : e ∈ closeEvents levels frame c pair candles) :
    e.Recordable M := by
  simp only [closeEvents, List.mem_append, List.mem_map, Option.mem_toList] at he
  rcases he with ⟨d, hd, rfl⟩ | hsurge
  · exact (recordable_of_mem_detect hM htimes hd).withAtr _
  · exact recordable_of_detectAtrSurge htimes hsurge

end Events

/-! ### Recording, event by event -/

namespace SignalLog

/-- The records that events become when they are recorded one after the other after the log `L`
at `now`: under consecutive identifiers from the next one, with their pairs normalized. -/
def records (L : List Record) (now : DateTime) (events : List Event) : List Record :=
  events.mapIdx fun i e ↦ ⟨nextId L + i, { e with pair := normalizePair e.pair }, now⟩

/-- The identifier after a signal recorded under the next identifier is one more. -/
theorem nextId_append_next (L : List Record) (e : Event) (now : DateTime) :
    nextId (L ++ [(⟨nextId L, e, now⟩ : Record)]) = nextId L + 1 := by
  have hmax : ((L ++ [(⟨nextId L, e, now⟩ : Record)]).map (·.id)).max? = some (nextId L) := by
    rw [List.max?_eq_some_iff]
    refine ⟨by simp, fun b hb ↦ ?_⟩
    simp only [List.map_append, List.map_cons, List.map_nil, List.mem_append, List.mem_map,
      List.mem_singleton] at hb
    rcases hb with ⟨r, hr, rfl⟩ | rfl
    · exact (lt_nextId hr).le
    · exact le_refl _
  rw [nextId, hmax, Option.getD_some]

/-- The first event takes the next identifier, and the others follow it. -/
theorem records_cons (L : List Record) (now : DateTime) (e : Event) (events : List Event) :
    records L now (e :: events) =
      ⟨nextId L, { e with pair := normalizePair e.pair }, now⟩ ::
        records (L ++ [(⟨nextId L, { e with pair := normalizePair e.pair }, now⟩ : Record)]) now
          events := by
  rw [records, records, List.mapIdx_cons, nextId_append_next]
  congr 1
  · simp
  · -- the identifiers of the rest start one further on
    congr 1
    funext i e'
    congr 1
    push_cast
    ring

/-- Each record is one of the events, recorded at `now` under an identifier from the next one on. -/
theorem mem_records {L : List Record} {now : DateTime} {events : List Event} {r : Record}
    (hr : r ∈ records L now events) :
    ∃ e ∈ events, nextId L ≤ r.id ∧ r.event = { e with pair := normalizePair e.pair } ∧
      r.createdAt = now := by
  obtain ⟨i, hi, rfl⟩ := List.mem_mapIdx.mp hr
  exact ⟨events[i], List.getElem_mem hi, by simp, rfl, rfl⟩

/-- A recordable event is recorded under the next identifier. -/
theorem append_of_recordable {M : List PriceLevel} {L : List Record} {now : DateTime} {e : Event}
    (h : e.Recordable M) :
    append M L now e =
      let r : Record := ⟨nextId L, { e with pair := normalizePair e.pair }, now⟩
      .ok (L ++ [r], r.returned) := by
  unfold append
  cases hl : e.levelId with
  | none =>
    simp [h.prevPrice, h.currentPrice, pure, Except.pure]
  | some lid =>
    have hsome := h.level lid hl
    simp [Option.isNone_iff_eq_none, ← Option.not_isSome_iff_eq_none, hsome, h.prevPrice,
      h.currentPrice, pure, Except.pure]

/-- Every signal of the log is listed, as the store reads it back, by the filter that picks all. -/
theorem listed_mem_listing {L : List Record} {r : Record} (hr : r ∈ L) :
    r.listed ∈ listing L {} := by
  unfold listing
  rw [window_of_lt _ (by decide) (by decide)]
  simp only [if_true, List.drop_zero]
  refine List.mem_map_of_mem (List.mem_mergeSort.mpr (List.mem_filter.mpr ⟨hr, ?_⟩))
  simp [Filter.passes]

/-- The records take identifiers above every one issued. -/
theorem id_lt_of_mem_records {L : List Record} {now : DateTime} {events : List Event}
    {r s : Record} (hr : r ∈ L) (hs : s ∈ records L now events) : r.id < s.id := by
  obtain ⟨-, -, hid, -, -⟩ := mem_records hs
  exact lt_of_lt_of_le (lt_nextId hr) hid

end SignalLog

/-- Appending the records of recordable events at a reading of the clock keeps the invariant:
each keeps the numbers and the time of its event and is created at `now`. -/
theorem StoreContents.Inv.append_records {c : StoreContents} (hc : c.Inv) {now : DateTime}
    (hnow : now.isClockReading = true) {events : List Event}
    (hrec : ∀ e ∈ events, e.Recordable c.levels) :
    (⟨c.levels, c.signals ++ SignalLog.records c.signals now events⟩ : StoreContents).Inv := by
  refine ⟨hc.levels, fun s hs ↦ ?_⟩
  rcases List.mem_append.mp hs with hs | hs
  · exact hc.signals s hs
  · obtain ⟨e, he, -, hev, hat⟩ := SignalLog.mem_records hs
    have hr := hrec e he
    exact ⟨by simp [hev, hr.prevPrice], by simp [hev, hr.currentPrice], by simp [hev, hr.time],
      hat ▸ hnow⟩

/-! ### A close through the store -/

section Store

variable (now : DateTime) (cfg : StrategyConfig) (atrPrev : Option Float)

/-- One event through the store's services: recorded under the next identifier, answered as
recording answers, and announced. -/
theorem announceStep_store {c : StoreContents} {e : Event} (h : e.Recordable c.levels)
    (recorded : List Record) (messages : List String) :
    announceStep (storeServices now {}) cfg atrPrev (c.store, recorded, messages) e =
      let r : Record := ⟨SignalLog.nextId c.signals, { e with pair := normalizePair e.pair }, now⟩
      ((⟨c.levels, c.signals ++ [r]⟩ : StoreContents).store, recorded ++ [r.returned],
        messages ++ [notificationText e cfg.timeframe atrPrev]) := by
  simp only [announceStep, storeServices, StoreContents.store, Database.appendSignal_storeOf,
    SignalLog.append_of_recordable h]
  rfl

/-- All events through the store's services: the log grows by their records, in order, and each
is answered as recording answers. -/
theorem foldl_announceStep_store :
    ∀ (events : List Event) (c : StoreContents) (recorded : List Record)
      (messages : List String), (∀ e ∈ events, e.Recordable c.levels) →
      events.foldl (announceStep (storeServices now {}) cfg atrPrev) (c.store, recorded, messages) =
        ((⟨c.levels, c.signals ++ SignalLog.records c.signals now events⟩ : StoreContents).store,
          recorded ++ (SignalLog.records c.signals now events).map Record.returned,
          messages ++ events.map (notificationText · cfg.timeframe atrPrev))
  | [], c, recorded, messages, _ => by simp [SignalLog.records]
  | e :: events, c, recorded, messages, h => by
    -- the first event goes to the log; the rest follow it beside the same levels
    rw [List.foldl_cons, announceStep_store now cfg atrPrev (h e List.mem_cons_self)]
    refine (foldl_announceStep_store events ⟨c.levels, c.signals ++ [_]⟩ _ _ ?_).trans ?_
    · exact fun e' he' ↦ h e' (List.mem_cons_of_mem _ he')
    · rw [SignalLog.records_cons]
      simp

/-- With no outage the snapshot is the pair's active levels of the store, when level checks are
enabled. -/
theorem snapshotWith_store {c : StoreContents} (hc : c.Inv) (pair : String) :
    snapshotWith (storeServices now {}) c.store cfg pair =
      (c.store, if cfg.levelsEnabled then LevelMap.active c.levels (some pair) else []) := by
  unfold snapshotWith
  cases cfg.levelsEnabled with
  | false => rfl
  | true =>
    simp only [storeServices, StoreContents.store, Database.activeLevels_storeOf _ hc.levels]
    rfl

/-- The levels a close runs with, with no outage: the pair's active levels of the store when level
checks are enabled. -/
theorem mem_levels_of_snapshot {M : List PriceLevel} {pair : String} {l : PriceLevel}
    (hl : l ∈ if cfg.levelsEnabled then LevelMap.active M (some pair) else []) : l ∈ M := by
  split_ifs at hl
  · exact List.mem_of_mem_filter hl
  · cases hl

/-- A close on live data through a store with no outage, in closed form: it runs with the pair's
active levels, raises the events of the last candle, appends their records to the log and
answers each as recording does. -/
theorem onCandleClose_store {c : StoreContents} (hc : c.Inv) (pair : String)
    (candles : List Candle) (hlive : cfg.runMode.isLiveData = true)
    (htimes : ∀ x ∈ candles, x.time.isReading = true) :
    onCandleClose c.store now cfg {} pair candles =
      let levels := if cfg.levelsEnabled then LevelMap.active c.levels (some pair) else []
      let frame := populateExit (populateEntry (populateIndicators pair candles levels cfg) cfg) cfg
      let events := closeEvents levels frame cfg pair candles
      let new := SignalLog.records c.signals now events
      ((⟨c.levels, c.signals ++ new⟩ : StoreContents).store,
        ⟨frame, events, new.map Record.returned,
          events.map (notificationText · cfg.timeframe (previousAtr frame candles))⟩) := by
  simp only [onCandleClose, onCandleCloseWith, snapshotWith_store now cfg hc, hlive,
    Bool.not_true, Bool.false_eq_true, if_false]
  rw [foldl_announceStep_store now cfg _ _ c [] [] fun e he ↦
    recordable_of_mem_closeEvents (fun l hl ↦ mem_levels_of_snapshot cfg hl) htimes he]
  simp

/-- Every event a close raises on live data through a store with no outage is recordable beside
the store's levels. -/
theorem recordable_of_mem_onCandleClose {c : StoreContents} (hc : c.Inv) (pair : String)
    (candles : List Candle) (hlive : cfg.runMode.isLiveData = true)
    (htimes : ∀ x ∈ candles, x.time.isReading = true) :
    ∀ e ∈ (onCandleClose c.store now cfg {} pair candles).2.events, e.Recordable c.levels := by
  rw [onCandleClose_store now cfg hc pair candles hlive htimes]
  exact fun e he ↦
    recordable_of_mem_closeEvents (fun l hl ↦ mem_levels_of_snapshot cfg hl) htimes he

end Store

/-- On live data, a candle close against a store whose contents keep the invariant of every
store the requests reach, with no outage, at a reading of the clock and over candles whose times
are readings, records every event it raises. The log grows by exactly their records, in order,
under consecutive identifiers above every one issued; each is answered as recording answers,
with its pair normalized and its time without the fraction of a second; and the store still
reads back every signal, each new one as `Record.listed` has it. -/
theorem onCandleClose_records_events (c : StoreContents) (hc : c.Inv) (now : DateTime)
    (cfg : StrategyConfig) (pair : String) (candles : List Candle)
    (hlive : cfg.runMode.isLiveData = true) (hnow : now.isClockReading = true)
    (htimes : ∀ x ∈ candles, x.time.isReading = true) :
    let run := onCandleClose c.store now cfg {} pair candles
    let new := SignalLog.records c.signals now run.2.events
    run.2.recorded = new.map Record.returned ∧
      (∀ r ∈ c.signals, ∀ s ∈ new, r.id < s.id) ∧
      run.1 = (⟨c.levels, c.signals ++ new⟩ : StoreContents).store ∧
      (⟨c.levels, c.signals ++ new⟩ : StoreContents).Inv ∧
      ∃ rs, run.1.signals {} = .ok rs ∧ ∀ r ∈ new, r.listed ∈ rs := by
  dsimp only
  have hrun := onCandleClose_store now cfg hc pair candles hlive htimes
  -- recording takes every event, so the log grows by all their records and stays readable
  have hinv := hc.append_records hnow
    (recordable_of_mem_onCandleClose now cfg hc pair candles hlive htimes)
  have hstore : (onCandleClose c.store now cfg {} pair candles).1 =
      (⟨c.levels, c.signals ++ SignalLog.records c.signals now
        (onCandleClose c.store now cfg {} pair candles).2.events⟩ : StoreContents).store := by
    rw [hrun]
  refine ⟨by rw [hrun], fun r hr s hs ↦ SignalLog.id_lt_of_mem_records hr hs, hstore, hinv,
    _, ?_, fun r hr ↦ SignalLog.listed_mem_listing (List.mem_append_right c.signals hr)⟩
  rw [hstore]
  exact Database.signals_storeOf c.levels hinv.signals {}

/-- A close at a reading of the clock, on a store holding one level at `100`, over two candles
that cross it upwards. -/
theorem onCandleClose_records_events_of_crossing :
    let c : StoreContents :=
      ⟨[⟨1, "BTC/USDT", 100.0, "both", false, true, ⟨2024, 1, 1, 0, 0, 0, 0⟩⟩], []⟩
    let candles : List Candle :=
      [⟨⟨2024, 4, 1, 10, 30, 0, 0⟩, 99.0, 99.5, 98.5, 99.0, 0.0⟩,
        ⟨⟨2024, 4, 1, 10, 45, 0, 0⟩, 99.0, 101.5, 98.8, 101.0, 0.0⟩]
    let run := onCandleClose c.store ⟨2024, 4, 1, 10, 45, 1, 0⟩ {} {} "BTC/USDT" candles
    let new := SignalLog.records c.signals ⟨2024, 4, 1, 10, 45, 1, 0⟩ run.2.events
    run.2.recorded = new.map Record.returned ∧
      (∀ r ∈ c.signals, ∀ s ∈ new, r.id < s.id) ∧
      run.1 = (⟨c.levels, c.signals ++ new⟩ : StoreContents).store ∧
      (⟨c.levels, c.signals ++ new⟩ : StoreContents).Inv ∧
      ∃ rs, run.1.signals {} = .ok rs ∧ ∀ r ∈ new, r.listed ∈ rs :=
  onCandleClose_records_events _
    ⟨⟨List.pairwise_singleton _ _, fun m hm ↦ by rw [List.mem_singleton.mp hm]; exact ⟨rfl, rfl⟩⟩,
      by simp⟩
    _ _ _ _ rfl (by decide) (by decide)

/-- A NaN high and low two candles back make the average true range of period one NaN from then
on. A close that crosses a level afterwards records its event with that NaN, and recording
answers it; the listing reads it back with no average true range at all. -/
theorem onCandleClose_lists_nan_atrValue_as_none :
    let c : StoreContents :=
      ⟨[⟨1, "BTC/USDT", 100.0, "both", false, true, ⟨2024, 1, 1, 0, 0, 0, 0⟩⟩], []⟩
    let candles : List Candle :=
      [⟨⟨2024, 4, 1, 10, 0, 0, 0⟩, 99.0, 99.5, 98.5, 99.0, 0.0⟩,
        ⟨⟨2024, 4, 1, 10, 15, 0, 0⟩, 99.0, Float.ofBits 0x7FF8000000000000,
          Float.ofBits 0x7FF8000000000000, 99.0, 0.0⟩,
        ⟨⟨2024, 4, 1, 10, 30, 0, 0⟩, 99.0, 99.5, 98.5, 99.0, 0.0⟩,
        ⟨⟨2024, 4, 1, 10, 45, 0, 0⟩, 99.0, 101.5, 98.8, 101.0, 0.0⟩]
    let run := onCandleClose c.store ⟨2024, 4, 1, 10, 45, 1, 0⟩ { atrPeriod := 1 } {} "BTC/USDT"
      candles
    ∃ rs, run.1.signals {} = .ok rs ∧
      run.2.recorded.map (fun r ↦ (r.id, r.event.levelId, r.event.atrValue.map isNaN)) =
        [(1, some 1, some true)] ∧
      rs.map (fun r ↦ (r.id, r.event.levelId, r.event.atrValue.isSome)) = [(1, some 1, false)] := by
  intro c candles run
  have hc : c.Inv :=
    ⟨⟨List.pairwise_singleton _ _, fun m hm ↦ by rw [List.mem_singleton.mp hm]; exact ⟨rfl, rfl⟩⟩,
      fun _ hr ↦ absurd hr List.not_mem_nil⟩
  have htimes : ∀ x ∈ candles, x.time.isReading = true := by decide
  have hrun := onCandleClose_store ⟨2024, 4, 1, 10, 45, 1, 0⟩ { atrPeriod := 1 } hc "BTC/USDT"
    candles rfl htimes
  have hinv := hc.append_records (show DateTime.isClockReading ⟨2024, 4, 1, 10, 45, 1, 0⟩ by decide)
    (recordable_of_mem_onCandleClose ⟨2024, 4, 1, 10, 45, 1, 0⟩ { atrPeriod := 1 } hc "BTC/USDT"
      candles rfl htimes)
  -- the store after the close lists the log as the contents hold it
  rw [hrun] at hinv
  refine ⟨?rs, ?listing, ?recorded, ?listed⟩
  case listing =>
    rw [show run = _ from hrun]
    exact Database.signals_storeOf c.levels hinv.signals {}
  case recorded =>
    rw [show run = _ from hrun]
    decide +kernel
  case listed => decide +kernel

end LevelCross
