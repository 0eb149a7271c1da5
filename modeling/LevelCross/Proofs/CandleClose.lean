import LevelCross.Watch
import LevelCross.Proofs.Frame
import LevelCross.Proofs.LevelRows

/-!
# What a candle close does, whatever its services answer

`onCandleCloseWith` talks to three services (levels, records, announcements) over a state of
the world they share, and each call may fail. To speak of the calls it makes, the services
are wrapped by `Services.logged`, which answers exactly as they do and keeps every call with
its answer in a log beside the world (`onCandleCloseWith_logged`: keeping the log changes
nothing).

* `onCandleClose_calls`: for every behaviour of the services, the close lists the levels at
  most once, and only when level checks are enabled; the levels it runs with are that answer,
  or none; its frame is the strategy over the candles and those levels; on live data its
  events are the level events of `detect` with the newest average true range, then a surge,
  and it records and then announces each event exactly once, in order, keeping the records
  that succeeded. A backtest makes no call at all.
* `lastRow_agrees_with_events`: on live data with two well-formed last candles, the last row
  exits exactly when some event is a downward cross, enters exactly when some event is an
  upward cross, a wick or a surge, and its surge condition is `detectAtrSurge`'s.

Both hold for every world and every answer of the services, failures included; the store
with an outage (`storeServices`) is one such behaviour, so they hold of `onCandleClose`.
-/

namespace LevelCross

open LevelCross.Store

/-- A call made to the services, with the answer it got. -/
inductive Call where
  | activeLevels (pair : Option String) (answer : Except Error (List PriceLevel))
  | append (e : Event) (answer : Except Error Record)
  | send (message : String) (answer : Except Error Unit)

section Logged

variable {σ : Type}

/-- The services, answering as they do, with every call and its answer kept in a log beside
the world. -/
def Services.logged (sv : Services σ) : Services (σ × List Call) where
  activeLevels w pair :=
    let (s, a) := sv.activeLevels w.1 pair
    ((s, w.2 ++ [.activeLevels pair a]), a)
  append w e :=
    let (s, a) := sv.append w.1 e
    ((s, w.2 ++ [.append e a]), a)
  send w message :=
    let (s, a) := sv.send w.1 message
    ((s, w.2 ++ [.send message a]), a)

/-- The two calls an event costs: it is recorded, then announced with the given message. -/
def eventCalls (message : String) (e : Event) (answers : Except Error Record × Except Error Unit) :
    List Call :=
  [.append e answers.1, .send message answers.2]

/-- The snapshot lists the levels of the pair once when level checks are enabled and never
otherwise, and runs with the listed levels, or none when the listing failed. -/
theorem snapshotWith_logged (sv : Services σ) (w : σ) (log : List Call) (c : StrategyConfig)
    (pair : String) :
    ∃ listed : Option (Except Error (List PriceLevel)),
      listed.isSome = c.levelsEnabled ∧
      (listed.bind Except.toOption).getD [] = (snapshotWith sv w c pair).2 ∧
      snapshotWith sv.logged (w, log) c pair =
        (((snapshotWith sv w c pair).1, log ++ (listed.map (.activeLevels (some pair))).toList),
          (snapshotWith sv w c pair).2) := by
  unfold snapshotWith
  cases hc : c.levelsEnabled with
  | false => exact ⟨none, rfl, by simp⟩
  | true =>
    rcases hl : sv.activeLevels w (some pair) with ⟨s, a⟩
    refine ⟨some a, rfl, ?_, ?_⟩
    · cases a <;> rfl
    · simp only [Services.logged, hl, Bool.not_true]
      cases a <;> rfl

/-- One event: recorded, then announced, whatever the recording answered. -/
theorem announceStep_logged (sv : Services σ) (c : StrategyConfig) (atrPrev : Option Float)
    (s : σ) (log : List Call) (recorded : List Record) (messages : List String) (e : Event) :
    announceStep sv.logged c atrPrev ((s, log), recorded, messages) e =
      let m := notificationText e c.timeframe atrPrev
      let a := sv.append s e
      let u := sv.send a.1 m
      ((u.1, log ++ eventCalls m e (a.2, u.2)), recorded ++ a.2.toOption.toList,
        messages ++ [m]) := by
  simp only [announceStep, Services.logged, eventCalls, List.append_assoc, List.cons_append,
    List.nil_append]

/-- All events: two calls each, in order, with the successful records kept and every message
sent. The answers are whatever the services gave. -/
theorem foldl_announceStep_logged (sv : Services σ) (c : StrategyConfig)
    (atrPrev : Option Float) :
    ∀ (events : List Event) (s : σ) (log : List Call) (recorded : List Record)
      (messages : List String),
      ∃ answers : List (Except Error Record × Except Error Unit),
        answers.length = events.length ∧
        let r := events.foldl (announceStep sv.logged c atrPrev) ((s, log), recorded, messages)
        r.1.2 = log ++ (events.zip answers).flatMap
            (fun p ↦ eventCalls (notificationText p.1 c.timeframe atrPrev) p.1 p.2) ∧
        r.2.1 = recorded ++ answers.filterMap (·.1.toOption) ∧
        r.2.2 = messages ++ events.map (notificationText · c.timeframe atrPrev)
  | [], s, log, recorded, messages => ⟨[], rfl, by simp⟩
  | e :: events, s, log, recorded, messages => by
    let m := notificationText e c.timeframe atrPrev
    let a := sv.append s e
    let u := sv.send a.1 m
    obtain ⟨answers, hlen, hlog, hrec, hmsg⟩ := foldl_announceStep_logged sv c atrPrev events
      u.1 (log ++ eventCalls m e (a.2, u.2)) (recorded ++ a.2.toOption.toList) (messages ++ [m])
    refine ⟨(a.2, u.2) :: answers, by simp [hlen], ?_⟩
    simp only [List.foldl_cons, announceStep_logged]
    refine ⟨?_, ?_, ?_⟩
    · rw [hlog]
      simp [m]
    · rw [hrec]
      cases a.2 <;> simp [Except.toOption]
    · rw [hmsg]
      simp [m]

/-- Keeping the log changes neither the world nor what the steps return. -/
theorem foldl_announceStep_logged_world (sv : Services σ) (c : StrategyConfig)
    (atrPrev : Option Float) :
    ∀ (events : List Event) (s : σ) (log : List Call) (recorded : List Record)
      (messages : List String),
      let r := events.foldl (announceStep sv.logged c atrPrev) ((s, log), recorded, messages)
      (r.1.1, r.2) = events.foldl (announceStep sv c atrPrev) (s, recorded, messages)
  | [], s, log, recorded, messages => rfl
  | e :: events, s, log, recorded, messages => by
    simp only [List.foldl_cons, announceStep_logged]
    exact foldl_announceStep_logged_world sv c atrPrev events _ _ _ _

/-- Keeping the log changes neither the world nor the outcome of a close. -/
theorem onCandleCloseWith_logged (sv : Services σ) (w : σ) (log : List Call)
    (c : StrategyConfig) (pair : String) (candles : List Candle) :
    let run := onCandleCloseWith sv.logged (w, log) c pair candles
    (run.1.1, run.2) = onCandleCloseWith sv w c pair candles := by
  obtain ⟨listed, -, -, hsnap⟩ := snapshotWith_logged sv w log c pair
  cases hlive : c.runMode.isLiveData with
  | false => simp [onCandleCloseWith, hsnap, hlive]
  | true =>
    simp only [onCandleCloseWith, hsnap, hlive, Bool.not_true, Bool.false_eq_true, if_false]
    rw [← foldl_announceStep_logged_world sv]

/-- The calls of a candle close, for every behaviour of its services. The log starts empty;
`listed` is the answer to the one listing of levels, made exactly when level checks are
enabled, and `answers` the answers to the recording and the announcement of each event. -/
theorem onCandleClose_calls (sv : Services σ) (w : σ) (c : StrategyConfig) (pair : String)
    (candles : List Candle) :
    let run := onCandleCloseWith sv.logged (w, []) c pair candles
    let atr := averageTrueRange candles c.atrPeriod
    let atrPrev := if candles.length < 2 then none else atr.valueAt (candles.length - 2)
    ∃ (listed : Option (Except Error (List PriceLevel)))
      (answers : List (Except Error Record × Except Error Unit)),
      let levels := (listed.bind Except.toOption).getD []
      listed.isSome = c.levelsEnabled ∧
      run.2.frame = populateExit (populateEntry (populateIndicators pair candles levels c) c) c ∧
      run.2.events = (if c.runMode.isLiveData then
          (detect candles levels).map (fun e ↦ { e with atrValue := atr.lastValue }) ++
            (detectAtrSurge pair candles atr c.atrThreshold).toList
        else []) ∧
      answers.length = run.2.events.length ∧
      run.1.2 = (listed.map (.activeLevels (some pair))).toList ++
        (run.2.events.zip answers).flatMap
          (fun p ↦ eventCalls (notificationText p.1 c.timeframe atrPrev) p.1 p.2) ∧
      run.2.recorded = answers.filterMap (·.1.toOption) ∧
      run.2.messages = run.2.events.map (notificationText · c.timeframe atrPrev) ∧
      (run.1.1, run.2) = onCandleCloseWith sv w c pair candles := by
  intro run atr atrPrev
  obtain ⟨listed, hsome, hlevels, hsnap⟩ := snapshotWith_logged sv w [] c pair
  refine ⟨listed, ?_⟩
  cases hlive : c.runMode.isLiveData with
  | false =>
    refine ⟨[], hsome, ?_⟩
    refine ⟨?_, ?_, ?_, ?_, ?_, ?_, onCandleCloseWith_logged sv w [] c pair candles⟩ <;>
      simp [run, onCandleCloseWith, hsnap, hlive, hlevels]
  | true =>
    let levels := (snapshotWith sv w c pair).2
    let frame := populateExit (populateEntry (populateIndicators pair candles levels c) c) c
    obtain ⟨answers, hlen, hlog, hrec, hmsg⟩ := foldl_announceStep_logged sv c atrPrev
      (closeEvents levels frame c pair candles) (snapshotWith sv w c pair).1
      (listed.map (.activeLevels (some pair))).toList [] []
    refine ⟨answers, hsome, ?_, ?_, ?_, ?_, ?_, ?_, onCandleCloseWith_logged sv w [] c pair candles⟩
    all_goals simp only [run, onCandleCloseWith, hsnap, hlive, hlevels, Bool.not_true]
    · rfl
    · rfl
    · exact hlen
    · exact hlog
    · exact hrec
    · exact hmsg

end Logged

/-! ### The last row against the events -/

/-- The kinds among the events of a close: those of `detect`, and a surge when one is raised. -/
theorem exists_kind_closeEvents (levels : List PriceLevel) (frame : Frame) (c : StrategyConfig)
    (pair : String) (candles : List Candle) (k : Kind) :
    (∃ e ∈ closeEvents levels frame c pair candles, e.kind = k) ↔
      (detect candles levels).any (·.kind == k) ∨
        (k = .atrSurge ∧ (detectAtrSurge pair candles frame.atr c.atrThreshold).isSome) := by
  simp only [closeEvents, List.mem_append, List.mem_map, Option.mem_toList, List.any_eq_true,
    beq_iff_eq]
  constructor
  · rintro ⟨e, hmem, rfl⟩
    rcases hmem with ⟨d, hd, rfl⟩ | hs
    · exact Or.inl ⟨d, hd, rfl⟩
    · exact Or.inr ⟨detectAtrSurge_kind hs, by simp [hs]⟩
  · rintro (⟨d, hd, rfl⟩ | ⟨rfl, hs⟩)
    · exact ⟨{ d with atrValue := frame.atr.lastValue }, Or.inl ⟨d, hd, rfl⟩, rfl⟩
    · obtain ⟨e, he⟩ := Option.isSome_iff_exists.mp hs
      exact ⟨e, Or.inr he, detectAtrSurge_kind he⟩

/-- On live data the last row's trade decision agrees with the events of the close, for any
snapshot of levels that is empty when level checks are off. -/
theorem lastRow_of_closeEvents (c : StrategyConfig) (hlive : c.runMode.isLiveData = true)
    (pair : String) (before : List Candle) (prev cur : Candle) (hprev : prev.isWellFormed = true)
    (hcur : cur.isWellFormed = true) (levels : List PriceLevel)
    (hoff : c.checkLevelCrossing = false → levels = []) :
    let candles := before ++ [prev, cur]
    let frame := populateExit (populateEntry (populateIndicators pair candles levels c) c) c
    let events := closeEvents levels frame c pair candles
    ∃ row, frame.rows.getLast? = some row ∧
      (row.exitLong = true ↔ ∃ e ∈ events, e.kind = .crossDown) ∧
      (row.enterLong = true ↔ ∃ e ∈ events,
        e.kind = .crossUp ∨ e.kind = .wickUp ∨ e.kind = .wickDown ∨ e.kind = .atrSurge) ∧
      (row.atrRises c.atrThreshold = true ↔
        (detectAtrSurge pair candles frame.atr c.atrThreshold).isSome) := by
  intro candles frame events
  -- the last row before entries and exits, known only through its fields
  obtain ⟨r, hr, hatr, hatrPrev, hflags⟩ : ∃ r : FrameRow,
      (populateIndicators pair candles levels c).rows.getLast? = some r ∧
      r.atr = frame.atr.valueAt (before.length + 1) ∧ r.atrPrev = frame.atr.valueAt before.length ∧
      r.flags = (if c.levelsEnabled then lastFlags (detect candles levels) else {}) := by
    have hlast := populateIndicators_getLast? pair (before ++ [prev]) cur levels c
    simp only [List.append_assoc, List.cons_append, List.nil_append, List.length_append,
      List.length_singleton, Nat.add_one_ne_zero, beq_iff_eq, if_false, Nat.add_sub_cancel] at hlast
    exact ⟨_, hlast, rfl, rfl, rfl⟩
  have hrows := populateExit_populateEntry_getLast? (populateIndicators pair candles levels c) c
  rw [hr, Option.map_some] at hrows
  refine ⟨_, hrows, ?_⟩
  -- the marks of the last row are the level kinds of `detect`; with crossings off both are
  -- empty, since the snapshot then has no levels
  have hhas : ∀ k : Kind, k.isLevelKind = true →
      r.flags.has k = (detect candles levels).any (·.kind == k) := by
    intro k hk
    rw [hflags]
    cases hcheck : c.checkLevelCrossing with
    | true =>
      have : c.levelsEnabled = true := by simp [StrategyConfig.levelsEnabled, hcheck, hlive]
      rw [if_pos this, lastFlags_has, hk, Bool.true_and]
    | false =>
      have : c.levelsEnabled = false := by simp [StrategyConfig.levelsEnabled, hcheck]
      rw [if_neg (by simp [this]), hoff hcheck, detect_nil_levels]
      cases k <;> rfl
  have hsurge : (detectAtrSurge pair candles frame.atr c.atrThreshold).isSome =
      r.atrRises c.atrThreshold :=
    detectAtrSurge_isSome pair before prev cur frame.atr c.atrThreshold hprev hcur r hatr hatrPrev
  have hkinds := exists_kind_closeEvents levels frame c pair candles
  refine ⟨?_, ?_, hsurge ▸ Iff.rfl⟩
  · rw [hkinds]
    have h := hhas .crossDown rfl
    simp only [Flags.has] at h
    cases hcheck : c.checkLevelCrossing with
    | true => simp [h]
    | false => simp [hoff hcheck]
  · have hor : (∃ e ∈ events,
          e.kind = .crossUp ∨ e.kind = .wickUp ∨ e.kind = .wickDown ∨ e.kind = .atrSurge) ↔
        (∃ e ∈ events, e.kind = .crossUp) ∨ (∃ e ∈ events, e.kind = .wickUp) ∨
          (∃ e ∈ events, e.kind = .wickDown) ∨ (∃ e ∈ events, e.kind = .atrSurge) := by
      simp only [and_or_left, exists_or]
    -- `detect` raises no surge, so a surge event is the one `detectAtrSurge` adds
    rw [hor, hkinds, hkinds, hkinds, hkinds, ← hsurge, detect_any_atrSurge]
    have hu := hhas .crossUp rfl
    have hwu := hhas .wickUp rfl
    have hwd := hhas .wickDown rfl
    simp only [Flags.has] at hu hwu hwd
    cases hcheck : c.checkLevelCrossing with
    | true => simp [hu, hwu, hwd, or_assoc, or_comm, or_left_comm]
    | false => simp [hoff hcheck]

section Agreement

variable {σ : Type}

/-- With level checks off the snapshot has no levels. -/
theorem snapshotWith_of_levels_disabled (sv : Services σ) (w : σ) (c : StrategyConfig)
    (pair : String) (h : c.levelsEnabled = false) : (snapshotWith sv w c pair).2 = [] := by
  simp [snapshotWith, h]

/-- What a live close returns: the frame over the snapshot, and the events of `closeEvents`. -/
theorem onCandleCloseWith_live (sv : Services σ) (w : σ) (c : StrategyConfig)
    (hlive : c.runMode.isLiveData = true) (pair : String) (candles : List Candle) :
    let levels := (snapshotWith sv w c pair).2
    let frame := populateExit (populateEntry (populateIndicators pair candles levels c) c) c
    (onCandleCloseWith sv w c pair candles).2.frame = frame ∧
      (onCandleCloseWith sv w c pair candles).2.events = closeEvents levels frame c pair candles := by
  simp [onCandleCloseWith, hlive]

/-- On live data with two well-formed last candles, for every world and every answer of the
services, the last row of the frame exits exactly when an event is a downward cross, enters
exactly when an event is an upward cross, a wick or a surge, and its surge condition is the
one `detectAtrSurge` checks: the trade decision and the recorded events never disagree. -/
theorem lastRow_agrees_with_events (sv : Services σ) (w : σ) (c : StrategyConfig)
    (hlive : c.runMode.isLiveData = true) (pair : String) (before : List Candle)
    (prev cur : Candle) (hprev : prev.isWellFormed = true) (hcur : cur.isWellFormed = true) :
    let out := (onCandleCloseWith sv w c pair (before ++ [prev, cur])).2
    ∃ row, out.frame.rows.getLast? = some row ∧
      (row.exitLong = true ↔ ∃ e ∈ out.events, e.kind = .crossDown) ∧
      (row.enterLong = true ↔ ∃ e ∈ out.events,
        e.kind = .crossUp ∨ e.kind = .wickUp ∨ e.kind = .wickDown ∨ e.kind = .atrSurge) ∧
      (row.atrRises c.atrThreshold = true ↔
        (detectAtrSurge pair (before ++ [prev, cur]) out.frame.atr c.atrThreshold).isSome) := by
  intro out
  obtain ⟨hframe, hevents⟩ := onCandleCloseWith_live sv w c hlive pair (before ++ [prev, cur])
  have hoff : c.checkLevelCrossing = false → (snapshotWith sv w c pair).2 = [] := fun h ↦
    snapshotWith_of_levels_disabled sv w c pair (by simp [StrategyConfig.levelsEnabled, h])
  simp only [out, hframe, hevents]
  exact lastRow_of_closeEvents c hlive pair before prev cur hprev hcur _ hoff

end Agreement

/-- The agreement on a close that crosses a stored level: a store holding one level at `100`,
the default settings, which run dry on live data, and two candles that cross the level upwards.
The close raises that upward cross, so the last row enters. -/
theorem lastRow_agrees_with_events_of_crossing :
    let prev : Candle := ⟨⟨2024, 4, 1, 10, 30, 0, 0⟩, 99.0, 99.5, 98.5, 99.0, 0.0⟩
    let cur : Candle := ⟨⟨2024, 4, 1, 10, 45, 0, 0⟩, 99.0, 101.5, 98.8, 101.0, 0.0⟩
    let db := storeOf [⟨1, "BTC/USDT", 100.0, "both", false, true, ⟨2024, 1, 1, 0, 0, 0, 0⟩⟩] []
    let c : StrategyConfig := {}
    let out := (onCandleCloseWith (storeServices ⟨2024, 4, 1, 10, 45, 1, 0⟩ {}) db c "BTC/USDT"
      ([] ++ [prev, cur])).2
    out.events.map (·.kind) = [.crossUp] ∧
      c.runMode.isLiveData = true ∧ prev.isWellFormed = true ∧ cur.isWellFormed = true ∧
      ∃ row, out.frame.rows.getLast? = some row ∧
        (row.exitLong = true ↔ ∃ e ∈ out.events, e.kind = .crossDown) ∧
        (row.enterLong = true ↔ ∃ e ∈ out.events,
          e.kind = .crossUp ∨ e.kind = .wickUp ∨ e.kind = .wickDown ∨ e.kind = .atrSurge) ∧
        (row.atrRises c.atrThreshold = true ↔
          (detectAtrSurge "BTC/USDT" ([] ++ [prev, cur]) out.frame.atr c.atrThreshold).isSome) :=
  ⟨by decide +kernel, rfl, by decide, by decide,
    lastRow_agrees_with_events _ _ _ rfl _ _ _ _ (by decide) (by decide)⟩

end LevelCross
