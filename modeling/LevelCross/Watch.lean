import LevelCross.Store.Signals
import LevelCross.Analysis.Strategy

/-!
# Watching candle closes

When a candle closes, the watcher takes a snapshot of the pair's active levels, runs the
strategy over the candles, and on live data records and announces every event of the last
candle: the level events first, each carrying the newest average true range, then a surge of
the average true range, if any.

Each event is recorded and then announced. A failure of the levels, of the recording or of the
announcement does not stop the watcher: without levels it runs with none, an event that cannot
be recorded is left out of the recorded ones, and every announcement is kept whether it was
delivered or not.

The watcher is written once against `Services`, three calls over a state of the world that
each may change it and may fail; `onCandleClose` runs it against one store, where `Outage`
says which of the three fail.
-/

namespace LevelCross

open LevelCross.Time LevelCross.Store

/-- Which services fail while the watcher runs. -/
structure Outage where
  /-- the levels cannot be listed -/
  levels : Bool := false
  /-- signals cannot be recorded -/
  signals : Bool := false
  /-- announcements cannot be delivered -/
  notify : Bool := false

/-- The failure of the levels service in an outage. -/
def Outage.levelsError : Error := .database "disk I/O error"

/-- The failure of the recording service in an outage. -/
def Outage.signalsError : Error := .query "database is locked"

/-- The failure of the announcement service in an outage. -/
def Outage.notifyError : Error := .notify "channel closed"

/-- What a candle close produced. -/
structure CloseOutcome where
  frame : Frame
  /-- the events of the last candle, level events first -/
  events : List Event
  /-- the events as recorded -/
  recorded : List Record
  /-- every announcement made, delivered or not -/
  messages : List String

/-- The active levels of a pair when level checks are enabled; none when the levels cannot be
listed. -/
def snapshotLevels (db : Database) (c : StrategyConfig) (o : Outage) (pair : String) :
    List PriceLevel :=
  if !c.levelsEnabled then []
  else
    let listed : Except Error (List PriceLevel) :=
      if o.levels then .error Outage.levelsError else db.activeLevels (some pair)
    match listed with
    | .ok ls => ls
    | .error _ => []

/-- The strategy's rows for the candles, with no entries or exits yet. -/
def indicatorFrame (db : Database) (c : StrategyConfig) (o : Outage) (pair : String)
    (candles : List Candle) : Frame :=
  populateIndicators pair candles (snapshotLevels db c o pair) c

/-- The strategy's rows with entries and exits. -/
def signalFrame (db : Database) (c : StrategyConfig) (o : Outage) (pair : String)
    (candles : List Candle) : Frame :=
  populateExit (populateEntry (indicatorFrame db c o pair candles) c) c

/-- The events of the last candle: level events with the newest average true range, then a
surge. -/
def closeEvents (levels : List PriceLevel) (frame : Frame) (c : StrategyConfig) (pair : String)
    (candles : List Candle) : List Event :=
  let atrNow := frame.atr.lastValue
  let levelEvents := (detect candles levels).map fun e => { e with atrValue := atrNow }
  levelEvents ++ (detectAtrSurge pair candles frame.atr c.atrThreshold).toList

/-- The three services a watcher talks to, over a state `σ` of the world they share. Every
call may change that state and may fail; the watcher sees only the answer. -/
structure Services (σ : Type) where
  /-- list the active levels, of one pair when one is given -/
  activeLevels : σ → Option String → σ × Except Error (List PriceLevel)
  /-- record a signal -/
  append : σ → Event → σ × Except Error Record
  /-- deliver an announcement -/
  send : σ → String → σ × Except Error Unit

section Services

variable {σ : Type}

/-- The levels the strategy runs with: the pair's active levels when level checks are enabled,
none when they are not or when the levels cannot be listed. -/
def snapshotWith (sv : Services σ) (w : σ) (c : StrategyConfig) (pair : String) :
    σ × List PriceLevel :=
  if !c.levelsEnabled then (w, [])
  else
    let (w, listed) := sv.activeLevels w (some pair)
    (w, match listed with
      | .ok ls => ls
      | .error _ => [])

/-- The average true range at the candle before the last, which announcements compare with. -/
def previousAtr (frame : Frame) (candles : List Candle) : Option Float :=
  if candles.length < 2 then none else frame.atr.valueAt (candles.length - 2)

/-- Record one event, then announce it, whatever the recording gave; the record is kept
when there is one, and the announcement always. -/
def announceStep (sv : Services σ) (c : StrategyConfig) (atrPrev : Option Float)
    (acc : σ × List Record × List String) (e : Event) : σ × List Record × List String :=
  let (w, stored) := sv.append acc.1 e
  let message := notificationText e c.timeframe atrPrev
  let (w, _) := sv.send w message
  (w, acc.2.1 ++ stored.toOption.toList, acc.2.2 ++ [message])

/-- Run the watcher on a candle close against the given services. -/
def onCandleCloseWith (sv : Services σ) (w : σ) (c : StrategyConfig) (pair : String)
    (candles : List Candle) : σ × CloseOutcome :=
  let (w, levels) := snapshotWith sv w c pair
  let frame := populateExit (populateEntry (populateIndicators pair candles levels c) c) c
  if !c.runMode.isLiveData then (w, ⟨frame, [], [], []⟩)
  else
    let events := closeEvents levels frame c pair candles
    let (w, recorded, messages) :=
      events.foldl (announceStep sv c (previousAtr frame candles)) (w, [], [])
    (w, ⟨frame, events, recorded, messages⟩)

end Services

/-- The services of one store at time `now`, failing as the outage says. One reading of the clock
serves every signal recorded on a close, where a store reading the clock at each insert could
give the later signals a later creation time. -/
def storeServices (now : DateTime) (o : Outage) : Services Database where
  activeLevels db pair := (db, if o.levels then .error Outage.levelsError else db.activeLevels pair)
  append db e :=
    if o.signals then (db, .error Outage.signalsError)
    else
      match db.appendSignal now e with
      | .ok (db', r) => (db', .ok r)
      | .error err => (db, .error err)
  send db _ := (db, if o.notify then .error Outage.notifyError else .ok ())

/-- Run the watcher on a candle close at `now`, against one store. -/
def onCandleClose (db : Database) (now : DateTime) (c : StrategyConfig) (o : Outage)
    (pair : String) (candles : List Candle) : Database × CloseOutcome :=
  onCandleCloseWith (storeServices now o) db c pair candles

end LevelCross
