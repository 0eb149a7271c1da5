import LevelCross.Analysis.Atr
import LevelCross.Market.Level

/-!
# Level crossings

Only the last candle of a series is judged, against the one before it. For a level at price
`v`:

* the body crosses up when the previous close is below `v` and the current close is above it,
  or, without close confirmation, the current open is;
* the body crosses down in the same way with above and below exchanged;
* a wick pokes up when the previous high is below `v`, the current high above it, and the
  current open and close both stay below it;
* a wick pokes down in the same way with above and below exchanged.

Each level raises at most its first matching kind, in that order, and only the kinds its
direction watches; a level whose direction is unknown raises nothing. The events of a series
are ordered by kind priority and, within a kind, by the order of the levels.
-/

namespace LevelCross

/-- The first kind that the level raises on this pair of candles. -/
def evaluateLevel (previous current : Candle) (level : PriceLevel) : Option Kind :=
  match level.parsedDirection with
  | none => none
  | some d =>
    let v := level.value
    let bodyUp :=
      d.watchesBodyUp && previous.close < v &&
        (if level.confirmClose then current.close > v
         else current.openPrice > v || current.close > v)
    let bodyDown :=
      d.watchesBodyDown && previous.close > v &&
        (if level.confirmClose then current.close < v
         else current.openPrice < v || current.close < v)
    let wickUp :=
      d.watchesWickUp && previous.high < v && current.high > v && current.openPrice < v &&
        current.close < v
    let wickDown :=
      d.watchesWickDown && previous.low > v && current.low < v && current.openPrice > v &&
        current.close > v
    if bodyUp then some .crossUp
    else if bodyDown then some .crossDown
    else if wickUp then some .wickUp
    else if wickDown then some .wickDown
    else none

/-- The event a level raises on the last two candles, if any. -/
def levelEvent (previous current : Candle) (level : PriceLevel) : Option Event :=
  (evaluateLevel previous current level).map fun k =>
    { pair := level.pair, kind := k, levelId := some level.id, levelValue := some level.value,
      prevPrice := previous.close, currentPrice := current.close, time := current.time }

/-- Order events by kind priority, keeping the given order within a kind. -/
def byPriority (events : List Event) : List Event :=
  Kind.all.flatMap fun k => events.filter (·.kind == k)

/-- The events of the last candle: nothing without levels, with fewer than two candles, or when
either of the last two candles is malformed. -/
def detect (candles : List Candle) (levels : List PriceLevel) : List Event :=
  if levels.isEmpty then []
  else
    match lastTwo candles with
    | none => []
    | some (prev, cur) =>
      if !cur.isWellFormed || !prev.isWellFormed then []
      else byPriority (levels.filterMap (levelEvent prev cur))

/-- The crossing marks of one candle. -/
structure Flags where
  crossUp : Bool := false
  crossDown : Bool := false
  wickUp : Bool := false
  wickDown : Bool := false
  levelId : Option Int := none
  levelValue : Option Float := none
deriving Inhabited

/-- Some crossing is marked. -/
def Flags.any (f : Flags) : Bool := f.crossUp || f.crossDown || f.wickUp || f.wickDown

/-- Mark a kind. -/
def Flags.mark (f : Flags) : Kind → Flags
  | .crossUp => { f with crossUp := true }
  | .crossDown => { f with crossDown := true }
  | .wickUp => { f with wickUp := true }
  | .wickDown => { f with wickDown := true }
  | .atrSurge => f

/-- The marks of the last candle: every kind raised, and the level of the first event. -/
def lastFlags (events : List Event) : Flags :=
  match events with
  | [] => {}
  | first :: _ =>
    { events.foldl (fun (f : Flags) e => f.mark e.kind) {} with
      levelId := first.levelId, levelValue := first.levelValue }

/-- One set of marks per candle; only the last candle can carry any. -/
def annotate (candles : List Candle) (levels : List PriceLevel) : List Flags :=
  match candles.length with
  | 0 => []
  | n + 1 => List.replicate n {} ++ [lastFlags (detect candles levels)]

end LevelCross
