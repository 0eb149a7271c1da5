import LevelCross.Market.Candle
import LevelCross.Market.Signal

/-!
# Average true range

The average true range of period `n` over a series of candles has one point per candle. The
first `n` points are a warm-up and carry no value; point `n` is the mean of the true ranges of
candles `1..n`, and every later point smooths the previous one with the new true range:
`(atr * (n - 1) + tr) / n`.

An ATR surge on the last candle is raised when the last value exceeds the one before it times a
threshold, and the last two candles are well formed.
-/

namespace LevelCross

open LevelCross.Number LevelCross.Time

/-- One point of an indicator series. -/
structure IndicatorPoint where
  time : DateTime
  valid : Bool
  value : Float
deriving Inhabited

/-- An indicator series with the period that labels it. -/
structure Series where
  period : Nat
  points : List IndicatorPoint
deriving Inhabited

namespace Series

/-- The label of the series, such as `ATR(14)`. -/
def label (s : Series) : String := "ATR(" ++ toString s.period ++ ")"

/-- The value at a position, if that point exists and is past the warm-up. -/
def valueAt (s : Series) (i : Nat) : Option Float :=
  match s.points[i]? with
  | some p => if p.valid then some p.value else none
  | none => none

/-- The value of the last point, if it is past the warm-up. -/
def lastValue (s : Series) : Option Float :=
  if s.points.isEmpty then none else s.valueAt (s.points.length - 1)

end Series

/-- The running state of the computation: the sum of true ranges during the warm-up and the
last average. -/
structure AtrState where
  trSum : Float := 0.0
  atr : Float := 0.0

/-- The point of candle `i` (counted from one) given the previous close, and the next state. -/
def atrStep (n : Float) (period i : Nat) (st : AtrState) (prevClose : Float) (c : Candle) :
    IndicatorPoint × AtrState :=
  let tr := c.trueRange prevClose
  if i < period then (⟨c.time, false, 0.0⟩, { st with trSum := st.trSum + tr })
  else if i == period then
    let sum := st.trSum + tr
    let atr := sum / n
    (⟨c.time, true, atr⟩, ⟨sum, atr⟩)
  else
    let atr := (st.atr * (n - 1.0) + tr) / n
    (⟨c.time, true, atr⟩, { st with atr := atr })

/-- The points of candles `i, i+1, …` given the close before them. -/
def atrPoints (n : Float) (period : Nat) : Nat → AtrState → Float → List Candle →
    List IndicatorPoint
  | _, _, _, [] => []
  | i, st, prevClose, c :: cs =>
    let (p, st') := atrStep n period i st prevClose c
    p :: atrPoints n period (i + 1) st' c.close cs

/-- The average true range of the given period; empty for period zero or no candles. -/
def averageTrueRange (candles : List Candle) (period : Nat) : Series :=
  match period, candles with
  | 0, _ => ⟨period, []⟩
  | _, [] => ⟨period, []⟩
  | _, c :: cs =>
    ⟨period, ⟨c.time, false, 0.0⟩ :: atrPoints (ofNat period) period 1 {} c.close cs⟩

/-- The last two candles of a series, if there are two. -/
def lastTwo (candles : List Candle) : Option (Candle × Candle) :=
  match candles.reverse with
  | cur :: prev :: _ => some (prev, cur)
  | _ => none

/-- An ATR surge on the last candle: its ATR value exceeds the previous one times the
threshold, both values exist, and the last two candles are well formed. -/
def detectAtrSurge (pair : String) (candles : List Candle) (atr : Series) (threshold : Float) :
    Option Event :=
  match lastTwo candles with
  | none => none
  | some (prev, cur) =>
    if !cur.isWellFormed || !prev.isWellFormed then none
    else
      let last := candles.length - 1
      match atr.valueAt last, atr.valueAt (last - 1) with
      | some now, some before =>
        if now > before * threshold then
          some { pair := pair, kind := .atrSurge, prevPrice := prev.close,
                 currentPrice := cur.close, atrValue := some now, time := cur.time }
        else none
      | _, _ => none

end LevelCross
