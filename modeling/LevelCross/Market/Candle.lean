import LevelCross.Time.Basic
import LevelCross.Number.Float

/-!
# Candles

A candle is one closed period of price action: its opening time, the four prices of the period
and the traded volume. A candle is well formed when its four prices are finite. The true range
of a candle against the previous close is the largest of its span and its two distances from
that close.
-/

namespace LevelCross

open LevelCross.Number LevelCross.Time

/-- One closed period of price action. -/
structure Candle where
  time : DateTime
  openPrice : Float
  high : Float
  low : Float
  close : Float
  volume : Float := 0.0
deriving Inhabited

namespace Candle

/-- All four prices are finite. -/
def isWellFormed (c : Candle) : Bool :=
  isFinite c.openPrice && isFinite c.high && isFinite c.low && isFinite c.close

/-- The largest of `high - low`, `|high - prevClose|` and `|low - prevClose|`, a NaN giving
way to the other operand at each step. -/
def trueRange (c : Candle) (prevClose : Float) : Float :=
  fmax (fmax (c.high - c.low) (c.high - prevClose).abs) (c.low - prevClose).abs

end Candle

end LevelCross
