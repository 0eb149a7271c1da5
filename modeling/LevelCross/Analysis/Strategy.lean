import LevelCross.Analysis.Crossing
import LevelCross.Config.Ini

/-!
# The signal strategy

The strategy turns candles and a snapshot of levels into one row per candle: the average true
range there and at the candle before, the previous close, the crossing marks of the candle, and
whether to enter or to exit. It enters on a surge of the average true range past the threshold,
on an upward cross, or on a wick through a level in either direction; it exits on a downward
cross. Crossings count only when level checks are enabled, which needs live data.

The configuration is read from the `strategy` section of a settings file and validated: a
positive period, a finite positive threshold and a timeframe that is not blank.
-/

namespace LevelCross

open LevelCross.Config LevelCross.Text

/-- How the strategy is being run. -/
inductive RunMode where
  | live
  | dryRun
  | backtest
deriving DecidableEq, Repr, Inhabited

namespace RunMode

/-- The name of a run mode. -/
def name : RunMode → String
  | live => "live"
  | dryRun => "dry_run"
  | backtest => "backtest"

/-- Live and dry runs see live data; a backtest does not. -/
def isLiveData : RunMode → Bool
  | live | dryRun => true
  | backtest => false

/-- Read a run mode from its name, trimmed and lower-cased; `dry-run` is accepted too. The
failure quotes the text as compared. -/
def parse (s : String) : Except String RunMode :=
  match toLower (trim s) with
  | "live" => .ok live
  | "dry_run" | "dry-run" => .ok dryRun
  | "backtest" => .ok backtest
  | other => .error ("unknown run mode '" ++ other ++ "'")

end RunMode

/-- The settings of the strategy. -/
structure StrategyConfig where
  timeframe : String := "15m"
  atrPeriod : Nat := 14
  atrThreshold : Float := 1.5
  checkLevelCrossing : Bool := true
  runMode : RunMode := .dryRun

namespace StrategyConfig

/-- A failure of a strategy setting. -/
def invalid (key reason : String) : Error := .configInvalid "strategy" key reason

/-- The period is positive, the threshold finite and positive, and the timeframe not blank. -/
def validate (c : StrategyConfig) : Except Error Unit :=
  if c.atrPeriod == 0 then .error (invalid "atr_period" "must be positive")
  else if !Number.isFinite c.atrThreshold || c.atrThreshold ≤ 0.0 then
    .error (invalid "atr_threshold" "must be a positive number")
  else if (trim c.timeframe).isEmpty then .error (invalid "timeframe" "must not be empty")
  else .ok ()

/-- Crossings are checked: enabled, and on live data. -/
def levelsEnabled (c : StrategyConfig) : Bool := c.checkLevelCrossing && c.runMode.isLiveData

/-- Read the `strategy` section, absent keys taking their defaults: the period first, then the
run mode, then the rest, and validate the result. -/
def ofSettings (cfg : Settings) : Except Error StrategyConfig := do
  let d : StrategyConfig := {}
  let period := cfg.getInt "strategy" "atr_period" d.atrPeriod
  if period ≤ 0 then throw (invalid "atr_period" "must be positive")
  let mode ← match cfg.getString "strategy" "run_mode" with
    | some raw =>
      match RunMode.parse raw with
      | .ok m => pure m
      | .error reason => throw (invalid "run_mode" reason)
    | none => pure d.runMode
  let c : StrategyConfig :=
    { timeframe := (cfg.getString "strategy" "timeframe").getD d.timeframe
      atrPeriod := period.toNat
      atrThreshold := cfg.getFloat "strategy" "atr_threshold" d.atrThreshold
      checkLevelCrossing := cfg.getBool "strategy" "check_level_crossing" d.checkLevelCrossing
      runMode := mode }
  c.validate
  return c

end StrategyConfig

/-- One row of the strategy frame. -/
structure FrameRow where
  candle : Candle
  atr : Option Float
  atrPrev : Option Float
  closePrev : Option Float
  flags : Flags
  enterLong : Bool := false
  exitLong : Bool := false

/-- The rows of a pair's candles with their indicator series. -/
structure Frame where
  pair : String
  rows : List FrameRow
  atr : Series

/-- The rows with the average true range, the previous values and, when enabled, the
crossing marks; no entries or exits yet. -/
def populateIndicators (pair : String) (candles : List Candle) (levels : List PriceLevel)
    (c : StrategyConfig) : Frame :=
  let atr := averageTrueRange candles c.atrPeriod
  let flags := if c.levelsEnabled then annotate candles levels
    else List.replicate candles.length {}
  let rows := (candles.zip flags).zipIdx.map fun ((candle, f), i) =>
    { candle := candle, atr := atr.valueAt i,
      atrPrev := if i == 0 then none else atr.valueAt (i - 1),
      closePrev := if i == 0 then none else (candles[i - 1]?).map (·.close),
      flags := f }
  ⟨pair, rows, atr⟩

/-- The average true range of a row exceeds its previous value times the threshold; false
while either value is missing. -/
def FrameRow.atrRises (r : FrameRow) (threshold : Float) : Bool :=
  match r.atr, r.atrPrev with
  | some a, some p => a > p * threshold
  | _, _ => false

/-- Mark entries: a surge past the threshold, or an upward cross or a wick while crossings are
checked. -/
def populateEntry (frame : Frame) (c : StrategyConfig) : Frame :=
  { frame with rows := frame.rows.map fun r =>
    let level := c.checkLevelCrossing && (r.flags.crossUp || r.flags.wickUp || r.flags.wickDown)
    { r with enterLong := r.atrRises c.atrThreshold || level } }

/-- Mark exits: a downward cross while crossings are checked. -/
def populateExit (frame : Frame) (c : StrategyConfig) : Frame :=
  { frame with rows := frame.rows.map fun r =>
    { r with exitLong := c.checkLevelCrossing && r.flags.crossDown } }

end LevelCross
