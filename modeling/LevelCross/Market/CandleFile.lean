import LevelCross.Csv.Record
import LevelCross.Files
import LevelCross.Market.Candle
import LevelCross.Market.Level
import LevelCross.Number.Read
import LevelCross.Time.Parse

/-!
# Candle files

The candles of a pair and timeframe live in one comma-separated file, `BTC/USDT` at `15m` in
`BTC_USDT_15m.csv`, with the columns timestamp, open, high, low, close and an optional volume
after a header line. A price that cannot be read becomes NaN, which makes its candle malformed;
a bad timestamp or volume fails the whole file. The candles come back ordered by time, candles
of one time keeping their order in the file.
-/

namespace LevelCross

open LevelCross.Number LevelCross.Text LevelCross.Time

/-- The file of a pair and timeframe inside a directory. -/
def candlePath (base pair timeframe : String) : String :=
  joinPath base ((normalizePair pair).replace "/" "_" ++ "_" ++ timeframe ++ ".csv")

/-- A price cell: a decimal, or NaN when it cannot be read. -/
def priceCell (fields : List String) (i : Nat) (name : String) : Except Error Float :=
  match fields[i]? with
  | some raw => .ok ((readFloat (trim raw)).toOption.getD nan)
  | none => .error (.database ("missing " ++ name ++ " column"))

/-- The time cell: the first field, trimmed, in the layout `%Y-%m-%d %H:%M:%S`. -/
def timeCell (fields : List String) : Except Error DateTime :=
  match fields[0]? with
  | some raw =>
    match parseDateTime listLayout (trim raw) with
    | .ok t => .ok t
    | .error e => .error (.database ("invalid timestamp '" ++ raw ++ "': " ++ e.message))
  | none => .error (.database "missing timestamp column")

/-- The volume cell: a decimal, or `0` when the sixth field is missing or blank. -/
def volumeCell (fields : List String) : Except Error Float :=
  match fields[5]? with
  | some v =>
    if (trim v).isEmpty then .ok 0.0
    else match readFloat (trim v) with
      | .ok x => .ok x
      | .error e => .error (.database ("invalid volume value: " ++ e.message))
  | none => .ok 0.0

/-- The candle of one record: timestamp, then volume, then the four prices. -/
def candleOfRow (r : Csv.Row) : Except Error Candle := do
  let time ← timeCell r.fields
  let volume ← volumeCell r.fields
  return { time, volume, openPrice := ← priceCell r.fields 1 "open",
           high := ← priceCell r.fields 2 "high", low := ← priceCell r.fields 3 "low",
           close := ← priceCell r.fields 4 "close" }

/-- A record checked for its width and then read as a candle. -/
def candleOfRecord (width : Nat) (r : Csv.Row) : Except Error Candle :=
  match r.check width with
  | .ok r => candleOfRow r
  | .error e => .error (.database ("CSV parse error: " ++ e.message))

/-- Read the records in order, each checked for the width of the header. -/
def candlesOfText (text : String) : Except Error (List Candle) :=
  match Csv.parse text with
  | [] => .ok []
  | header :: rows => rows.mapM (candleOfRecord header.fields.length)

/-- Candles in time order, equal times keeping their order. -/
def sortByTime (cs : List Candle) : List Candle :=
  cs.mergeSort fun a b => a.time.compare b.time != .gt

/-- The candles of a pair and timeframe from the outcome of reading their file. A missing file
or a file without candles means no data. -/
def candlesOfRead (path pair timeframe : String) (read : Except IoError String) :
    Except Error (List Candle) := do
  let text ← match read with
    | .ok t => pure t
    | .error .notFound => throw (.noData (normalizePair pair) timeframe)
    | .error e => throw (.database ("failed to read " ++ path ++ ": " ++ e.message))
  let candles ← candlesOfText text
  if candles.isEmpty then throw (.noData (normalizePair pair) timeframe)
  return sortByTime candles

/-- The candles of a pair and timeframe from the files of a directory. -/
def fetchCandles (fs : Files) (base pair timeframe : String) : Except Error (List Candle) :=
  let path := candlePath base pair timeframe
  candlesOfRead path pair timeframe (fs.readText path)

end LevelCross
