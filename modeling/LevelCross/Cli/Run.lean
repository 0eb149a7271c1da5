import LevelCross.Cli.Parse
import LevelCross.Cli.Effect
import LevelCross.Config.Ini
import LevelCross.Market.CandleFile
import LevelCross.Store.Levels
import LevelCross.Store.Signals
import LevelCross.Store.Schema
import LevelCross.Watch
import LevelCross.Listing
import LevelCross.Json.Records
import LevelCross.Json.Write
import LevelCross.Web.Address

/-!
# Running the command line

A run reads the arguments, then the settings file named by `--config`, then carries out the
command. Every command that touches the store first brings its schema up to date. Lines go to
standard output and standard error as the command writes them; a failure ends the run with
`error: ` and its text on standard error and the exit status of its kind, after whatever was
written before it. A help page is written to standard output with status 0, and an argument
error to standard error with status 2.

The commands:

* `init-db` brings the schema up to date and names the columns it added;
* `levels list|add|update|delete` shows and changes the levels;
* `signals list` shows the recorded signals, newest first, and how many there are in all;
* `detect` checks the newest candle of a pair against its active levels and may record what
  it finds;
* `evaluate` runs the strategy on the newest candle as at a candle close;
* `serve` checks the address the service would listen on.
-/

namespace LevelCross.Cli

open LevelCross.Store LevelCross.Config LevelCross.Listing LevelCross.Json LevelCross.Time
  LevelCross.Number LevelCross.Web

/-- What a run writes and how it ends. -/
structure Outcome where
  code : Nat
  out : List String
  err : List String
deriving Repr, Inhabited

/-- The lines written so far to standard output and to standard error. -/
structure Output where
  out : List String := []
  err : List String := []

/-- A command: it writes lines, may fail, and reads files and stores. -/
abbrev Run := ExceptT Error (StateT Output Effect)

/-- The lines of a written text, one more for each line feed inside it. -/
def textLines (s : String) : List String := s.splitOn "\n"

/-- Write to standard output. -/
def say (s : String) : Run Unit := modify fun o => { o with out := o.out ++ textLines s }

/-- Write to standard error. -/
def warn (s : String) : Run Unit := modify fun o => { o with err := o.err ++ textLines s }

/-- Take the outcome of a step that may fail. -/
def lift {α : Type} (r : Except Error α) : Run α :=
  match r with
  | .ok a => pure a
  | .error e => throw e

/-- Read a file. -/
def readText (path : String) : Run (Except IoError String) := liftM (Effect.readFile path)

/-! ### Settings and stores -/

/-- The settings of the file named on the command line. -/
def loadSettings (path : String) : Run Settings := do
  match ← readText path with
  | .error e => throw (.configParse path ("couldn't read " ++ path ++ ": " ++ e.message))
  | .ok text =>
    match Settings.parse text with
    | .ok cfg => pure cfg
    | .error why => throw (.configParse path ("couldn't read " ++ path ++ ": " ++ why))

/-- A setting that must be present. -/
def required (cfg : Settings) (sectionName key : String) : Run String :=
  match cfg.getString sectionName key with
  | some v => pure v
  | none => throw (.configMissing sectionName key)

/-- Open the configured store with its schema brought up to date: its path, the store and the
columns added. The statements of the set-up that succeeded are kept when a later one fails. -/
def openStore (cfg : Settings) : Run (String × Database × List String) := do
  let path ← required cfg "sqlite" "path"
  let db ← lift (← liftM (Effect.loadStore path))
  let (db, r) := db.setUpSchema
  liftM (Effect.saveStore path db)
  let added ← lift (Store.lift r)
  return (path, db, added)

/-- Save the store at its path. -/
def saveStore (path : String) (db : Database) : Run Unit := liftM (Effect.saveStore path db)

/-- The candles of a pair and timeframe from the configured directory. -/
def candlesOf (cfg : Settings) (pair timeframe : String) : Run (List Candle) := do
  let dir ← required cfg "data" "csv_dir"
  let path := candlePath dir pair timeframe
  lift (candlesOfRead path pair timeframe (← readText path))

/-! ### The commands -/

/-- `init-db`. -/
def initDb (cfg : Settings) : Run Unit := do
  let (_, _, added) ← openStore cfg
  if added.isEmpty then say "Schema is up to date"
  else added.forM fun c => say ("Added column " ++ c)

/-- `levels list`. -/
def listLevels (cfg : Settings) (pair : Option String) (json : Bool) : Run Unit := do
  let (_, db, _) ← openStore cfg
  let levels ← lift (db.activeLevels pair)
  if json then say (pretty 0 (.arr (levels.map levelJson)))
  else
    if levels.isEmpty then warn "No active price levels"
    levels.forM fun l => say (levelLine l)

/-- `levels add`. -/
def addLevel (cfg : Settings) (now : DateTime) (pair : String) (value : Float) (direction : String)
    (confirmClose : Bool) : Run Unit := do
  let (path, db, _) ← openStore cfg
  let d ← lift (Direction.parse direction)
  let (db, l) ← lift (db.addLevel now (NewLevel.make pair value d confirmClose))
  saveStore path db
  say ("Added level " ++ toString l.id)
  say (levelLine l)

/-- `levels update`. -/
def updateLevel (cfg : Settings) (id : Int) (value : Option Float) (direction : Option String)
    (confirmClose : Option Bool) : Run Unit := do
  let (path, db, _) ← openStore cfg
  let d ← match direction with
    | some s => some <$> lift (Direction.parse s)
    | none => pure none
  let u : LevelUpdate := { value, direction := d, confirmClose }
  if u.isEmpty then
    throw (.invalidLevel "nothing to update; pass --level, --direction or --confirm-close")
  let (db, l) ← lift (db.updateLevel id u)
  saveStore path db
  say (levelLine l)

/-- `levels delete`. -/
def deleteLevel (cfg : Settings) (id : Int) : Run Unit := do
  let (path, db, _) ← openStore cfg
  let db ← lift (db.deactivateLevel id)
  saveStore path db
  say ("Deactivated level " ++ toString id)

/-- `signals list`: the filter is checked before the store is opened. -/
def listSignals (cfg : Settings) (pair kind start finish : Option String) (limit offset : Nat)
    (json : Bool) : Run Unit := do
  let f ← lift (Filter.ofTexts pair kind start finish limit offset)
  let (_, db, _) ← openStore cfg
  let records ← lift (db.signals f)
  if json then say (pretty 0 (.arr (records.map signalJson)))
  else
    let total ← lift (db.countSignals f)
    records.forM fun r => say (signalLine r)
    warn (toString records.length ++ " of " ++ toString total ++ " signals shown")

/-- Record events one at a time, saving the store after each. -/
def recordAll (path : String) (now : DateTime) : Database → List Event → Run Unit
  | _, [] => pure ()
  | db, e :: rest => do
    let (db, _) ← lift (db.appendSignal now e)
    saveStore path db
    recordAll path now db rest

/-- `detect`. -/
def detectCmd (cfg : Settings) (now : DateTime) (pair : String) (timeframe : Option String)
    (record : Bool) : Run Unit := do
  let strategy ← lift (StrategyConfig.ofSettings cfg)
  let tf := timeframe.getD strategy.timeframe
  let candles ← candlesOf cfg pair tf
  let (path, db, _) ← openStore cfg
  let levels ← lift (db.activeLevels (some pair))
  let events := detect candles levels
  if events.isEmpty then warn "No signals on the last candle"
  else
    events.forM fun e => say (eventLine e)
    if record then
      recordAll path now db events
      warn ("Recorded " ++ toString events.length ++ " signal(s)")

/-- The summary of the last row of a strategy frame. -/
def rowLine (pair timeframe : String) (row : FrameRow) : String :=
  pair ++ " " ++ timeframe ++ " @ " ++ row.candle.time.listText ++ ": close=" ++
    fixedText 6 row.candle.close ++ " atr=" ++ ((row.atr.map (fixedText 6)).getD "n/a") ++
    " enter_long=" ++ toString row.enterLong ++ " exit_long=" ++ toString row.exitLong

/-- `evaluate`. -/
def evaluateCmd (cfg : Settings) (now : DateTime) (pair : String) (timeframe : Option String) :
    Run Unit := do
  let strategy ← lift (StrategyConfig.ofSettings cfg)
  let strategy := match timeframe with
    | some tf => { strategy with timeframe := tf }
    | none => strategy
  let candles ← candlesOf cfg pair strategy.timeframe
  let (path, db, _) ← openStore cfg
  let (db, outcome) := onCandleClose db now strategy {} pair candles
  saveStore path db
  match outcome.frame.rows.getLast? with
  | some row => say (rowLine outcome.frame.pair strategy.timeframe row)
  | none => pure ()
  outcome.recorded.forM fun r => say (signalLine r)
  if outcome.recorded.length < outcome.events.length then
    warn (toString (outcome.events.length - outcome.recorded.length) ++ " of " ++
      toString outcome.events.length ++ " signal(s) could not be recorded")

/-- The address the service listens on when none is set. -/
def defaultListen : String := "127.0.0.1:3000"

/-- `serve`: the store is opened and the address checked; listening is beyond this library. -/
def serveCmd (cfg : Settings) : Run Unit := do
  let _ ← openStore cfg
  let listen := (cfg.getString "web" "listen").getD defaultListen
  if !isSocketAddress listen then
    throw (.configInvalid "web" "listen" (listen ++ ": invalid socket address syntax"))

/-! ### Dispatch -/

/-- A text option. -/
def Given.text (g : Given) (id : String) : Option String :=
  match g.lookup id with
  | some (.text s) => some s
  | _ => none

/-- A double option. -/
def Given.real (g : Given) (id : String) : Option Float :=
  match g.lookup id with
  | some (.real x) => some x
  | _ => none

/-- An integer option. -/
def Given.int (g : Given) (id : String) : Option Int :=
  match g.lookup id with
  | some (.int i) => some i
  | _ => none

/-- A count option. -/
def Given.count (g : Given) (id : String) : Option Nat :=
  match g.lookup id with
  | some (.count n) => some n
  | _ => none

/-- A truth option. -/
def Given.truth (g : Given) (id : String) : Option Bool :=
  match g.lookup id with
  | some (.truth b) => some b
  | _ => none

/-- A flag: given or not. -/
def Given.flag (g : Given) (id : String) : Bool := (g.truth id).getD false

/-- Carry out the command the arguments name. -/
def dispatch (cfg : Settings) (now : DateTime) : List (String × Given) → Run Unit
  | [_, ("init-db", _)] => initDb cfg
  | [_, ("levels", _), ("list", g)] => listLevels cfg (g.text "pair") (g.flag "json")
  | [_, ("levels", _), ("add", g)] =>
    addLevel cfg now ((g.text "pair").getD "") ((g.real "level").getD 0) ((g.text "direction").getD "both")
      (g.flag "confirm_close")
  | [_, ("levels", _), ("update", g)] =>
    updateLevel cfg ((g.int "id").getD 0) (g.real "level") (g.text "direction") (g.truth "confirm_close")
  | [_, ("levels", _), ("delete", g)] => deleteLevel cfg ((g.int "id").getD 0)
  | [_, ("signals", _), ("list", g)] =>
    listSignals cfg (g.text "pair") (g.text "kind") (g.text "start") (g.text "end")
      ((g.count "limit").getD 100) ((g.count "offset").getD 0) (g.flag "json")
  | [_, ("detect", g)] =>
    detectCmd cfg now ((g.text "pair").getD "") (g.text "timeframe") (g.flag "record")
  | [_, ("evaluate", g)] => evaluateCmd cfg now ((g.text "pair").getD "") (g.text "timeframe")
  | [_, ("serve", _)] => serveCmd cfg
  | _ => pure ()

/-- The lines of a text ending in a line feed. -/
def writtenLines (text : String) : List String := (textLines text).dropLast

/-- Run the program on its arguments at a time. -/
def runArgs (now : DateTime) (args : List String) : Effect Outcome :=
  match readArgs args with
  | .error (.shown text) => pure ⟨0, writtenLines text, []⟩
  | .error (.refused text) => pure ⟨2, [], writtenLines text⟩
  | .ok commands => do
    let top : Given := (commands.head?.map (·.2)).getD []
    let run : Run Unit := do
      let cfg ← loadSettings ((top.text "config").getD "")
      dispatch cfg now commands
    let (result, o) ← (run.run).run {}
    match result with
    | .ok () => pure ⟨0, o.out, o.err⟩
    | .error e => pure ⟨e.exitCode, o.out, o.err ++ textLines ("error: " ++ e.message)⟩

end LevelCross.Cli
