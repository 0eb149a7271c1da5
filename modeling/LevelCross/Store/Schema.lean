import LevelCross.Store.Script
import LevelCross.Market.Error
import LevelCross.Time.Parse

/-!
# The tables of levels and signals

The store keeps two tables. `price_levels` holds one row per level, with its pair, price,
direction, creation time and two flags; `signal_history` holds one row per recorded signal.
Times are kept as text in the listing form `YYYY-MM-DD HH:MM:SS` and read back with an
optional fraction of a second, so rows written by other tools with a fraction still read.

`Database.initSchema` creates missing tables, then adds the columns that stores written before
they existed lack, and reports them as `table.column`; afterwards it gives every signal
without a time the first nineteen characters of its creation time, and builds the indexes, which
needs the indexed columns. No transaction encloses these statements: `Database.setUpSchema`
keeps the effect of each one that succeeded when a later one fails.

Cells are read by their reader's type: an integer reader takes only integers, a double
reader integers and doubles, a text reader only texts, and an optional reader also nothing.
Any other kind is a `Fault.columnType` naming the position and name of the column read.
-/

namespace LevelCross.Store

open LevelCross.Time

/-- A fault of the store as a failure of an operation. -/
def Fault.toError (f : Fault) : Error := .query f.message

/-- Run a statement of the store, its fault becoming a failure of the operation. -/
def lift {α : Type} (r : Except Fault α) : Except Error α := r.mapError Fault.toError

/-- The levels table as this library creates it. -/
def levelTable : Table where
  name := "price_levels"
  columns :=
    [ { name := "id", declared := "INTEGER", key := true },
      { name := "pair", declared := "TEXT", notNull := true },
      { name := "level", declared := "REAL", notNull := true },
      { name := "direction", declared := "TEXT", notNull := true },
      { name := "created_at", declared := "TEXT", notNull := true },
      { name := "active", declared := "INTEGER", notNull := true, default := .int 1 },
      { name := "confirm_close", declared := "INTEGER", notNull := true, default := .int 0 } ]

/-- The signals table as this library creates it. -/
def signalTable : Table where
  name := "signal_history"
  columns :=
    [ { name := "id", declared := "INTEGER", key := true },
      { name := "pair", declared := "TEXT", notNull := true },
      { name := "signal_type", declared := "TEXT", notNull := true },
      { name := "level_id", declared := "INTEGER" },
      { name := "level_price", declared := "REAL" },
      { name := "prev_price", declared := "REAL", notNull := true },
      { name := "current_price", declared := "REAL", notNull := true },
      { name := "atr_value", declared := "REAL" },
      { name := "timestamp", declared := "TEXT" },
      { name := "created_at", declared := "TEXT", notNull := true } ]

/-- The columns that older stores may lack, in the order they are added. -/
def migrations : List (String × Column) :=
  [ ("price_levels", { name := "active", declared := "INTEGER", notNull := true, default := .int 1 }),
    ("price_levels",
      { name := "confirm_close", declared := "INTEGER", notNull := true, default := .int 0 }),
    ("signal_history", { name := "timestamp", declared := "TEXT" }) ]

/-- The text a time is kept as. -/
def stampText (t : DateTime) : String := t.listText

/-- The first nineteen characters of a value's text, nothing staying nothing. -/
def leadingStamp (v : Value) : Value :=
  match v.asText? with
  | some s => .text (String.ofList (s.toList.take 19))
  | none => .null

namespace Database

/-- Add a column missing from a table; whether it was missing is returned with the store. The
column is looked for among the names the table lists, compared exactly, while adding it refuses
a name the table has in any case: a column whose name differs only in case is a fault. -/
def migrate (db : Database) (tableName : String) (c : Column) : Except Fault (Database × Bool) := do
  let t ← db.find tableName
  if t.columns.any (·.name == c.name) then return (db, false)
  else
    match t.columnIndex? c.name with
    | some _ => throw (.duplicateColumn c.name)
    | none => return (db.put (t.addColumn c), true)

/-- Give every signal without a time the leading part of its creation time. -/
def fillStamps (db : Database) : Except Fault Database := do
  let t ← db.find "signal_history"
  let idx ← t.require ["timestamp", "created_at"]
  match idx with
  | [ts, created] =>
    let rows := t.rows.map fun r =>
      if (t.cell r ts).isNull then
        { r with cells := r.cells.set ts ((leadingStamp (t.cell r created)).storeAs
            ((t.columns.getD ts default).affinity)) }
      else r
    return db.put { t with rows := rows }
  | _ => return db

/-- Add the migrated columns in order, reporting each one added as `table.column` after those
before it; a failing addition stops the rest, the columns added before it staying added. -/
def migrateAll : List (String × Column) → Database → List String →
    Database × Except Fault (List String)
  | [], db, added => (db, .ok added)
  | m :: ms, db, added =>
    match db.migrate m.1 m.2 with
    | .error f => (db, .error f)
    | .ok (db', fresh) => migrateAll ms db' (if fresh then added ++ [m.1 ++ "." ++ m.2.name] else added)

/-- The columns the indexes of the store are built on, in the order the indexes are built. -/
def indexedColumns : List (String × String) :=
  [("price_levels", "pair"), ("signal_history", "pair"), ("signal_history", "signal_type"),
    ("signal_history", "timestamp")]

/-- Build an index on a column of a table: the store keeps no index data, but the column must
exist. -/
def index (db : Database) (tableName column : String) : Except Fault Unit := do
  let t ← db.find tableName
  let _ ← t.require [column]
  return ()

/-- Create the missing tables, add the missing columns, fill the missing signal times and build
the indexes, statement by statement: each statement that succeeds takes effect, and the first
fault stops the rest. The store reached is returned with the added columns, as `table.column` in
order, or with the fault. -/
def setUpSchema (db : Database) : Database × Except Fault (List String) :=
  match db.create levelTable true with
  | .error f => (db, .error f)
  | .ok db =>
    match db.create signalTable true with
    | .error f => (db, .error f)
    | .ok db =>
      match migrateAll migrations db [] with
      | (db, .error f) => (db, .error f)
      | (db, .ok added) =>
        match db.fillStamps with
        | .error f => (db, .error f)
        | .ok db =>
          match indexedColumns.forM fun (t, c) => db.index t c with
          | .error f => (db, .error f)
          | .ok () => (db, .ok added)

/-- Set up the schema: the store and the added columns, or the failure. -/
def initSchema (db : Database) : Except Error (Database × List String) :=
  lift ((setUpSchema db).2.map fun added => ((setUpSchema db).1, added))

end Database

namespace Value

/-- Read an integer cell. -/
def toInt (i : Nat) (name : String) : Value → Except Fault Int
  | .int n => .ok n
  | v => .error (.columnType i name v.kindName)

/-- Read a double cell; an integer is read as the nearest double. -/
def toFloat (i : Nat) (name : String) : Value → Except Fault Float
  | .int n => .ok (Number.ofInt n)
  | .real x => .ok x
  | v => .error (.columnType i name v.kindName)

/-- Read a text cell. -/
def toText (i : Nat) (name : String) : Value → Except Fault String
  | .text s => .ok s
  | v => .error (.columnType i name v.kindName)

/-- Read a cell that may hold nothing. -/
def toOption {α : Type} (read : Value → Except Fault α) : Value → Except Fault (Option α)
  | .null => .ok none
  | v => some <$> read v

/-- Read a time cell: a text in the listing form with an optional fraction of a second. -/
def toTime (i : Nat) (name : String) (v : Value) : Except Fault DateTime := do
  let s ← v.toText i name
  match parseDateTime listFractionLayout s with
  | .ok t => .ok t
  | .error e => .error (.conversion i "Text" e.message)

end Value

/-- Wrap an integer the way a 64-bit signed word holds it. -/
def wrapSigned (n : Nat) : Int :=
  let m : Nat := n % Nat.pow 2 64
  if m < Nat.pow 2 63 then (m : Int) else (m : Int) - Nat.pow 2 64

end LevelCross.Store
