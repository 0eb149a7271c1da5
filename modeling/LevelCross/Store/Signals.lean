import LevelCross.Store.Levels
import LevelCross.Market.Signal

/-!
# Signals in the store

The operations on the signals table: record a signal, list the signals a filter picks, and
count them.

Recording checks first that a level it names exists, active or not; the pair is normalized,
the time is kept without its fraction of a second, and the creation time is the time given to
the operation. A listing is ordered newest first by the kept time text, then by identifier,
and cut by the filter's offset and limit, where a limit of zero means no limit. The bounds of
a filter compare with the kept texts, so they count to the whole second.
-/

namespace LevelCross.Store

open LevelCross.Time

/-- The columns a signal is read from, in order. -/
def signalColumns : List String :=
  ["id", "pair", "signal_type", "level_id", "level_price", "prev_price", "current_price",
    "atr_value", "timestamp", "created_at"]

/-- Read a recorded signal from a row, given the positions of `signalColumns` in its table;
the kind is read first. -/
def Table.recordOfRow (t : Table) (idx : List Nat) (r : Row) : Except Fault Record := do
  let at_ (k : Nat) : Value := t.cell r (idx.getD k 0)
  let name (k : Nat) : String := signalColumns.getD k ""
  let kindText ← (at_ 2).toText 2 (name 2)
  let kind ← match Kind.parse kindText with
    | .ok k => pure k
    | .error e => .error (.conversion 2 "Text" e.message)
  let id ← (at_ 0).toInt 0 (name 0)
  let pair ← (at_ 1).toText 1 (name 1)
  let levelId ← (at_ 3).toOption (Value.toInt 3 (name 3))
  let levelValue ← (at_ 4).toOption (Value.toFloat 4 (name 4))
  let prevPrice ← (at_ 5).toFloat 5 (name 5)
  let currentPrice ← (at_ 6).toFloat 6 (name 6)
  let atrValue ← (at_ 7).toOption (Value.toFloat 7 (name 7))
  let time ← (at_ 8).toTime 8 (name 8)
  let created ← (at_ 9).toTime 9 (name 9)
  return { id, event := { pair, kind, levelId, levelValue, prevPrice, currentPrice, atrValue, time },
           createdAt := created }

/-- The conditions of a filter, each a column, a comparison and the value it compares with. -/
def conditionsOf (f : Filter) : List (String × (Ordering → Bool) × Value) :=
  (f.pair.map fun p => ("pair", (· == .eq), Value.text (normalizePair p))).toList ++
  (f.kind.map fun k => ("signal_type", (· == .eq), Value.text k.name)).toList ++
  (f.start.map fun s => ("timestamp", (· != .lt), Value.text (stampText s))).toList ++
  (f.finish.map fun e => ("timestamp", (· != .gt), Value.text (stampText e))).toList

/-- The rows of the signals table that a filter picks, with the table. -/
def Database.pickedSignals (db : Database) (f : Filter) : Except Fault (Table × List Row) := do
  let t ← db.find "signal_history"
  let conds := conditionsOf f
  let idx ← t.require (conds.map (·.1))
  let tests := (idx.zip conds).map fun (i, (_, rel, v)) => (i, rel, v)
  let picks (r : Row) : Bool := tests.all fun (i, rel, v) =>
    Value.holds rel (t.cell r i) (v.compareAs (t.columns.getD i default).affinity)
  return (t, t.rows.filter picks)

/-- Cut a listing by an offset and a limit as the store reads them: both as 64-bit signed
words, a negative offset counting as none and a negative limit as no limit. -/
def window {α : Type} (offset limit : Int) (xs : List α) : List α :=
  let rest := xs.drop offset.toNat
  if limit < 0 then rest else rest.take limit.toNat

namespace Database

/-- Record a signal created at `now`. -/
def appendSignal (db : Database) (now : DateTime) (e : Event) :
    Except Error (Database × Record) := do
  match e.levelId with
  | some lid =>
    let found ← lift do
      let t ← db.find "price_levels"
      let idAt ← t.require ["id"]
      return t.rows.any (t.matching (idAt.getD 0 0) (.int lid))
    if !found then .error (.levelNotFound lid)
  | none => pure ()
  let pair := normalizePair e.pair
  let (t, id) ← lift do
    let t ← db.find "signal_history"
    t.insertNamed
      ["pair", "signal_type", "level_id", "level_price", "prev_price", "current_price",
        "atr_value", "timestamp", "created_at"]
      [.text pair, .text e.kind.name, .ofOption .int e.levelId, .ofOption .ofFloat e.levelValue,
        .ofFloat e.prevPrice, .ofFloat e.currentPrice, .ofOption .ofFloat e.atrValue,
        .text (stampText e.time), .text (stampText now)]
  return (db.put t, { id, event := { e with pair, time := e.time.wholeSecond }, createdAt := now })

/-- The signals a filter picks, newest first, cut by its offset and limit. -/
def signals (db : Database) (f : Filter) : Except Error (List Record) := lift do
  let t ← db.find "signal_history"
  let idx ← t.require signalColumns
  let (_, rows) ← db.pickedSignals f
  let timeAt := idx.getD 8 0
  let idAt := idx.getD 0 0
  let newest (a b : Row) : Bool :=
    match Value.order (t.cell a timeAt) (t.cell b timeAt) with
    | .gt => true
    | .lt => false
    | .eq => Value.order (t.cell a idAt) (t.cell b idAt) != .lt
  let limit : Int := if f.limit == 0 then -1 else wrapSigned f.limit
  (window (wrapSigned f.offset) limit (rows.mergeSort newest)).mapM (t.recordOfRow idx)

/-- The number of signals a filter picks, without its offset and limit. -/
def countSignals (db : Database) (f : Filter) : Except Error Nat := lift do
  let (_, rows) ← db.pickedSignals f
  return rows.length

end Database

end LevelCross.Store
