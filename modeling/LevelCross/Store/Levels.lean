import LevelCross.Store.Schema
import LevelCross.Market.Level

/-!
# Levels in the store

The operations on the levels table: list the active levels (of one pair, after normalizing
it), fetch a level by identifier, add a level, update one and deactivate one.

A level row is read column by column in the order `id, pair, level, direction, confirm_close,
active, created_at`; the flags are any non-zero integer. A listing reads its rows in order of
identifier and stops at the first row that cannot be read. Adding and updating check the level
before they touch the store; a new level's row number is its identifier and its creation time
is the time given to the operation.
-/

namespace LevelCross.Store

open LevelCross.Time

/-- The columns a level is read from, in order. -/
def levelColumns : List String :=
  ["id", "pair", "level", "direction", "confirm_close", "active", "created_at"]

/-- The value an integer flag is kept as. -/
def flagValue (b : Bool) : Value := .int (if b then 1 else 0)

/-- Read a level from a row, given the positions of `levelColumns` in its table. -/
def Table.levelOfRow (t : Table) (idx : List Nat) (r : Row) : Except Fault PriceLevel := do
  let at_ (k : Nat) : Value := t.cell r (idx.getD k 0)
  let name (k : Nat) : String := levelColumns.getD k ""
  let id ← (at_ 0).toInt 0 (name 0)
  let pair ← (at_ 1).toText 1 (name 1)
  let value ← (at_ 2).toFloat 2 (name 2)
  let direction ← (at_ 3).toText 3 (name 3)
  let confirm ← (at_ 4).toInt 4 (name 4)
  let active ← (at_ 5).toInt 5 (name 5)
  let created ← (at_ 6).toTime 6 (name 6)
  return { id, pair, value, direction, confirmClose := confirm != 0, active := active != 0,
           createdAt := created }

/-- The rows whose column `i` equals the value bound against it. -/
def Table.matching (t : Table) (i : Nat) (v : Value) (r : Row) : Bool :=
  Value.holds (· == .eq) (t.cell r i) (v.compareAs (t.columns.getD i default).affinity)

/-- The rows in the order of one column's values. -/
def Table.sortedBy (t : Table) (i : Nat) (rows : List Row) : List Row :=
  rows.mergeSort fun a b => Value.order (t.cell a i) (t.cell b i) != .gt

namespace Database

/-- The active levels in order of identifier, of one pair when one is given. -/
def activeLevels (db : Database) (pair : Option String) : Except Error (List PriceLevel) := lift do
  let t ← db.find "price_levels"
  let idx ← t.require levelColumns
  let activeAt := idx.getD 5 0
  let pairAt := idx.getD 1 0
  let rows := t.rows.filter fun r =>
    t.matching activeAt (.int 1) r &&
      match pair with
      | some p => t.matching pairAt (.text (normalizePair p)) r
      | none => true
  (t.sortedBy (idx.getD 0 0) rows).mapM (t.levelOfRow idx)

/-- The level of an identifier, active or not. -/
def level? (db : Database) (id : Int) : Except Error (Option PriceLevel) := lift do
  let t ← db.find "price_levels"
  let idx ← t.require levelColumns
  match t.rows.find? (t.matching (idx.getD 0 0) (.int id)) with
  | some r => some <$> t.levelOfRow idx r
  | none => return none

/-- Add a level created at `now`. -/
def addLevel (db : Database) (now : DateTime) (l : NewLevel) :
    Except Error (Database × PriceLevel) := do
  l.validate
  let (t, id) ← lift do
    let t ← db.find "price_levels"
    t.insertNamed ["pair", "level", "direction", "created_at", "active", "confirm_close"]
      [.text l.pair, .ofFloat l.value, .text l.direction.name, .text (stampText now), .int 1,
        flagValue l.confirmClose]
  return (db.put t,
    { id, pair := l.pair, value := l.value, direction := l.direction.name,
      confirmClose := l.confirmClose, active := true, createdAt := now })

/-- Change the price, direction or confirmation of a level. -/
def updateLevel (db : Database) (id : Int) (u : LevelUpdate) :
    Except Error (Database × PriceLevel) := do
  u.validate
  let some old ← db.level? id | .error (.levelNotFound id)
  let l := u.apply old
  let t ← lift do
    let t ← db.find "price_levels"
    let sets ← t.require ["level", "direction", "confirm_close"]
    let idAt ← t.require ["id"]
    let (t, _) ← t.update (sets.zip [.ofFloat l.value, .text l.direction, flagValue l.confirmClose])
      (t.matching (idAt.getD 0 0) (.int id))
    return t
  return (db.put t, l)

/-- Mark a level inactive; a level that does not exist is a failure. -/
def deactivateLevel (db : Database) (id : Int) : Except Error Database := do
  let (t, changed) ← lift do
    let t ← db.find "price_levels"
    let sets ← t.require ["active"]
    let idAt ← t.require ["id"]
    t.update (sets.zip [.int 0]) (t.matching (idAt.getD 0 0) (.int id))
  if changed == 0 then .error (.levelNotFound id) else return db.put t

end Database

end LevelCross.Store
