import LevelCross.Store.Value

/-!
# Tables of the store

A `Database` is a list of named tables; a `Table` has columns and rows, each row carrying its
row number and one cell per column. Names of tables and columns match without regard to ASCII
case. At most one column is the row number under another name (a *key* column): writing
nothing there takes the next free number, which is one more than the largest in use.

A write applies each column's affinity to the value written, fills omitted columns with their
defaults and refuses nothing in a column that may not hold nothing, checking the columns in
their order. Every failure is a `Fault`, whose message is the text the store reports.

The main statement is `Database.find_put`: a table written back is the table found under its
name.
-/

namespace LevelCross.Store

/-- Why a statement on the store failed. -/
inductive Fault where
  /-- no table has this name -/
  | noSuchTable (table : String)
  /-- a statement reads a column that its table lacks -/
  | noSuchColumn (column : String)
  /-- a write names a column that its table lacks -/
  | noColumnNamed (table column : String)
  /-- a column that may not hold nothing would hold nothing -/
  | notNull (table column : String)
  /-- a row number is already in use -/
  | unique (table column : String)
  /-- a write lists a different number of values and columns -/
  | valueCount (values columns : Nat)
  /-- a write without column list has a different number of values than the table columns -/
  | rowWidth (table : String) (columns values : Nat)
  /-- a row number is not an integer -/
  | mismatch
  /-- a table of this name exists already -/
  | tableExists (table : String)
  /-- a column added to a table has the name of one of its columns, in some case -/
  | duplicateColumn (column : String)
  /-- a statement cannot be read -/
  | malformed (near : String)
  /-- a cell holds a kind of value that its reader does not take -/
  | columnType (index : Nat) (name : String) (found : String)
  /-- a text cell could not be read as the value it should spell -/
  | conversion (index : Nat) (found : String) (reason : String)
deriving Repr

/-- The text the store reports for a fault. -/
def Fault.message : Fault → String
  | .noSuchTable t => "no such table: " ++ t
  | .noSuchColumn c => "no such column: " ++ c
  | .noColumnNamed t c => "table " ++ t ++ " has no column named " ++ c
  | .notNull t c => "NOT NULL constraint failed: " ++ t ++ "." ++ c
  | .unique t c => "UNIQUE constraint failed: " ++ t ++ "." ++ c
  | .valueCount v c => toString v ++ " values for " ++ toString c ++ " columns"
  | .rowWidth t c v =>
    "table " ++ t ++ " has " ++ toString c ++ " columns but " ++ toString v ++
      " values were supplied"
  | .mismatch => "datatype mismatch"
  | .tableExists t => "table " ++ t ++ " already exists"
  | .duplicateColumn c => "duplicate column name: " ++ c
  | .malformed n => "near \"" ++ n ++ "\": syntax error"
  | .columnType i n k =>
    "Invalid column type " ++ k ++ " at index: " ++ toString i ++ ", name: " ++ n
  | .conversion i k r => "Conversion error from type " ++ k ++ " at index: " ++ toString i ++
    ", " ++ r

/-- Two names of the store are the same name: ASCII case does not count. -/
def sameName (a b : String) : Bool := a.toLower == b.toLower

/-- Every name is the same as itself. -/
@[simp]
theorem sameName_self (a : String) : sameName a a = true := by simp [sameName]

/-- A column of a table. -/
structure Column where
  name : String
  /-- the declared type, which decides the affinity -/
  declared : String := ""
  notNull : Bool := false
  default : Value := .null
  /-- the column is the row number under another name -/
  key : Bool := false
deriving Inhabited

/-- The affinity of a column. -/
def Column.affinity (c : Column) : Affinity := Affinity.ofDeclared c.declared

/-- A row: its number and one cell per column. -/
structure Row where
  id : Int
  cells : List Value
deriving Inhabited

/-- A table: its name, columns and rows in the order of their numbers. -/
structure Table where
  name : String
  columns : List Column
  rows : List Row := []
deriving Inhabited

/-- The tables of a store. -/
structure Database where
  tables : List Table := []
deriving Inhabited

namespace Table

/-- The position of a column. -/
def columnIndex? (t : Table) (name : String) : Option Nat :=
  t.columns.findIdx? (fun c => sameName c.name name)

/-- The positions of the columns a statement reads, in its order; the first one missing is the
fault. -/
def require (t : Table) : List String → Except Fault (List Nat)
  | [] => .ok []
  | n :: ns =>
    match t.columnIndex? n with
    | some i => do return i :: (← t.require ns)
    | none => .error (.noSuchColumn n)

/-- The value of a row in a column, as the column hands it back. -/
def cell (t : Table) (r : Row) (i : Nat) : Value :=
  match t.columns[i]? with
  | some c => (r.cells.getD i .null).loadAs c.affinity
  | none => .null

/-- The next free row number: one more than the largest in use, or one. -/
def nextId (t : Table) : Int :=
  match (t.rows.map Row.id).max? with
  | some m => m + 1
  | none => 1

/-- The first column that may not hold nothing and would, if any. -/
def nullFault (t : Table) (cells : List Value) : Option Fault :=
  ((t.columns.zip cells).find? (fun (c, v) => c.notNull && !c.key && v.isNull)).map
    fun (c, _) => .notNull t.name c.name

/-- Put a row among the rows, keeping them in the order of their numbers. -/
def placeRow (r : Row) : List Row → List Row
  | [] => [r]
  | s :: rest => if r.id < s.id then r :: s :: rest else s :: placeRow r rest

/-- Add a row from the values given for some columns, by position: omitted columns take their
defaults, every value takes its column's affinity, and a key column left empty takes the next
free number. The row's number is returned with the table. -/
def insert (t : Table) (given : List (Nat × Value)) : Except Fault (Table × Int) := do
  let chosen (i : Nat) (c : Column) : Value :=
    match given.find? (fun (j, _) => j == i) with
    | some (_, v) => v.storeAs c.affinity
    | none => c.default.storeAs c.affinity
  let cells := t.columns.mapIdx chosen
  let keyAt := t.columns.findIdx? Column.key
  let id ← match keyAt with
    | none => pure t.nextId
    | some k =>
      match cells.getD k .null with
      | .null => pure t.nextId
      | .int n =>
        if t.rows.any (fun r => r.id == n) then
          .error (.unique t.name ((t.columns.getD k default).name))
        else pure n
      | _ => .error .mismatch
  let cells := match keyAt with
    | some k => cells.set k (.int id)
    | none => cells
  match t.nullFault cells with
  | some f => .error f
  | none => .ok ({ t with rows := placeRow ⟨id, cells⟩ t.rows }, id)

/-- Add a row from values for the named columns; the names are checked before the count of
values. -/
def insertNamed (t : Table) (names : List String) (values : List Value) :
    Except Fault (Table × Int) := do
  let idx ← names.mapM fun n =>
    match t.columnIndex? n with
    | some i => .ok i
    | none => .error (.noColumnNamed t.name n)
  if names.length != values.length then .error (.valueCount values.length names.length)
  t.insert (idx.zip values)

/-- Add a row from one value per column, in column order. -/
def insertAll (t : Table) (values : List Value) : Except Fault (Table × Int) :=
  if values.length != t.columns.length then
    .error (.rowWidth t.name t.columns.length values.length)
  else t.insert ((List.range values.length).zip values)

/-- Set columns of the rows a condition picks, by position; the number of rows picked is
returned with the table. -/
def update (t : Table) (sets : List (Nat × Value)) (pick : Row → Bool) :
    Except Fault (Table × Nat) := do
  let setRow (r : Row) : Row :=
    { r with cells := r.cells.mapIdx fun i v =>
        match sets.find? (fun (j, _) => j == i) with
        | some (_, w) => w.storeAs ((t.columns.getD i default).affinity)
        | none => v }
  let rows ← t.rows.mapM fun r =>
    if pick r then
      let r' := setRow r
      match t.nullFault r'.cells with
      | some f => .error f
      | none => .ok r'
    else .ok r
  return ({ t with rows := rows }, (t.rows.filter pick).length)

/-- Add a column at the end; existing rows take its default. -/
def addColumn (t : Table) (c : Column) : Table :=
  { t with
    columns := t.columns ++ [c]
    rows := t.rows.map fun r => { r with cells := r.cells ++ [c.default.storeAs c.affinity] } }

end Table

namespace Database

/-- The table of a name, if there is one. -/
def table? (db : Database) (name : String) : Option Table :=
  db.tables.find? (fun t => sameName t.name name)

/-- The table of a name, or the fault that there is none. -/
def find (db : Database) (name : String) : Except Fault Table :=
  match db.table? name with
  | some t => .ok t
  | none => .error (.noSuchTable name)

/-- Write a table back under its name, adding it when it is new. -/
def put (db : Database) (t : Table) : Database :=
  if db.tables.any (fun u => sameName u.name t.name) then
    { tables := db.tables.map fun u => if sameName u.name t.name then t else u }
  else { tables := db.tables ++ [t] }

/-- Create a table; one of the same name is a fault unless `ifMissing` asks to keep it. -/
def create (db : Database) (t : Table) (ifMissing : Bool) : Except Fault Database :=
  match db.table? t.name with
  | some _ => if ifMissing then .ok db else .error (.tableExists t.name)
  | none => .ok (db.put t)

/-- A table written back is the table found under its name. -/
theorem find_put (db : Database) (t : Table) : (db.put t).table? t.name = some t := by
  unfold put table?
  by_cases h : db.tables.any (fun u => sameName u.name t.name) = true
  · rw [if_pos h]
    obtain ⟨u, hu, hs⟩ := List.any_eq_true.mp h
    rw [List.find?_map]
    have hfind : (db.tables.find? ((fun u => sameName u.name t.name) ∘
        fun u => if sameName u.name t.name then t else u)).isSome := by
      rw [List.find?_isSome]
      exact ⟨u, hu, by simp [hs]⟩
    obtain ⟨w, hw⟩ := Option.isSome_iff_exists.mp hfind
    rw [hw]
    have := List.find?_some hw
    simp only [Function.comp_apply] at this
    by_cases hw' : sameName w.name t.name = true
    · simp [hw']
    · simp [hw'] at this
  · rw [if_neg h]
    simp only [List.find?_append]
    have hnone : db.tables.find? (fun u => sameName u.name t.name) = none := by
      rw [List.find?_eq_none]
      intro x hx hs
      exact h (List.any_eq_true.mpr ⟨x, hx, hs⟩)
    rw [hnone]
    simp [sameName]

end Database

end LevelCross.Store
