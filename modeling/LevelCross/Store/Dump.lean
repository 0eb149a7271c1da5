import LevelCross.Store.Script
import LevelCross.Number.Float

/-!
# Writing a store as a script

A store is kept between runs of the command line as the script that rebuilds it: one
`CREATE TABLE` per table, its columns with their declared types and constraints, then one
`INSERT` per row giving every column. Names are written in double quotes, texts in single
quotes with quotes doubled, integers in decimal and doubles in their shortest round-trip
digits, the infinities as `1e999` and `-1e999`; so reading the script back with
`Database.runScript` gives the same cells.
-/

namespace LevelCross.Store

open LevelCross.Number

/-- A name in double quotes. -/
def quotedName (s : String) : String := "\"" ++ s.replace "\"" "\"\"" ++ "\""

/-- A value as a literal of the script. -/
def Value.literal : Value → String
  | .null => "NULL"
  | .int n => toString n
  | .real x =>
    if isNaN x then "NULL"
    else if isFinite x then dataText x
    else if x > 0 then "1e999" else "-1e999"
  | .text s => "'" ++ s.replace "'" "''" ++ "'"

/-- A column definition. -/
def Column.definition (c : Column) : String :=
  quotedName c.name ++ (if c.declared.isEmpty then "" else " " ++ c.declared) ++
    (if c.key then " PRIMARY KEY" else "") ++ (if c.notNull then " NOT NULL" else "") ++
    (if c.default.isNull then "" else " DEFAULT " ++ c.default.literal)

/-- The statements that rebuild a table. -/
def Table.script (t : Table) : List String :=
  let names := ", ".intercalate (t.columns.map fun c => quotedName c.name)
  ("CREATE TABLE " ++ quotedName t.name ++ " (" ++
      ", ".intercalate (t.columns.map Column.definition) ++ ");") ::
    t.rows.map fun r =>
      "INSERT INTO " ++ quotedName t.name ++ " (" ++ names ++ ") VALUES (" ++
        ", ".intercalate (r.cells.map Value.literal) ++ ");"

/-- The script that rebuilds a store, one statement a line. -/
def Database.dump (db : Database) : String :=
  String.join ((db.tables.flatMap Table.script).map (· ++ "\n"))

end LevelCross.Store
