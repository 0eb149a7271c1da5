import Mathlib
import LevelCross.Proofs.LevelRows

/-!
# Bringing the schema of a store up to date

`Database.initSchema` creates the tables of the schema that a store lacks, adds the columns
that stores written by older versions lack (`price_levels.active`, `price_levels.confirm_close`
and `signal_history.timestamp`), gives every signal without a time the first nineteen characters
of its creation time, and builds the indexes.

This module states what it does to a store in which each table of the schema is missing or
already has the columns of its definition other than the migrated ones (`Database.Upgradable`):
it reports exactly the migrated columns the store lacked, in order; it keeps every row and every
value, gives the new level columns their defaults and fills the missing signal times; and run a
second time it reports nothing and changes nothing.

The store looks for a migrated column among the names a table lists, compared exactly, while
adding a column refuses a name that the table has in any case. A table that has a migrated
column under its name in another case therefore fails the set-up, and `Upgradable` asks that a
migrated column a table has be named exactly.

* `Database.table?_put_of_sameName`, `Database.table?_put_of_sameName_eq_false`: writing a table
  back makes it the table of its name and leaves the other tables as they were.
* `Table.valueOf_addIfMissing`: a column added to a table holds its default in every row, and
  every other value stays.
* `Table.valueOf_stampRow`: filling the missing times changes the time of the rows without one
  and nothing else.
* `Database.setUpSchema_of_upgradable`: the tables of the store the set-up leaves.
* `initSchema_upgrades`: the set-up of an upgradable store, and its second run.
-/

namespace LevelCross.Store

/-! ### Names -/

theorem sameName_iff {a b : String} : sameName a b = true ↔ a.toLower = b.toLower := by
  simp [sameName]

/-- Names are compared by their characters put in lower case. -/
theorem sameName_iff_toList {a b : String} :
    sameName a b = true ↔ a.toList.map Char.toLower = b.toList.map Char.toLower := by
  rw [sameName, beq_iff_eq, ← String.toList_inj, String.toLower, String.toLower,
    String.toList_map, String.toList_map]

/-- Names whose characters differ in lower case are different names. -/
theorem sameName_eq_false_of_toList {a b : String}
    (h : a.toList.map Char.toLower ≠ b.toList.map Char.toLower) : sameName a b = false :=
  Bool.eq_false_iff.mpr fun hs ↦ h (sameName_iff_toList.mp hs)

theorem sameName_active_confirm : sameName "active" "confirm_close" = false :=
  sameName_eq_false_of_toList (by decide)

theorem sameName_timestamp_created : sameName "timestamp" "created_at" = false :=
  sameName_eq_false_of_toList (by decide)

theorem sameName_comm (a b : String) : sameName a b = sameName b a := by
  rw [Bool.eq_iff_iff, sameName_iff, sameName_iff]
  exact eq_comm

/-- Names the same as one name are the same as each other. -/
theorem sameName_congr {a b : String} (h : sameName a b = true) (c : String) :
    sameName c a = sameName c b := by
  rw [sameName_iff] at h
  simp only [sameName, h]

theorem sameName_congr_left {a b : String} (h : sameName a b = true) (c : String) :
    sameName a c = sameName b c := by
  rw [sameName_comm, sameName_congr h, sameName_comm]

/-! ### Tables of a store -/

namespace Database

theorem sameName_of_table? {db : Database} {n : String} {t : Table} (h : db.table? n = some t) :
    sameName t.name n = true :=
  List.find?_some (p := fun u : Table ↦ sameName u.name n) h

theorem find_of_table? {db : Database} {n : String} {t : Table} (h : db.table? n = some t) :
    db.find n = .ok t := by
  simp [Database.find, h]

/-- Writing a table back makes it the table of every name the same as its own. -/
theorem table?_put_of_sameName (db : Database) {t : Table} {n : String}
    (h : sameName t.name n = true) : (db.put t).table? n = some t := by
  unfold Database.put Database.table?
  split
  · next hany =>
    rw [List.find?_map]
    -- after the write, a table answers to `n` exactly when it was replaced by `t`
    have hp : ((fun u : Table ↦ sameName u.name n) ∘
        fun u ↦ if sameName u.name t.name then t else u) = fun u ↦ sameName u.name t.name := by
      funext u
      simp only [Function.comp_apply]
      by_cases hu : sameName u.name t.name = true
      · simp [hu, h]
      · rw [if_neg hu, ← sameName_congr h]
    rw [hp]
    obtain ⟨w, hw⟩ := Option.isSome_iff_exists.mp (List.find?_isSome.mpr (List.any_eq_true.mp hany))
    simp [hw, List.find?_some hw]
  · next hany =>
    have hnone : db.tables.find? (fun u ↦ sameName u.name n) = none := by
      rw [List.find?_eq_none]
      intro u hu hs
      exact hany (List.any_eq_true.mpr ⟨u, hu, by rwa [sameName_congr h]⟩)
    simp [List.find?_append, hnone, h]

/-- Writing a table back leaves the tables of other names as they were. -/
theorem table?_put_of_sameName_eq_false (db : Database) {t : Table} {n : String}
    (h : sameName t.name n = false) : (db.put t).table? n = db.table? n := by
  unfold Database.put Database.table?
  split
  · rw [List.find?_map]
    -- a table replaced by `t` answered to `n` no more than `t` does
    have hp : ((fun u : Table ↦ sameName u.name n) ∘
        fun u ↦ if sameName u.name t.name then t else u) = fun u ↦ sameName u.name n := by
      funext u
      simp only [Function.comp_apply]
      by_cases hu : sameName u.name t.name = true
      · rw [if_pos hu, h, sameName_congr_left hu, h]
      · simp [hu]
    rw [hp]
    cases hf : db.tables.find? (fun u ↦ sameName u.name n) with
    | none => rfl
    | some w =>
      -- the table found answers to `n`, so it was not replaced
      have hwn : sameName w.name n = true := sameName_of_table? hf
      have hw : sameName w.name t.name = false := by
        rw [sameName_congr_left hwn, sameName_comm]
        exact h
      simp [hw]
  · simp [List.find?_append, h]

/-- Writing back a table of one name leaves the tables of every other name. -/
theorem table?_put_of_sameName_of_ne (db : Database) {t : Table} {n m : String}
    (ht : sameName t.name n = true) (hm : sameName n m = false) :
    (db.put t).table? m = db.table? m :=
  table?_put_of_sameName_eq_false db (by rw [sameName_congr_left ht]; exact hm)

/-- A write replaces the tables of the same name when there are some. -/
theorem put_of_any {db : Database} {t : Table}
    (h : db.tables.any (sameName ·.name t.name) = true) :
    db.put t = ⟨db.tables.map fun u ↦ if sameName u.name t.name then t else u⟩ := by
  simp [Database.put, h]

/-- A write adds the table when there is none of its name. -/
theorem put_of_not_any {db : Database} {t : Table}
    (h : db.tables.any (sameName ·.name t.name) = false) : db.put t = ⟨db.tables ++ [t]⟩ := by
  simp [Database.put, h]

/-- Writing the same table back twice is writing it once: after the first write the tables of
its name are all that table. -/
theorem put_put (db : Database) (t : Table) : (db.put t).put t = db.put t := by
  cases hany : db.tables.any (sameName ·.name t.name) with
  | true =>
    obtain ⟨u, hu, hs⟩ := List.any_eq_true.mp hany
    have hmem : t ∈ db.tables.map fun u ↦ if sameName u.name t.name then t else u :=
      List.mem_map.mpr ⟨u, hu, by simp [hs]⟩
    rw [put_of_any hany, put_of_any (List.any_eq_true.mpr ⟨t, hmem, sameName_self _⟩)]
    simp only [List.map_map, Database.mk.injEq]
    refine List.map_congr_left fun w _ ↦ ?_
    by_cases hw : sameName w.name t.name = true <;> simp [hw]
  | false =>
    rw [put_of_not_any hany, put_of_any (by simp)]
    simp only [List.map_append, List.map_cons, sameName_self, if_true, List.map_nil,
      Database.mk.injEq, List.append_cancel_right_eq]
    refine (List.map_congr_left fun w hw ↦ ?_).trans (List.map_id _)
    simp [Bool.eq_false_iff.mpr (List.any_eq_false.mp hany w hw)]

end Database

/-! ### Values of rows -/

namespace Table

/-- The value a row holds in the column of a name, as its table hands it back; nothing when the
table has no column of that name. -/
def valueOf (t : Table) (r : Row) (name : String) : Option Value :=
  (t.columnIndex? name).map (t.cell r)

/-- The column of a name. -/
def column? (t : Table) (name : String) : Option Column :=
  (t.columnIndex? name).bind fun i ↦ t.columns[i]?

/-- Every row holds one cell per column. -/
def Rectangular (t : Table) : Prop := ∀ r ∈ t.rows, r.cells.length = t.columns.length

theorem columnIndex?_congr (t : Table) {a b : String} (h : sameName a b = true) :
    t.columnIndex? a = t.columnIndex? b := by
  unfold Table.columnIndex?
  congr 1
  funext c
  exact sameName_congr h c.name

theorem lt_of_columnIndex? {t : Table} {n : String} {i : Nat} (h : t.columnIndex? n = some i) :
    i < t.columns.length :=
  (List.findIdx?_eq_some_iff_getElem.mp h).1

theorem sameName_of_columnIndex? {t : Table} {n : String} {i : Nat} (h : t.columnIndex? n = some i)
    {c : Column} (hc : t.columns[i]? = some c) : sameName c.name n = true := by
  obtain ⟨hlt, hp, -⟩ := List.findIdx?_eq_some_iff_getElem.mp h
  rw [List.getElem?_eq_getElem hlt, Option.some.injEq] at hc
  rw [← hc]
  exact hp

/-- The position found for a name holds a column of that name. -/
theorem exists_column_of_columnIndex? {t : Table} {n : String} {i : Nat}
    (h : t.columnIndex? n = some i) : ∃ c, t.columns[i]? = some c ∧ sameName c.name n = true :=
  have hc := List.getElem?_eq_getElem (lt_of_columnIndex? h)
  ⟨_, hc, sameName_of_columnIndex? h hc⟩

theorem isSome_columnIndex?_of_mem {t : Table} {c : Column} (hc : c ∈ t.columns) :
    (t.columnIndex? c.name).isSome := by
  rw [Table.columnIndex?, List.findIdx?_isSome, List.any_eq_true]
  exact ⟨c, hc, sameName_self _⟩

theorem isSome_columnIndex?_of_getElem? {t : Table} {i : Nat} {c : Column}
    (h : t.columns[i]? = some c) : (t.columnIndex? c.name).isSome :=
  isSome_columnIndex?_of_mem (List.mem_of_getElem? h)

/-- Rows of the same columns read alike. -/
@[simp]
theorem valueOf_withRows (t : Table) (R : List Row) (r : Row) (n : String) :
    ({ t with rows := R } : Table).valueOf r n = t.valueOf r n := rfl

/-- A table has a column of a name exactly when a row holds a value there. -/
theorem isSome_valueOf (t : Table) (r : Row) (n : String) :
    (t.valueOf r n).isSome = (t.columnIndex? n).isSome := by
  simp [Table.valueOf]

end Table

/-- The value a column hands back after `v` is written into it. -/
def Column.kept (c : Column) (v : Value) : Value := (v.storeAs c.affinity).loadAs c.affinity

/-! ### Adding a column -/

/-- A row with the cell of a new column added: the column's default, as the column keeps it. -/
def Row.extend (r : Row) (c : Column) : Row :=
  { r with cells := r.cells ++ [c.default.storeAs c.affinity] }

namespace Table

theorem addColumn_rows (t : Table) (c : Column) : (t.addColumn c).rows = t.rows.map (·.extend c) :=
  rfl

theorem columnIndex?_addColumn (t : Table) (c : Column) (n : String) :
    (t.addColumn c).columnIndex? n =
      (t.columnIndex? n).or (if sameName c.name n then some t.columns.length else none) := by
  simp only [Table.columnIndex?, Table.addColumn, List.findIdx?_append, List.findIdx?_cons,
    List.findIdx?_nil]
  cases sameName c.name n <;> simp

/-- An added column holds its default in every row, and every old value stays. -/
theorem valueOf_addColumn {t : Table} {r : Row} (hr : r.cells.length = t.columns.length)
    (c : Column) (n : String) :
    (t.addColumn c).valueOf (r.extend c) n =
      (t.valueOf r n).or (if sameName c.name n then some (c.kept c.default) else none) := by
  unfold Table.valueOf
  rw [columnIndex?_addColumn]
  cases hi : t.columnIndex? n with
  | some i =>
    -- an old column: the same column, and the same cell of the row
    have hlt := lt_of_columnIndex? hi
    simp [Table.cell, Table.addColumn, Row.extend, List.getElem?_append_left hlt,
      List.getD_eq_getElem?_getD, List.getElem?_append_left (hr ▸ hlt)]
  | none =>
    by_cases hs : sameName c.name n = true
    · simp [hs, Table.cell, Table.addColumn, Row.extend, Column.kept, hr,
        List.getD_eq_getElem?_getD]
    · simp [hs]

/-- Add a column unless the table has one of that name, in any case. -/
def addIfMissing (t : Table) (c : Column) : Table :=
  if (t.columnIndex? c.name).isSome then t else t.addColumn c

/-- A row of a table that a column is added to unless it has one of that name. -/
def extendIfMissing (t : Table) (c : Column) (r : Row) : Row :=
  if (t.columnIndex? c.name).isSome then r else r.extend c

theorem addIfMissing_rows (t : Table) (c : Column) :
    (t.addIfMissing c).rows = t.rows.map (t.extendIfMissing c) := by
  unfold addIfMissing extendIfMissing
  split <;> simp [addColumn_rows]

theorem addIfMissing_name (t : Table) (c : Column) : (t.addIfMissing c).name = t.name := by
  unfold addIfMissing
  split <;> rfl

theorem columnIndex?_addIfMissing (t : Table) (c : Column) (n : String) :
    (t.addIfMissing c).columnIndex? n =
      (t.columnIndex? n).or (if sameName c.name n then some t.columns.length else none) := by
  unfold addIfMissing
  split
  · next h =>
    -- a column of the name is there already, so the second choice is never taken
    by_cases hs : sameName c.name n = true
    · rw [← t.columnIndex?_congr hs]
      obtain ⟨i, hi⟩ := Option.isSome_iff_exists.mp h
      simp [hi]
    · simp [hs]
  · exact columnIndex?_addColumn t c n

/-- A column added unless the table has one of that name: in both cases every row holds the
column's default where it had nothing of that name, and every old value stays. -/
theorem valueOf_addIfMissing {t : Table} {r : Row} (hr : r.cells.length = t.columns.length)
    (c : Column) (n : String) :
    (t.addIfMissing c).valueOf (t.extendIfMissing c r) n =
      (t.valueOf r n).or (if sameName c.name n then some (c.kept c.default) else none) := by
  unfold addIfMissing extendIfMissing
  split
  · next h =>
    by_cases hs : sameName c.name n = true
    · -- the row holds a value of that name already
      have : (t.valueOf r n).isSome := by
        rw [isSome_valueOf, ← t.columnIndex?_congr hs]
        exact h
      obtain ⟨v, hv⟩ := Option.isSome_iff_exists.mp this
      simp [hv]
    · simp [hs]
  · exact valueOf_addColumn hr c n

theorem Rectangular.addIfMissing {t : Table} (ht : t.Rectangular) (c : Column) :
    (t.addIfMissing c).Rectangular := by
  unfold Table.addIfMissing
  split
  · exact ht
  · intro r hr
    obtain ⟨r₀, hr₀, rfl⟩ := List.mem_map.mp hr
    simp [Table.addColumn, ht r₀ hr₀]

theorem extendIfMissing_id (t : Table) (c : Column) (r : Row) :
    (t.extendIfMissing c r).id = r.id := by
  unfold extendIfMissing
  split <;> rfl

theorem length_extendIfMissing {t : Table} {r : Row} (hr : r.cells.length = t.columns.length)
    (c : Column) : (t.extendIfMissing c r).cells.length = (t.addIfMissing c).columns.length := by
  unfold extendIfMissing addIfMissing
  split
  · exact hr
  · simp [Row.extend, Table.addColumn, hr]

end Table

/-! ### The migrations -/

/-- The column the first migration adds, `price_levels.active`. -/
def activeColumn : Column := (migrations.get ⟨0, by decide⟩).2

/-- The column the second migration adds, `price_levels.confirm_close`. -/
def confirmColumn : Column := (migrations.get ⟨1, by decide⟩).2

/-- The column the third migration adds, `signal_history.timestamp`. -/
def timestampColumn : Column := (migrations.get ⟨2, by decide⟩).2

@[simp] theorem activeColumn_name : activeColumn.name = "active" := rfl

@[simp] theorem confirmColumn_name : confirmColumn.name = "confirm_close" := rfl

@[simp] theorem timestampColumn_name : timestampColumn.name = "timestamp" := rfl

theorem migrations_eq : migrations =
    [("price_levels", activeColumn), ("price_levels", confirmColumn),
      ("signal_history", timestampColumn)] := rfl

/-- A table has a column of a name, in any case, only under that exact name. -/
def Table.NamesExactly (t : Table) (name : String) : Prop :=
  ∀ c ∈ t.columns, sameName c.name name = true → c.name = name

/-- Adding a column keeps a name exact when the column has it exactly or not at all. -/
theorem Table.NamesExactly.addIfMissing {t : Table} {n : String} (h : t.NamesExactly n)
    (c : Column) (hc : sameName c.name n = true → c.name = n) :
    (t.addIfMissing c).NamesExactly n := by
  unfold Table.addIfMissing
  split
  · exact h
  · intro d hd hs
    rcases List.mem_append.mp hd with hd | hd
    · exact h d hd hs
    · rw [List.mem_singleton.mp hd] at hs ⊢
      exact hc hs

namespace Database

/-- A migration adds the column when the table has none of its name and does nothing when it
has one; a column of the name in another case is what `NamesExactly` leaves out. -/
theorem migrate_eq {db : Database} {n : String} {t : Table} (hdb : db.table? n = some t)
    (c : Column) (hx : t.NamesExactly c.name) :
    db.migrate n c = .ok (if (t.columnIndex? c.name).isSome then (db, false)
      else (db.put (t.addColumn c), true)) := by
  unfold Database.migrate
  rw [find_of_table? hdb]
  by_cases hany : t.columns.any (·.name == c.name) = true
  · obtain ⟨d, hd, hdn⟩ := List.any_eq_true.mp hany
    have hsome : (t.columnIndex? c.name).isSome :=
      beq_iff_eq.mp hdn ▸ Table.isSome_columnIndex?_of_mem hd
    simp only [bind, Except.bind, pure, Except.pure]
    rw [if_pos hany, if_pos hsome]
  · cases hi : t.columnIndex? c.name with
    | none =>
      simp only [bind, Except.bind, pure, Except.pure]
      rw [if_neg hany, hi]
      rfl
    | some i =>
      -- the column found has the name in some case, so it has it exactly
      exfalso
      obtain ⟨d, hd, hdn⟩ := Table.exists_column_of_columnIndex? hi
      have hmem := List.mem_of_getElem? hd
      exact hany (List.any_eq_true.mpr ⟨d, hmem, by simp [hx d hmem hdn]⟩)

/-- What a migration does to the tables: the table of its name gets the column unless it has
one of that name, and the other tables stay. It reports whether it added the column. -/
theorem migrate_view {db : Database} {n : String} {t : Table} (hdb : db.table? n = some t)
    (c : Column) (hx : t.NamesExactly c.name) :
    ∃ db', db.migrate n c = .ok (db', !(t.columnIndex? c.name).isSome) ∧
      db'.table? n = some (t.addIfMissing c) ∧
      ∀ m, sameName n m = false → db'.table? m = db.table? m := by
  rw [migrate_eq hdb c hx]
  by_cases h : (t.columnIndex? c.name).isSome = true
  · exact ⟨db, by simp [h], by simp [Table.addIfMissing, h, hdb], fun _ _ ↦ rfl⟩
  · have hname : sameName (t.addColumn c).name n = true :=
      (sameName_of_table? hdb : sameName t.name n = true)
    refine ⟨db.put (t.addColumn c), by simp [h], ?_, fun m hm ↦ ?_⟩
    · simp only [Table.addIfMissing, h]
      exact table?_put_of_sameName db hname
    · exact table?_put_of_sameName_of_ne db hname hm

/-- The migrated columns a store lacks, as `table.column` in the order of the migrations. A
missing table lacks none: it is created whole. -/
def missingColumns (db : Database) : List String :=
  migrations.filterMap fun m ↦
    match db.table? m.1 with
    | some t => if (t.columnIndex? m.2.name).isSome then none else some (m.1 ++ "." ++ m.2.name)
    | none => none

/-- The three migrations, when both tables are there: each table gets the columns it lacks, the
other tables stay, and the columns added are those the store lacked. -/
theorem migrateAll_view {db : Database} {tl ts : Table} (hl : db.table? "price_levels" = some tl)
    (hs : db.table? "signal_history" = some ts) (hxa : tl.NamesExactly "active")
    (hxc : tl.NamesExactly "confirm_close") (hxt : ts.NamesExactly "timestamp") :
    ∃ db', migrateAll migrations db [] = (db', .ok db.missingColumns) ∧
      db'.table? "price_levels" =
        some ((tl.addIfMissing activeColumn).addIfMissing confirmColumn) ∧
      db'.table? "signal_history" = some (ts.addIfMissing timestampColumn) ∧
      ∀ n, sameName "price_levels" n = false → sameName "signal_history" n = false →
        db'.table? n = db.table? n := by
  have hac := sameName_active_confirm
  obtain ⟨db₁, h₁, hl₁, ho₁⟩ := migrate_view hl activeColumn hxa
  obtain ⟨db₂, h₂, hl₂, ho₂⟩ := migrate_view hl₁ confirmColumn
    (hxc.addIfMissing activeColumn fun h ↦ absurd h (by rw [activeColumn_name, hac]; decide))
  have hs₂ : db₂.table? "signal_history" = some ts := by
    rw [ho₂ _ sameName_levels_signals, ho₁ _ sameName_levels_signals, hs]
  obtain ⟨db₃, h₃, hs₃, ho₃⟩ := migrate_view hs₂ timestampColumn hxt
  refine ⟨db₃, ?_, by rw [ho₃ _ sameName_signals_levels, hl₂], hs₃,
    fun n hn₁ hn₂ ↦ by rw [ho₃ n hn₂, ho₂ n hn₁, ho₁ n hn₁]⟩
  -- the second check looks at the levels table after the first, which adds no `confirm_close`
  have hcc : (tl.addIfMissing activeColumn).columnIndex? "confirm_close" =
      tl.columnIndex? "confirm_close" := by
    rw [Table.columnIndex?_addIfMissing, activeColumn_name, hac]
    simp
  simp only [migrations_eq, migrateAll, h₁, h₂, h₃, missingColumns, List.filterMap_cons,
    List.filterMap_nil, hl, hs, activeColumn_name, confirmColumn_name, timestampColumn_name, hcc]
  by_cases ha : (tl.columnIndex? "active").isSome <;>
    by_cases hc : (tl.columnIndex? "confirm_close").isSome <;>
    by_cases ht : (ts.columnIndex? "timestamp").isSome <;> simp [ha, hc, ht]

end Database

/-! ### Filling the missing times -/

namespace Table

theorem addIfMissing_columns (t : Table) (c : Column) :
    (t.addIfMissing c).columns =
      t.columns ++ if (t.columnIndex? c.name).isSome then [] else [c] := by
  by_cases h : (t.columnIndex? c.name).isSome <;> simp [addIfMissing, addColumn, h]

theorem isSome_columnIndex?_addIfMissing (t : Table) (c : Column) (n : String) :
    ((t.addIfMissing c).columnIndex? n).isSome =
      ((t.columnIndex? n).isSome || sameName c.name n) := by
  rw [columnIndex?_addIfMissing]
  cases t.columnIndex? n <;> cases sameName c.name n <;> rfl

/-- The column of a name after a column is added unless there is one of that name. -/
theorem column?_addIfMissing (t : Table) (c : Column) (n : String) :
    (t.addIfMissing c).column? n =
      (t.column? n).or (if sameName c.name n then some c else none) := by
  unfold column?
  rw [columnIndex?_addIfMissing, addIfMissing_columns]
  cases hi : t.columnIndex? n with
  | some i =>
    have hlt := lt_of_columnIndex? hi
    simp [List.getElem?_append_left hlt, List.getElem?_eq_getElem hlt]
  | none =>
    by_cases hs : sameName c.name n = true
    · -- no column of that name, so the column is added at the end
      have hc : (t.columnIndex? c.name).isSome = false := by rw [t.columnIndex?_congr hs, hi]; rfl
      simp [hs, hc]
    · simp [hs]

/-- Positions of two names that no column shares differ. -/
theorem columnIndex?_ne {t : Table} {a b : String} {i j : Nat} (hi : t.columnIndex? a = some i)
    (hj : t.columnIndex? b = some j) (hab : sameName a b = false) : i ≠ j := by
  rintro rfl
  obtain ⟨c, hc, hca⟩ := exists_column_of_columnIndex? hi
  have hb := sameName_of_columnIndex? hj hc
  rw [sameName_congr_left hca, hab] at hb
  exact Bool.false_ne_true hb

/-- The time a row without one is given: the leading part of its creation time, as the time
column keeps it; the time and the creation time are the cells `ts` and `created`. -/
def stampOf (t : Table) (ts created : Nat) (r : Row) : Value :=
  (leadingStamp (t.cell r created)).storeAs (t.columns.getD ts default).affinity

/-- A row given its time when it has none. -/
def stampRow (t : Table) (ts created : Nat) (r : Row) : Row :=
  if (t.cell r ts).isNull then { r with cells := r.cells.set ts (t.stampOf ts created r) } else r

/-- The table with the missing times filled, when it has a time and a creation time. -/
def stampTimes (t : Table) : Table :=
  match t.columnIndex? "timestamp", t.columnIndex? "created_at" with
  | some i, some j => { t with rows := t.rows.map (t.stampRow i j) }
  | _, _ => t

theorem stampTimes_columns (t : Table) : t.stampTimes.columns = t.columns := by
  unfold stampTimes
  split <;> rfl

theorem stampTimes_eq {t : Table} {i j : Nat} (hi : t.columnIndex? "timestamp" = some i)
    (hj : t.columnIndex? "created_at" = some j) :
    t.stampTimes = { t with rows := t.rows.map (t.stampRow i j) } := by
  simp only [stampTimes, hi, hj]

/-- Rows of the same columns are given their times alike. -/
@[simp]
theorem stampRow_withRows (t : Table) (R : List Row) :
    ({ t with rows := R } : Table).stampRow = t.stampRow := rfl

theorem stampTimes_name (t : Table) : t.stampTimes.name = t.name := by
  unfold stampTimes
  split <;> rfl

theorem columnIndex?_stampTimes (t : Table) (n : String) :
    t.stampTimes.columnIndex? n = t.columnIndex? n := by
  simp only [columnIndex?, stampTimes_columns]

theorem stampRow_id (t : Table) (i j : Nat) (r : Row) : (t.stampRow i j r).id = r.id := by
  unfold stampRow
  split <;> rfl

theorem length_stampRow (t : Table) (i j : Nat) (r : Row) :
    (t.stampRow i j r).cells.length = r.cells.length := by
  unfold stampRow
  split <;> simp

theorem cell_set_of_ne (t : Table) (r : Row) {i j : Nat} (h : i ≠ j) (v : Value) :
    t.cell { r with cells := r.cells.set i v } j = t.cell r j := by
  simp [cell, List.getD_eq_getElem?_getD, List.getElem?_set_ne h]

/-- Filling the times twice fills them once: a row given a time keeps it, and a row whose
creation time gives it none is given none again. -/
theorem stampRow_stampRow (t : Table) {i j : Nat} (hij : i ≠ j) (r : Row) :
    t.stampRow i j (t.stampRow i j r) = t.stampRow i j r := by
  by_cases h : (t.cell r i).isNull = true
  · have hr : t.stampRow i j r = { r with cells := r.cells.set i (t.stampOf i j r) } := if_pos h
    rw [hr]
    unfold stampRow
    split
    · -- the creation time is another cell, so the time given again is the same
      simp only [stampOf, cell_set_of_ne t r hij, List.set_set]
    · rfl
  · have hr : t.stampRow i j r = r := if_neg h
    rw [hr, hr]

theorem stampTimes_stampTimes (t : Table) : t.stampTimes.stampTimes = t.stampTimes := by
  cases hi : t.columnIndex? "timestamp" with
  | none => simp only [stampTimes, hi]
  | some i =>
    cases hj : t.columnIndex? "created_at" with
    | none => simp only [stampTimes, hi, hj]
    | some j =>
      have hij : i ≠ j := columnIndex?_ne hi hj sameName_timestamp_created
      have hidem : t.stampRow i j ∘ t.stampRow i j = t.stampRow i j :=
        funext (stampRow_stampRow t hij)
      have hi' : ({ t with rows := t.rows.map (t.stampRow i j) } : Table).columnIndex? "timestamp" =
        some i := hi
      have hj' :
          ({ t with rows := t.rows.map (t.stampRow i j) } : Table).columnIndex? "created_at" =
            some j := hj
      rw [stampTimes_eq hi hj, stampTimes_eq hi' hj']
      simp only [stampRow_withRows, List.map_map, hidem]

/-- Filling the times changes the time of a row without one, to the leading part of its creation
time as the time column keeps it, and nothing else. -/
theorem valueOf_stampRow {t : Table} {r : Row} (hr : r.cells.length = t.columns.length) {i j : Nat}
    (hi : t.columnIndex? "timestamp" = some i) (hj : t.columnIndex? "created_at" = some j)
    (n : String) :
    t.valueOf (t.stampRow i j r) n =
      if sameName n "timestamp" && (t.valueOf r "timestamp").all Value.isNull then
        (t.column? n).map (·.kept (leadingStamp ((t.valueOf r "created_at").getD .null)))
      else t.valueOf r n := by
  have hlt := lt_of_columnIndex? hi
  have hc : t.columns[i]? = some t.columns[i] := List.getElem?_eq_getElem hlt
  have hts : t.valueOf r "timestamp" = some (t.cell r i) := by simp [valueOf, hi]
  have hcr : t.valueOf r "created_at" = some (t.cell r j) := by simp [valueOf, hj]
  rw [hts, hcr]
  by_cases hnull : (t.cell r i).isNull = true
  · have hrow : t.stampRow i j r = { r with cells := r.cells.set i (t.stampOf i j r) } :=
      if_pos hnull
    rw [hrow]
    by_cases hs : sameName n "timestamp" = true
    · -- the time column: the time given, as the column keeps it
      simp only [hs, Option.all_some, hnull, Bool.and_self, if_true]
      simp [valueOf, column?, t.columnIndex?_congr hs, hi, hc, cell, stampOf, Column.kept,
        List.getD_eq_getElem?_getD, hr ▸ hlt]
    · -- another column: another cell
      simp only [hs, Bool.false_and, Bool.false_eq_true, if_false]
      unfold valueOf
      cases hk : t.columnIndex? n with
      | none => rfl
      | some k =>
        have hik : i ≠ k := columnIndex?_ne hi hk (by rw [sameName_comm]; simpa using hs)
        simp [cell_set_of_ne t r hik]
  · have hrow : t.stampRow i j r = r := if_neg hnull
    simp [hrow, hnull]

end Table

namespace Database

theorem fillStamps_eq {db : Database} {t : Table} (hdb : db.table? "signal_history" = some t)
    (hi : (t.columnIndex? "timestamp").isSome) (hj : (t.columnIndex? "created_at").isSome) :
    db.fillStamps = .ok (db.put t.stampTimes) := by
  obtain ⟨i, hi⟩ := Option.isSome_iff_exists.mp hi
  obtain ⟨j, hj⟩ := Option.isSome_iff_exists.mp hj
  simp only [Database.fillStamps, find_of_table? hdb, Table.require, hi, hj, bind, Except.bind,
    pure, Except.pure, Table.stampTimes]
  rfl

end Database

/-! ### What the set-up asks of a store and what it makes of it -/

/-- The migrated columns of the table of a name, in the order of the migrations. -/
def migratedColumns (name : String) : List Column :=
  (migrations.filter (·.1 == name)).map (·.2)

theorem migratedColumns_levels :
    migratedColumns "price_levels" = [activeColumn, confirmColumn] := by
  simp [migratedColumns, migrations_eq]

theorem migratedColumns_signals : migratedColumns "signal_history" = [timestampColumn] := by
  simp [migratedColumns, migrations_eq]

namespace Table

/-- The columns of a table of the schema that no migration adds: those every store written by an
older version has. -/
def baseColumns (d : Table) : List String :=
  (d.columns.map (·.name)).filter fun n ↦ !(migratedColumns d.name).any (·.name == n)

/-- A table of the schema has each of its columns. -/
theorem isSome_columnIndex?_of_mem_baseColumns (d : Table) :
    ∀ n ∈ d.baseColumns, (d.columnIndex? n).isSome := by
  intro n hn
  obtain ⟨c, hc, rfl⟩ := List.mem_map.mp (List.mem_filter.mp hn).1
  exact isSome_columnIndex?_of_mem hc

/-- A table that can be brought up to date as the table `d` of the schema: it has every column of
`d` that no migration adds, every row holds one cell per column, and a column migrated into `d`
that it has is named exactly. -/
structure UpgradableTo (t d : Table) : Prop where
  base : ∀ n ∈ d.baseColumns, (t.columnIndex? n).isSome
  rectangular : t.Rectangular
  exactNames : ∀ c ∈ migratedColumns d.name, t.NamesExactly c.name

/-- `t'` is `t` brought up to date as the table `name` of the schema: the migrated columns of
`name` that `t` lacks are appended to its columns, and its rows are kept in order, each with its
number and reading in every column what `value` gives of the old row. -/
structure UpgradedTo (name : String) (value : Table → Row → String → Option Value)
    (t t' : Table) : Prop where
  columns : t'.columns =
    t.columns ++ (migratedColumns name).filter fun c ↦ !(t.columnIndex? c.name).isSome
  rows : List.Forall₂ (fun r r' ↦ r'.id = r.id ∧ ∀ n, t'.valueOf r' n = value t r n) t.rows t'.rows

end Table

/-- What a level row reads in a column it lacked: the defaults of the migrated columns,
`active = 1` and `confirm_close = 0`. -/
def levelDefault (n : String) : Option Value :=
  if sameName n "active" then some (.int 1)
  else if sameName n "confirm_close" then some (.int 0) else none

/-- What a kept level row reads: what it read, or the default of a migrated column it lacked. -/
def levelValue (t : Table) (r : Row) (n : String) : Option Value :=
  (t.valueOf r n).or (levelDefault n)

/-- What a kept signal row reads: what it read, but for a time that it lacked or that held
nothing, which is the leading part of its creation time as the time column keeps it. -/
def signalValue (t : Table) (r : Row) (n : String) : Option Value :=
  if sameName n "timestamp" && (t.valueOf r "timestamp").all Value.isNull then
    some (((t.column? "timestamp").getD timestampColumn).kept
      (leadingStamp ((t.valueOf r "created_at").getD .null)))
  else t.valueOf r n

namespace Database

/-- A store whose schema can be brought up to date: each table of the schema is missing or can be
brought up to date. -/
structure Upgradable (db : Database) : Prop where
  levels : ∀ t, db.table? "price_levels" = some t → t.UpgradableTo levelTable
  signals : ∀ t, db.table? "signal_history" = some t → t.UpgradableTo signalTable

/-- `db'` is `db` brought up to date: the levels table, the one there was or a new empty one, has
the migrated columns it lacked, which read their defaults in its old rows; the signals table has
its time column, and a row without a time is given the leading part of its creation time; every
other table is as it was. -/
structure UpgradedTo (db db' : Database) : Prop where
  levels : ∃ t', db'.table? "price_levels" = some t' ∧
    ((db.table? "price_levels").getD levelTable).UpgradedTo "price_levels" levelValue t'
  signals : ∃ t', db'.table? "signal_history" = some t' ∧
    ((db.table? "signal_history").getD signalTable).UpgradedTo "signal_history" signalValue t'
  others : ∀ n, sameName "price_levels" n = false → sameName "signal_history" n = false →
    db'.table? n = db.table? n

end Database

/-! ### The tables brought up to date -/

theorem kept_active : activeColumn.kept activeColumn.default = .int 1 := rfl

theorem kept_confirm : confirmColumn.kept confirmColumn.default = .int 0 := rfl

theorem kept_timestamp : timestampColumn.kept timestampColumn.default = .null := rfl

/-- Migrated columns whose names agree in case are named alike. -/
theorem name_eq_of_migrated {name : String} {c c' : Column} (hc : c ∈ migratedColumns name)
    (hc' : c' ∈ migratedColumns name) (h : sameName c.name c'.name = true) : c.name = c'.name := by
  have hall : ∀ c ∈ migrations.map (·.2), ∀ c' ∈ migrations.map (·.2),
      sameName c.name c'.name = true → c.name = c'.name := by
    simp only [sameName_iff_toList]
    decide
  have hsub : migratedColumns name ⊆ migrations.map (·.2) :=
    List.map_subset _ List.filter_sublist.subset
  exact hall c (hsub hc) c' (hsub hc') h

namespace Table

theorem valueOf_congr (t : Table) (r : Row) {a b : String} (h : sameName a b = true) :
    t.valueOf r a = t.valueOf r b := by
  rw [valueOf, valueOf, t.columnIndex?_congr h]

theorem column?_congr (t : Table) {a b : String} (h : sameName a b = true) :
    t.column? a = t.column? b := by
  rw [column?, column?, t.columnIndex?_congr h]

theorem UpgradableTo.addIfMissing {t d : Table} (ht : t.UpgradableTo d) {c : Column}
    (hc : c ∈ migratedColumns d.name) : (t.addIfMissing c).UpgradableTo d where
  base n hn := by rw [isSome_columnIndex?_addIfMissing, ht.base n hn, Bool.true_or]
  rectangular := ht.rectangular.addIfMissing c
  exactNames c' hc' := (ht.exactNames c' hc').addIfMissing c (name_eq_of_migrated hc hc')

theorem Rectangular.stampTimes {t : Table} (ht : t.Rectangular) : t.stampTimes.Rectangular := by
  unfold Table.stampTimes
  split
  · intro r hr
    obtain ⟨r₀, hr₀, rfl⟩ := List.mem_map.mp hr
    rw [length_stampRow]
    exact ht r₀ hr₀
  · exact ht

theorem UpgradableTo.stampTimes {t d : Table} (ht : t.UpgradableTo d) :
    t.stampTimes.UpgradableTo d where
  base n hn := by rw [columnIndex?_stampTimes]; exact ht.base n hn
  rectangular := ht.rectangular.stampTimes
  exactNames c hc := by unfold NamesExactly; rw [stampTimes_columns]; exact ht.exactNames c hc

/-- The levels table brought up to date: each migrated column added unless it is there, reading
its default in the old rows. -/
theorem UpgradableTo.upgradedTo_levels {t : Table} (ht : t.UpgradableTo levelTable) :
    t.UpgradedTo "price_levels" levelValue
      ((t.addIfMissing activeColumn).addIfMissing confirmColumn) := by
  have hac := sameName_active_confirm
  have hcc : ((t.addIfMissing activeColumn).columnIndex? "confirm_close").isSome =
      (t.columnIndex? "confirm_close").isSome := by
    rw [isSome_columnIndex?_addIfMissing, activeColumn_name, hac, Bool.or_false]
  constructor
  · rw [addIfMissing_columns, addIfMissing_columns, confirmColumn_name, hcc,
      migratedColumns_levels]
    simp only [List.filter_cons, List.filter_nil, activeColumn_name, confirmColumn_name]
    rcases Bool.eq_false_or_eq_true (t.columnIndex? "active").isSome with ha | ha <;>
      rcases Bool.eq_false_or_eq_true (t.columnIndex? "confirm_close").isSome with hc | hc <;>
      simp [ha, hc]
  · rw [addIfMissing_rows, addIfMissing_rows, List.map_map, List.forall₂_map_right_iff,
      List.forall₂_same]
    intro r hr
    have hr' := ht.rectangular r hr
    refine ⟨by simp [extendIfMissing_id], fun n ↦ ?_⟩
    rw [Function.comp_apply, valueOf_addIfMissing (length_extendIfMissing hr' _),
      valueOf_addIfMissing hr', Option.or_assoc, kept_active, kept_confirm, levelValue,
      levelDefault, activeColumn_name, confirmColumn_name, sameName_comm "active",
      sameName_comm "confirm_close"]
    cases sameName n "active" <;> cases sameName n "confirm_close" <;> rfl

/-- A time column added to a table holds nothing, so its rows read as they did. -/
theorem signalValue_addIfMissing {t : Table} {r : Row} (hr : r.cells.length = t.columns.length)
    (n : String) :
    signalValue (t.addIfMissing timestampColumn) (t.extendIfMissing timestampColumn r) n =
      signalValue t r n := by
  have htc := sameName_timestamp_created
  have hall : ∀ o : Option Value, (o.or (some .null)).all Value.isNull = o.all Value.isNull := by
    intro o; cases o <;> rfl
  have hget : ∀ o : Option Column, (o.or (some timestampColumn)).getD timestampColumn =
      o.getD timestampColumn := by
    intro o; cases o <;> rfl
  unfold signalValue
  simp only [valueOf_addIfMissing hr, column?_addIfMissing, timestampColumn_name, sameName_self,
    htc, kept_timestamp, Bool.false_eq_true, reduceIte, Option.or_none, hall, hget]
  by_cases hs : sameName n "timestamp" = true
  · -- the time itself: a row whose time holds something has it under that name already
    have hs' : sameName "timestamp" n = true := by rw [sameName_comm]; exact hs
    rw [t.valueOf_congr r hs]
    cases t.valueOf r "timestamp" <;> simp [hs, hs']
  · have hs' : sameName "timestamp" n = false := by rw [sameName_comm]; simpa using hs
    simp [hs, hs']

/-- Filling the times of a table that has a time column gives each row what `signalValue` says. -/
theorem valueOf_stampRow_eq_signalValue {t : Table} {r : Row}
    (hr : r.cells.length = t.columns.length) {i j : Nat} (hi : t.columnIndex? "timestamp" = some i)
    (hj : t.columnIndex? "created_at" = some j) (n : String) :
    t.valueOf (t.stampRow i j r) n = signalValue t r n := by
  rw [valueOf_stampRow hr hi hj, signalValue]
  split_ifs with hc
  · have hs : sameName n "timestamp" = true := (Bool.and_eq_true _ _ ▸ hc).1
    have hlt := lt_of_columnIndex? hi
    have hcol : t.column? "timestamp" = some t.columns[i] := by
      simp [column?, hi, List.getElem?_eq_getElem hlt]
    simp [t.column?_congr hs, hcol]
  · rfl

/-- The signals table brought up to date: a time column added unless it is there, and every row
without a time given the leading part of its creation time. -/
theorem UpgradableTo.upgradedTo_signals {t : Table} (ht : t.UpgradableTo signalTable) :
    t.UpgradedTo "signal_history" signalValue (t.addIfMissing timestampColumn).stampTimes := by
  have hi : ((t.addIfMissing timestampColumn).columnIndex? "timestamp").isSome := by
    rw [isSome_columnIndex?_addIfMissing, timestampColumn_name, sameName_self, Bool.or_true]
  have hj : ((t.addIfMissing timestampColumn).columnIndex? "created_at").isSome := by
    rw [isSome_columnIndex?_addIfMissing, ht.base "created_at" (by decide), Bool.true_or]
  obtain ⟨i, hi⟩ := Option.isSome_iff_exists.mp hi
  obtain ⟨j, hj⟩ := Option.isSome_iff_exists.mp hj
  rw [stampTimes_eq hi hj]
  constructor
  · show (t.addIfMissing timestampColumn).columns = _
    rw [addIfMissing_columns, migratedColumns_signals]
    simp only [List.filter_cons, List.filter_nil, timestampColumn_name]
    rcases Bool.eq_false_or_eq_true (t.columnIndex? "timestamp").isSome with h | h <;> simp [h]
  · rw [addIfMissing_rows, List.map_map, List.forall₂_map_right_iff, List.forall₂_same]
    intro r hr
    have hr' := ht.rectangular r hr
    refine ⟨by simp [stampRow_id, extendIfMissing_id], fun n ↦ ?_⟩
    rw [valueOf_withRows, Function.comp_apply,
      valueOf_stampRow_eq_signalValue (length_extendIfMissing hr' _) hi hj,
      signalValue_addIfMissing hr']

end Table

/-! ### The set-up, stage by stage -/

theorem levelTable_name : levelTable.name = "price_levels" := rfl

theorem signalTable_name : signalTable.name = "signal_history" := rfl

theorem activeColumn_mem_migratedColumns : activeColumn ∈ migratedColumns levelTable.name := by
  simp [levelTable_name, migratedColumns_levels]

theorem confirmColumn_mem_migratedColumns : confirmColumn ∈ migratedColumns levelTable.name := by
  simp [levelTable_name, migratedColumns_levels]

theorem timestampColumn_mem_migratedColumns :
    timestampColumn ∈ migratedColumns signalTable.name := by
  simp [signalTable_name, migratedColumns_signals]

/-- The tables of the schema can be brought up to date as themselves. -/
theorem levelTable_upgradableTo : levelTable.UpgradableTo levelTable where
  base := levelTable.isSome_columnIndex?_of_mem_baseColumns
  rectangular _ hr := absurd hr List.not_mem_nil
  exactNames := by
    simp only [Table.NamesExactly, sameName_iff_toList]
    decide

theorem signalTable_upgradableTo : signalTable.UpgradableTo signalTable where
  base := signalTable.isSome_columnIndex?_of_mem_baseColumns
  rectangular _ hr := absurd hr List.not_mem_nil
  exactNames := by
    simp only [Table.NamesExactly, sameName_iff_toList]
    decide

namespace Database

/-- The levels table of a store once its columns are migrated: the one it has, or the table of
the schema, with each migrated column added unless it has one of that name. -/
def migratedLevels (db : Database) : Table :=
  (((db.table? "price_levels").getD levelTable).addIfMissing activeColumn).addIfMissing
    confirmColumn

/-- The signals table of a store once its columns are migrated. -/
def migratedSignals (db : Database) : Table :=
  ((db.table? "signal_history").getD signalTable).addIfMissing timestampColumn

/-- The table a store has under the name of a table of the schema, or that table when it has
none, can be brought up to date when the table the store has can be. -/
theorem upgradableTo_getD {db : Database} {d : Table} (hd : d.UpgradableTo d)
    (h : ∀ t, db.table? d.name = some t → t.UpgradableTo d) :
    ((db.table? d.name).getD d).UpgradableTo d := by
  cases ht : db.table? d.name with
  | some t => exact h t ht
  | none => exact hd

theorem Upgradable.levels_getD {db : Database} (h : db.Upgradable) :
    ((db.table? "price_levels").getD levelTable).UpgradableTo levelTable :=
  upgradableTo_getD levelTable_upgradableTo h.levels

theorem Upgradable.signals_getD {db : Database} (h : db.Upgradable) :
    ((db.table? "signal_history").getD signalTable).UpgradableTo signalTable :=
  upgradableTo_getD signalTable_upgradableTo h.signals

/-- The table a store has under the name of a table of the schema, or that table, has that
name. -/
theorem sameName_getD (db : Database) (d : Table) :
    sameName ((db.table? d.name).getD d).name d.name = true := by
  cases h : db.table? d.name with
  | some t => exact sameName_of_table? h
  | none => exact sameName_self d.name

/-- Creating a table of the schema unless there is one: the table of its name is the one there
was, or the new one, and the other tables stay. -/
theorem create_view (db : Database) (d : Table) :
    ∃ db', db.create d true = .ok db' ∧ db'.table? d.name = some ((db.table? d.name).getD d) ∧
      ∀ m, sameName d.name m = false → db'.table? m = db.table? m := by
  unfold Database.create
  cases h : db.table? d.name with
  | some t => exact ⟨db, rfl, by rw [h]; rfl, fun _ _ ↦ rfl⟩
  | none =>
    exact ⟨db.put d, rfl, table?_put_of_sameName db (sameName_self d.name),
      fun m hm ↦ table?_put_of_sameName_eq_false db hm⟩

theorem create_of_table? {db : Database} (d : Table) {t : Table} (h : db.table? d.name = some t) :
    db.create d true = .ok db := by
  simp [Database.create, h]

theorem index_eq {db : Database} {n : String} {t : Table} (hdb : db.table? n = some t) {c : String}
    (hc : (t.columnIndex? c).isSome) : db.index n c = .ok () := by
  obtain ⟨k, hk⟩ := Option.isSome_iff_exists.mp hc
  simp [Database.index, find_of_table? hdb, Table.require, hk, bind, Except.bind, pure,
    Except.pure]

/-- The set-up is its stages run one after the other: when each succeeds and the store they
leave has the columns the indexes are built on, the set-up leaves that store and reports the
columns the migrations added. -/
theorem setUpSchema_eq {db db₁ db₂ db₃ db₄ : Database} {added : List String} {tl ts : Table}
    (h₁ : db.create levelTable true = .ok db₁) (h₂ : db₁.create signalTable true = .ok db₂)
    (h₃ : migrateAll migrations db₂ [] = (db₃, .ok added)) (h₄ : db₃.fillStamps = .ok db₄)
    (hl : db₄.table? "price_levels" = some tl) (hs : db₄.table? "signal_history" = some ts)
    (hul : tl.UpgradableTo levelTable) (hus : ts.UpgradableTo signalTable)
    (hts : (ts.columnIndex? "timestamp").isSome) :
    db.setUpSchema = (db₄, .ok added) := by
  simp only [setUpSchema, h₁, h₂, h₃, h₄, indexedColumns, List.forM_eq_forM, List.forM_cons,
    List.forM_nil, index_eq hl (hul.base "pair" (by decide)),
    index_eq hs (hus.base "pair" (by decide)),
    index_eq hs (hus.base "signal_type" (by decide)), index_eq hs hts, bind, Except.bind,
    pure, Except.pure]

/-- A store lacks no migrated column exactly when each table it has of a migration has the
column. -/
theorem missingColumns_eq_nil_iff (db : Database) :
    db.missingColumns = [] ↔
      ∀ m ∈ migrations, ∀ t, db.table? m.1 = some t → (t.columnIndex? m.2.name).isSome := by
  rw [missingColumns, List.filterMap_eq_nil_iff]
  refine forall₂_congr fun m _ ↦ ?_
  cases db.table? m.1 <;> simp [Option.isSome_iff_ne_none]

/-- A store with both tables of the schema lacks no migrated column exactly when the levels table
has `active` and `confirm_close` and the signals table has `timestamp`, in any case. -/
theorem missingColumns_eq_nil {db : Database} {tl ts : Table}
    (hl : db.table? "price_levels" = some tl) (hs : db.table? "signal_history" = some ts) :
    db.missingColumns = [] ↔ (tl.columnIndex? "active").isSome ∧
      (tl.columnIndex? "confirm_close").isSome ∧ (ts.columnIndex? "timestamp").isSome := by
  rw [missingColumns_eq_nil_iff]
  simp only [migrations_eq, List.mem_cons, List.not_mem_nil, or_false, forall_eq_or_imp,
    forall_eq, hl, hs, Option.some.injEq, forall_eq', activeColumn_name, confirmColumn_name,
    timestampColumn_name]

/-- The tables the set-up creates lack no migrated column, so creating them leaves what the store
lacks as it was. -/
theorem missingColumns_getD {db db' : Database}
    (hl : db'.table? "price_levels" = some ((db.table? "price_levels").getD levelTable))
    (hs : db'.table? "signal_history" = some ((db.table? "signal_history").getD signalTable)) :
    db'.missingColumns = db.missingColumns := by
  have hla : (levelTable.columnIndex? "active").isSome :=
    Table.isSome_columnIndex?_of_getElem? (show levelTable.columns[5]? = some _ from rfl)
  have hlc : (levelTable.columnIndex? "confirm_close").isSome :=
    Table.isSome_columnIndex?_of_getElem? (show levelTable.columns[6]? = some _ from rfl)
  have hst : (signalTable.columnIndex? "timestamp").isSome :=
    Table.isSome_columnIndex?_of_getElem? (show signalTable.columns[8]? = some _ from rfl)
  simp only [missingColumns, migrations_eq, List.filterMap_cons, List.filterMap_nil, hl, hs,
    activeColumn_name, confirmColumn_name, timestampColumn_name]
  cases db.table? "price_levels" <;> cases db.table? "signal_history" <;> simp [hla, hlc, hst]

theorem migrate_of_isSome {db : Database} {n : String} {t : Table} (hdb : db.table? n = some t)
    (c : Column) (hx : t.NamesExactly c.name) (h : (t.columnIndex? c.name).isSome) :
    db.migrate n c = .ok (db, false) := by
  rw [migrate_eq hdb c hx, if_pos h]

theorem initSchema_of_setUpSchema {db db' : Database} {added : List String}
    (h : db.setUpSchema = (db', .ok added)) : db.initSchema = .ok (db', added) := by
  rw [initSchema, h]
  rfl

theorem Upgradable.migratedLevels {db : Database} (h : db.Upgradable) :
    db.migratedLevels.UpgradableTo levelTable :=
  (h.levels_getD.addIfMissing activeColumn_mem_migratedColumns).addIfMissing
    confirmColumn_mem_migratedColumns

theorem Upgradable.migratedSignals {db : Database} (h : db.Upgradable) :
    db.migratedSignals.UpgradableTo signalTable :=
  h.signals_getD.addIfMissing timestampColumn_mem_migratedColumns

theorem isSome_timestamp_migratedSignals (db : Database) :
    (db.migratedSignals.columnIndex? "timestamp").isSome := by
  rw [migratedSignals, Table.isSome_columnIndex?_addIfMissing, timestampColumn_name, sameName_self,
    Bool.or_true]

theorem sameName_stampTimes_migratedSignals (db : Database) :
    sameName db.migratedSignals.stampTimes.name "signal_history" = true := by
  rw [Table.stampTimes_name, migratedSignals, Table.addIfMissing_name]
  exact sameName_getD db signalTable

/-- What the set-up does to an upgradable store: it reports the columns the store lacked, and in
the store it leaves the levels table is the migrated one, the signals table the migrated one with
its times filled, which was the last table written, and every other table is as it was. -/
theorem setUpSchema_of_upgradable {db : Database} (h : db.Upgradable) :
    ∃ db' : Database, db.setUpSchema = (db', .ok db.missingColumns) ∧
      db'.table? "price_levels" = some db.migratedLevels ∧
      db'.table? "signal_history" = some db.migratedSignals.stampTimes ∧
      (∀ n, sameName "price_levels" n = false → sameName "signal_history" n = false →
        db'.table? n = db.table? n) ∧
      db'.put db.migratedSignals.stampTimes = db' := by
  obtain ⟨db₁, hc₁, hl₁, ho₁⟩ := create_view db levelTable
  obtain ⟨db₂, hc₂, hs₂, ho₂⟩ := create_view db₁ signalTable
  rw [levelTable_name] at hl₁ ho₁
  rw [signalTable_name] at hs₂ ho₂
  rw [ho₁ _ sameName_levels_signals] at hs₂
  have hl₂ : db₂.table? "price_levels" = some ((db.table? "price_levels").getD levelTable) := by
    rw [ho₂ _ sameName_signals_levels, hl₁]
  obtain ⟨db₃, hm, hl₃, hs₃, ho₃⟩ := migrateAll_view hl₂ hs₂
    (h.levels_getD.exactNames activeColumn activeColumn_mem_migratedColumns)
    (h.levels_getD.exactNames confirmColumn confirmColumn_mem_migratedColumns)
    (h.signals_getD.exactNames timestampColumn timestampColumn_mem_migratedColumns)
  rw [missingColumns_getD hl₂ hs₂] at hm
  have hfill := fillStamps_eq hs₃ db.isSome_timestamp_migratedSignals
    (h.migratedSignals.base "created_at" (by decide))
  -- filling the times writes back the signals table, which is not the levels table
  have hname := db.sameName_stampTimes_migratedSignals
  have hl₄ : (db₃.put db.migratedSignals.stampTimes).table? "price_levels" =
      some db.migratedLevels :=
    (table?_put_of_sameName_of_ne db₃ hname sameName_signals_levels).trans hl₃
  have hs₄ := table?_put_of_sameName db₃ hname
  refine ⟨_, ?_, hl₄, hs₄, fun n h₁ h₂ ↦ ?_, put_put _ _⟩
  · exact setUpSchema_eq hc₁ hc₂ hm hfill hl₄ hs₄ h.migratedLevels h.migratedSignals.stampTimes
      (by rw [Table.columnIndex?_stampTimes]; exact db.isSome_timestamp_migratedSignals)
  · rw [table?_put_of_sameName_of_ne db₃ hname h₂, ho₃ n h₁ h₂, ho₂ n h₂, ho₁ n h₁]

/-- A store that is up to date: both tables of the schema there, lacking no migrated column and
naming each exactly, every time filled, and the signals table the last written. The set-up leaves
it as it is and reports nothing. -/
theorem setUpSchema_of_current {db : Database} {tl ts : Table}
    (hl : db.table? "price_levels" = some tl) (hs : db.table? "signal_history" = some ts)
    (hul : tl.UpgradableTo levelTable) (hus : ts.UpgradableTo signalTable)
    (hm : db.missingColumns = []) (hst : ts.stampTimes = ts) (hput : db.put ts = db) :
    db.setUpSchema = (db, .ok []) := by
  obtain ⟨ha, hc, ht⟩ := (missingColumns_eq_nil hl hs).mp hm
  have hmig : migrateAll migrations db [] = (db, .ok []) := by
    simp only [migrations_eq, migrateAll,
      migrate_of_isSome hl activeColumn
        (hul.exactNames activeColumn activeColumn_mem_migratedColumns) ha,
      migrate_of_isSome hl confirmColumn
        (hul.exactNames confirmColumn confirmColumn_mem_migratedColumns) hc,
      migrate_of_isSome hs timestampColumn
        (hus.exactNames timestampColumn timestampColumn_mem_migratedColumns) ht]
    rfl
  have hfill : db.fillStamps = .ok db := by
    rw [fillStamps_eq hs ht (hus.base "created_at" (by decide)), hst, hput]
  exact setUpSchema_eq (create_of_table? levelTable hl) (create_of_table? signalTable hs) hmig hfill
    hl hs hul hus ht

end Database

/-- Bringing the schema up to date. On a store in which each table of the schema is missing or
has the columns of its definition other than the migrated ones, and has a migrated column only
under its exact name, the set-up succeeds and reports exactly the migrated columns the store
lacked, in order, as `table.column`. It keeps every row with its values, the new level columns
reading `active = 1` and `confirm_close = 0`, and gives every signal without a time the first
nineteen characters of its creation time. Run again on the store it leaves, it reports nothing
and changes nothing. -/
theorem initSchema_upgrades (db : Database) (h : db.Upgradable) :
    ∃ db', db.initSchema = .ok (db', db.missingColumns) ∧ db.UpgradedTo db' ∧
      db'.initSchema = .ok (db', []) := by
  obtain ⟨db', hset, hl', hs', ho', hput⟩ := Database.setUpSchema_of_upgradable h
  -- the store left lacks no migrated column: each was added unless it was there
  have hm : db'.missingColumns = [] := by
    refine (Database.missingColumns_eq_nil hl' hs').mpr ⟨?_, ?_, ?_⟩ <;>
      simp [Database.migratedLevels, Database.migratedSignals, Table.columnIndex?_stampTimes,
        Table.isSome_columnIndex?_addIfMissing, sameName_self]
  refine ⟨db', Database.initSchema_of_setUpSchema hset,
    ⟨⟨_, hl', h.levels_getD.upgradedTo_levels⟩, ⟨_, hs', h.signals_getD.upgradedTo_signals⟩, ho'⟩,
    Database.initSchema_of_setUpSchema ?_⟩
  exact Database.setUpSchema_of_current hl' hs' h.migratedLevels h.migratedSignals.stampTimes hm
    (Table.stampTimes_stampTimes _) hput

/-- A store written by an old version: a levels table without the migrated columns, holding one
level, and no signals table. -/
def legacyLevelStore : Database where
  tables := [{
    name := "price_levels"
    columns := levelTable.columns.take 5
    rows := [{ id := 1, cells := [.int 1, .text "EURUSD", .real 1.1, .text "up",
      .text "2024-01-01 00:00:00"] }] }]

theorem initSchema_upgrades_legacyLevelStore :
    ∃ db', legacyLevelStore.initSchema = .ok (db', legacyLevelStore.missingColumns) ∧
      legacyLevelStore.UpgradedTo db' ∧ db'.initSchema = .ok (db', []) := by
  refine initSchema_upgrades legacyLevelStore ⟨fun t ht ↦ ?_, fun t ht ↦ ?_⟩
  · simp only [Database.table?, legacyLevelStore, List.find?_cons, sameName_self,
      Option.some.injEq] at ht
    subst ht
    refine ⟨fun n hn ↦ ?_, by unfold Table.Rectangular; decide, by
      simp only [Table.NamesExactly, sameName_iff_toList]
      decide⟩
    -- the columns that no migration adds are the first five, which the old table has
    obtain ⟨c, hc, rfl⟩ : ∃ c ∈ levelTable.columns.take 5, c.name = n := by
      revert n
      decide
    exact Table.isSome_columnIndex?_of_mem hc
  · simp [Database.table?, legacyLevelStore, sameName_levels_signals] at ht

/-! ### A migrated column named in another case -/

namespace Database

/-- A migration of a column that the table has only under its name in another case fails: the
column is looked for by its exact name and missed, and adding it collides with the one there. -/
theorem migrate_of_other_case {db : Database} {n : String} {t : Table} (hdb : db.table? n = some t)
    (c : Column) (hexact : ∀ d ∈ t.columns, d.name ≠ c.name)
    (hcase : (t.columnIndex? c.name).isSome) :
    db.migrate n c = .error (.duplicateColumn c.name) := by
  obtain ⟨i, hi⟩ := Option.isSome_iff_exists.mp hcase
  have hany : t.columns.any (·.name == c.name) = false :=
    List.any_eq_false.mpr fun d hd ↦ by simpa using hexact d hd
  simp only [Database.migrate, find_of_table? hdb, bind, Except.bind, hany, hi]
  rfl

/-- The set-up refuses a store whose levels table has a column `active` only under its name in
another case, whatever else the store holds. -/
theorem initSchema_of_active_in_other_case {db : Database} {t : Table}
    (hl : db.table? "price_levels" = some t) (hexact : ∀ c ∈ t.columns, c.name ≠ "active")
    (hcase : (t.columnIndex? "active").isSome) :
    db.initSchema = .error (Fault.duplicateColumn "active").toError := by
  obtain ⟨db₂, hc₂, -, ho₂⟩ := create_view db signalTable
  rw [signalTable_name] at ho₂
  have hl₂ : db₂.table? "price_levels" = some t := by rw [ho₂ _ sameName_signals_levels, hl]
  have hmig : migrateAll migrations db₂ [] = (db₂, .error (.duplicateColumn "active")) := by
    simp only [migrations_eq, migrateAll, migrate_of_other_case hl₂ activeColumn hexact hcase,
      activeColumn_name]
  simp only [initSchema, setUpSchema, create_of_table? levelTable hl, hc₂, hmig]
  rfl

end Database

/-- A levels table written with its `active` column in capitals, holding one level. -/
def capitalActiveLevels : Table where
  name := "price_levels"
  columns := levelTable.columns.take 5 ++
    [{ name := "ACTIVE", declared := "INTEGER", notNull := true, default := .int 1 },
      { name := "confirm_close", declared := "INTEGER", notNull := true, default := .int 0 }]
  rows := [{ id := 1, cells := [.int 1, .text "BTC/USDT", .real 100.0, .text "up",
    .text "2024-01-01 00:00:00", .int 1, .int 0] }]

/-- The store lacks no migrated column, yet the set-up fails: it adds `active` a second time. -/
theorem initSchema_refuses_capital_active :
    ({ tables := [capitalActiveLevels] } : Database).missingColumns = [] ∧
      ({ tables := [capitalActiveLevels] } : Database).initSchema =
        .error (Fault.duplicateColumn "active").toError := by
  have hexact : ∀ c ∈ capitalActiveLevels.columns, c.name ≠ "active" := by decide
  -- the column `ACTIVE` is `active` in lower case, compared character by character
  have hcase : (capitalActiveLevels.columnIndex? "active").isSome := by
    rw [Table.columnIndex?, List.findIdx?_isSome, List.any_eq_true]
    exact ⟨_, List.mem_append_right _ List.mem_cons_self,
      sameName_iff_toList.mpr (by decide)⟩
  have hconfirm : (capitalActiveLevels.columnIndex? "confirm_close").isSome := by
    rw [Table.columnIndex?, List.findIdx?_isSome, List.any_eq_true]
    exact ⟨_, List.mem_append_right _ (List.mem_cons_of_mem _ List.mem_cons_self),
      sameName_self _⟩
  have hl : ({ tables := [capitalActiveLevels] } : Database).table? "price_levels" =
      some capitalActiveLevels := by
    simp [Database.table?, capitalActiveLevels, sameName_self]
  have hs : ({ tables := [capitalActiveLevels] } : Database).table? "signal_history" = none := by
    simp [Database.table?, capitalActiveLevels, sameName_levels_signals]
  refine ⟨(Database.missingColumns_eq_nil_iff _).mpr ?_,
    Database.initSchema_of_active_in_other_case hl hexact hcase⟩
  simp only [migrations_eq, List.mem_cons, List.not_mem_nil, or_false, forall_eq_or_imp,
    forall_eq, hl, hs, Option.some.injEq, forall_eq', reduceCtorEq, false_implies, forall_const,
    and_true, activeColumn_name, confirmColumn_name]
  exact ⟨hcase, hconfirm⟩

end LevelCross.Store
