import Mathlib
import LevelCross.Store.Signals
import LevelCross.Proofs.RealCell
import LevelCross.Proofs.StampText

/-!
# Levels as rows of the store

A level is kept as one row of `price_levels`: its identifier is the row number, its price goes
through the real column, its creation time is kept as listing text and its two flags as
integers. This module fixes that row (`levelRow`) and the store laid out from a list of levels
(`storeOf`), and states what each statement of the level operations does to such a store.

* `levelOfRow_levelRow`: a level whose price is valid and whose creation time is a clock
  reading (`PriceLevel.Kept`) reads back from its row as itself.
* `initSchema_empty`: the schema set up on an empty store lays out no levels and no signals.
* `insertNamed_levelRow`: inserting a level's values adds its row, under the next free number.
* `Table.update_eq_ok`: an update that meets no fault rewrites exactly the rows it picks.
* `Database.put_storeOf`: writing the levels table back lays the store out from its new rows.
-/

namespace LevelCross.Store

open LevelCross.Time LevelCross.Number

/-! ### Cells of the levels table -/

/-- The row a level is kept in. -/
def levelRow (m : PriceLevel) : Row :=
  ⟨m.id, [.int m.id, .text m.pair, (Value.ofFloat m.value).storeAs .real, .text m.direction,
    .text (stampText m.createdAt), flagValue m.active, flagValue m.confirmClose]⟩

/-- The affinities of the columns of `price_levels`, in order. -/
def levelAffinities : List Affinity := [.integer, .text, .real, .text, .text, .integer, .integer]

theorem levelTable_affinities : levelTable.columns.map Column.affinity = levelAffinities := by
  with_unfolding_all rfl

theorem default_affinity : (default : Column).affinity = .blob := by
  with_unfolding_all rfl

@[simp]
theorem affinity_levelTable (i : Nat) :
    (levelTable.columns[i]?.getD default).affinity = levelAffinities.getD i .blob := by
  rw [← List.getD_eq_getElem?_getD, ← levelTable_affinities, ← default_affinity, List.getD_map]

theorem cell_levelTable (R : List Row) (r : Row) (i : Nat) :
    ({ levelTable with rows := R }).cell r i =
      match levelAffinities[i]? with
      | some a => (r.cells.getD i .null).loadAs a
      | none => .null := by
  rw [← levelTable_affinities]
  simp only [Table.cell, List.getElem?_map]
  cases levelTable.columns[i]? <;> rfl

/-- Only a real column changes what it hands back. -/
@[simp]
theorem Value.loadAs_integer (v : Value) : v.loadAs .integer = v := by
  cases v <;> rfl

@[simp]
theorem Value.loadAs_text (v : Value) : v.loadAs .text = v := by
  cases v <;> rfl

/-- A double written into a real column is kept as nothing exactly when it is a NaN. -/
theorem Value.isNull_storeAs_real_ofFloat (x : Float) :
    ((Value.ofFloat x).storeAs .real).isNull = isNaN x := by
  unfold Value.ofFloat
  split
  · next h => simp [h, Value.storeAs, Value.isNull]
  · next h =>
    simp only [Value.storeAs, h]
    unfold wholeOfReal
    split <;> (try split) <;> rfl

theorem validatePrice_ok {x : Float} (h : validatePrice x = .ok ()) :
    isFinite x = true ∧ ¬ x ≤ 0.0 := by
  unfold validatePrice at h
  split at h
  · cases h
  · next hc => simpa using hc

theorem isNaN_of_validatePrice {x : Float} (h : validatePrice x = .ok ()) : isNaN x = false := by
  have hfin := (validatePrice_ok h).1
  simp only [isFinite, isNaN] at hfin ⊢
  cases hs : shape x <;> simp_all

/-- A valid price comes back from a real column as it was written: a negative zero, the one
double the column would change, is no valid price. -/
theorem Value.loadAs_storeAs_real_of_validatePrice {x : Float} (h : validatePrice x = .ok ()) :
    ((Value.ofFloat x).storeAs .real).loadAs .real = .real x := by
  obtain ⟨hfin, hpos⟩ := validatePrice_ok h
  have hshape : shape x = .finite := by simpa [isFinite] using hfin
  rw [Value.loadAs_storeAs_real, if_neg (by simp [isNaN, hshape])]
  congr 1
  unfold keptReal
  split
  · next hneg =>
    have : x = Float.ofBits 0x8000000000000000 := by
      rw [← hneg, ofBits_toBits (by rw [hshape]; decide)]
    exact absurd (this ▸ (by decide : Float.ofBits 0x8000000000000000 ≤ 0.0)) hpos
  · rfl

/-- A flag reads back as itself. -/
@[simp]
theorem flag_ne_zero (b : Bool) : ((if b = true then (1 : Int) else 0) != 0) = b := by
  cases b <;> rfl

end LevelCross.Store

namespace LevelCross

/-- What the store holds of every level it keeps: a valid price and a clock reading as its
creation time. -/
structure PriceLevel.Kept (m : PriceLevel) : Prop where
  price : validatePrice m.value = .ok ()
  clock : m.createdAt.isClockReading = true

end LevelCross

namespace LevelCross.Store

open LevelCross.Time LevelCross.Number

/-! ### Reading and picking level rows -/

theorem Table.require_withRows (t : Table) (R : List Row) (ns : List String) :
    ({ t with rows := R }).require ns = t.require ns := by
  induction ns with
  | nil => rfl
  | cons n ns ih => simp only [Table.require, Table.columnIndex?, ih]

/-- The columns the level operations read, by position. -/
theorem levelTable_require_levelColumns :
    levelTable.require levelColumns = .ok [0, 1, 2, 3, 6, 5, 4] := by
  with_unfolding_all rfl

theorem levelTable_require_id : levelTable.require ["id"] = .ok [0] := by
  with_unfolding_all rfl

theorem levelTable_require_active : levelTable.require ["active"] = .ok [5] := by
  with_unfolding_all rfl

theorem levelTable_require_changes :
    levelTable.require ["level", "direction", "confirm_close"] = .ok [2, 3, 6] := by
  with_unfolding_all rfl

/-- A kept level reads back from its row as itself. -/
theorem levelOfRow_levelRow (R : List Row) {m : PriceLevel} (hm : m.Kept) :
    ({ levelTable with rows := R }).levelOfRow [0, 1, 2, 3, 6, 5, 4] (levelRow m) = .ok m := by
  have hv := Value.loadAs_storeAs_real_of_validatePrice hm.price
  simp only [Table.levelOfRow, cell_levelTable, levelRow]
  simp [hv, levelAffinities, Value.toInt, Value.toText, Value.toFloat, flagValue,
    Value.toTime_stampText _ _ hm.clock, bind, Except.bind, pure, Except.pure]

/-- A reading that succeeds on every row of a list succeeds on the list, row by row. -/
theorem mapM_eq_ok_map {ε α β : Type} {f : α → Except ε β} {g : α → β} :
    ∀ {l : List α}, (∀ x ∈ l, f x = .ok (g x)) → l.mapM f = .ok (l.map g)
  | [], _ => rfl
  | x :: l, h => by
    have hx := h x (List.mem_cons_self ..)
    have hl := mapM_eq_ok_map fun y hy ↦ h y (List.mem_cons_of_mem _ hy)
    simp [hx, hl, bind, Except.bind, pure, Except.pure]

/-- Reading a list of kept levels from their rows gives the list back. -/
theorem mapM_levelOfRow (R : List Row) {M : List PriceLevel} (hM : ∀ m ∈ M, m.Kept) :
    (M.map levelRow).mapM (({ levelTable with rows := R }).levelOfRow [0, 1, 2, 3, 6, 5, 4]) =
      .ok M := by
  have hread := mapM_eq_ok_map (g := id) fun m hm ↦ levelOfRow_levelRow R (hM m hm)
  rw [List.map_id] at hread
  exact List.mapM_map.trans hread

theorem matching_id (R : List Row) (k : PriceLevel) (id : Int) :
    ({ levelTable with rows := R }).matching 0 (.int id) (levelRow k) = (k.id == id) := by
  simp [Table.matching, cell_levelTable, levelAffinities, levelRow, Value.compareAs, Value.holds,
    Value.isNull, Value.order]

theorem matching_active (R : List Row) (k : PriceLevel) :
    ({ levelTable with rows := R }).matching 5 (.int 1) (levelRow k) = k.active := by
  simp [Table.matching, cell_levelTable, levelAffinities, levelRow, Value.compareAs, Value.holds,
    Value.isNull, Value.order, flagValue]
  cases k.active <;> decide

theorem matching_pair (R : List Row) (k : PriceLevel) (p : String) :
    ({ levelTable with rows := R }).matching 1 (.text p) (levelRow k) = (k.pair == p) := by
  simp [Table.matching, cell_levelTable, levelAffinities, levelRow, Value.compareAs, Value.holds,
    Value.isNull, Value.order]

/-- Rows of levels whose identifiers rise are in the order the levels table sorts by. -/
theorem sortedBy_levelRows (R : List Row) {M : List PriceLevel}
    (hM : M.Pairwise fun a b ↦ a.id < b.id) :
    ({ levelTable with rows := R }).sortedBy 0 (M.map levelRow) = M.map levelRow := by
  apply List.mergeSort_of_pairwise
  rw [List.pairwise_map]
  refine hM.imp fun {a b} hab ↦ ?_
  simp [cell_levelTable, levelAffinities, levelRow, Value.order, Int.compare_eq_gt, hab.le]

/-! ### Writing level rows -/

/-- The first column of `price_levels` that may not hold nothing and would, for a level's row:
only the price can be missing, when it is a NaN. -/
theorem nullFault_levelRow (R : List Row) (k : PriceLevel) :
    ({ levelTable with rows := R }).nullFault (levelRow k).cells =
      if isNaN k.value then some (.notNull "price_levels" "level") else none := by
  have h := Value.isNull_storeAs_real_ofFloat k.value
  cases hk : isNaN k.value
  all_goals
    simp only [Table.nullFault, levelRow, levelTable, List.zip_cons_cons, List.zip_nil_right,
      List.find?_cons, h, hk]
    rfl

theorem insertNamed_levelTable (R : List Row) (pair dir stamp : String) (v : Value) (cc : Bool) :
    ({ levelTable with rows := R }).insertNamed
      ["pair", "level", "direction", "created_at", "active", "confirm_close"]
      [.text pair, v, .text dir, .text stamp, .int 1, flagValue cc] =
      let id := ({ levelTable with rows := R } : Table).nextId
      let cells := [.int id, .text pair, v.storeAs .real, .text dir, .text stamp, .int 1, flagValue cc]
      match ({ levelTable with rows := R } : Table).nullFault cells with
      | some f => .error f
      | none => .ok ({ levelTable with rows := Table.placeRow ⟨id, cells⟩ R }, id) := by
  with_unfolding_all rfl

/-- Inserting the values of a level numbered by the next free number adds its row. -/
theorem insertNamed_levelRow (R : List Row) (m : PriceLevel)
    (hid : m.id = ({ levelTable with rows := R } : Table).nextId) (hactive : m.active = true) :
    ({ levelTable with rows := R }).insertNamed
      ["pair", "level", "direction", "created_at", "active", "confirm_close"]
      [.text m.pair, .ofFloat m.value, .text m.direction, .text (stampText m.createdAt), .int 1,
        flagValue m.confirmClose] =
      match ({ levelTable with rows := R } : Table).nullFault (levelRow m).cells with
      | some f => .error f
      | none => .ok ({ levelTable with rows := Table.placeRow (levelRow m) R }, m.id) := by
  obtain ⟨id, pair, value, direction, confirmClose, active, createdAt⟩ := m
  dsimp only at hid hactive
  subst hid hactive
  rw [insertNamed_levelTable]
  rfl

/-- The row of an item numbered above every item goes last: placing it appends the item. -/
theorem placeRow_map_of_lt {α : Type} (row : α → Row) {L : List α} {a : α}
    (h : ∀ x ∈ L, (row x).id < (row a).id) :
    Table.placeRow (row a) (L.map row) = (L ++ [a]).map row := by
  induction L with
  | nil => rfl
  | cons x L ih =>
    have hx : ¬ (row a).id < (row x).id := Int.not_lt.mpr (h x (List.mem_cons_self ..)).le
    rw [List.map_cons, Table.placeRow, if_neg hx, ih fun y hy ↦ h y (List.mem_cons_of_mem _ hy)]
    rfl

/-- What an update writes into a row it picks: each column it sets takes its value, through the
column's affinity. -/
def Table.setCells (t : Table) (sets : List (Nat × Value)) (r : Row) : Row :=
  { r with cells := r.cells.mapIdx fun i v =>
      match sets.find? (fun (j, _) => j == i) with
      | some (_, w) => w.storeAs ((t.columns.getD i default).affinity)
      | none => v }

theorem Table.update_eq (t : Table) (sets : List (Nat × Value)) (pick : Row → Bool) :
    t.update sets pick = (do
      let rows ← t.rows.mapM fun r =>
        if pick r then
          match t.nullFault (t.setCells sets r).cells with
          | some f => .error f
          | none => .ok (t.setCells sets r)
        else .ok r
      return ({ t with rows := rows }, (t.rows.filter pick).length)) := rfl

theorem setCells_deactivate (R : List Row) (k : PriceLevel) :
    ({ levelTable with rows := R }).setCells [(5, .int 0)] (levelRow k) =
      levelRow { k with active := false } := by
  simp [Table.setCells, levelRow, levelAffinities, List.mapIdx_cons, Value.storeAs, flagValue]

theorem setCells_update (R : List Row) (k : PriceLevel) (x : Float) (d : String) (cc : Bool) :
    ({ levelTable with rows := R }).setCells [(2, .ofFloat x), (3, .text d), (6, flagValue cc)]
        (levelRow k) =
      levelRow { k with value := x, direction := d, confirmClose := cc } := by
  simp [Table.setCells, levelRow, levelAffinities, List.mapIdx_cons, Value.storeAs, flagValue]

/-- An update that meets no fault in the rows it picks rewrites exactly those rows, and counts
them. -/
theorem Table.update_eq_ok (t : Table) (sets : List (Nat × Value)) (pick : Row → Bool)
    (hnull : ∀ r ∈ t.rows, pick r = true → t.nullFault (t.setCells sets r).cells = none) :
    t.update sets pick =
      .ok ({ t with rows := t.rows.map fun r ↦ if pick r then t.setCells sets r else r },
        (t.rows.filter pick).length) := by
  have hrows : t.rows.mapM (fun r ↦
        if pick r then
          match t.nullFault (t.setCells sets r).cells with
          | some f => .error f
          | none => .ok (t.setCells sets r)
        else .ok r) =
        (.ok (t.rows.map fun r ↦ if pick r then t.setCells sets r else r) : Except Fault _) := by
    apply mapM_eq_ok_map
    intro r hr
    by_cases hp : pick r = true
    · simp [hp, hnull r hr hp]
    · simp [hp]
  rw [Table.update_eq, hrows]
  rfl

/-! ### The store laid out from levels -/

/-- The store that keeps the levels `M` and the signal rows `S`. -/
def storeOf (M : List PriceLevel) (S : List Row) : Database :=
  { tables := [{ levelTable with rows := M.map levelRow }, { signalTable with rows := S }] }

/-- The schema set up on an empty store creates both tables, empty, and adds no column. -/
theorem initSchema_empty : Database.initSchema {} = .ok (storeOf [] [], []) := by
  with_unfolding_all rfl

theorem sameName_signals_levels : sameName "signal_history" "price_levels" = false := by
  decide +kernel

theorem sameName_levels_signals : sameName "price_levels" "signal_history" = false := by
  decide +kernel

@[simp]
theorem Database.find_levels (M : List PriceLevel) (S : List Row) :
    (storeOf M S).find "price_levels" = .ok { levelTable with rows := M.map levelRow } := by
  simp [storeOf, Database.find, Database.table?, levelTable]

@[simp]
theorem Database.find_signals (M : List PriceLevel) (S : List Row) :
    (storeOf M S).find "signal_history" = .ok { signalTable with rows := S } := by
  simp [storeOf, Database.find, Database.table?, levelTable, signalTable, sameName_levels_signals]

/-- Writing back the levels table changes the levels the store keeps and nothing else. -/
theorem Database.put_storeOf (M M' : List PriceLevel) (S : List Row) :
    (storeOf M S).put { levelTable with rows := M'.map levelRow } = storeOf M' S := by
  simp [storeOf, Database.put, levelTable, signalTable, sameName_signals_levels]

/-- A fault of the store stays a failure. -/
@[simp]
theorem lift_ok {α : Type} (a : α) : lift (.ok a) = .ok a := rfl

@[simp]
theorem lift_error {α : Type} (f : Fault) : (lift (.error f) : Except Error α) = .error f.toError :=
  rfl

end LevelCross.Store
