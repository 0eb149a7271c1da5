import Mathlib
import LevelCross.Proofs.LevelRows

/-!
# Signals as rows of the store

A recorded signal is kept as one row of `signal_history`: its identifier is the row number, its
doubles go through real columns, which lose a NaN and turn a negative zero into zero, and its
time and creation time are kept as listing text, which loses the fraction of a second. This
module fixes that row (`signalRow`) and what the store reads back from it (`Record.listed`),
and states what recording, listing and counting do to a store laid out from levels and
signals.

* `recordOfRow_signalRow`: a signal row reads back as the signal it keeps, as real columns and
  listing text keep it.
* `Database.appendSignal_storeOf`: recording checks the level, refuses a NaN price and adds
  the row under the next number.
* `Database.signals_storeOf`, `Database.countSignals_storeOf`: listing and counting pick the
  signals the filter passes, by texts, and order them by the text of their time, then by
  identifier.
-/

namespace LevelCross

open LevelCross.Time LevelCross.Number LevelCross.Store

/-- An optional double as a real column keeps it: a NaN is lost, a negative zero becomes
zero. -/
def keptOption (x : Option Float) : Option Float :=
  x.bind fun v ↦ if isNaN v then none else some (keptReal v)

/-- A recorded signal as the store reads it back: its doubles as real columns keep them, its
time as its listing text keeps it. -/
def Record.listed (r : Record) : Record :=
  { r with
    event := { r.event with
      levelValue := keptOption r.event.levelValue
      prevPrice := keptReal r.event.prevPrice
      currentPrice := keptReal r.event.currentPrice
      atrValue := keptOption r.event.atrValue
      time := r.event.time.listed } }

/-- What a stored signal carries that the store can read back: prices that are numbers, a time
a reading can give and a creation time the clock gave. -/
structure Record.Kept (r : Record) : Prop where
  prevPrice : isNaN r.event.prevPrice = false
  currentPrice : isNaN r.event.currentPrice = false
  time : r.event.time.isReading = true
  clock : r.createdAt.isClockReading = true

/-- Whether a filter passes a signal, as the store compares them: the pair and the kind as
given, the bounds against the listing texts of the times, each condition only when it is
given. -/
def Filter.passes (f : Filter) (r : Record) : Bool :=
  f.pair.all (fun p ↦ r.event.pair == normalizePair p) &&
    f.kind.all (fun k ↦ r.event.kind == k) &&
    f.start.all (fun s ↦ compare (stampText r.event.time) (stampText s) != .lt) &&
    f.finish.all (fun e ↦ compare (stampText r.event.time) (stampText e) != .gt)

end LevelCross

namespace LevelCross.Store

open LevelCross.Time LevelCross.Number

/-! ### Cells of the signals table -/

/-- The row a signal is kept in. -/
def signalRow (r : Record) : Row :=
  ⟨r.id, [.int r.id, .text r.event.pair, .text r.event.kind.name, .ofOption .int r.event.levelId,
    (Value.ofOption .ofFloat r.event.levelValue).storeAs .real,
    (Value.ofFloat r.event.prevPrice).storeAs .real,
    (Value.ofFloat r.event.currentPrice).storeAs .real,
    (Value.ofOption .ofFloat r.event.atrValue).storeAs .real,
    .text (stampText r.event.time), .text (stampText r.createdAt)]⟩

/-- The affinities of the columns of `signal_history`, in order. -/
def signalAffinities : List Affinity :=
  [.integer, .text, .text, .integer, .real, .real, .real, .real, .text, .text]

theorem signalTable_affinities : signalTable.columns.map Column.affinity = signalAffinities := by
  with_unfolding_all rfl

@[simp]
theorem affinity_signalTable (i : Nat) :
    (signalTable.columns[i]?.getD default).affinity = signalAffinities.getD i .blob := by
  rw [← List.getD_eq_getElem?_getD, ← signalTable_affinities, ← default_affinity, List.getD_map]

theorem cell_signalTable (R : List Row) (r : Row) (i : Nat) :
    ({ signalTable with rows := R }).cell r i =
      match signalAffinities[i]? with
      | some a => (r.cells.getD i .null).loadAs a
      | none => .null := by
  rw [← signalTable_affinities]
  simp only [Table.cell, List.getElem?_map]
  cases signalTable.columns[i]? <;> rfl

theorem signalTable_require_signalColumns :
    signalTable.require signalColumns = .ok [0, 1, 2, 3, 4, 5, 6, 7, 8, 9] := by
  with_unfolding_all rfl

/-- A kind reads back from its name. -/
theorem Kind.parse_name (k : Kind) : Kind.parse k.name = .ok k := by
  cases k <;> decide +kernel

/-- An integer that may be missing is kept as it is. -/
theorem Value.storeAs_integer_ofOption (n : Option Int) :
    (Value.ofOption .int n).storeAs .integer = .ofOption .int n := by
  cases n <;> rfl

/-- An optional double written into a real column and read back. -/
theorem Value.loadAs_storeAs_real_ofOption (x : Option Float) :
    ((Value.ofOption .ofFloat x).storeAs .real).loadAs .real =
      Value.ofOption .real (keptOption x) := by
  cases x with
  | none => rfl
  | some v =>
    rw [Value.ofOption, Value.loadAs_storeAs_real, keptOption, Option.bind_some]
    split <;> rfl

theorem Value.toOption_toFloat_ofOption (i : Nat) (name : String) (x : Option Float) :
    (Value.ofOption .real x).toOption (Value.toFloat i name) = .ok x := by
  cases x <;> rfl

theorem Value.toOption_toInt_ofOption (i : Nat) (name : String) (n : Option Int) :
    (Value.ofOption .int n).toOption (Value.toInt i name) = .ok n := by
  cases n <;> rfl

/-- A price that is a number reads back from a real column as the column keeps it. -/
theorem Value.toFloat_storeAs_real {x : Float} (hx : isNaN x = false) (i : Nat) (name : String) :
    (((Value.ofFloat x).storeAs .real).loadAs .real).toFloat i name = .ok (keptReal x) := by
  rw [Value.loadAs_storeAs_real, hx]
  rfl

/-- A stored signal reads back from its row as the store keeps it. -/
theorem recordOfRow_signalRow (R : List Row) {r : Record} (hr : r.Kept) :
    ({ signalTable with rows := R }).recordOfRow [0, 1, 2, 3, 4, 5, 6, 7, 8, 9] (signalRow r) =
      .ok r.listed := by
  simp only [Table.recordOfRow, cell_signalTable, signalRow]
  simp [signalAffinities, Value.toInt, Value.toText, Kind.parse_name, Value.loadAs_storeAs_real_ofOption,
    Value.toOption_toFloat_ofOption, Value.toOption_toInt_ofOption,
    Value.toFloat_storeAs_real hr.prevPrice, Value.toFloat_storeAs_real hr.currentPrice,
    Value.toTime_stampText_listed _ _ hr.time, Value.toTime_stampText _ _ hr.clock,
    bind, Except.bind, pure, Except.pure, Record.listed]

/-! ### Recording a signal -/

/-- The first column of `signal_history` that may not hold nothing and would, for a signal's
row: only the two prices can be missing, when they are NaN. -/
theorem nullFault_signalRow (R : List Row) (r : Record) :
    ({ signalTable with rows := R }).nullFault (signalRow r).cells =
      if isNaN r.event.prevPrice then some (.notNull "signal_history" "prev_price")
      else if isNaN r.event.currentPrice then some (.notNull "signal_history" "current_price")
      else none := by
  have hprev := Value.isNull_storeAs_real_ofFloat r.event.prevPrice
  have hcur := Value.isNull_storeAs_real_ofFloat r.event.currentPrice
  cases hp : isNaN r.event.prevPrice <;> cases hc : isNaN r.event.currentPrice
  all_goals
    simp only [Table.nullFault, signalRow, signalTable, List.zip_cons_cons, List.zip_nil_right,
      List.find?_cons, hprev, hcur, hp, hc]
    rfl

theorem insertNamed_signalTable (R : List Row) (pair kind : String) (lid lv prev cur atr : Value)
    (stamp created : String) :
    ({ signalTable with rows := R }).insertNamed
      ["pair", "signal_type", "level_id", "level_price", "prev_price", "current_price",
        "atr_value", "timestamp", "created_at"]
      [.text pair, .text kind, lid, lv, prev, cur, atr, .text stamp, .text created] =
      let id := ({ signalTable with rows := R } : Table).nextId
      let cells := [.int id, .text pair, .text kind, lid.storeAs .integer, lv.storeAs .real,
        prev.storeAs .real, cur.storeAs .real, atr.storeAs .real, .text stamp, .text created]
      match ({ signalTable with rows := R } : Table).nullFault cells with
      | some f => .error f
      | none => .ok ({ signalTable with rows := Table.placeRow ⟨id, cells⟩ R }, id) := by
  with_unfolding_all rfl

/-- Inserting the values of a signal numbered by the next free number adds its row, unless a
price is missing. -/
theorem insertNamed_signalRow (R : List Row) (r : Record)
    (hid : r.id = ({ signalTable with rows := R } : Table).nextId) :
    ({ signalTable with rows := R }).insertNamed
      ["pair", "signal_type", "level_id", "level_price", "prev_price", "current_price",
        "atr_value", "timestamp", "created_at"]
      [.text r.event.pair, .text r.event.kind.name, .ofOption .int r.event.levelId,
        .ofOption .ofFloat r.event.levelValue, .ofFloat r.event.prevPrice,
        .ofFloat r.event.currentPrice, .ofOption .ofFloat r.event.atrValue,
        .text (stampText r.event.time), .text (stampText r.createdAt)] =
      match ({ signalTable with rows := R } : Table).nullFault (signalRow r).cells with
      | some f => .error f
      | none => .ok ({ signalTable with rows := Table.placeRow (signalRow r) R }, r.id) := by
  obtain ⟨id, event, createdAt⟩ := r
  dsimp only at hid
  subst hid
  rw [insertNamed_signalTable, Value.storeAs_integer_ofOption]
  rfl

/-- Writing back the signals table changes the signals the store keeps and nothing else. -/
theorem Database.put_signals_storeOf (M : List PriceLevel) (S S' : List Row) :
    (storeOf M S).put { signalTable with rows := S' } = storeOf M S' := by
  simp [storeOf, Database.put, levelTable, signalTable, sameName_levels_signals]

/-- The store finds a level of an identifier exactly when the list of levels has one. -/
theorem any_matching_levelRows (M : List PriceLevel) (R : List Row) (id : Int) :
    (M.map levelRow).any (({ levelTable with rows := R } : Table).matching 0 (.int id)) =
      M.any (·.id == id) := by
  rw [List.any_map]
  congr 1
  funext k
  exact matching_id R k id

/-! ### Picking signals -/

/-- The positions of columns that all exist. -/
theorem Table.require_eq_map (t : Table) (ns : List String)
    (h : ∀ n ∈ ns, (t.columnIndex? n).isSome) :
    t.require ns = .ok (ns.map fun n ↦ (t.columnIndex? n).getD 0) := by
  induction ns with
  | nil => rfl
  | cons n ns ih =>
    obtain ⟨i, hi⟩ := Option.isSome_iff_exists.mp (h n (List.mem_cons_self ..))
    simp only [Table.require, hi, ih fun m hm ↦ h m (List.mem_cons_of_mem _ hm), List.map_cons,
      Option.getD_some]
    rfl

theorem signalTable_columnIndex_pair : signalTable.columnIndex? "pair" = some 1 := by
  with_unfolding_all rfl

theorem signalTable_columnIndex_kind : signalTable.columnIndex? "signal_type" = some 2 := by
  with_unfolding_all rfl

theorem signalTable_columnIndex_timestamp : signalTable.columnIndex? "timestamp" = some 8 := by
  with_unfolding_all rfl

theorem Table.columnIndex_withRows (t : Table) (R : List Row) (n : String) :
    ({ t with rows := R } : Table).columnIndex? n = t.columnIndex? n := rfl

/-- Every condition of a filter reads a column of the signals table. -/
theorem isSome_columnIndex_conditionsOf (f : Filter) :
    ∀ n ∈ (conditionsOf f).map (·.1), (signalTable.columnIndex? n).isSome := by
  intro n hn
  simp only [conditionsOf, List.map_append, List.mem_append, Option.toList_map, List.map_map,
    List.mem_map, Function.comp_apply] at hn
  rcases hn with ((⟨_, _, rfl⟩ | ⟨_, _, rfl⟩) | ⟨_, _, rfl⟩) | ⟨_, _, rfl⟩
  · rw [signalTable_columnIndex_pair]; rfl
  · rw [signalTable_columnIndex_kind]; rfl
  · rw [signalTable_columnIndex_timestamp]; rfl
  · rw [signalTable_columnIndex_timestamp]; rfl

theorem Kind.name_inj {a b : Kind} : a.name = b.name ↔ a = b := by
  cases a <;> cases b <;> simp [Kind.name]

/-- A condition on a text column of a signal's row compares the text kept there with the text
it is given. -/
theorem holds_signalRow_text (R : List Row) (r : Record) {i : Nat} {s : String}
    (haff : signalAffinities[i]? = some .text) (hcell : (signalRow r).cells.getD i .null = .text s)
    (rel : Ordering → Bool) (t : String) :
    Value.holds rel (({ signalTable with rows := R } : Table).cell (signalRow r) i)
        ((Value.text t).compareAs (signalAffinities[i]?.getD .blob)) =
      rel (compare s t) := by
  rw [cell_signalTable, haff, hcell]
  rfl

/-- The conditions of a filter hold of a signal's row exactly when the filter passes the
signal. -/
theorem conditionsOf_all_signalRow (R : List Row) (f : Filter) (r : Record) :
    (conditionsOf f).all (fun c ↦ Value.holds c.2.1
        (({ signalTable with rows := R } : Table).cell (signalRow r)
          ((signalTable.columnIndex? c.1).getD 0))
        (c.2.2.compareAs ((signalTable.columns.getD ((signalTable.columnIndex? c.1).getD 0)
          default).affinity))) =
      f.passes r := by
  -- one condition for each part of the filter that is given, each on a text column
  obtain ⟨pair, kind, start, finish, _, _⟩ := f
  simp only [conditionsOf, Filter.passes, List.all_append]
  congr 1
  congr 1
  congr 1
  · cases pair <;>
      simp [signalTable_columnIndex_pair, holds_signalRow_text R r (i := 1) rfl rfl]
  · cases kind <;>
      simp [signalTable_columnIndex_kind, holds_signalRow_text R r (i := 2) rfl rfl, Kind.name_inj]
  · cases start <;>
      simp [signalTable_columnIndex_timestamp, holds_signalRow_text R r (i := 8) rfl rfl]
  · cases finish <;>
      simp [signalTable_columnIndex_timestamp, holds_signalRow_text R r (i := 8) rfl rfl]

/-- The signals a filter picks are the signals it passes, in the order they were recorded. -/
theorem Database.pickedSignals_storeOf (M : List PriceLevel) (L : List Record) (f : Filter) :
    (storeOf M (L.map signalRow)).pickedSignals f =
      .ok ({ signalTable with rows := L.map signalRow }, (L.filter f.passes).map signalRow) := by
  have hreq := Table.require_eq_map signalTable _ (isSome_columnIndex_conditionsOf f)
  simp only [Database.pickedSignals, Database.find_signals, Table.require_withRows, hreq, bind,
    Except.bind, pure, Except.pure, List.map_map, List.zip_eq_zipWith, List.zipWith_map_left,
    List.zipWith_self, List.all_map, List.filter_map]
  congr 3
  apply List.filter_congr
  intro r _
  simp only [Function.comp_def]
  exact conditionsOf_all_signalRow _ f r

/-- Reading a list of stored signals from their rows gives them back as the store keeps them. -/
theorem mapM_recordOfRow (R : List Row) {L : List Record} (hL : ∀ r ∈ L, r.Kept) :
    (L.map signalRow).mapM
        (({ signalTable with rows := R }).recordOfRow [0, 1, 2, 3, 4, 5, 6, 7, 8, 9]) =
      .ok (L.map Record.listed) := by
  rw [List.mapM_map]
  apply mapM_eq_ok_map
  intro r hr
  rw [Function.comp_apply]
  exact recordOfRow_signalRow R (hL r hr)

/-- Cutting a listing commutes with rewriting its items. -/
theorem window_map {α β : Type} (offset limit : Int) (f : α → β) (xs : List α) :
    window offset limit (xs.map f) = (window offset limit xs).map f := by
  unfold window
  split <;> simp [List.map_drop, List.map_take]

theorem window_sublist {α : Type} (offset limit : Int) (xs : List α) :
    (window offset limit xs).Sublist xs := by
  unfold window
  split
  · exact List.drop_sublist _ _
  · exact (List.take_sublist _ _).trans (List.drop_sublist _ _)

end LevelCross.Store
