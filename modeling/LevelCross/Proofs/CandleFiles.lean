import Mathlib
import LevelCross.Market.CandleFile

/-!
# Reading the candles of a file

`fetchCandles` reads the file of a pair and timeframe, `<base>/<PAIR>_<timeframe>.csv` with the
pair normalised and its slash written `_`, and turns the records after its header into candles.
The records are those `Csv.parse` splits the text into, and each must have as many fields as the
header. What the reading gives, for every file:

* no file, or a file without records after its header, is no data;
* a file that cannot be read, or a record that is refused, is a store fault, and no candle comes
  back. A record is refused when its width differs from the header's, its first field is no time
  of the layout `%Y-%m-%d %H:%M:%S`, its volume is neither blank nor a decimal, or it has no fifth
  field for the close;
* otherwise each record gives one candle, each price the decimal its field spells or NaN, the
  volume `0` when blank or missing, and the candles come back ordered by time, those of one time
  in their order in the file.

* `sortByTime_orderedByTime`: the sort by time is stable.
* `candleOfRow_eq_ok_iff`: a record gives the candle `Candle.ReadFrom` describes.
* `candlesOfText_isOk_iff`: the records of a text are read when none is refused.
* `fetchCandles_reads_file`: the three outcomes of reading a file.
-/

namespace LevelCross

open LevelCross.Number LevelCross.Text LevelCross.Time

/-! ### Chronological order -/

namespace Time

/-- Chronological order compares the fields from the year down, the first that differs
deciding. -/
theorem DateTime.compare_eq_compareLex :
    DateTime.compare = compareLex (compareOn (·.year)) (compareLex (compareOn (·.month))
      (compareLex (compareOn (·.day)) (compareLex (compareOn (·.hour))
        (compareLex (compareOn (·.minute)) (compareLex (compareOn (·.second))
          (compareOn (·.nano))))))) := rfl

instance : Std.TransCmp DateTime.compare := by
  rw [DateTime.compare_eq_compareLex]
  infer_instance

/-- Two times compare equal only when they are the same time. -/
theorem DateTime.compare_eq_eq {a b : DateTime} : a.compare b = .eq ↔ a = b := by
  constructor
  · intro h
    simp only [DateTime.compare_eq_compareLex, compareLex_eq_eq, compareOn,
      Std.LawfulEqOrd.compare_eq_iff_eq] at h
    obtain ⟨hy, hm, hd, hh, hmi, hs, hn⟩ := h
    cases a
    cases b
    simp_all
  · rintro rfl
    exact Std.ReflCmp.compare_self

end Time

/-! ### Ordering candles by time -/

/-- `out` holds the candles `cs` ordered by time, the candles of one time in the order they have
in `cs`. -/
structure OrderedByTime (cs out : List Candle) : Prop where
  sorted : out.Pairwise fun a b ↦ a.time.compare b.time ≠ .gt
  stable : ∀ t, out.filter (·.time == t) = cs.filter (·.time == t)

theorem ne_gt_eq_isLE (o : Ordering) : (o != .gt) = o.isLE := by
  cases o <;> rfl

theorem time_le_trans (a b c : Candle) :
    (a.time.compare b.time != .gt) = true → (b.time.compare c.time != .gt) = true →
      (a.time.compare c.time != .gt) = true := by
  simp only [ne_gt_eq_isLE]
  exact Std.TransCmp.isLE_trans

theorem time_le_total (a b : Candle) :
    ((a.time.compare b.time != .gt) || (b.time.compare a.time != .gt)) = true := by
  simp only [ne_gt_eq_isLE, Bool.or_eq_true]
  cases h : a.time.compare b.time
  · exact Or.inl rfl
  · exact Or.inl rfl
  · -- a later time the other way round is an earlier one
    exact Or.inr (by rw [Std.OrientedCmp.lt_of_gt h]; rfl)

/-- The stable sort by time keeps the candles of each time in their order. -/
theorem filter_sortByTime (cs : List Candle) (t : DateTime) :
    (sortByTime cs).filter (·.time == t) = cs.filter (·.time == t) := by
  have hsub : (cs.filter (·.time == t)).Sublist (sortByTime cs) := by
    refine List.sublist_mergeSort time_le_trans time_le_total ?_ List.filter_sublist
    -- candles of one time are each not later than the other
    refine List.Pairwise.imp_of_mem (R := fun _ _ => True) ?_
      (List.pairwise_of_forall fun _ _ => trivial)
    intro a b ha hb _
    rw [beq_iff_eq.mp (List.mem_filter.mp ha).2, beq_iff_eq.mp (List.mem_filter.mp hb).2,
      DateTime.compare_eq_eq.mpr rfl]
    rfl
  -- a sub-list of the sorted candles of time `t` as long as all of them is all of them
  have hperm := (List.mergeSort_perm cs fun a b ↦ a.time.compare b.time != .gt).filter
    (·.time == t)
  have hsub' := hsub.filter (·.time == t)
  simp only [List.filter_filter, Bool.and_self] at hsub'
  exact (hsub'.eq_of_length hperm.length_eq.symm).symm

/-- Sorting by time orders the candles by time and is stable. -/
theorem sortByTime_orderedByTime (cs : List Candle) : OrderedByTime cs (sortByTime cs) where
  sorted := by
    refine (List.pairwise_mergeSort time_le_trans time_le_total cs).imp fun {a b} h ↦ ?_
    simpa using h
  stable := filter_sortByTime cs

/-! ### Reading under `Except` -/

theorem Except.bind_eq_ok_iff {ε α β : Type} {x : Except ε α} {f : α → Except ε β} {b : β} :
    (x >>= f) = .ok b ↔ ∃ a, x = .ok a ∧ f a = .ok b := by
  cases x <;> simp [bind, Except.bind]

theorem Except.toOption_bind {ε α β : Type} (x : Except ε α) (f : α → Except ε β) :
    (x >>= f).toOption = x.toOption.bind fun a ↦ (f a).toOption := by
  cases x <;> rfl

theorem Except.eq_ok_iff_toOption {ε α : Type} {x : Except ε α} {a : α} :
    x = .ok a ↔ x.toOption = some a := by
  cases x <;> simp [Except.toOption]

/-- Reading every element succeeds exactly when each read does, with one result for each. -/
theorem mapM_eq_ok_iff {ε α β : Type} {f : α → Except ε β} :
    ∀ {l : List α} {bs : List β}, l.mapM f = .ok bs ↔ List.Forall₂ (fun a b ↦ f a = .ok b) l bs
  | [], bs => by
    simp only [List.mapM_nil, pure, Except.pure, Except.ok.injEq, List.forall₂_nil_left_iff]
    exact eq_comm
  | a :: l, bs => by
    simp only [List.mapM_cons, Except.bind_eq_ok_iff, mapM_eq_ok_iff, List.forall₂_cons_left_iff,
      pure, Except.pure, Except.ok.injEq]
    constructor
    · rintro ⟨b, hb, bs', hbs', rfl⟩
      exact ⟨b, bs', hb, hbs', rfl⟩
    · rintro ⟨b, bs', hb, hbs', rfl⟩
      exact ⟨b, hb, bs', hbs', rfl⟩

theorem exists_mapM_eq_ok_iff {ε α β : Type} {f : α → Except ε β} :
    ∀ {l : List α}, (∃ bs, l.mapM f = .ok bs) ↔ ∀ a ∈ l, ∃ b, f a = .ok b
  | [] => by simp [pure, Except.pure]
  | a :: l => by
    rw [List.forall_mem_cons, ← exists_mapM_eq_ok_iff]
    simp only [mapM_eq_ok_iff, List.forall₂_cons_left_iff]
    constructor
    · rintro ⟨_, b, bs, hb, hbs, rfl⟩
      exact ⟨⟨b, hb⟩, bs, hbs⟩
    · rintro ⟨⟨b, hb⟩, bs, hbs⟩
      exact ⟨_, b, bs, hb, hbs, rfl⟩

/-- A reading that can fail only with a store fault. -/
def FailsAsDatabase {α : Type} (x : Except Error α) : Prop :=
  ∀ e, x = .error e → ∃ msg, e = .database msg

namespace FailsAsDatabase

variable {α β : Type}

theorem ok (a : α) : FailsAsDatabase (.ok a : Except Error α) := fun _ h ↦ by cases h

theorem bind {x : Except Error α} {f : α → Except Error β} (hx : FailsAsDatabase x)
    (hf : ∀ a, FailsAsDatabase (f a)) : FailsAsDatabase (x >>= f) := by
  intro e h
  cases hx' : x with
  | error e' =>
    rw [hx'] at h
    cases h
    exact hx e hx'
  | ok a =>
    rw [hx'] at h
    exact hf a e h

theorem mapM {f : α → Except Error β} (hf : ∀ a, FailsAsDatabase (f a)) :
    ∀ l : List α, FailsAsDatabase (l.mapM f)
  | [] => ok []
  | a :: l => by
    rw [List.mapM_cons]
    exact (hf a).bind fun b ↦ (mapM hf l).bind fun bs ↦ ok (b :: bs)

end FailsAsDatabase

/-! ### What a record gives -/

namespace Csv

/-- The records of a text after its header. -/
def dataRecords (text : String) : List Row := (parse text).tail

/-- The number of fields of the header, `0` for a text without records. -/
def headerWidth (text : String) : Nat := ((parse text).head?.map (·.fields.length)).getD 0

namespace Row

/-- The time a record gives: its first field, trimmed, read in the layout `%Y-%m-%d %H:%M:%S`. -/
def time? (r : Row) : Option DateTime :=
  r.fields[0]?.bind fun raw ↦ (parseDateTime listLayout (trim raw)).toOption

/-- The volume a record gives: `0` when its sixth field is missing or blank, else the decimal the
field spells. -/
def volume? (r : Row) : Option Float :=
  match r.fields[5]? with
  | some v => if (trim v).isEmpty then some 0.0 else (readFloat (trim v)).toOption
  | none => some 0.0

/-- The price the field at `i` gives: the decimal it spells, trimmed, or NaN. -/
def price? (r : Row) (i : Nat) : Option Float :=
  r.fields[i]?.map fun raw ↦ (readFloat (trim raw)).toOption.getD nan

/-- A record refused among records of `width` fields: its width differs, it gives no time or no
volume, or it has no fifth field for the close. -/
def Refused (width : Nat) (r : Row) : Prop :=
  r.fields.length ≠ width ∨ r.time? = none ∨ r.volume? = none ∨ r.fields.length < 5

theorem isSome_price? (r : Row) (i : Nat) : (r.price? i).isSome ↔ i < r.fields.length := by
  simp [price?]

end Row

end Csv

/-- The candle a record stands for: its time and volume, and each price as its field gives it. -/
structure Candle.ReadFrom (c : Candle) (r : Csv.Row) : Prop where
  time : r.time? = some c.time
  volume : r.volume? = some c.volume
  openPrice : r.price? 1 = some c.openPrice
  high : r.price? 2 = some c.high
  low : r.price? 3 = some c.low
  close : r.price? 4 = some c.close

/-! ### Reading a record -/

theorem timeCell_toOption (r : Csv.Row) : (timeCell r.fields).toOption = r.time? := by
  unfold timeCell Csv.Row.time?
  cases r.fields[0]? with
  | none => rfl
  | some raw =>
    cases h : parseDateTime listLayout (trim raw) <;> simp [h, Except.toOption]

theorem volumeCell_toOption (r : Csv.Row) : (volumeCell r.fields).toOption = r.volume? := by
  unfold volumeCell Csv.Row.volume?
  cases r.fields[5]? with
  | none => rfl
  | some v =>
    by_cases hv : (trim v).isEmpty = true
    · simp only [hv, if_true]
      rfl
    · simp only [hv, Bool.false_eq_true, if_false]
      cases readFloat (trim v) <;> simp [Except.toOption]

theorem priceCell_toOption (r : Csv.Row) (i : Nat) (name : String) :
    (priceCell r.fields i name).toOption = r.price? i := by
  unfold priceCell Csv.Row.price?
  cases r.fields[i]? <;> rfl

/-- A record is read through its cells in order, the first that fails failing the record. -/
theorem candleOfRow_toOption (r : Csv.Row) :
    (candleOfRow r).toOption = r.time?.bind fun time ↦ r.volume?.bind fun volume ↦
      (r.price? 1).bind fun o ↦ (r.price? 2).bind fun h ↦ (r.price? 3).bind fun l ↦
        (r.price? 4).bind fun c ↦
          some { time, openPrice := o, high := h, low := l, close := c, volume } := by
  simp only [candleOfRow, Except.toOption_bind, timeCell_toOption, volumeCell_toOption,
    priceCell_toOption]
  rfl

/-- A record gives exactly the candle it stands for. -/
theorem candleOfRow_eq_ok_iff {r : Csv.Row} {c : Candle} :
    candleOfRow r = .ok c ↔ c.ReadFrom r := by
  rw [Except.eq_ok_iff_toOption, candleOfRow_toOption]
  constructor
  · intro h
    simp only [Option.bind_eq_some_iff, Option.some.injEq] at h
    obtain ⟨t, ht, v, hv, o, ho, hi, hhi, l, hl, cl, hcl, rfl⟩ := h
    exact ⟨ht, hv, ho, hhi, hl, hcl⟩
  · rintro ⟨ht, hv, ho, hhi, hl, hcl⟩
    simp only [ht, hv, ho, hhi, hl, hcl, Option.bind_some]

/-- A record stands for a candle when it gives a time, a volume and a fifth field. -/
theorem exists_readFrom_iff (r : Csv.Row) :
    (∃ c : Candle, c.ReadFrom r) ↔ r.time?.isSome ∧ r.volume?.isSome ∧ 5 ≤ r.fields.length := by
  constructor
  · rintro ⟨c, hc⟩
    have h4 := (r.isSome_price? 4).mp (by rw [hc.close]; rfl)
    exact ⟨by rw [hc.time]; rfl, by rw [hc.volume]; rfl, h4⟩
  · rintro ⟨ht, hv, h5⟩
    -- every price field is there, so each gives its price
    obtain ⟨t, ht⟩ := Option.isSome_iff_exists.mp ht
    obtain ⟨v, hv⟩ := Option.isSome_iff_exists.mp hv
    have hp : ∀ i, i < 5 → ∃ x, r.price? i = some x := fun i hi ↦
      Option.isSome_iff_exists.mp ((r.isSome_price? i).mpr (by omega))
    obtain ⟨o, ho⟩ := hp 1 (by omega)
    obtain ⟨hi, hhi⟩ := hp 2 (by omega)
    obtain ⟨l, hl⟩ := hp 3 (by omega)
    obtain ⟨cl, hcl⟩ := hp 4 (by omega)
    exact ⟨{ time := t, openPrice := o, high := hi, low := l, close := cl, volume := v },
      ht, hv, ho, hhi, hl, hcl⟩

theorem timeCell_failsAsDatabase (fields : List String) : FailsAsDatabase (timeCell fields) := by
  intro e h
  unfold timeCell at h
  split at h
  · split at h
    · cases h
    · cases h
      exact ⟨_, rfl⟩
  · cases h
    exact ⟨_, rfl⟩

theorem volumeCell_failsAsDatabase (fields : List String) :
    FailsAsDatabase (volumeCell fields) := by
  intro e h
  unfold volumeCell at h
  split at h
  · split at h
    · cases h
    · split at h
      · cases h
      · cases h
        exact ⟨_, rfl⟩
  · cases h

theorem priceCell_failsAsDatabase (fields : List String) (i : Nat) (name : String) :
    FailsAsDatabase (priceCell fields i name) := by
  intro e h
  unfold priceCell at h
  split at h
  · cases h
  · cases h
    exact ⟨_, rfl⟩

theorem candleOfRow_failsAsDatabase (r : Csv.Row) : FailsAsDatabase (candleOfRow r) :=
  (timeCell_failsAsDatabase _).bind fun _ ↦ (volumeCell_failsAsDatabase _).bind fun _ ↦
    (priceCell_failsAsDatabase _ _ _).bind fun _ ↦ (priceCell_failsAsDatabase _ _ _).bind fun _ ↦
      (priceCell_failsAsDatabase _ _ _).bind fun _ ↦ (priceCell_failsAsDatabase _ _ _).bind fun _ ↦
        .ok _

/-! ### Reading the records of a text -/

theorem candleOfRecord_eq_ok_iff {width : Nat} {r : Csv.Row} {c : Candle} :
    candleOfRecord width r = .ok c ↔ r.fields.length = width ∧ c.ReadFrom r := by
  unfold candleOfRecord Csv.Row.check
  by_cases hw : r.fields.length = width
  · simp [hw, candleOfRow_eq_ok_iff]
  · simp [hw]

theorem candleOfRecord_failsAsDatabase (width : Nat) (r : Csv.Row) :
    FailsAsDatabase (candleOfRecord width r) := by
  unfold candleOfRecord
  split
  · exact candleOfRow_failsAsDatabase _
  · intro e h
    cases h
    exact ⟨_, rfl⟩

/-- A record is read exactly when it is not refused. -/
theorem exists_candleOfRecord_iff (width : Nat) (r : Csv.Row) :
    (∃ c, candleOfRecord width r = .ok c) ↔ ¬ r.Refused width := by
  simp only [candleOfRecord_eq_ok_iff, exists_and_left, exists_readFrom_iff, Csv.Row.Refused,
    Option.isSome_iff_ne_none, not_or, not_lt, ne_eq, Classical.not_not]

/-- The records of a text are read when each is, into one candle each. -/
theorem candlesOfText_eq_ok_iff {text : String} {cs : List Candle} :
    candlesOfText text = .ok cs ↔
      List.Forall₂ (fun r c ↦ r.fields.length = Csv.headerWidth text ∧ c.ReadFrom r)
        (Csv.dataRecords text) cs := by
  unfold candlesOfText Csv.dataRecords Csv.headerWidth
  cases Csv.parse text with
  | nil =>
    simp only [List.tail_nil, List.forall₂_nil_left_iff, Except.ok.injEq]
    exact eq_comm
  | cons header rows =>
    simp only [List.tail_cons, List.head?_cons, Option.map_some, Option.getD_some,
      mapM_eq_ok_iff, candleOfRecord_eq_ok_iff]

/-- The records of a text are read exactly when none is refused. -/
theorem candlesOfText_isOk_iff {text : String} :
    (∃ cs, candlesOfText text = .ok cs) ↔
      ∀ r ∈ Csv.dataRecords text, ¬ r.Refused (Csv.headerWidth text) := by
  unfold candlesOfText Csv.dataRecords Csv.headerWidth
  cases Csv.parse text with
  | nil => simp
  | cons header rows =>
    simp only [List.tail_cons, List.head?_cons, Option.map_some, Option.getD_some,
      exists_mapM_eq_ok_iff, exists_candleOfRecord_iff]

theorem candlesOfText_failsAsDatabase (text : String) : FailsAsDatabase (candlesOfText text) := by
  unfold candlesOfText
  split
  · exact .ok _
  · exact .mapM (candleOfRecord_failsAsDatabase _) _

theorem candlesOfText_of_dataRecords_eq_nil {text : String} (h : Csv.dataRecords text = []) :
    candlesOfText text = .ok [] :=
  candlesOfText_eq_ok_iff.mpr (h ▸ List.Forall₂.nil)

/-! ### Reading a file -/

section Read

variable (path pair timeframe : String)

theorem candlesOfRead_notFound :
    candlesOfRead path pair timeframe (.error .notFound) =
      .error (.noData (normalizePair pair) timeframe) := rfl

theorem candlesOfRead_error {e : IoError} (he : e ≠ .notFound) :
    candlesOfRead path pair timeframe (.error e) =
      .error (.database ("failed to read " ++ path ++ ": " ++ e.message)) := by
  cases e
  · exact absurd rfl he
  all_goals rfl

theorem candlesOfRead_of_error {text : String} {e : Error} (h : candlesOfText text = .error e) :
    candlesOfRead path pair timeframe (.ok text) = .error e := by
  simp [candlesOfRead, h, bind, Except.bind, pure, Except.pure]

theorem candlesOfRead_of_ok {text : String} {cs : List Candle} (h : candlesOfText text = .ok cs) :
    candlesOfRead path pair timeframe (.ok text) =
      if cs.isEmpty then .error (.noData (normalizePair pair) timeframe)
      else .ok (sortByTime cs) := by
  by_cases hcs : cs.isEmpty = true <;>
    simp [candlesOfRead, h, hcs, bind, Except.bind, pure, Except.pure, throw, throwThe,
      MonadExceptOf.throw]

/-- Reading gives no data exactly when there is no file or no record after its header. -/
theorem candlesOfRead_eq_noData_iff (read : Except IoError String) :
    candlesOfRead path pair timeframe read = .error (.noData (normalizePair pair) timeframe) ↔
      read = .error .notFound ∨ ∃ text, read = .ok text ∧ Csv.dataRecords text = [] := by
  rcases read with e | text
  · by_cases he : e = .notFound
    · subst he
      simp [candlesOfRead_notFound]
    · rw [candlesOfRead_error path pair timeframe he]
      simp [he]
  · cases h : candlesOfText text with
    | error e =>
      -- a failed record is a store fault, and it stands after the header
      obtain ⟨msg, rfl⟩ := candlesOfText_failsAsDatabase text e h
      rw [candlesOfRead_of_error path pair timeframe h]
      simp only [Except.error.injEq, reduceCtorEq, Except.ok.injEq, exists_eq_left', false_or,
        false_iff]
      intro hnil
      rw [candlesOfText_of_dataRecords_eq_nil hnil] at h
      cases h
    | ok cs =>
      have hlen := (candlesOfText_eq_ok_iff.mp h).length_eq
      rw [candlesOfRead_of_ok path pair timeframe h]
      simp only [Except.ok.injEq, reduceCtorEq, exists_eq_left', false_or, List.isEmpty_iff,
        ← List.length_eq_zero_iff, hlen]
      split <;> simp_all

/-- Reading is a store fault exactly when the file cannot be read or a record is refused. -/
theorem candlesOfRead_eq_database_iff (read : Except IoError String) :
    (∃ msg, candlesOfRead path pair timeframe read = .error (.database msg)) ↔
      (∃ e, read = .error e ∧ e ≠ .notFound) ∨
        ∃ text, read = .ok text ∧ ∃ r ∈ Csv.dataRecords text, r.Refused (Csv.headerWidth text) := by
  rcases read with e | text
  · by_cases he : e = .notFound
    · subst he
      simp [candlesOfRead_notFound]
    · rw [candlesOfRead_error path pair timeframe he]
      simp [he]
  · simp only [reduceCtorEq, false_and, exists_false, Except.ok.injEq, exists_eq_left', false_or]
    cases h : candlesOfText text with
    | error e =>
      obtain ⟨msg, rfl⟩ := candlesOfText_failsAsDatabase text e h
      rw [candlesOfRead_of_error path pair timeframe h]
      -- some record is refused, since otherwise the records would all be read
      have hrefused : ¬ ∀ r ∈ Csv.dataRecords text, ¬ r.Refused (Csv.headerWidth text) := by
        rw [← candlesOfText_isOk_iff, h]
        rintro ⟨_, hcs⟩
        cases hcs
      push Not at hrefused
      exact ⟨fun _ ↦ hrefused, fun _ ↦ ⟨msg, rfl⟩⟩
    | ok cs =>
      rw [candlesOfRead_of_ok path pair timeframe h]
      have haccepted := candlesOfText_isOk_iff.mp ⟨cs, h⟩
      constructor
      · rintro ⟨msg, hmsg⟩
        split at hmsg <;> cases hmsg
      · rintro ⟨r, hr, hrefused⟩
        exact absurd hrefused (haccepted r hr)

/-- A file whose records after the header are there and all accepted gives one candle for each,
ordered by time. -/
theorem candlesOfRead_of_accepted {text : String} (hne : Csv.dataRecords text ≠ [])
    (hacc : ∀ r ∈ Csv.dataRecords text, ¬ r.Refused (Csv.headerWidth text)) :
    ∃ cs, candlesOfRead path pair timeframe (.ok text) = .ok (sortByTime cs) ∧
      List.Forall₂ (fun r c ↦ c.ReadFrom r) (Csv.dataRecords text) cs := by
  obtain ⟨cs, h⟩ := candlesOfText_isOk_iff.mpr hacc
  have hf := candlesOfText_eq_ok_iff.mp h
  have hcs : cs.isEmpty = false := by
    rw [List.isEmpty_eq_false_iff, ne_eq, ← List.length_eq_zero_iff, ← hf.length_eq,
      List.length_eq_zero_iff]
    exact hne
  refine ⟨cs, ?_, hf.imp fun _ _ h ↦ h.2⟩
  rw [candlesOfRead_of_ok path pair timeframe h, hcs]
  rfl

end Read

/-- What reading the candles of a pair and timeframe gives, for every file. The file is
`candlePath base pair timeframe`. No file, or no record after its header, is no data for the
normalised pair. A file that cannot be read, or a record that is refused, is a store fault, with
no candle given back. Otherwise every record gives its candle, and the candles come back ordered
by time, those of one time in their order in the file. -/
theorem fetchCandles_reads_file (fs : Files) (base pair timeframe : String) :
    (fetchCandles fs base pair timeframe = .error (.noData (normalizePair pair) timeframe) ↔
      fs.readText (candlePath base pair timeframe) = .error .notFound ∨
        ∃ text, fs.readText (candlePath base pair timeframe) = .ok text ∧
          Csv.dataRecords text = []) ∧
    ((∃ msg, fetchCandles fs base pair timeframe = .error (.database msg)) ↔
      (∃ e, fs.readText (candlePath base pair timeframe) = .error e ∧ e ≠ .notFound) ∨
        ∃ text, fs.readText (candlePath base pair timeframe) = .ok text ∧
          ∃ r ∈ Csv.dataRecords text, r.Refused (Csv.headerWidth text)) ∧
    ∀ text, fs.readText (candlePath base pair timeframe) = .ok text →
      Csv.dataRecords text ≠ [] →
      (∀ r ∈ Csv.dataRecords text, ¬ r.Refused (Csv.headerWidth text)) →
        ∃ cs out, fetchCandles fs base pair timeframe = .ok out ∧
          List.Forall₂ (fun r c ↦ c.ReadFrom r) (Csv.dataRecords text) cs ∧
          OrderedByTime cs out := by
  refine ⟨candlesOfRead_eq_noData_iff _ _ _ _, candlesOfRead_eq_database_iff _ _ _ _,
    fun text hread hne hacc ↦ ?_⟩
  obtain ⟨cs, h, hf⟩ := candlesOfRead_of_accepted (candlePath base pair timeframe) pair timeframe
    hne hacc
  refine ⟨cs, sortByTime cs, ?_, hf, sortByTime_orderedByTime cs⟩
  rw [fetchCandles, hread]
  exact h

end LevelCross
