import Mathlib
import LevelCross.Proofs.LevelStore
import LevelCross.Proofs.SignalRows

/-!
# The store of signals is a log

Over any sequence of requests on levels and signals, a store set up by `Database.initSchema`
answers as a log of the signals recorded, in the order they were recorded, beside the finite map
of levels. Recording fails when the signal names a level that does not exist, active or not,
or when one of its prices is NaN, and a failed recording adds nothing. A listing gives the
signals a filter passes, newest first, cut by the filter's offset and limit, and each as the
store reads it back: its doubles as real columns keep them and its time as its listing text
keeps it. The pair and the kind are compared as given; the time bounds and the order compare
the listing texts of the times.

* `SignalLog.append`, `SignalLog.listing`, `SignalLog.count`: the log, request by request.
* `Database.appendSignal_storeOf`, `Database.signals_storeOf`, `Database.countSignals_storeOf`:
  each operation on a store laid out from levels and signals is the log's operation.
* `storeAnswers_as_contents`: from the schema set up on an empty store, every sequence of
  requests made at clock readings, on events of readable times, gets the answers of the levels
  and the log that start empty.
* `Record.listed_eq_returned`, `SignalLog.window_of_lt`: where the listing meets the signals as
  recording answered them (numbers other than negative zero, no leap second) and where the
  offset and limit cut as plain counts (below 2^63).
* `mergeSort_newer_eq`: signals of distinct identifiers have one order newest first, so a list of
  them already in that order is the store's sort of them.
* `SignalLog.listing_eq_timeListing`: for signals of clock readings of four-digit years and
  numbers the real columns keep, bounds of such readings, and an offset and a limit below 2^63,
  the store lists what a listing that compares the times themselves lists.
* `listing_loses_nan_atrValue`: a signal recorded with a NaN ATR value is listed without one.
* `StoreContents.named_after`: every recorded signal names a level that existed when it was
  recorded.
-/

namespace LevelCross

open LevelCross.Time LevelCross.Number LevelCross.Store

/-! ### The log of signals -/

/-- Newest first, as the store orders signals: by the listing text of the time, then by
identifier, both descending. -/
def Record.newer (a b : Record) : Bool :=
  match compare (stampText a.event.time) (stampText b.event.time) with
  | .gt => true
  | .lt => false
  | .eq => compare a.id b.id != .lt

/-- The store's order of signals as a comparison: the listing text of the time, then the
identifier. -/
def Record.storeCompare : Record → Record → Ordering :=
  compareLex (compareOn fun r : Record ↦ stampText r.event.time) (compareOn (·.id))

instance : Std.TransCmp Record.storeCompare := inferInstanceAs (Std.TransCmp (compareLex _ _))

/-- A signal is at least as new as another exactly when it does not compare below it. -/
theorem Record.newer_eq_isGE (a b : Record) : a.newer b = (Record.storeCompare a b).isGE := by
  simp only [Record.newer, Record.storeCompare, compareLex, compareOn]
  cases compare (stampText a.event.time) (stampText b.event.time) <;>
    cases compare a.id b.id <;> rfl

theorem Record.newer_trans {a b c : Record} (hab : a.newer b = true) (hbc : b.newer c = true) :
    a.newer c = true := by
  rw [Record.newer_eq_isGE] at *
  exact Std.TransCmp.isGE_trans hab hbc

/-- The other way round: a signal is at most as new as another exactly when it does not compare
above it. -/
theorem Record.newer_swap_eq_isLE (a b : Record) : b.newer a = (Record.storeCompare a b).isLE := by
  rw [Record.newer_eq_isGE, (Std.OrientedCmp.eq_swap : Record.storeCompare b a = _),
    Ordering.isGE_swap]

theorem Record.newer_total (a b : Record) : (a.newer b || b.newer a) = true := by
  rw [Record.newer_eq_isGE, Record.newer_swap_eq_isLE]
  cases Record.storeCompare a b <;> rfl

/-- Two signals each at least as new as the other have one identifier. -/
theorem Record.id_eq_of_newer {a b : Record} (hab : a.newer b = true) (hba : b.newer a = true) :
    a.id = b.id := by
  rw [Record.newer_eq_isGE] at hab
  rw [Record.newer_swap_eq_isLE] at hba
  have heq : Record.storeCompare a b = .eq :=
    Ordering.eq_eq_of_isLE_of_isLE_swap hba (by rwa [Ordering.isLE_swap])
  simp only [Record.storeCompare, compareLex_eq_eq, compareOn] at heq
  exact Std.LawfulEqOrd.eq_of_compare heq.2

/-- Signals of distinct identifiers have one order newest first: a list of them that the store's
order already sorts is the store's sort of them. -/
theorem mergeSort_newer_eq {L L' : List Record} (hids : (L.map (·.id)).Nodup) (hperm : L'.Perm L)
    (hsorted : L'.Pairwise fun a b ↦ a.newer b = true) : L.mergeSort Record.newer = L' := by
  have hsort : (L.mergeSort Record.newer).Pairwise fun a b ↦ a.newer b = true :=
    @List.pairwise_mergeSort _ Record.newer (fun _ _ _ ↦ Record.newer_trans) Record.newer_total L
  refine List.Perm.eq_of_pairwise ?_ hsort hsorted ((List.mergeSort_perm L _).trans hperm.symm)
  -- two signals that tie are the one signal of their identifier
  intro a b ha hb hab hba
  exact List.inj_on_of_nodup_map hids (List.mem_mergeSort.mp ha) (hperm.subset hb)
    (Record.id_eq_of_newer hab hba)

/-- A recorded signal as recording it answers: its time without the fraction of a second. -/
def Record.returned (r : Record) : Record :=
  { r with event := { r.event with time := r.event.time.wholeSecond } }

/-- A double a real column keeps as it is: a number other than a negative zero. -/
theorem keptReal_of_toBits_ne {x : Float} (hx : x.toBits ≠ 0x8000000000000000) :
    keptReal x = x := by
  rw [keptReal, if_neg hx]

/-- A signal reads back as recording answered it when its doubles are numbers other than a
negative zero and its time is no leap second. -/
theorem Record.listed_eq_returned {r : Record}
    (hlevel : ∀ x ∈ r.event.levelValue, isNaN x = false ∧ x.toBits ≠ 0x8000000000000000)
    (hprev : r.event.prevPrice.toBits ≠ 0x8000000000000000)
    (hcur : r.event.currentPrice.toBits ≠ 0x8000000000000000)
    (hatr : ∀ x ∈ r.event.atrValue, isNaN x = false ∧ x.toBits ≠ 0x8000000000000000)
    (htime : r.event.time.nano < 1000000000) : r.listed = r.returned := by
  have hopt : ∀ o : Option Float, (∀ x ∈ o, isNaN x = false ∧ x.toBits ≠ 0x8000000000000000) →
      keptOption o = o := by
    intro o ho
    cases o with
    | none => rfl
    | some x =>
      obtain ⟨hnan, hbits⟩ := ho x rfl
      simp [keptOption, hnan, keptReal_of_toBits_ne hbits]
  have hlisted : r.event.time.listed = r.event.time.wholeSecond := by
    simp [DateTime.listed, DateTime.wholeSecond, Nat.div_eq_of_lt htime]
  simp only [Record.listed, Record.returned, hopt _ hlevel, hopt _ hatr, keptReal_of_toBits_ne hprev,
    keptReal_of_toBits_ne hcur, hlisted]

/-- A count below `2^63` reads as itself. -/
theorem Store.wrapSigned_of_lt {n : Nat} (h : n < 2 ^ 63) : wrapSigned n = n := by
  have h64 : n % Nat.pow 2 64 = n := Nat.mod_eq_of_lt (by simp only [Nat.pow_eq]; omega)
  simp only [wrapSigned, h64, if_pos (show n < Nat.pow 2 63 by simpa using h)]

namespace SignalLog

/-- The identifier a new signal takes: one more than the largest issued, or one. -/
def nextId (L : List Record) : Int := (L.map (·.id)).max?.getD 0 + 1

/-- Record an event at `now` beside the levels `M`: the level it names must exist, active or
not, and its two prices must be numbers. The log keeps the event with its pair normalized and
its time as given; the answer has the time without its fraction. -/
def append (M : List PriceLevel) (L : List Record) (now : DateTime) (e : Event) :
    Except Error (List Record × Record) := do
  if let some lid := e.levelId then
    if (LevelMap.lookup M lid).isNone then
      throw (.levelNotFound lid)
  if isNaN e.prevPrice then
    throw (Fault.notNull "signal_history" "prev_price").toError
  if isNaN e.currentPrice then
    throw (Fault.notNull "signal_history" "current_price").toError
  let r : Record :=
    { id := nextId L, event := { e with pair := normalizePair e.pair }, createdAt := now }
  return (L ++ [r], r.returned)

/-- The signals a filter passes, newest first, cut by its offset and limit read as 64-bit
words (a limit of zero is no limit), each as the store reads it back. -/
def listing (L : List Record) (f : Filter) : List Record :=
  (window (wrapSigned f.offset) (if f.limit == 0 then -1 else wrapSigned f.limit)
    ((L.filter f.passes).mergeSort Record.newer)).map Record.listed

/-- Below `2^63` the offset and the limit cut as counts do: the offset drops signals, and a limit
other than zero keeps at most that many. -/
theorem window_of_lt {α : Type} (xs : List α) {offset limit : Nat} (ho : offset < 2 ^ 63)
    (hl : limit < 2 ^ 63) :
    window (wrapSigned offset) (if limit == 0 then -1 else wrapSigned limit) xs =
      if limit = 0 then xs.drop offset else (xs.drop offset).take limit := by
  rw [Store.wrapSigned_of_lt ho]
  by_cases h0 : limit = 0
  · simp [window, h0]
  · rw [if_neg (by simpa using h0), Store.wrapSigned_of_lt hl, if_neg h0]
    simp [window]

/-- The number of signals a filter passes. -/
def count (L : List Record) (f : Filter) : Nat := (L.filter f.passes).length

/-- A new identifier is above every identifier issued. -/
theorem lt_nextId {L : List Record} {r : Record} (hr : r ∈ L) : r.id < nextId L := by
  unfold nextId
  cases h : (L.map (·.id)).max? with
  | none => simp_all
  | some a =>
    have hle := (List.max?_eq_some_iff.mp h).2 r.id (List.mem_map_of_mem hr)
    simp only [Option.getD_some]
    omega

/-- What a successful recording did: the level it names exists, its prices are numbers, and the
log gained one signal under the next identifier. -/
theorem append_eq_ok {M : List PriceLevel} {L : List Record} {now : DateTime} {e : Event}
    {L' : List Record} {a : Record} (h : append M L now e = .ok (L', a)) :
    (∀ lid, e.levelId = some lid → (LevelMap.lookup M lid).isSome) ∧
      isNaN e.prevPrice = false ∧ isNaN e.currentPrice = false ∧
      L' = L ++ [⟨nextId L, { e with pair := normalizePair e.pair }, now⟩] ∧
      a = Record.returned ⟨nextId L, { e with pair := normalizePair e.pair }, now⟩ := by
  unfold append at h
  -- the level named, if any, exists
  have hlevel : ∀ lid, e.levelId = some lid → (LevelMap.lookup M lid).isSome := by
    intro lid hl
    cases hs : LevelMap.lookup M lid with
    | none => simp [hl, hs, throw, throwThe, MonadExceptOf.throw, bind, Except.bind] at h
    | some m => rfl
  refine ⟨hlevel, ?_⟩
  have hchecked : ∀ (k : Unit → Except Error (List Record × Record)),
      (match e.levelId with
        | some lid => if (LevelMap.lookup M lid).isNone = true then
            (throw (Error.levelNotFound lid) : Except Error Unit) >>= k else k ()
        | _ => k ()) = k () := by
    intro k
    cases hl : e.levelId with
    | none => rfl
    | some lid =>
      have hs := hlevel lid hl
      simp [Option.isNone_iff_eq_none, ← Option.not_isSome_iff_eq_none, hs]
  simp only [hchecked] at h
  -- then neither price is NaN
  cases hp : isNaN e.prevPrice <;> cases hc : isNaN e.currentPrice <;>
    simp [hp, hc, throw, throwThe, MonadExceptOf.throw, bind, Except.bind, pure,
      Except.pure] at h ⊢
  exact ⟨h.1.symm, h.2.symm⟩

end SignalLog

/-! ### Where the store meets a listing by time

A store that kept the times themselves would bound and order the signals by comparing times. The
store compares their listing texts instead; for clock readings of the years `0` to `9999` the
two agree, and a listing of such signals, with numbers the real columns keep, is the listing by
time. -/

/-- Whether a filter passes a signal when its bounds compare the times themselves. -/
def Filter.passesInTime (f : Filter) (r : Record) : Bool :=
  f.pair.all (fun p ↦ r.event.pair == normalizePair p) &&
    f.kind.all (fun k ↦ r.event.kind == k) &&
    f.start.all (fun s ↦ compare r.event.time s != .lt) &&
    f.finish.all (fun e ↦ compare r.event.time e != .gt)

/-- Newest first by the times themselves, then by identifier, both descending. -/
def Record.newerInTime (a b : Record) : Bool :=
  match compare a.event.time b.event.time with
  | .gt => true
  | .lt => false
  | .eq => compare a.id b.id != .lt

/-- The signals a filter passes by their times, newest first, the offset dropped and at most the
limit kept (a limit of zero keeps all), each as it was recorded. -/
def SignalLog.timeListing (L : List Record) (f : Filter) : List Record :=
  let rows := (L.filter f.passesInTime).mergeSort Record.newerInTime
  if f.limit = 0 then rows.drop f.offset else (rows.drop f.offset).take f.limit

/-- A signal the store reads back as it was recorded and orders by its time: its doubles are
numbers other than a negative zero, and its time is a clock reading of a four-digit year. -/
structure Record.Plain (r : Record) : Prop where
  levelValue : ∀ x ∈ r.event.levelValue, isNaN x = false ∧ x.toBits ≠ 0x8000000000000000
  prevPrice : r.event.prevPrice.toBits ≠ 0x8000000000000000
  currentPrice : r.event.currentPrice.toBits ≠ 0x8000000000000000
  atrValue : ∀ x ∈ r.event.atrValue, isNaN x = false ∧ x.toBits ≠ 0x8000000000000000
  time : r.event.time.isPlainReading = true

/-- A plain signal reads back as itself. -/
theorem Record.Plain.listed_eq {r : Record} (h : r.Plain) : r.listed = r := by
  have hclock : r.event.time.isClockReading = true :=
    ((Bool.and_eq_true _ _).mp h.time).1
  have hnano : r.event.time.nano = 0 := by
    simp only [DateTime.isClockReading, Bool.and_eq_true, beq_iff_eq] at hclock
    exact hclock.2
  rw [Record.listed_eq_returned h.levelValue h.prevPrice h.currentPrice h.atrValue (by omega),
    Record.returned, DateTime.wholeSecond, ← hnano]

/-- With bounds that are plain readings, a filter passes a signal of a plain time exactly when it
passes it by time. -/
theorem Filter.passes_eq_passesInTime {f : Filter}
    (hstart : ∀ s ∈ f.start, s.isPlainReading = true)
    (hfinish : ∀ e ∈ f.finish, e.isPlainReading = true) {r : Record}
    (hr : r.event.time.isPlainReading = true) : f.passes r = f.passesInTime r := by
  obtain ⟨pair, kind, start, finish, _, _⟩ := f
  -- the pair and the kind are compared alike; each bound compares the texts as the times
  cases start <;> cases finish <;>
    simp_all [Filter.passes, Filter.passesInTime, stampText, compare_listText_of_isPlainReading]

/-- Signals of plain times are ordered newest first by their texts as by their times. -/
theorem Record.newer_eq_newerInTime {a b : Record} (ha : a.event.time.isPlainReading = true)
    (hb : b.event.time.isPlainReading = true) : a.newer b = a.newerInTime b := by
  simp only [Record.newer, Record.newerInTime, stampText, compare_listText_of_isPlainReading ha hb]

/-- Where the store meets a listing by time: for plain signals, bounds that are plain readings,
and an offset and a limit below `2^63`, the store lists exactly what the listing by time lists,
in the same order and each signal as it was recorded. -/
theorem SignalLog.listing_eq_timeListing {L : List Record} {f : Filter} (hL : ∀ r ∈ L, r.Plain)
    (hstart : ∀ s ∈ f.start, s.isPlainReading = true)
    (hfinish : ∀ e ∈ f.finish, e.isPlainReading = true) (hoff : f.offset < 2 ^ 63)
    (hlim : f.limit < 2 ^ 63) : SignalLog.listing L f = SignalLog.timeListing L f := by
  have hfilter : L.filter f.passes = L.filter f.passesInTime :=
    List.filter_congr fun r hr ↦ Filter.passes_eq_passesInTime hstart hfinish (hL r hr).time
  -- the two orders agree on the signals passed, so they sort them alike
  have hsort : (L.filter f.passesInTime).mergeSort Record.newer =
      (L.filter f.passesInTime).mergeSort Record.newerInTime := by
    have hagree := List.map_mergeSort (f := id) (l := L.filter f.passesInTime)
      (r := Record.newer) (s := Record.newerInTime) fun a ha b hb ↦
        Record.newer_eq_newerInTime (hL a (List.mem_of_mem_filter ha)).time
          (hL b (List.mem_of_mem_filter hb)).time
    simpa using hagree
  -- plain signals read back as themselves, so reading the sorted signals back changes none
  have hlisted : ((L.filter f.passesInTime).mergeSort Record.newerInTime).map Record.listed =
      (L.filter f.passesInTime).mergeSort Record.newerInTime :=
    (List.map_congr_left fun r hr ↦
      (hL r (List.mem_of_mem_filter (List.mem_mergeSort.mp hr))).listed_eq).trans (List.map_id _)
  unfold SignalLog.listing SignalLog.timeListing
  rw [hfilter, hsort, ← window_map, hlisted, SignalLog.window_of_lt _ hoff hlim]

theorem LevelMap.isSome_lookup (M : List PriceLevel) (id : Int) :
    (LevelMap.lookup M id).isSome = M.any (·.id == id) := by
  rw [Bool.eq_iff_iff, LevelMap.lookup, List.find?_isSome, List.any_eq_true]

end LevelCross

namespace LevelCross.Store

open LevelCross.Time LevelCross.Number

/-! ### Each operation through the layout -/

theorem nextId_signalRows (L : List Record) :
    ({ signalTable with rows := L.map signalRow } : Table).nextId = SignalLog.nextId L := by
  unfold Table.nextId SignalLog.nextId
  rw [List.map_map, show Row.id ∘ signalRow = Record.id from rfl]
  cases (L.map Record.id).max? <;> simp

/-- Recording a signal is appending it to the log. -/
theorem Database.appendSignal_storeOf (M : List PriceLevel) (L : List Record) (now : DateTime)
    (e : Event) :
    (storeOf M (L.map signalRow)).appendSignal now e =
      (SignalLog.append M L now e).map fun p ↦ (storeOf M (p.1.map signalRow), p.2) := by
  -- the signal recorded when nothing refuses it goes last
  have hinsert := insertNamed_signalRow (L.map signalRow)
    ⟨SignalLog.nextId L, { e with pair := normalizePair e.pair }, now⟩ (nextId_signalRows L).symm
  have hlast := placeRow_map_of_lt signalRow
    (a := ⟨SignalLog.nextId L, { e with pair := normalizePair e.pair }, now⟩)
    fun _ hk ↦ SignalLog.lt_nextId hk
  rw [nullFault_signalRow, hlast] at hinsert
  unfold Database.appendSignal SignalLog.append
  cases hl : e.levelId with
  | none =>
    simp only [hl] at hinsert
    simp only [Database.find_signals, bind, Except.bind, hinsert]
    -- a missing price is refused, the previous one first
    cases hp : isNaN e.prevPrice <;> cases hc : isNaN e.currentPrice <;>
      simp [throw, throwThe, MonadExceptOf.throw, Except.map, pure, Except.pure,
        Database.put_signals_storeOf, Record.returned, DateTime.wholeSecond]
  | some lid =>
    simp only [hl] at hinsert
    simp only [Database.find_signals, Database.find_levels, Table.require_withRows,
      levelTable_require_id, List.getD_cons_zero, any_matching_levelRows, bind, Except.bind,
      hinsert, Option.isNone_iff_eq_none]
    have hnone : LevelMap.lookup M lid = none ↔ (M.any fun x ↦ x.id == lid) = false := by
      rw [← Option.not_isSome_iff_eq_none, LevelMap.isSome_lookup, Bool.not_eq_true]
    -- the level named must exist; then a missing price is refused, the previous one first
    cases hany : M.any fun x ↦ x.id == lid
    · simp [hnone.mpr hany, throw, throwThe, MonadExceptOf.throw, Except.map, pure, Except.pure]
    · have hsome : LevelMap.lookup M lid ≠ none := fun h ↦ by simp [hnone.mp h] at hany
      cases hp : isNaN e.prevPrice <;> cases hc : isNaN e.currentPrice <;>
        simp [hsome, throw, throwThe, MonadExceptOf.throw, Except.map, pure, Except.pure,
          Database.put_signals_storeOf, Record.returned, DateTime.wholeSecond]

/-- Listing signals is listing the log. -/
theorem Database.signals_storeOf (M : List PriceLevel) {L : List Record} (hL : ∀ r ∈ L, r.Kept)
    (f : Filter) :
    (storeOf M (L.map signalRow)).signals f = .ok (SignalLog.listing L f) := by
  have hsub : ∀ r ∈ window (wrapSigned f.offset) (if f.limit == 0 then -1 else wrapSigned f.limit)
      ((L.filter f.passes).mergeSort Record.newer), r ∈ L := fun r hr ↦
    List.mem_of_mem_filter (List.mem_mergeSort.mp ((window_sublist _ _ _).subset hr))
  unfold Database.signals SignalLog.listing
  simp only [Database.find_signals, Table.require_withRows, signalTable_require_signalColumns,
    Database.pickedSignals_storeOf, bind, Except.bind, List.getD_cons_zero, List.getD_cons_succ]
  rw [← List.map_mergeSort (r := Record.newer), window_map,
    mapM_recordOfRow _ fun r hr ↦ hL r (hsub r hr)]
  · rfl
  · -- the store orders rows by the time text, then by the identifier
    intro a _ b _
    cases hab : compare (stampText a.event.time) (stampText b.event.time) <;>
      simp only [Record.newer, cell_signalTable, signalAffinities, signalRow,
        List.getElem?_cons_succ, List.getElem?_cons_zero, List.getD_cons_succ,
        List.getD_cons_zero, Value.loadAs_text, Value.loadAs_integer, Value.order, hab]

/-- Counting signals is counting what the filter passes in the log. -/
theorem Database.countSignals_storeOf (M : List PriceLevel) (L : List Record) (f : Filter) :
    (storeOf M (L.map signalRow)).countSignals f = .ok (SignalLog.count L f) := by
  simp only [Database.countSignals, Database.pickedSignals_storeOf, bind, Except.bind, pure,
    Except.pure, lift_ok, List.length_map, SignalLog.count]

end LevelCross.Store

namespace LevelCross

open LevelCross.Time LevelCross.Number LevelCross.Store

/-! ### Sessions on levels and signals -/

/-- A request on a store: one on its levels, recording an event at a time, or listing or
counting the signals a filter picks. -/
inductive StoreRequest where
  | level (r : LevelRequest)
  | append (e : Event) (now : DateTime)
  | list (f : Filter)
  | count (f : Filter)

/-- The answer to a request on a store. -/
inductive StoreReply where
  | level (a : LevelReply)
  | recorded (r : Record)
  | listed (rs : List Record)
  | counted (n : Nat)

/-- A request is made at a time the store's clock can give, on an event whose time a reading
can give. -/
def StoreRequest.onClock : StoreRequest → Bool
  | .level r => r.onClock
  | .append e now => e.time.isReading && now.isClockReading
  | .list _ => true
  | .count _ => true

/-- What a store holds: its levels, and its signals in the order they were recorded. -/
structure StoreContents where
  levels : List PriceLevel
  signals : List Record

namespace StoreContents

/-- Serve one request; a failed request changes nothing. -/
def serve (c : StoreContents) : StoreRequest → StoreContents × Except Error StoreReply
  | .level r =>
    (⟨(LevelMap.serve c.levels r).1, c.signals⟩, (LevelMap.serve c.levels r).2.map .level)
  | .append e now =>
    settle c .recorded
      ((SignalLog.append c.levels c.signals now e).map fun p ↦ (⟨c.levels, p.1⟩, p.2))
  | .list f => (c, .ok (.listed (SignalLog.listing c.signals f)))
  | .count f => (c, .ok (.counted (SignalLog.count c.signals f)))

/-- The store laid out from contents. -/
def store (c : StoreContents) : Database := storeOf c.levels (c.signals.map signalRow)

/-- The contents after a sequence of requests. -/
def after (c : StoreContents) (reqs : List StoreRequest) : StoreContents :=
  reqs.foldl (fun c r ↦ (c.serve r).1) c

/-- What every contents a store reaches satisfies: the levels keep their invariant, and every
signal is one the store can read back. -/
structure Inv (c : StoreContents) : Prop where
  levels : LevelMap.Inv c.levels
  signals : ∀ r ∈ c.signals, r.Kept

/-- Every level a recorded signal names is still there. -/
def Named (c : StoreContents) : Prop :=
  ∀ r ∈ c.signals, ∀ lid, r.event.levelId = some lid → (LevelMap.lookup c.levels lid).isSome

/-- Recording leaves the levels as they are. -/
theorem levels_serve_append (c : StoreContents) (e : Event) (now : DateTime) :
    (c.serve (.append e now)).1.levels = c.levels := by
  simp only [StoreContents.serve]
  cases SignalLog.append c.levels c.signals now e <;> rfl

/-- A signal of the log after a recording was there before, or it is the new one, recorded after
the level it names was found and its prices were found to be numbers. -/
theorem mem_serve_append {c : StoreContents} {e : Event} {now : DateTime} {s : Record}
    (hs : s ∈ (c.serve (.append e now)).1.signals) :
    s ∈ c.signals ∨
      (∀ lid, e.levelId = some lid → (LevelMap.lookup c.levels lid).isSome) ∧
        isNaN e.prevPrice = false ∧ isNaN e.currentPrice = false ∧
        s = ⟨SignalLog.nextId c.signals, { e with pair := normalizePair e.pair }, now⟩ := by
  simp only [StoreContents.serve] at hs
  cases h : SignalLog.append c.levels c.signals now e with
  | error err =>
    rw [h] at hs
    exact .inl hs
  | ok p =>
    obtain ⟨hlevel, hp, hcur, hL, -⟩ := SignalLog.append_eq_ok h
    simp only [h, settle, Except.map, hL, List.mem_append, List.mem_singleton] at hs
    exact hs.imp_right fun hnew ↦ ⟨hlevel, hp, hcur, hnew⟩

/-- Every request made at a clock reading keeps the invariant. -/
theorem Inv.serve {c : StoreContents} (hc : c.Inv) {r : StoreRequest} (hr : r.onClock = true) :
    (c.serve r).1.Inv := by
  cases r with
  | level r => exact ⟨hc.levels.serve hr, hc.signals⟩
  | append e now =>
    simp only [StoreRequest.onClock, Bool.and_eq_true] at hr
    refine ⟨(levels_serve_append c e now).symm ▸ hc.levels, fun s hs ↦ ?_⟩
    rcases mem_serve_append hs with hs | ⟨-, hp, hcur, rfl⟩
    · exact hc.signals s hs
    · exact ⟨hp, hcur, hr.1, hr.2⟩
  | list f => exact hc
  | count f => exact hc

/-- A level named by an identifier stays after any request on levels. -/
theorem isSome_lookup_serve {M : List PriceLevel} {lid : Int}
    (h : (LevelMap.lookup M lid).isSome) (r : LevelRequest) :
    (LevelMap.lookup (LevelMap.serve M r).1 lid).isSome := by
  rw [LevelMap.isSome_lookup, List.any_eq_true] at h ⊢
  obtain ⟨m, hm, hid⟩ := h
  obtain ⟨rest, hrest⟩ := LevelMap.ids_prefix_serve M r
  have hmem : m.id ∈ (LevelMap.serve M r).1.map (·.id) :=
    hrest ▸ List.mem_append_left _ (List.mem_map_of_mem hm)
  obtain ⟨k, hk, hkid⟩ := List.mem_map.mp hmem
  exact ⟨k, hk, by simpa [hkid] using hid⟩

/-- Every request keeps every named level. -/
theorem Named.serve {c : StoreContents} (hc : c.Named) (r : StoreRequest) :
    (c.serve r).1.Named := by
  cases r with
  | level r => exact fun s hs lid hl ↦ isSome_lookup_serve (hc s hs lid hl) r
  | append e now =>
    intro s hs lid hl
    rw [levels_serve_append]
    rcases mem_serve_append hs with hs | ⟨hlevel, -, -, rfl⟩
    · exact hc s hs lid hl
    · exact hlevel lid hl
  | list f => exact hc
  | count f => exact hc

/-- After any sequence of requests on an empty store, every level a recorded signal names is
one that fetching still finds. -/
theorem named_after (reqs : List StoreRequest) : (after ⟨[], []⟩ reqs).Named := by
  -- the run keeps `Named`, which the empty store has
  suffices h : ∀ c : StoreContents, c.Named → (c.after reqs).Named from
    h _ fun _ hs ↦ absurd hs List.not_mem_nil
  induction reqs with
  | nil => exact fun c hc ↦ hc
  | cons r reqs ih => exact fun c hc ↦ ih _ (hc.serve r)

end StoreContents

end LevelCross

namespace LevelCross.Store

/-- Serve one request on a store; a failed request leaves it as it was. -/
def Database.serve (db : Database) : StoreRequest → Database × Except Error StoreReply
  | .level r => ((db.serveLevel r).1, (db.serveLevel r).2.map .level)
  | .append e now => settle db .recorded (db.appendSignal now e)
  | .list f => (db, .listed <$> db.signals f)
  | .count f => (db, .counted <$> db.countSignals f)

/-- A store laid out from contents serves a request as the contents do. -/
theorem Database.serve_store {c : StoreContents} (hc : c.Inv) (r : StoreRequest) :
    c.store.serve r = Prod.map StoreContents.store id (c.serve r) := by
  cases r with
  | level r =>
    simp only [Database.serve, StoreContents.store, Database.serveLevel_storeOf _ hc.levels]
    rfl
  | append e now =>
    simp only [Database.serve, StoreContents.store, StoreContents.serve,
      Database.appendSignal_storeOf]
    cases SignalLog.append c.levels c.signals now e <;> rfl
  | list f =>
    simp only [Database.serve, StoreContents.store, Database.signals_storeOf _ hc.signals]
    rfl
  | count f =>
    simp only [Database.serve, StoreContents.store, Database.countSignals_storeOf]
    rfl

end LevelCross.Store

namespace LevelCross

open LevelCross.Store LevelCross.Time LevelCross.Number

/-- From the schema set up on an empty store, every sequence of requests on levels and signals,
each made at a reading of the clock on an event of a readable time, gets the answers of the
levels and the log of signals that start empty. -/
theorem storeAnswers_as_contents (reqs : List StoreRequest)
    (hreqs : ∀ r ∈ reqs, r.onClock = true) :
    ∃ db added, Database.initSchema {} = .ok (db, added) ∧
      runReplies Database.serve db reqs = runReplies StoreContents.serve ⟨[], []⟩ reqs := by
  refine ⟨storeOf [] [], [], initSchema_empty, ?_⟩
  -- the store stays the layout of the contents, and the contents keep their invariant
  refine runReplies_eq_of_simulation _ _
    (fun (db : Database) (c : StoreContents) ↦ db = c.store ∧ c.Inv)
    (fun r ↦ r.onClock = true) ?_ reqs _ ⟨[], []⟩
    ⟨rfl, ⟨⟨List.Pairwise.nil, by simp⟩, by simp⟩⟩ hreqs
  rintro db c r ⟨rfl, hc⟩ hr
  rw [Database.serve_store hc]
  exact ⟨⟨rfl, hc.serve hr⟩, rfl⟩

/-- A session that adds a level, records a crossing of it and a surge in a leap second, then
lists and counts. -/
theorem storeAnswers_as_contents_of_session :
    (∀ r ∈ [StoreRequest.level (.add ⟨"BTC/USDT", 100.0, .up, false⟩ ⟨2024, 4, 1, 9, 0, 0, 0⟩),
        .append
          { pair := "btc/usdt", kind := .crossUp, levelId := some 1, levelValue := some 100.0,
            prevPrice := 99.0, currentPrice := 101.0, time := ⟨2024, 4, 1, 10, 0, 0, 500000000⟩ }
          ⟨2024, 4, 1, 10, 0, 1, 0⟩,
        .append
          { pair := "BTC/USDT", kind := .atrSurge, prevPrice := 99.0, currentPrice := 101.0,
            atrValue := some 2.5, time := ⟨2016, 12, 31, 23, 59, 59, 1000000000⟩ }
          ⟨2024, 4, 1, 10, 0, 2, 0⟩,
        .list { pair := some "btc/usdt", limit := 1 }, .count {}], r.onClock = true) ∧
    ∃ db added, Database.initSchema {} = .ok (db, added) ∧
      runReplies Database.serve db
        [StoreRequest.level (.add ⟨"BTC/USDT", 100.0, .up, false⟩ ⟨2024, 4, 1, 9, 0, 0, 0⟩),
          .append
            { pair := "btc/usdt", kind := .crossUp, levelId := some 1, levelValue := some 100.0,
              prevPrice := 99.0, currentPrice := 101.0, time := ⟨2024, 4, 1, 10, 0, 0, 500000000⟩ }
            ⟨2024, 4, 1, 10, 0, 1, 0⟩,
          .append
            { pair := "BTC/USDT", kind := .atrSurge, prevPrice := 99.0, currentPrice := 101.0,
              atrValue := some 2.5, time := ⟨2016, 12, 31, 23, 59, 59, 1000000000⟩ }
            ⟨2024, 4, 1, 10, 0, 2, 0⟩,
          .list { pair := some "btc/usdt", limit := 1 }, .count {}] =
      runReplies StoreContents.serve ⟨[], []⟩
        [StoreRequest.level (.add ⟨"BTC/USDT", 100.0, .up, false⟩ ⟨2024, 4, 1, 9, 0, 0, 0⟩),
          .append
            { pair := "btc/usdt", kind := .crossUp, levelId := some 1, levelValue := some 100.0,
              prevPrice := 99.0, currentPrice := 101.0, time := ⟨2024, 4, 1, 10, 0, 0, 500000000⟩ }
            ⟨2024, 4, 1, 10, 0, 1, 0⟩,
          .append
            { pair := "BTC/USDT", kind := .atrSurge, prevPrice := 99.0, currentPrice := 101.0,
              atrValue := some 2.5, time := ⟨2016, 12, 31, 23, 59, 59, 1000000000⟩ }
            ⟨2024, 4, 1, 10, 0, 2, 0⟩,
          .list { pair := some "btc/usdt", limit := 1 }, .count {}] :=
  ⟨by decide, storeAnswers_as_contents _ (by decide)⟩

/-- An average true range that is NaN is recorded, and recording answers it, but the listing
reads it back as missing: the real column keeps a NaN as nothing. -/
theorem listing_loses_nan_atrValue :
    ∃ db added db' r rs, Database.initSchema {} = .ok (db, added) ∧
      db.appendSignal ⟨2999, 12, 31, 23, 59, 59, 0⟩
          { pair := "BTC/USDT", kind := .atrSurge, prevPrice := 99.0, currentPrice := 101.0,
            atrValue := some (Float.ofBits 0x7FF8000000000000),
            time := ⟨2024, 4, 1, 10, 0, 0, 0⟩ } = .ok (db', r) ∧
      db'.signals {} = .ok rs ∧
      r.event.atrValue.map isNaN = some true ∧ rs.map (·.event.atrValue) = [none] := by
  let e : Event :=
    { pair := "BTC/USDT", kind := .atrSurge, prevPrice := 99.0, currentPrice := 101.0,
      atrValue := some (Float.ofBits 0x7FF8000000000000), time := ⟨2024, 4, 1, 10, 0, 0, 0⟩ }
  let entry : Record := ⟨1, { e with pair := normalizePair e.pair }, ⟨2999, 12, 31, 23, 59, 59, 0⟩⟩
  have hkept : ∀ s ∈ [entry], s.Kept := by
    intro s hs
    rw [List.mem_singleton.mp hs]
    exact ⟨by decide, by decide, by decide, by decide⟩
  have happend : SignalLog.append [] [] ⟨2999, 12, 31, 23, 59, 59, 0⟩ e = .ok ([entry], entry.returned) := by
    simp [SignalLog.append, SignalLog.nextId, e, entry, pure, Except.pure,
      show isNaN (99.0 : Float) = false by decide, show isNaN (101.0 : Float) = false by decide]
  refine ⟨storeOf [] [], [], storeOf [] ([entry].map signalRow), entry.returned, [entry.listed],
    initSchema_empty, ?_, ?_, by decide, ?_⟩
  · rw [show storeOf [] [] = storeOf [] (([] : List Record).map signalRow) from rfl,
      Database.appendSignal_storeOf, happend]
    rfl
  · rw [Database.signals_storeOf _ hkept]
    simp [SignalLog.listing, Filter.passes, window, wrapSigned]
  · simp [Record.listed, keptOption, entry, e, show isNaN (Float.ofBits 0x7FF8000000000000) = true by decide]

end LevelCross
