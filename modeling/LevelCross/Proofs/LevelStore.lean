import Mathlib
import LevelCross.Proofs.LevelRows

/-!
# The store of levels is a finite map

Over any sequence of requests on levels, a store set up by `Database.initSchema` answers as a
list of levels kept in the order they were added, read as a finite map from identifiers: a new
level takes one more than the largest identifier issued, an update or a deactivation changes
the level of its identifier in place, a failed request changes nothing, and no level is ever
removed.

* `LevelMap.serve`: the finite map, request by request.
* `Database.addLevel_storeOf`, `Database.updateLevel_storeOf`,
  `Database.deactivateLevel_storeOf`, `Database.level?_storeOf`,
  `Database.activeLevels_storeOf`: each operation on a store laid out from levels is the
  map's operation, seen through the layout.
* `LevelMap.Inv.serve`: identifiers keep rising and every level stays kept.
* `levelStore_answers_as_levelMap`: from the schema set up on an empty store, every sequence
  of requests made at clock readings gets the map's answers.
-/

namespace LevelCross

open LevelCross.Time

/-! ### Requests and the finite map -/

/-- A request on the levels of a store; a level is added at the time given with it. -/
inductive LevelRequest where
  | add (l : NewLevel) (now : DateTime)
  | update (id : Int) (u : LevelUpdate)
  | deactivate (id : Int)
  | get (id : Int)
  | list (pair : Option String)

/-- The answer to a request on levels. -/
inductive LevelReply where
  | level (l : PriceLevel)
  | deactivated
  | found (l : Option PriceLevel)
  | listed (ls : List PriceLevel)

/-- A request is made at a time the store's clock can give. -/
def LevelRequest.onClock : LevelRequest → Bool
  | .add _ now => now.isClockReading
  | _ => true

/-- The state after an operation and its answer: the operation's state when it succeeds, the
state before it when it fails. -/
def settle {σ α β : Type} (s : σ) (f : α → β) : Except Error (σ × α) → σ × Except Error β
  | .ok (s', a) => (s', .ok (f a))
  | .error e => (s, .error e)

/-- Settling commutes with a view of the states. -/
theorem settle_map {σ τ α β : Type} (g : σ → τ) (s : σ) (f : α → β) (r : Except Error (σ × α)) :
    settle (g s) f (r.map fun p ↦ (g p.1, p.2)) = Prod.map g id (settle s f r) := by
  cases r <;> rfl

/-- The answers to a list of requests, each served in the state the ones before it left. -/
def runReplies {σ ρ α : Type} (serve : σ → ρ → σ × α) : σ → List ρ → List α
  | _, [] => []
  | s, r :: rs => (serve s r).2 :: runReplies serve (serve s r).1 rs

/-- Two machines related at the start give the same answers to requests that keep the relation
and are answered alike in related states. -/
theorem runReplies_eq_of_simulation {σ τ ρ α : Type} (f : σ → ρ → σ × α) (g : τ → ρ → τ × α)
    (R : σ → τ → Prop) (P : ρ → Prop)
    (hstep : ∀ s t r, R s t → P r → R (f s r).1 (g t r).1 ∧ (f s r).2 = (g t r).2) :
    ∀ (rs : List ρ) (s : σ) (t : τ), R s t → (∀ r ∈ rs, P r) →
      runReplies f s rs = runReplies g t rs := by
  intro rs
  induction rs with
  | nil => intro _ _ _ _; rfl
  | cons r rs ih =>
    intro s t hst hP
    obtain ⟨hR, hanswer⟩ := hstep s t r hst (hP r (List.mem_cons_self ..))
    rw [runReplies, runReplies, hanswer,
      ih _ _ hR fun r' hr' ↦ hP r' (List.mem_cons_of_mem _ hr')]

namespace LevelMap

/-- The level of an identifier. -/
def lookup (M : List PriceLevel) (id : Int) : Option PriceLevel := M.find? (·.id == id)

/-- The identifier a new level takes: one more than the largest issued, or one. -/
def nextId (M : List PriceLevel) : Int := (M.map (·.id)).max?.getD 0 + 1

/-- The active levels, of one pair when one is given, after normalizing it. -/
def active (M : List PriceLevel) (pair : Option String) : List PriceLevel :=
  M.filter fun m ↦ m.active && pair.all fun p ↦ m.pair == normalizePair p

/-- Add a checked level at `now`, active, under the next identifier. -/
def add (M : List PriceLevel) (now : DateTime) (l : NewLevel) :
    Except Error (List PriceLevel × PriceLevel) := do
  l.validate
  let m : PriceLevel :=
    { id := nextId M, pair := l.pair, value := l.value, direction := l.direction.name,
      confirmClose := l.confirmClose, active := true, createdAt := now }
  return (M ++ [m], m)

/-- Apply a checked update to the level of an identifier. -/
def update (M : List PriceLevel) (id : Int) (u : LevelUpdate) :
    Except Error (List PriceLevel × PriceLevel) := do
  u.validate
  let some old := lookup M id | .error (.levelNotFound id)
  return (M.map fun k ↦ if k.id == id then u.apply k else k, u.apply old)

/-- Mark the level of an identifier inactive. -/
def deactivate (M : List PriceLevel) (id : Int) : Except Error (List PriceLevel) :=
  match lookup M id with
  | some _ => .ok (M.map fun k ↦ if k.id == id then { k with active := false } else k)
  | none => .error (.levelNotFound id)

/-- Serve one request. -/
def serve (M : List PriceLevel) : LevelRequest → List PriceLevel × Except Error LevelReply
  | .add l now => settle M .level (add M now l)
  | .update id u => settle M .level (update M id u)
  | .deactivate id => settle M (fun _ ↦ .deactivated) ((deactivate M id).map (·, ()))
  | .get id => (M, .ok (.found (lookup M id)))
  | .list pair => (M, .ok (.listed (active M pair)))

/-- What every list of levels a store reaches satisfies: identifiers rise in the order the
levels were added, and every level is kept. -/
structure Inv (M : List PriceLevel) : Prop where
  rising : M.Pairwise fun a b ↦ a.id < b.id
  kept : ∀ m ∈ M, m.Kept

/-- A new identifier is above every identifier issued. -/
theorem lt_nextId {M : List PriceLevel} {m : PriceLevel} (hm : m ∈ M) : m.id < nextId M := by
  unfold nextId
  cases h : (M.map (·.id)).max? with
  | none => simp_all
  | some a =>
    have hle := (List.max?_eq_some_iff.mp h).2 m.id (List.mem_map_of_mem hm)
    simp only [Option.getD_some]
    omega

/-- In a list of rising identifiers, an identifier names one level. -/
theorem eq_of_lookup {M : List PriceLevel} (hM : M.Pairwise fun a b ↦ a.id < b.id) {id : Int}
    {old k : PriceLevel} (hl : lookup M id = some old) (hk : k ∈ M) (hid : k.id = id) :
    k = old := by
  have hold := List.mem_of_find?_eq_some hl
  have hoid : old.id = id := by simpa using List.find?_some hl
  have hnodup : (M.map (·.id)).Nodup := by
    rw [List.Nodup, List.pairwise_map]
    exact hM.imp Int.ne_of_lt
  exact List.inj_on_of_nodup_map hnodup hk hold (hid.trans hoid.symm)

theorem lookup_eq_none_iff {M : List PriceLevel} {id : Int} :
    lookup M id = none ↔ (M.filter (·.id == id)).length = 0 := by
  simp [lookup, List.find?_eq_none, List.filter_eq_nil_iff]

/-- Levels rewritten in place, each keeping its identifier and staying kept, keep the
invariant. -/
theorem Inv.map {M : List PriceLevel} (hM : Inv M) (f : PriceLevel → PriceLevel)
    (hid : ∀ k, (f k).id = k.id) (hkept : ∀ k ∈ M, (f k).Kept) : Inv (M.map f) where
  rising := by
    rw [List.pairwise_map]
    exact hM.rising.imp fun {a b} h ↦ by rw [hid, hid]; exact h
  kept := by
    intro m hm
    obtain ⟨k, hk, rfl⟩ := List.mem_map.mp hm
    exact hkept k hk

/-- A kept level added under the next identifier keeps the invariant. -/
theorem Inv.append {M : List PriceLevel} (hM : Inv M) {m : PriceLevel} (hid : m.id = nextId M)
    (hm : m.Kept) : Inv (M ++ [m]) where
  rising := by
    refine List.pairwise_append.mpr ⟨hM.rising, List.pairwise_singleton _ _, ?_⟩
    intro a ha b hb
    rw [List.mem_singleton.mp hb, hid]
    exact lt_nextId ha
  kept := by
    intro k hk
    rcases List.mem_append.mp hk with hk | hk
    · exact hM.kept k hk
    · rw [List.mem_singleton.mp hk]
      exact hm

theorem validatePrice_of_validate {l : NewLevel} (h : l.validate = .ok ()) :
    validatePrice l.value = .ok () := by
  unfold NewLevel.validate at h
  split at h
  · cases h
  · exact h

theorem validatePrice_apply {u : LevelUpdate} (hu : u.validate = .ok ()) {k : PriceLevel}
    (hk : validatePrice k.value = .ok ()) : validatePrice (u.apply k).value = .ok () := by
  unfold LevelUpdate.validate at hu
  unfold LevelUpdate.apply
  cases h : u.value with
  | none => simpa using hk
  | some v => simpa [h] using hu

/-- What a request can do to the levels: leave them, add a level of a valid price made at the
time of the request under the next identifier, or rewrite levels in place, keeping each one's
identifier and each kept level kept. -/
theorem serve_cases (M : List PriceLevel) (r : LevelRequest) :
    (serve M r).1 = M ∨
      (∃ l now m, r = .add l now ∧ (serve M r).1 = M ++ [m] ∧ m.id = nextId M ∧
        validatePrice m.value = .ok () ∧ m.createdAt = now) ∨
      (∃ f : PriceLevel → PriceLevel, (∀ k, (f k).id = k.id) ∧ (∀ k, k.Kept → (f k).Kept) ∧
        (serve M r).1 = M.map f) := by
  cases r with
  | add l now =>
    simp only [LevelMap.serve, LevelMap.add]
    cases hv : l.validate with
    | error e => exact .inl rfl
    | ok _ => exact .inr (.inl ⟨l, now, _, rfl, rfl, rfl, validatePrice_of_validate hv, rfl⟩)
  | update id u =>
    simp only [LevelMap.serve, LevelMap.update]
    cases hv : u.validate with
    | error e => exact .inl rfl
    | ok _ =>
      cases lookup M id with
      | none => exact .inl rfl
      | some old =>
        -- the level updated keeps its time, and its new price passed the update's check
        refine .inr (.inr ⟨_, fun k ↦ by split <;> rfl, fun k hk ↦ ?_, rfl⟩)
        split
        · exact ⟨validatePrice_apply hv hk.price, hk.clock⟩
        · exact hk
  | deactivate id =>
    simp only [LevelMap.serve, LevelMap.deactivate]
    cases lookup M id with
    | none => exact .inl rfl
    | some _ =>
      refine .inr (.inr ⟨_, fun k ↦ by split <;> rfl, fun k hk ↦ ?_, rfl⟩)
      split
      · exact ⟨hk.price, hk.clock⟩
      · exact hk
  | get id => exact .inl rfl
  | list pair => exact .inl rfl

/-- Every request made at a clock reading keeps the invariant. -/
theorem Inv.serve {M : List PriceLevel} (hM : Inv M) {r : LevelRequest} (hr : r.onClock = true) :
    Inv (serve M r).1 := by
  rcases serve_cases M r with h | ⟨l, now, m, rfl, h, hid, hprice, hnow⟩ | ⟨f, hid, hkept, h⟩
  · rw [h]
    exact hM
  · rw [h]
    exact hM.append hid ⟨hprice, hnow ▸ hr⟩
  · rw [h]
    exact hM.map f hid fun k hk ↦ hkept k (hM.kept k hk)

/-- No request removes a level or changes an identifier: the identifiers after it extend those
before it. -/
theorem ids_prefix_serve (M : List PriceLevel) (r : LevelRequest) :
    M.map (·.id) <+: (serve M r).1.map (·.id) := by
  rcases serve_cases M r with h | ⟨-, -, m, -, h, -⟩ | ⟨f, hid, -, h⟩
  · rw [h]
  · rw [h, List.map_append]
    exact List.prefix_append _ _
  · have hids : M.map ((·.id) ∘ f) = M.map (·.id) := List.map_congr_left fun k _ ↦ hid k
    rw [h, List.map_map, hids]

end LevelMap

end LevelCross

namespace LevelCross.Store

open LevelCross.Time LevelCross.Number

/-! ### Each operation through the layout -/

section Layout

variable {M : List PriceLevel} (S : List Row)

theorem nextId_levelRows (M : List PriceLevel) :
    ({ levelTable with rows := M.map levelRow } : Table).nextId = LevelMap.nextId M := by
  unfold Table.nextId LevelMap.nextId
  rw [List.map_map, show Row.id ∘ levelRow = PriceLevel.id from rfl]
  cases (M.map PriceLevel.id).max? <;> simp

/-- Fetching a level is looking it up. -/
theorem Database.level?_storeOf (hM : ∀ m ∈ M, m.Kept) (id : Int) :
    (storeOf M S).level? id = .ok (LevelMap.lookup M id) := by
  have hpick : (({ levelTable with rows := M.map levelRow } : Table).matching 0 (.int id)) ∘
      levelRow = (·.id == id) := funext fun k ↦ matching_id _ k id
  simp only [Database.level?, Database.find_levels, Table.require_withRows,
    levelTable_require_levelColumns, bind, Except.bind, List.getD_cons_zero, List.find?_map, hpick]
  cases h : M.find? (·.id == id) with
  | none => simp [LevelMap.lookup, h, pure, Except.pure]
  | some m =>
    have hm := hM m (List.mem_of_find?_eq_some h)
    simp [levelOfRow_levelRow _ hm, LevelMap.lookup, h, Functor.map, Except.map]

/-- Listing the active levels is filtering the map. -/
theorem Database.activeLevels_storeOf (hM : LevelMap.Inv M) (pair : Option String) :
    (storeOf M S).activeLevels pair = .ok (LevelMap.active M pair) := by
  have hsub : LevelMap.active M pair ⊆ M := fun _ h ↦ List.mem_of_mem_filter h
  have hread := mapM_levelOfRow (M.map levelRow) fun m hm ↦ hM.kept m (hsub hm)
  have hsorted := sortedBy_levelRows (M.map levelRow) (hM.rising.filter
    fun m ↦ m.active && pair.all fun p ↦ m.pair == normalizePair p)
  -- the pair is matched only when one is given
  cases pair <;>
    simp only [Database.activeLevels, Database.find_levels, Table.require_withRows,
      levelTable_require_levelColumns, bind, Except.bind, List.getD_cons_zero,
      List.getD_cons_succ, List.filter_map, Function.comp_def, matching_active, matching_pair,
      Bool.and_true, LevelMap.active, Option.all_none, Option.all_some] at hread hsorted ⊢ <;>
    rw [hsorted, hread] <;> rfl

/-- Adding a level is adding it to the map. -/
theorem Database.addLevel_storeOf (now : DateTime) (l : NewLevel) :
    (storeOf M S).addLevel now l = (LevelMap.add M now l).map fun p ↦ (storeOf p.1 S, p.2) := by
  unfold Database.addLevel LevelMap.add
  cases hv : l.validate with
  | error e => rfl
  | ok u =>
    let m : PriceLevel :=
      { id := LevelMap.nextId M, pair := l.pair, value := l.value, direction := l.direction.name,
        confirmClose := l.confirmClose, active := true, createdAt := now }
    have hinsert := insertNamed_levelRow (M.map levelRow) m (nextId_levelRows M).symm rfl
    have hnan : isNaN m.value = false := isNaN_of_validatePrice (LevelMap.validatePrice_of_validate hv)
    have hlast : Table.placeRow (levelRow m) (M.map levelRow) = (M ++ [m]).map levelRow :=
      placeRow_map_of_lt levelRow fun _ hk ↦ LevelMap.lt_nextId hk
    rw [nullFault_levelRow, hnan, if_neg Bool.false_ne_true, hlast] at hinsert
    simp only [Database.find_levels, bind, Except.bind] at hinsert ⊢
    rw [hinsert]
    simp only [lift_ok, pure, Except.pure, Except.map, Database.put_storeOf]
    rfl

/-- The rows an update of the level `old` rewrites are the rows of the map updated in place. -/
theorem map_update_levelRows (hM : M.Pairwise fun a b ↦ a.id < b.id) {id : Int} {old : PriceLevel}
    (hl : LevelMap.lookup M id = some old) (u : LevelUpdate) (R : List Row) :
    (M.map levelRow).map (fun r ↦
        if ({ levelTable with rows := R } : Table).matching 0 (.int id) r then
          ({ levelTable with rows := R } : Table).setCells [(2, .ofFloat (u.apply old).value),
            (3, .text (u.apply old).direction), (6, flagValue (u.apply old).confirmClose)] r
        else r) =
      (M.map fun k ↦ if k.id == id then u.apply k else k).map levelRow := by
  rw [List.map_map, List.map_map]
  apply List.map_congr_left
  intro k hk
  by_cases hp : k.id = id
  · obtain rfl := LevelMap.eq_of_lookup hM hl hk hp
    have hb : (k.id == id) = true := beq_iff_eq.mpr hp
    simp only [Function.comp_apply, matching_id, hb, if_true, setCells_update]
    rfl
  · simp [matching_id, hp]

/-- The rows a deactivation rewrites are the rows of the map deactivated in place. -/
theorem map_deactivate_levelRows (id : Int) (R : List Row) :
    (M.map levelRow).map (fun r ↦
        if ({ levelTable with rows := R } : Table).matching 0 (.int id) r then
          ({ levelTable with rows := R } : Table).setCells [(5, .int 0)] r
        else r) =
      (M.map fun k ↦ if k.id == id then { k with active := false } else k).map levelRow := by
  rw [List.map_map, List.map_map]
  apply List.map_congr_left
  intro k _
  by_cases hp : k.id = id <;> simp [matching_id, hp, setCells_deactivate]

/-- Updating a level is updating it in the map. -/
theorem Database.updateLevel_storeOf (hM : LevelMap.Inv M) (id : Int) (u : LevelUpdate) :
    (storeOf M S).updateLevel id u = (LevelMap.update M id u).map fun p ↦ (storeOf p.1 S, p.2) := by
  unfold Database.updateLevel LevelMap.update
  cases hv : u.validate with
  | error e => rfl
  | ok _ =>
    simp only [bind, Except.bind, Database.level?_storeOf S hM.kept]
    cases hl : LevelMap.lookup M id with
    | none => rfl
    | some old =>
      have hold := hM.kept old (List.mem_of_find?_eq_some hl)
      simp only [Database.find_levels, Table.require_withRows, levelTable_require_changes,
        levelTable_require_id, List.zip_cons_cons, List.zip_nil_right, List.getD_cons_zero]
      rw [Table.update_eq_ok]
      · simp only [map_update_levelRows hM.rising hl, lift_ok, pure, Except.pure, Except.map,
          Database.put_storeOf]
      · -- only the row of `old` is picked, and its new price is valid
        intro r hr hp
        obtain ⟨k, hk, rfl⟩ := List.mem_map.mp hr
        rw [matching_id, beq_iff_eq] at hp
        obtain rfl := LevelMap.eq_of_lookup hM.rising hl hk hp
        rw [setCells_update, nullFault_levelRow,
          isNaN_of_validatePrice (LevelMap.validatePrice_apply hv hold.price)]
        rfl

/-- Deactivating a level is deactivating it in the map. -/
theorem Database.deactivateLevel_storeOf (hM : LevelMap.Inv M) (id : Int) :
    (storeOf M S).deactivateLevel id = (LevelMap.deactivate M id).map fun M' ↦ storeOf M' S := by
  unfold Database.deactivateLevel LevelMap.deactivate
  simp only [Database.find_levels, Table.require_withRows, levelTable_require_active,
    levelTable_require_id, List.zip_cons_cons, List.zip_nil_right, List.getD_cons_zero, bind,
    Except.bind]
  rw [Table.update_eq_ok]
  · have hcount : ((M.map levelRow).filter
        (({ levelTable with rows := M.map levelRow } : Table).matching 0 (.int id))).length =
        (M.filter (·.id == id)).length := by
      rw [List.filter_map, List.length_map]
      congr 2
      funext k
      exact matching_id _ k id
    simp only [lift_ok, map_deactivate_levelRows, hcount]
    cases hl : LevelMap.lookup M id with
    | none =>
      rw [LevelMap.lookup_eq_none_iff.mp hl]
      rfl
    | some old =>
      have hne : (M.filter (·.id == id)).length ≠ 0 := fun h ↦
        absurd (LevelMap.lookup_eq_none_iff.mpr h) (by simp [hl])
      rw [if_neg (by simpa using hne)]
      simp only [pure, Except.pure, Except.map, Database.put_storeOf]
  · -- a deactivated level keeps its valid price
    intro r hr _
    obtain ⟨k, hk, rfl⟩ := List.mem_map.mp hr
    rw [setCells_deactivate, nullFault_levelRow,
      isNaN_of_validatePrice (hM.kept k hk).price]
    rfl

end Layout

/-! ### Whole sessions -/

/-- Serve one request on levels; a failed request leaves the store as it was. -/
def Database.serveLevel (db : Database) : LevelRequest → Database × Except Error LevelReply
  | .add l now => settle db .level (db.addLevel now l)
  | .update id u => settle db .level (db.updateLevel id u)
  | .deactivate id => settle db (fun _ ↦ .deactivated) ((db.deactivateLevel id).map (·, ()))
  | .get id => (db, .found <$> db.level? id)
  | .list pair => (db, .listed <$> db.activeLevels pair)

/-- A store laid out from levels serves a request as the map does. -/
theorem Database.serveLevel_storeOf {M : List PriceLevel} (S : List Row) (hM : LevelMap.Inv M)
    (r : LevelRequest) :
    (storeOf M S).serveLevel r = Prod.map (storeOf · S) id (LevelMap.serve M r) := by
  cases r with
  | add l now =>
    rw [Database.serveLevel, Database.addLevel_storeOf, settle_map (storeOf · S) M]
    rfl
  | update id u =>
    rw [Database.serveLevel, Database.updateLevel_storeOf S hM, settle_map (storeOf · S) M]
    rfl
  | deactivate id =>
    rw [Database.serveLevel, LevelMap.serve, Database.deactivateLevel_storeOf S hM]
    cases LevelMap.deactivate M id <;> rfl
  | get id =>
    rw [Database.serveLevel, Database.level?_storeOf S hM.kept]
    rfl
  | list pair =>
    rw [Database.serveLevel, Database.activeLevels_storeOf S hM]
    rfl

end LevelCross.Store

namespace LevelCross

open LevelCross.Store LevelCross.Time

/-- From the schema set up on an empty store, every sequence of requests on levels, each level
added at a reading of the clock, gets the answers of the finite map that starts empty. -/
theorem levelStore_answers_as_levelMap (reqs : List LevelRequest)
    (hreqs : ∀ r ∈ reqs, r.onClock = true) :
    ∃ db added, Database.initSchema {} = .ok (db, added) ∧
      runReplies Database.serveLevel db reqs = runReplies LevelMap.serve [] reqs := by
  refine ⟨storeOf [] [], [], initSchema_empty, ?_⟩
  -- the store stays the layout of the map, and the map keeps its invariant
  refine runReplies_eq_of_simulation _ _ (fun db M ↦ db = storeOf M [] ∧ LevelMap.Inv M)
    (fun r ↦ r.onClock = true) ?_ reqs _ _ ⟨rfl, ⟨List.Pairwise.nil, by simp⟩⟩ hreqs
  rintro db M r ⟨rfl, hM⟩ hr
  rw [Database.serveLevel_storeOf [] hM]
  exact ⟨⟨rfl, hM.serve hr⟩, rfl⟩

/-- Two levels added, one updated, one deactivated, then fetched and listed. -/
theorem levelStore_answers_as_levelMap_of_session :
    (∀ r ∈ [LevelRequest.add ⟨"BTC/USDT", 100.0, .up, false⟩ ⟨2024, 1, 31, 23, 59, 59, 0⟩,
        .add ⟨"ETH/USDT", 2.5, .wickBoth, true⟩ ⟨2024, 2, 29, 0, 0, 0, 0⟩,
        .update 1 { value := some 101.0 }, .deactivate 2, .get 2, .list (some "btc/usdt")],
      r.onClock = true) ∧
    ∃ db added, Database.initSchema {} = .ok (db, added) ∧
      runReplies Database.serveLevel db
        [.add ⟨"BTC/USDT", 100.0, .up, false⟩ ⟨2024, 1, 31, 23, 59, 59, 0⟩,
          .add ⟨"ETH/USDT", 2.5, .wickBoth, true⟩ ⟨2024, 2, 29, 0, 0, 0, 0⟩,
          .update 1 { value := some 101.0 }, .deactivate 2, .get 2, .list (some "btc/usdt")] =
      runReplies LevelMap.serve []
        [.add ⟨"BTC/USDT", 100.0, .up, false⟩ ⟨2024, 1, 31, 23, 59, 59, 0⟩,
          .add ⟨"ETH/USDT", 2.5, .wickBoth, true⟩ ⟨2024, 2, 29, 0, 0, 0, 0⟩,
          .update 1 { value := some 101.0 }, .deactivate 2, .get 2, .list (some "btc/usdt")] :=
  ⟨by decide, levelStore_answers_as_levelMap _ (by decide)⟩

end LevelCross
