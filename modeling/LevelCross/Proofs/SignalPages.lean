import Mathlib
import LevelCross.Web.Api
import LevelCross.Proofs.SignalStore
import LevelCross.Proofs.Pagination

/-!
# Pages of the signal history

A listing of signals over the web reads its filter from the query, counts the signals the filter
picks, and asks the store for one page of them: with a positive `limit`, the newest `limit` as a
single page; otherwise the page `page` of `per_page` rows (twenty when not given), clamped into
range by `Pagination.make`. The store cuts the listing by its offset and limit as 64-bit signed
words, so the page asked for is only the page listed when neither wraps.

Main statements:

* `Database.signals_of_conditions`: a listing with an offset and a limit is the window of the full
  listing of the same conditions.
* `window_eq_take_drop`: below `2^63` rows the window is the plain drop and take, for every limit
  below `2^64`; a limit past `2^63` reads as no limit and keeps what the take would keep.
* `readQuery_fitsWord`: every count of a query fits 64 bits.
* `serve_get_signals_pages`: the answer to a GET of the signal listing, for every store whose
  count and full listing succeed, is the page `ListedPage` describes.

The count is assumed below `2^63`: the row numbers of a table are signed 64-bit words.
-/

namespace LevelCross.Number

/-- A decimal read under a non-negative upper bound is at most that bound. -/
theorem readInt_le {lo hi : Int} {s : String} {v : Int} (h : readInt lo hi s = .ok v)
    (hhi : 0 ≤ hi) : v ≤ hi := by
  unfold readInt at h
  simp only at h
  repeat' split at h
  -- every answer is the value of the leading digits, negated after a minus sign, and passed
  -- the upper bound when not negated
  all_goals simp only [Except.ok.injEq, reduceCtorEq] at h
  all_goals subst h; simp_all
  all_goals omega

/-- An unsigned 64-bit integer read from text is below `2^64`. -/
theorem readU64_lt {s : String} {n : Nat} (h : readU64 s = .ok n) : n < 2 ^ 64 := by
  obtain ⟨v, hv, rfl⟩ : ∃ v, readInt 0 (Nat.pow 2 64 - 1) s = .ok v ∧ v.toNat = n := by
    unfold readU64 at h
    cases hv : readInt 0 (Nat.pow 2 64 - 1) s with
    | error e => rw [hv] at h; cases h
    | ok v => rw [hv] at h; exact ⟨v, rfl, (Except.ok.inj h)⟩
  have hle := readInt_le hv (by decide)
  simp only [Nat.pow_eq] at hle
  omega

end LevelCross.Number

namespace LevelCross.Store

open LevelCross.Time

/-- A successful pass over a nonempty list succeeds on its head and on its tail. -/
theorem mapM_cons_eq_ok {α β ε : Type} {g : α → Except ε β} {x : α} {xs : List α} {R : List β}
    (h : (x :: xs).mapM g = .ok R) : ∃ r R', g x = .ok r ∧ xs.mapM g = .ok R' ∧ R = r :: R' := by
  rw [List.mapM_cons] at h
  cases hx : g x with
  | error e => simp [hx, bind, Except.bind] at h
  | ok r =>
    cases hxs : xs.mapM g with
    | error e => simp [hx, hxs, bind, Except.bind] at h
    | ok R' =>
      simp only [hx, hxs, bind, Except.bind, pure, Except.pure, Except.ok.injEq] at h
      exact ⟨r, R', rfl, rfl, h.symm⟩

/-- Where a pass over a whole list succeeds, a pass over what follows its first `n` entries gives
what follows the first `n` results. -/
theorem mapM_drop_of_eq_ok {α β ε : Type} {g : α → Except ε β} :
    ∀ {xs : List α} {R : List β} (n : Nat), xs.mapM g = .ok R → (xs.drop n).mapM g = .ok (R.drop n)
  | [], R, n, h => by
    simp only [List.mapM_nil, pure, Except.pure, Except.ok.injEq] at h
    subst h
    simp [pure, Except.pure]
  | x :: xs, R, 0, h => by simpa using h
  | x :: xs, R, n + 1, h => by
    obtain ⟨r, R', -, hxs, rfl⟩ := mapM_cons_eq_ok h
    simpa using mapM_drop_of_eq_ok n hxs

/-- Where a pass over a whole list succeeds, a pass over its first `n` entries gives the first `n`
results. -/
theorem mapM_take_of_eq_ok {α β ε : Type} {g : α → Except ε β} :
    ∀ {xs : List α} {R : List β} (n : Nat), xs.mapM g = .ok R → (xs.take n).mapM g = .ok (R.take n)
  | [], R, n, h => by
    simp only [List.mapM_nil, pure, Except.pure, Except.ok.injEq] at h
    subst h
    simp [pure, Except.pure]
  | x :: xs, R, 0, h => by simp [pure, Except.pure]
  | x :: xs, R, n + 1, h => by
    obtain ⟨r, R', hx, hxs, rfl⟩ := mapM_cons_eq_ok h
    simp [List.mapM_cons, hx, mapM_take_of_eq_ok n hxs, bind, Except.bind, pure, Except.pure]

/-- Where a pass over a whole list succeeds, a pass over a window of it gives that window of
the results. -/
theorem mapM_window_of_eq_ok {α β ε : Type} {g : α → Except ε β} {xs : List α} {R : List β}
    (offset limit : Int) (h : xs.mapM g = .ok R) :
    (window offset limit xs).mapM g = .ok (window offset limit R) := by
  have hdrop := mapM_drop_of_eq_ok offset.toNat h
  unfold window
  split
  · exact hdrop
  · exact mapM_take_of_eq_ok _ hdrop

/-- No offset and no limit cut nothing. -/
theorem window_zero {α : Type} (xs : List α) : window (wrapSigned 0) (-1) xs = xs := by
  simp [window, wrapSigned]

/-- A listing of the same signals as a listing without offset or limit is a window of it, cut by
its offset and limit as the store reads them. -/
theorem Database.signals_of_conditions {db : Database} {f : Filter} {R : List Record}
    (h : db.signals f = .ok R) (hl : f.limit = 0) (ho : f.offset = 0) (f' : Filter)
    (hc : conditionsOf f' = conditionsOf f) :
    db.signals f' = .ok (window (wrapSigned f'.offset)
      (if f'.limit == 0 then -1 else wrapSigned f'.limit) R) := by
  have hpick : db.pickedSignals f' = db.pickedSignals f := by
    unfold Database.pickedSignals
    rw [hc]
  unfold Database.signals at h ⊢
  rw [hpick]
  cases hfind : db.find "signal_history" with
  | error e => simp [hfind, lift, bind, Except.bind, Except.mapError] at h
  | ok t =>
    cases hreq : t.require signalColumns with
    | error e => simp [hfind, hreq, lift, bind, Except.bind, Except.mapError] at h
    | ok idx =>
      cases hpick : db.pickedSignals f with
      | error e => simp [hfind, hreq, hpick, lift, bind, Except.bind, Except.mapError] at h
      | ok tr =>
        simp only [hfind, hreq, hpick, lift, bind, Except.bind, hl, ho, beq_self_eq_true, if_true,
          window_zero] at h ⊢
        -- the rows read back in their listing order; the cut reads a window of them
        generalize (tr.2.mergeSort _) = sorted at h ⊢
        cases hread : sorted.mapM (t.recordOfRow idx) with
        | error e => simp [hread, Except.mapError] at h
        | ok R' =>
          simp only [hread, Except.mapError, Except.ok.injEq] at h
          subst h
          rw [mapM_window_of_eq_ok _ _ hread]
          rfl

/-- A successful pass keeps the length. -/
theorem length_of_mapM_eq_ok {α β ε : Type} {g : α → Except ε β} :
    ∀ {xs : List α} {R : List β}, xs.mapM g = .ok R → R.length = xs.length
  | [], R, h => by
    simp only [List.mapM_nil, pure, Except.pure, Except.ok.injEq] at h
    simp [← h]
  | x :: xs, R, h => by
    obtain ⟨r, R', -, hxs, rfl⟩ := mapM_cons_eq_ok h
    simp [length_of_mapM_eq_ok hxs]

/-- A listing without offset or limit holds as many signals as the count gives. -/
theorem Database.length_signals {db : Database} {f : Filter} {R : List Record} {total : Nat}
    (hl : f.limit = 0) (ho : f.offset = 0) (h : db.signals f = .ok R)
    (hcount : db.countSignals f = .ok total) : R.length = total := by
  unfold Database.signals at h
  unfold Database.countSignals at hcount
  cases hpick : db.pickedSignals f with
  | error e => simp [hpick, lift, bind, Except.bind, Except.mapError] at hcount
  | ok tr =>
    simp only [hpick, lift, bind, Except.bind, pure, Except.pure, Except.mapError,
      Except.ok.injEq] at hcount
    cases hfind : db.find "signal_history" with
    | error e => simp [hfind, lift, bind, Except.bind, Except.mapError] at h
    | ok t =>
      cases hreq : t.require signalColumns with
      | error e => simp [hfind, hreq, lift, bind, Except.bind, Except.mapError] at h
      | ok idx =>
        simp only [hfind, hreq, hpick, lift, bind, Except.bind, hl, ho, beq_self_eq_true,
          if_true, window_zero] at h
        generalize hsorted : (tr.2.mergeSort _) = sorted at h
        cases hread : sorted.mapM (t.recordOfRow idx) with
        | error e => simp [hread, Except.mapError] at h
        | ok R' =>
          simp only [hread, Except.mapError, Except.ok.injEq] at h
          subst h hcount
          rw [length_of_mapM_eq_ok hread, ← hsorted, List.length_mergeSort]

/-- A count from `2^63` up to `2^64` reads as a negative word. -/
theorem wrapSigned_neg {n : Nat} (h₁ : 2 ^ 63 ≤ n) (h₂ : n < 2 ^ 64) : wrapSigned n < 0 := by
  have h64 : n % Nat.pow 2 64 = n := Nat.mod_eq_of_lt (by simpa using h₂)
  simp only [wrapSigned, h64, if_neg (show ¬ n < Nat.pow 2 63 by simpa using h₁)]
  simp only [Nat.pow_eq] at *
  omega

/-- A window at an offset below `2^63` of a listing shorter than `2^63` cuts as counts do, for
every positive limit below `2^64`: one past `2^63` reads as no limit, and keeps all that is left,
as the count would. -/
theorem window_eq_take_drop {α : Type} (xs : List α) {offset limit : Nat}
    (hlen : xs.length < 2 ^ 63) (ho : offset < 2 ^ 63) (hl : 0 < limit) (hl' : limit < 2 ^ 64) :
    window (wrapSigned offset) (if limit == 0 then -1 else wrapSigned limit) xs =
      (xs.drop offset).take limit := by
  by_cases hsmall : limit < 2 ^ 63
  · rw [SignalLog.window_of_lt xs ho hsmall, if_neg (Nat.pos_iff_ne_zero.mp hl)]
  · -- the limit reads as a negative word, so nothing is cut, and nothing would be
    rw [if_neg (by simpa using Nat.pos_iff_ne_zero.mp hl), wrapSigned_of_lt ho, window,
      if_pos (wrapSigned_neg (by omega) hl'), List.take_of_length_le]
    · simp
    · simp only [List.length_drop]
      omega

end LevelCross.Store

namespace LevelCross.Web

open LevelCross.Number LevelCross.Store LevelCross.Json

/-- A JSON count read from text fits in 64 bits. -/
def FitsWord (j : Json) : Prop := ∀ n, j = .nat n → n < 2 ^ 64

/-- A parameter read from text fits 64 bits. -/
theorem Param.read_fitsWord {p : Param} {name value : String} {j : Json}
    (h : p.read name value = .ok j) : FitsWord j := by
  intro n hn
  subst hn
  cases p with
  | text => simp [Param.read] at h
  | count =>
    simp only [Param.read] at h
    cases hr : readU64 value with
    | error e => simp [hr] at h
    | ok m =>
      simp only [hr, Except.ok.injEq, Json.nat.injEq] at h
      exact h ▸ readU64_lt hr

/-- What every successful step keeps, a successful fold keeps. -/
theorem foldlM_invariant {α β ε : Type} (P : β → Prop) {f : β → α → Except ε β}
    (hf : ∀ b a b', P b → f b a = .ok b' → P b') :
    ∀ (l : List α) {b b' : β}, P b → l.foldlM f b = .ok b' → P b'
  | [], b, b', hb, h => by
    simp only [List.foldlM_nil, pure, Except.pure, Except.ok.injEq] at h
    exact h ▸ hb
  | a :: l, b, b', hb, h => by
    rw [List.foldlM_cons] at h
    cases hfa : f b a with
    | error e => simp [hfa, bind, Except.bind] at h
    | ok c =>
      simp only [hfa, bind, Except.bind] at h
      exact foldlM_invariant P hf l (hf b a c hb hfa) h

/-- A member of an object whose members all fit 64 bits fits them too. -/
theorem field_fitsWord {ms : List (String × Json)} (hms : ∀ m ∈ ms, FitsWord m.2) (name : String) :
    FitsWord ((Json.obj ms).field name) := by
  have hfield : (Json.obj ms).field name =
      ((ms.reverse.find? (·.1 == name)).map (·.2)).getD .null := rfl
  rw [hfield]
  cases hfind : ms.reverse.find? (·.1 == name) with
  | none => intro n hn; cases hn
  | some m => exact hms m (List.mem_reverse.mp (List.mem_of_find?_eq_some hfind))

/-- Every count a query holds was read as an unsigned 64-bit integer. -/
theorem readQuery_fitsWord {query : String} {spec : List (String × Param)} {p : Json}
    (h : readQuery query spec = .ok p) (name : String) : FitsWord (p.field name) := by
  unfold readQuery readParams at h
  generalize hfold : (List.foldlM _ [] (queryPairs query) : Except String (List (String × Json))) =
    given at h
  cases given with
  | error e => simp [bind, Except.bind, Except.mapError] at h
  | ok given =>
    simp only [bind, Except.bind, pure, Except.pure, Except.mapError, Except.ok.injEq] at h
    subst h
    -- each parameter given was read by its reader, and one not given is `null`
    have hgiven : ∀ m ∈ given, FitsWord m.2 := by
      refine foldlM_invariant (fun acc : List (String × Json) => ∀ m ∈ acc, FitsWord m.2) ?_
        _ (by simp) hfold
      rintro acc ⟨name, value⟩ acc' hacc hstep
      simp only at hstep
      cases hspec : spec.find? (·.1 == name) with
      | none =>
        simp only [hspec, Except.ok.injEq] at hstep
        exact hstep ▸ hacc
      | some entry =>
        obtain ⟨_, prm⟩ := entry
        simp only [hspec] at hstep
        split at hstep
        · cases hstep
        · cases hread : prm.read name value with
          | error e => simp [hread, bind, Except.bind] at hstep
          | ok j =>
            simp only [hread, bind, Except.bind, pure, Except.pure, Except.ok.injEq] at hstep
            subst hstep
            intro m hm
            rcases List.mem_append.mp hm with hm | hm
            · exact hacc m hm
            · rw [List.mem_singleton.mp hm]
              exact Param.read_fitsWord hread
    refine field_fitsWord (fun m hm => ?_) name
    obtain ⟨⟨n', _⟩, -, rfl⟩ := List.mem_map.mp hm
    cases hfind : given.find? (·.1 == n') with
    | none => intro n hn; simp at hn
    | some g => simpa [hfind] using hgiven g (List.mem_of_find?_eq_some hfind)

/-- The filter read from a query has no offset and no limit of its own. -/
theorem signalFilter_cut {p : Json} {f : Filter} (h : signalFilter p = .ok f) :
    f.limit = 0 ∧ f.offset = 0 := by
  unfold signalFilter at h
  simp only [bind, Except.bind] at h
  repeat' split at h
  all_goals cases h
  all_goals exact ⟨rfl, rfl⟩

/-- A positive count that fits 64 bits is between `1` and `2^64 - 1`. -/
theorem positiveCount_bounds {j : Json} {n : Nat} (hj : FitsWord j) (h : positiveCount j = some n) :
    0 < n ∧ n < 2 ^ 64 := by
  unfold positiveCount at h
  split at h
  · split at h
    · cases h
      exact ⟨by omega, hj _ rfl⟩
    · cases h
  · cases h

/-- The page a listing of signals answers with, for the query parameters `p`, the count `total`
of the signals its filter picks and their full listing `R`: with a positive `limit`, the first
`limit` of them as one page; otherwise the page `page` (or the first) of `per_page` rows (or
twenty), clamped into range, which holds `min perPage (total - offset)` rows. -/
def ListedPage (p : Json) (total : Nat) (R rows : List Record) (pages : Pagination) : Prop :=
  match positiveCount (p.field "limit") with
  | some limit => rows = R.take (min limit total) ∧ pages = ⟨rows.length, 1, 1, limit⟩
  | none =>
    let perPage := (positiveCount (p.field "per_page")).getD defaultPerPage
    pages = Pagination.make total (pageParam p) perPage ∧
      rows = (R.drop pages.offset).take perPage ∧
      rows.length = if 0 < total then min perPage (total - pages.offset) else 0

/-- The answer to a signal listing whose filter reads and whose count and full listing succeed. -/
theorem listSignals_eq {db : Database} {query : String} {p : Json} {filter : Filter}
    {total : Nat} {R : List Record}
    (hquery : readQuery query signalParams = .ok p) (hfilter : signalFilter p = .ok filter)
    (hcount : db.countSignals filter = .ok total) (hlist : db.signals filter = .ok R)
    (hfits : total < 2 ^ 63) :
    ∃ rows pages, listSignals db query =
        success 200 [("signals", .arr (rows.map signalJson)),
          ("pagination", paginationJson pages)] ∧
      ListedPage p total R rows pages := by
  obtain ⟨hl, ho⟩ := signalFilter_cut hfilter
  have hlen : R.length = total := Database.length_signals hl ho hlist hcount
  have hword := readQuery_fitsWord hquery
  rcases filter with ⟨pair, kind, start, finish, _, _⟩
  simp only at hl ho
  subst hl ho
  unfold listSignals ListedPage
  simp only [hquery, hfilter, hcount, bind, Except.bind]
  cases hlimit : positiveCount (p.field "limit") with
  | some limit =>
    -- the newest `limit` rows, all of them when the limit reads as no limit
    obtain ⟨hpos, hlt⟩ := positiveCount_bounds (hword "limit") hlimit
    have hcut := Database.signals_of_conditions hlist rfl rfl
      ⟨pair, kind, start, finish, limit, 0⟩ rfl
    dsimp only at hcut
    rw [window_eq_take_drop R (hlen ▸ hfits) (by norm_num) hpos hlt, List.drop_zero] at hcut
    refine ⟨R.take (min limit total), ⟨min total limit, 1, 1, limit⟩, ?_, rfl, ?_⟩
    · have htake : R.take limit = R.take (min limit total) := by
        rw [List.take_eq_take_min, hlen]
      simp only [hcut, pure, Except.pure, htake]
    · simp [hlen, Nat.min_comm]
  | none =>
    -- the page asked for, of `per_page` rows or twenty
    set q := (positiveCount (p.field "per_page")).getD defaultPerPage with hq
    have hqb : 0 < q ∧ q < 2 ^ 64 := by
      cases hper : positiveCount (p.field "per_page") with
      | some n => simpa [hq, hper] using positiveCount_bounds (hword "per_page") hper
      | none => simp [hq, hper, defaultPerPage]
    set pages := Pagination.make total (pageParam p) q with hpages
    have hper : pages.perPage = q := by
      simp only [hpages, Pagination.make]
      omega
    -- the page starts below the count, so its offset fits a signed word
    have hoff : pages.offset < 2 ^ 63 := by
      rcases Nat.eq_zero_or_pos total with h0 | h0
      · rw [hpages, h0, Pagination.offset_make_zero]
        norm_num
      · exact (Pagination.offset_make_lt _ _ h0).trans hfits
    have hcut := Database.signals_of_conditions hlist rfl rfl
      ⟨pair, kind, start, finish, pages.perPage, pages.offset⟩ rfl
    dsimp only at hcut
    rw [hper, window_eq_take_drop R (hlen ▸ hfits) hoff hqb.1 hqb.2] at hcut
    refine ⟨(R.drop pages.offset).take q, pages, ?_, rfl, rfl, ?_⟩
    · simp only [hper, hcut, pure, Except.pure]
    · rw [List.length_take, List.length_drop, hlen]
      split_ifs with h0
      · rfl
      · omega

/-- A target splits at its first question mark into its path and its query. -/
theorem splitTarget_query {path query : String} (hpath : '?' ∉ path.toList) :
    splitTarget (path ++ "?" ++ query) = (path, query) := by
  have hne : ∀ c ∈ path.toList, (c != '?') = true := fun c hc => by
    have : c ≠ '?' := fun h => hpath (h ▸ hc)
    simpa using this
  have htake : path.toList.takeWhile (· != '?') = path.toList := List.takeWhile_eq_self_iff.mpr hne
  have hdrop : path.toList.dropWhile (· != '?') = [] := List.dropWhile_eq_nil_iff.mpr hne
  simp [splitTarget, List.takeWhile_append, List.dropWhile_append, htake, hdrop]

/-- A GET of the signal listing, under either path, is answered by `listSignals` on its
query. -/
theorem serve_get_signals (db : Database) (now : Time.DateTime) {path : String} (query : String)
    (contentType : Option String) (body : String)
    (hpath : path = "/api/signals" ∨ path = "/api/signal_history") :
    serve db now ⟨"GET", path ++ "?" ++ query, contentType, body⟩ = (db, listSignals db query) := by
  have hq : '?' ∉ path.toList := by rcases hpath with rfl | rfl <;> decide
  have hhealth : (path == "/health") = false := by rcases hpath with rfl | rfl <;> decide
  have hlevels : (path == "/api/levels") = false := by rcases hpath with rfl | rfl <;> decide
  have hsignals : (path == "/api/signals" || path == "/api/signal_history") = true := by
    rcases hpath with rfl | rfl <;> decide
  have hget : ("GET" == "GET") = true := by decide
  have hhead : ("GET" == "HEAD") = false := by decide
  unfold serve
  simp only [splitTarget_query hq, hhealth, hlevels, hsignals, hget, hhead, Bool.false_eq_true,
    Bool.or_false, if_false, if_true]

/-- A GET of the signal listing, under either of its paths, answers for every store whose count
and full listing of the query's filter succeed with the page `ListedPage` describes, and leaves
the store as it is. The count is below `2^63`, as every count of a table's rows is. -/
theorem serve_get_signals_pages {db : Database} (now : Time.DateTime) {path query : String}
    (contentType : Option String) (body : String) {p : Json} {filter : Filter} {total : Nat}
    {R : List Record} (hpath : path = "/api/signals" ∨ path = "/api/signal_history")
    (hquery : readQuery query signalParams = .ok p) (hfilter : signalFilter p = .ok filter)
    (hcount : db.countSignals filter = .ok total) (hlist : db.signals filter = .ok R)
    (hfits : total < 2 ^ 63) :
    ∃ rows pages, serve db now ⟨"GET", path ++ "?" ++ query, contentType, body⟩ =
        (db, success 200 [("signals", .arr (rows.map signalJson)),
          ("pagination", paginationJson pages)]) ∧
      ListedPage p total R rows pages := by
  obtain ⟨rows, pages, hresp, hpages⟩ := listSignals_eq hquery hfilter hcount hlist hfits
  refine ⟨rows, pages, ?_, hpages⟩
  rw [serve_get_signals db now query contentType body hpath, hresp]

/-- Three upward crosses of `BTC/USDT`, a quarter of an hour apart, each recorded a second after
its candle. -/
def quarterHourCrosses : List Record :=
  let cross (id : Int) (minute : Nat) : Record :=
    { id, createdAt := ⟨2024, 4, 1, 10, minute, 1, 0⟩,
      event := { pair := "BTC/USDT", kind := .crossUp, prevPrice := 99.0, currentPrice := 101.0,
                 time := ⟨2024, 4, 1, 10, minute, 0, 0⟩ } }
  [cross 1 0, cross 2 15, cross 3 30]

/-- Two listings of a store holding three signals: the fifth page of two rows is clamped to the
second, which holds the oldest signal alone, and a limit of two gives the two newest as one
page. -/
theorem serve_get_signals_pages_of_three_signals :
    (∃ (rows : List Record) (pages : Pagination),
      serve (storeOf [] (quarterHourCrosses.map signalRow)) ⟨2024, 4, 1, 11, 0, 0, 0⟩
        ⟨"GET", "/api/signals" ++ "?" ++ "page=5&per_page=2", none, ""⟩ =
        (storeOf [] (quarterHourCrosses.map signalRow), success 200
          [("signals", .arr (rows.map signalJson)), ("pagination", paginationJson pages)]) ∧
      pages = ⟨3, 2, 2, 2⟩ ∧ rows.map (·.id) = [1]) ∧
    ∃ (rows : List Record) (pages : Pagination),
      serve (storeOf [] (quarterHourCrosses.map signalRow)) ⟨2024, 4, 1, 11, 0, 0, 0⟩
        ⟨"GET", "/api/signals" ++ "?" ++ "limit=2", none, ""⟩ =
        (storeOf [] (quarterHourCrosses.map signalRow), success 200
          [("signals", .arr (rows.map signalJson)), ("pagination", paginationJson pages)]) ∧
      pages = ⟨2, 1, 1, 2⟩ ∧ rows.map (·.id) = [3, 2] := by
  have hkept : ∀ r ∈ quarterHourCrosses, r.Kept := by
    intro r hr
    simp only [quarterHourCrosses, List.mem_cons, List.not_mem_nil, or_false] at hr
    rcases hr with rfl | rfl | rfl <;> exact ⟨by decide, by decide, by decide, by decide⟩
  have hcount := Database.countSignals_storeOf [] quarterHourCrosses {}
  have hlist := Database.signals_storeOf [] hkept {}
  have hfits : SignalLog.count quarterHourCrosses {} < 2 ^ 63 := by decide
  -- the store lists the three signals newest first
  have hR : SignalLog.listing quarterHourCrosses {} =
      quarterHourCrosses.reverse.map Record.listed := by
    have hsort : (quarterHourCrosses.filter ({} : Filter).passes).mergeSort Record.newer =
        quarterHourCrosses.reverse := by
      have hall : ∀ r ∈ quarterHourCrosses, ({} : Filter).passes r = true := fun _ _ ↦ rfl
      rw [List.filter_eq_self.mpr hall]
      exact mergeSort_newer_eq (by decide) (List.reverse_perm _) (by decide +kernel)
    rw [SignalLog.listing, hsort, SignalLog.window_of_lt _ (by decide) (by decide)]
    rfl
  have hpage : readQuery "page=5&per_page=2" signalParams = .ok (.obj [("pair", .null),
      ("signal_type", .null), ("start_date", .null), ("end_date", .null), ("page", .nat 5),
      ("per_page", .nat 2), ("limit", .null)]) := by
    have hpairs : queryPairs "page=5&per_page=2" = [("page", "5"), ("per_page", "2")] := by
      decide +kernel
    simp [readQuery, readParams, hpairs, signalParams, Param.read,
      show readU64 "5" = .ok 5 by decide, show readU64 "2" = .ok 2 by decide, bind, Except.bind,
      pure, Except.pure, Except.mapError]
  have hlimit : readQuery "limit=2" signalParams = .ok (.obj [("pair", .null),
      ("signal_type", .null), ("start_date", .null), ("end_date", .null), ("page", .null),
      ("per_page", .null), ("limit", .nat 2)]) := by
    have hpairs : queryPairs "limit=2" = [("limit", "2")] := by decide +kernel
    simp [readQuery, readParams, hpairs, signalParams, Param.read,
      show readU64 "2" = .ok 2 by decide, bind, Except.bind, pure, Except.pure, Except.mapError]
  constructor
  · -- the fifth page of two rows is clamped to the second, which holds the oldest signal
    obtain ⟨rows, pages, hserve, hpages, hrows, -⟩ := serve_get_signals_pages
      ⟨2024, 4, 1, 11, 0, 0, 0⟩ none "" (Or.inl rfl) hpage rfl hcount hlist hfits
    refine ⟨rows, pages, hserve, hpages.trans rfl, ?_⟩
    rw [hrows, hpages, hR]
    decide
  · -- a limit of two gives the two newest signals as one page
    obtain ⟨rows, pages, hserve, hrows, hpages⟩ := serve_get_signals_pages
      ⟨2024, 4, 1, 11, 0, 0, 0⟩ none "" (Or.inl rfl) hlimit rfl hcount hlist hfits
    have hids : rows.map (·.id) = [3, 2] := by
      rw [hrows, hR]
      decide
    refine ⟨rows, pages, hserve, ?_, hids⟩
    rw [hpages, ← List.length_map (f := (·.id)), hids]
    rfl

end LevelCross.Web
