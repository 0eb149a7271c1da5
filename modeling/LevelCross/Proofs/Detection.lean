import Mathlib
import LevelCross.Proofs.Frame

/-!
# Which levels the last candle crosses

A level is judged against the last two candles by four checks made in a fixed order, body up,
body down, wick up, wick down, and the first that passes names the kind of the crossing. This
module shows that the order does not matter: a direction watches at most the two body
crossings or the two wicks, and the two of a pair ask for the same price to lie on opposite
sides of the level, which no double does, NaN included. So a level raises a kind exactly when
its direction watches it and the kind's rule holds.

The events of the last candle are then the levels' own events, listed kind by kind in priority
order and, within a kind, in the order of the levels; ordering by priority is the stable sort
by the rank of the kind.

* `Float.lt_asymm`: no two doubles are each below the other.
* `evaluateLevel_eq_some_iff_watched_crossing`: a level raises a kind exactly when its direction
  watches it and the kind's crossing rule (`Kind.Crosses`) holds, and a direction sees at most
  one of its kinds on a pair of candles.
* `detect_eq_events_by_kind`: `detect` is empty without levels, with fewer than two candles or a
  malformed one among the last two; else it lists, kind by kind, the events of the levels that
  raise that kind, one per level, and a sub-list of the levels raises a sub-list of the events.
* `byPriority_eq_mergeSort`: ordering by priority is the stable sort by kind rank.
-/

namespace LevelCross.Number

open Float.Model

/-! ### Comparisons of doubles -/

/-- Comparing two unpacked doubles the other way round swaps the answer; a NaN compares with
nothing either way. -/
theorem unpackedCompare_swap (a b : UnpackedFloat) :
    b.compare a = (a.compare b).map Ordering.swap := by
  -- every clause of the comparison has its mirror image; two finite values of one sign
  -- compare their exponents, then their mantissas
  rcases a with ⟨s⟩ | _ | ⟨s⟩ | ⟨s, m, e, hm⟩ <;>
    rcases b with ⟨t⟩ | _ | ⟨t⟩ | ⟨t, n, f, hn⟩ <;>
    (try cases s) <;> (try cases t) <;>
    simp [UnpackedFloat.compare, Ordering.swap_then, Int.compare_swap, Nat.compare_swap] <;> rfl

/-- A double is below another when their unpacked forms compare so. -/
theorem Float.lt_iff_compare (a b : Float) :
    a < b ↔ a.toModel.unpack.compare b.toModel.unpack = some .lt := by
  show a.lt b = true ↔ _
  rw [Float.lt, decide_eq_true_iff]
  show (a.toModel.unpack.compare b.toModel.unpack == some .lt) = true ↔ _
  exact beq_iff_eq

/-- No two doubles are each below the other. -/
theorem Float.lt_asymm {a b : Float} (h : a < b) : ¬ b < a := by
  rw [Float.lt_iff_compare] at h ⊢
  rw [unpackedCompare_swap, h]
  decide

end LevelCross.Number

namespace LevelCross

open LevelCross.Number

/-! ### The crossing rules -/

/-- The kinds a direction watches; no direction watches a surge. -/
def Direction.watches (d : Direction) : Kind → Bool
  | .crossUp => d.watchesBodyUp
  | .crossDown => d.watchesBodyDown
  | .wickUp => d.watchesWickUp
  | .wickDown => d.watchesWickDown
  | .atrSurge => false

/-- The rule of each kind for a level at price `v` on the previous and the current candle: the
body crosses up when the previous close is below `v` and the current close is above it, or,
without close confirmation, the current open is; a wick pokes up when the previous high is below
`v`, the current high above it and the current open and close both below it; the downward rules
mirror these. A surge is no crossing. -/
def Kind.Crosses (k : Kind) (previous current : Candle) (level : PriceLevel) : Prop :=
  match k with
  | .crossUp => previous.close < level.value ∧
      if level.confirmClose then current.close > level.value
      else current.openPrice > level.value ∨ current.close > level.value
  | .crossDown => previous.close > level.value ∧
      if level.confirmClose then current.close < level.value
      else current.openPrice < level.value ∨ current.close < level.value
  | .wickUp => previous.high < level.value ∧ current.high > level.value ∧
      current.openPrice < level.value ∧ current.close < level.value
  | .wickDown => previous.low > level.value ∧ current.low < level.value ∧
      current.openPrice > level.value ∧ current.close > level.value
  | .atrSurge => False

instance Kind.decidableCrosses (k : Kind) (previous current : Candle) (level : PriceLevel) :
    Decidable (k.Crosses previous current level) :=
  match k with
  | .crossUp => instDecidableAnd
  | .crossDown => instDecidableAnd
  | .wickUp => instDecidableAnd
  | .wickDown => instDecidableAnd
  | .atrSurge => instDecidableFalse

/-- A direction that watches two different kinds watches the two body crossings or the two
wicks. -/
theorem Direction.watches_pair {d : Direction} {j k : Kind} (hj : d.watches j = true)
    (hk : d.watches k = true) (hne : j ≠ k) :
    (j = .crossUp ∧ k = .crossDown) ∨ (j = .crossDown ∧ k = .crossUp) ∨
      (j = .wickUp ∧ k = .wickDown) ∨ (j = .wickDown ∧ k = .wickUp) := by
  cases d <;> cases j <;> cases k <;>
    simp_all [Direction.watches, Direction.watchesBodyUp, Direction.watchesBodyDown,
      Direction.watchesWickUp, Direction.watchesWickDown]

section Rules

variable {previous current : Candle} {level : PriceLevel}

/-- On one pair of candles a direction sees at most one of the kinds it watches: the two body
crossings disagree on the previous close, and the two wicks on the current open. -/
theorem Kind.eq_of_crosses {d : Direction} {j k : Kind} (hj : d.watches j = true)
    (hk : d.watches k = true) (cj : j.Crosses previous current level)
    (ck : k.Crosses previous current level) : j = k := by
  by_contra hne
  rcases Direction.watches_pair hj hk hne with
    ⟨rfl, rfl⟩ | ⟨rfl, rfl⟩ | ⟨rfl, rfl⟩ | ⟨rfl, rfl⟩
  · exact Float.lt_asymm cj.1 ck.1
  · exact Float.lt_asymm ck.1 cj.1
  · exact Float.lt_asymm cj.2.2.1 ck.2.2.1
  · exact Float.lt_asymm ck.2.2.1 cj.2.2.1

/-- What a level raises its direction watches, and that kind's rule holds. -/
theorem crosses_of_evaluateLevel {k : Kind} (h : evaluateLevel previous current level = some k) :
    ∃ d, level.parsedDirection = some d ∧ d.watches k = true ∧
      k.Crosses previous current level := by
  unfold evaluateLevel at h
  split at h
  · cases h
  · rename_i d hd
    refine ⟨d, hd, ?_⟩
    -- the check that answered had the watch flag and the rule of its kind as its guard
    simp only at h
    repeat' split at h
    all_goals cases h
    all_goals simp_all [Direction.watches, Kind.Crosses]

/-- A level whose direction watches a kind whose rule holds raises something. -/
theorem evaluateLevel_ne_none {d : Direction} {k : Kind} (hd : level.parsedDirection = some d)
    (hk : d.watches k = true) (ck : k.Crosses previous current level) :
    evaluateLevel previous current level ≠ none := by
  intro hnone
  unfold evaluateLevel at hnone
  rw [hd] at hnone
  simp only at hnone
  repeat' split at hnone
  -- a check that answered is no `none`; when none answered, every guard failed, the guard of
  -- the watched kind among them
  all_goals cases hnone
  all_goals cases k <;> simp_all [Direction.watches, Kind.Crosses]

/-- A level raises a kind exactly when its direction parses, watches that kind and the kind's
rule holds; so it raises nothing when its direction does not parse, and the order of the four
checks does not matter. Moreover a direction sees at most one of its kinds on a pair of
candles. Both hold for every pair of candles, malformed ones and NaNs included. -/
theorem evaluateLevel_eq_some_iff_watched_crossing (previous current : Candle)
    (level : PriceLevel) :
    (∀ k, evaluateLevel previous current level = some k ↔
      ∃ d, level.parsedDirection = some d ∧ d.watches k = true ∧
        k.Crosses previous current level) ∧
    (∀ (d : Direction) (j k : Kind), d.watches j = true → d.watches k = true →
      j.Crosses previous current level →
      k.Crosses previous current level → j = k) := by
  refine ⟨fun k => ⟨crosses_of_evaluateLevel, ?_⟩, fun _ _ _ => Kind.eq_of_crosses⟩
  rintro ⟨d, hd, hk, ck⟩
  -- the level raises some kind, which its direction watches and whose rule holds, so it is `k`
  obtain ⟨j, hj⟩ := Option.ne_none_iff_exists'.mp (evaluateLevel_ne_none hd hk ck)
  obtain ⟨d', hd', hj', cj⟩ := crosses_of_evaluateLevel hj
  rw [hd, Option.some.injEq] at hd'
  subst hd'
  rw [hj, Kind.eq_of_crosses hj' hk cj ck]

/-- No level raises a surge. -/
theorem evaluateLevel_ne_atrSurge (previous current : Candle) (level : PriceLevel) :
    evaluateLevel previous current level ≠ some .atrSurge := by
  intro h
  obtain ⟨d, -, hw, -⟩ := crosses_of_evaluateLevel h
  simp [Direction.watches] at hw

end Rules

/-! ### The events of the last candle -/

/-- The event of a kind that a level raises on the last two candles. -/
def levelEventOf (previous current : Candle) (k : Kind) (level : PriceLevel) : Event :=
  { pair := level.pair, kind := k, levelId := some level.id, levelValue := some level.value,
    prevPrice := previous.close, currentPrice := current.close, atrValue := none,
    time := current.time }

theorem levelEvent_eq (previous current : Candle) (level : PriceLevel) :
    levelEvent previous current level =
      (evaluateLevel previous current level).map (levelEventOf previous current · level) :=
  rfl

/-- The events of one kind among the levels' events are those of the levels that raise it. -/
theorem filter_kind_filterMap_levelEvent (previous current : Candle) (k : Kind)
    (levels : List PriceLevel) :
    (levels.filterMap (levelEvent previous current)).filter (·.kind == k) =
      (levels.filter (evaluateLevel previous current · = some k)).map
        (levelEventOf previous current k) := by
  induction levels with
  | nil => rfl
  | cons l ls ih =>
    cases h : evaluateLevel previous current l with
    | none => simp [levelEvent_eq, h, ih]
    | some j =>
      by_cases hj : j = k
      · subst hj
        simp [levelEvent_eq, h, ih, levelEventOf]
      · simp [levelEvent_eq, h, ih, levelEventOf, hj]

/-- Ordered by priority, the levels' events come kind by kind, each kind in the order of the
levels. -/
theorem byPriority_filterMap_levelEvent (previous current : Candle) (levels : List PriceLevel) :
    byPriority (levels.filterMap (levelEvent previous current)) =
      [Kind.crossUp, .crossDown, .wickUp, .wickDown].flatMap fun k =>
        (levels.filter (evaluateLevel previous current · = some k)).map
          (levelEventOf previous current k) := by
  simp only [byPriority, Kind.all, filter_kind_filterMap_levelEvent]
  simp [evaluateLevel_ne_atrSurge]

/-- On the last two candles, `detect` lists kind by kind the events of the levels that raise
each kind, unless there are no levels or one of the two candles is malformed. -/
theorem detect_append_pair (before : List Candle) (previous current : Candle)
    (levels : List PriceLevel) :
    detect (before ++ [previous, current]) levels =
      if levels = [] ∨ previous.isWellFormed = false ∨ current.isWellFormed = false then []
      else [Kind.crossUp, .crossDown, .wickUp, .wickDown].flatMap fun k =>
        (levels.filter (evaluateLevel previous current · = some k)).map
          (levelEventOf previous current k) := by
  simp only [detect, lastTwo_append_pair, byPriority_filterMap_levelEvent]
  cases levels <;> cases previous.isWellFormed <;> cases current.isWellFormed <;> simp

/-- Taking the events of each kind in turn, over kinds that cover all the events and none
twice, reorders the events. -/
theorem perm_flatMap_filter_kind {ks : List Kind} (hks : ks.Nodup) {es : List Event}
    (hes : ∀ e ∈ es, e.kind ∈ ks) :
    (ks.flatMap fun k => es.filter (·.kind == k)).Perm es := by
  induction ks generalizing es with
  | nil =>
    obtain rfl : es = [] := List.eq_nil_iff_forall_not_mem.mpr fun e he => by simpa using hes e he
    rfl
  | cons k ks ih =>
    obtain ⟨hk, hks⟩ := List.nodup_cons.mp hks
    -- the events of the other kinds are those left after taking out kind `k`
    have hrest : (ks.flatMap fun j => es.filter (·.kind == j)) =
        ks.flatMap fun j => (es.filter fun e => !(e.kind == k)).filter (·.kind == j) := by
      refine List.flatMap_congr fun j hj => ?_
      rw [List.filter_filter]
      refine List.filter_congr fun e _ => ?_
      by_cases hej : e.kind = j
      · subst hej
        simp [show e.kind ≠ k from fun h => hk (h ▸ hj)]
      · simp [hej]
    have hcover : ∀ e ∈ es.filter (fun e => !(e.kind == k)), e.kind ∈ ks := by
      intro e he
      obtain ⟨he, hne⟩ := List.mem_filter.mp he
      have hne : e.kind ≠ k := by simpa using hne
      simpa [hne] using hes e he
    rw [List.flatMap_cons, hrest]
    exact ((ih hks hcover).append_left _).trans (List.filter_append_perm _ es)

/-- Ordering by priority reorders the events. -/
theorem perm_byPriority (es : List Event) : (byPriority es).Perm es :=
  perm_flatMap_filter_kind (by decide) fun e _ => by cases e.kind <;> decide

/-- A sub-list of the levels raises a sub-list of the events. -/
theorem detect_sublist {sub levels : List PriceLevel} (h : sub.Sublist levels)
    (candles : List Candle) : (detect candles sub).Sublist (detect candles levels) := by
  cases sub with
  | nil => simp
  | cons l ls =>
    have hne : levels ≠ [] := List.ne_nil_of_mem (h.subset List.mem_cons_self)
    unfold detect
    rcases lastTwo candles with _ | ⟨previous, current⟩
    · simp
    · simp only [List.isEmpty_cons, List.isEmpty_eq_false_iff.mpr hne, Bool.false_eq_true,
        if_false, byPriority_filterMap_levelEvent]
      split_ifs
      · exact List.Sublist.refl _
      · -- kind by kind, the levels of a sub-list raise a sub-list of the events
        exact List.Sublist.flatMap_right _ fun k _ => (h.filter _).map _

theorem lastTwo_eq_none_of_length_lt {candles : List Candle} (h : candles.length < 2) :
    lastTwo candles = none := by
  match candles, h with
  | [], _ => rfl
  | [_], _ => rfl

/-- The events of the last candle. With fewer than two candles there are none. On the last two
candles there are none without levels or when either candle is malformed; otherwise, for each
kind in priority order, one event per level raising that kind, in the order of the levels,
carrying the level's pair, identifier and price, the two closes and the time of the last
candle, and no average true range. So nothing but the last two candles counts, the events are
the levels' own events reordered, at most one per level, and a sub-list of the levels raises a
sub-list of the events. -/
theorem detect_eq_events_by_kind (levels : List PriceLevel) :
    (∀ candles : List Candle, candles.length < 2 → detect candles levels = []) ∧
    (∀ before previous current, detect (before ++ [previous, current]) levels =
      if levels = [] ∨ previous.isWellFormed = false ∨ current.isWellFormed = false then []
      else [Kind.crossUp, .crossDown, .wickUp, .wickDown].flatMap fun k =>
        (levels.filter (evaluateLevel previous current · = some k)).map
          (levelEventOf previous current k)) ∧
    (∀ before previous current, previous.isWellFormed = true → current.isWellFormed = true →
      (detect (before ++ [previous, current]) levels).Perm
        (levels.filterMap (levelEvent previous current))) ∧
    (∀ candles sub, sub.Sublist levels →
      (detect candles sub).Sublist (detect candles levels)) := by
  refine ⟨fun candles h => ?_, fun before previous current => detect_append_pair before previous
    current levels, fun before previous current hp hc => ?_,
    fun candles _ h => detect_sublist h candles⟩
  · simp [detect, lastTwo_eq_none_of_length_lt h]
  · cases levels with
    | nil => simp
    | cons l ls =>
      simp only [detect, lastTwo_append_pair, hp, hc]
      exact perm_byPriority _

/-! ### Priority order is the stable sort by kind -/

theorem Kind.rank_injective : Function.Injective Kind.rank := by
  intro a b h
  cases a <;> cases b <;> first | rfl | cases h

/-- Two lists in priority order that hold the same events of each kind, in the same order, are
equal. -/
theorem eq_of_pairwise_rank_of_filter_eq : ∀ {l₁ l₂ : List Event},
    l₁.Pairwise (fun a b => a.kind.rank ≤ b.kind.rank) →
    l₂.Pairwise (fun a b => a.kind.rank ≤ b.kind.rank) →
    (∀ k, l₁.filter (·.kind == k) = l₂.filter (·.kind == k)) → l₁ = l₂
  | [], [], _, _, _ => rfl
  | [], b :: _, _, _, h => by simpa using h b.kind
  | a :: _, [], _, _, h => by simpa using h a.kind
  | a :: l₁, b :: l₂, h₁, h₂, h => by
    -- each head is of the lowest kind of its list, so of the other head's kind
    have le_of_mem : ∀ {x : Event} {l : List Event} {k : Kind},
        (x :: l).Pairwise (fun a b => a.kind.rank ≤ b.kind.rank) →
        ((x :: l).filter (·.kind == k)) ≠ [] → x.kind.rank ≤ k.rank := by
      intro x l k hp hne
      obtain ⟨y, hy⟩ := List.exists_mem_of_ne_nil _ hne
      obtain ⟨hy, hyk⟩ := List.mem_filter.mp hy
      rw [beq_iff_eq] at hyk
      rcases List.mem_cons.mp hy with rfl | hy
      · exact hyk ▸ le_refl _
      · exact hyk ▸ List.rel_of_pairwise_cons hp hy
    have hab : a.kind = b.kind := Kind.rank_injective (le_antisymm
      (le_of_mem h₁ (by rw [h b.kind]; simp))
      (le_of_mem h₂ (by rw [← h a.kind]; simp)))
    have heads := h a.kind
    simp only [List.filter_cons, beq_self_eq_true, if_true, hab] at heads
    obtain ⟨rfl, -⟩ := List.cons.inj heads
    congr 1
    refine eq_of_pairwise_rank_of_filter_eq h₁.of_cons h₂.of_cons fun k => ?_
    have hk := h k
    by_cases hak : a.kind = k
    · simp only [List.filter_cons, hak, beq_self_eq_true, if_true] at hk
      exact (List.cons.inj hk).2
    · simpa [List.filter_cons, hak] using hk

theorem pairwise_byPriority (es : List Event) :
    (byPriority es).Pairwise fun a b => a.kind.rank ≤ b.kind.rank := by
  refine List.pairwise_flatMap.mpr ⟨fun k _ => ?_, ?_⟩
  · -- within a block every event has the block's kind
    refine List.Pairwise.imp_of_mem (R := fun _ _ => True) ?_
      (List.pairwise_of_forall fun _ _ => trivial)
    intro a b ha hb _
    rw [beq_iff_eq.mp (List.mem_filter.mp ha).2, beq_iff_eq.mp (List.mem_filter.mp hb).2]
  · -- and the blocks come in rank order
    have hall : Kind.all.Pairwise fun j k => j.rank < k.rank := by decide
    refine hall.imp_of_mem fun {j k} _ _ hjk a ha b hb => ?_
    rw [beq_iff_eq.mp (List.mem_filter.mp ha).2, beq_iff_eq.mp (List.mem_filter.mp hb).2]
    exact le_of_lt hjk

theorem filter_kind_filter_kind (es : List Event) (j k : Kind) :
    (es.filter (·.kind == j)).filter (·.kind == k) =
      if j = k then es.filter (·.kind == k) else [] := by
  split_ifs with h
  · subst h
    simp [List.filter_filter]
  · rw [List.filter_filter, List.filter_eq_nil_iff]
    intro e _ he
    simp only [Bool.and_eq_true, beq_iff_eq] at he
    exact h (he.2.symm.trans he.1)

theorem filter_byPriority (es : List Event) (k : Kind) :
    (byPriority es).filter (·.kind == k) = es.filter (·.kind == k) := by
  rw [byPriority, List.filter_flatMap]
  simp only [filter_kind_filter_kind]
  cases k <;> simp [Kind.all]

theorem rank_le_trans (a b c : Event) :
    decide (a.kind.rank ≤ b.kind.rank) = true → decide (b.kind.rank ≤ c.kind.rank) = true →
      decide (a.kind.rank ≤ c.kind.rank) = true := by
  simp only [decide_eq_true_eq]
  exact Nat.le_trans

theorem rank_le_total (a b : Event) :
    (decide (a.kind.rank ≤ b.kind.rank) || decide (b.kind.rank ≤ a.kind.rank)) = true := by
  simp only [Bool.or_eq_true, decide_eq_true_eq]
  exact Nat.le_total _ _

/-- The stable sort by kind rank keeps the events of each kind in their order. -/
theorem filter_mergeSort_rank (es : List Event) (k : Kind) :
    (es.mergeSort fun a b => a.kind.rank ≤ b.kind.rank).filter (·.kind == k) =
      es.filter (·.kind == k) := by
  have hsub : (es.filter (·.kind == k)).Sublist
      (es.mergeSort fun a b => a.kind.rank ≤ b.kind.rank) := by
    refine List.sublist_mergeSort rank_le_trans rank_le_total ?_ List.filter_sublist
    refine List.Pairwise.imp_of_mem (R := fun _ _ => True) ?_
      (List.pairwise_of_forall fun _ _ => trivial)
    intro a b ha hb _
    rw [beq_iff_eq.mp (List.mem_filter.mp ha).2, beq_iff_eq.mp (List.mem_filter.mp hb).2]
    simp
  -- a sub-list of the sorted events of kind `k` as long as all of them is all of them
  have hperm :=
    (List.mergeSort_perm es fun a b => a.kind.rank ≤ b.kind.rank).filter (·.kind == k)
  have hsub' := hsub.filter (·.kind == k)
  simp only [List.filter_filter, Bool.and_self] at hsub'
  exact (hsub'.eq_of_length hperm.length_eq.symm).symm

/-- Ordering events by priority is the stable sort by the rank of their kinds: ties keep their
order. -/
theorem byPriority_eq_mergeSort (es : List Event) :
    byPriority es = es.mergeSort fun a b => a.kind.rank ≤ b.kind.rank := by
  refine eq_of_pairwise_rank_of_filter_eq (pairwise_byPriority es) ?_ fun k => ?_
  · simpa using List.pairwise_mergeSort rank_le_trans rank_le_total es
  · rw [filter_byPriority, filter_mergeSort_rank]

end LevelCross
