import Mathlib
import LevelCross.Market.Signal

/-!
# Pages of a listing

`Pagination.make total page perPage` cuts a listing of `total` rows into pages of
`max perPage 1` rows, as many as the ceiling of `total` over that width, and clamps the page asked
for into `[1, totalPages]`, taking the first page when there are no rows. The offset of a page is
`(currentPage - 1) * perPage`.

The offset is a product of two counts, and the service computes it in unsigned 64-bit words. It
fits because the clamp keeps the page at most the last one, whose first row is below `total`.

* `Pagination.totalPages_le_iff`: the number of pages is the ceiling division, as the least `k`
  with `total ≤ k * perPage`.
* `Pagination.offset_make_lt`, `Pagination.offset_make_zero`: the page starts below the count,
  or at zero for an empty listing.
* `Pagination.flatMap_pages`: the pages `1..totalPages`, read in order, show every row of the
  listing exactly once, and none of them is empty.
* `Pagination.make_pages`: all of this for counts that fit 64-bit words, with every field and
  the offset fitting too.
-/

namespace LevelCross

namespace Pagination

variable {total page perPage : Nat}

@[simp]
theorem make_perPage : (make total page perPage).perPage = max perPage 1 := rfl

/-- The number of pages does not depend on the page asked for. -/
theorem make_totalPages (page' : Nat) :
    (make total page perPage).totalPages = (make total page' perPage).totalPages := rfl

theorem make_currentPage :
    (make total page perPage).currentPage =
      min (max page 1) (max (make total page perPage).totalPages 1) := rfl

/-- The number of pages is the ceiling of the count over the width of a page: the least `k`
whose `k` pages hold every row. -/
theorem totalPages_le_iff (k : Nat) :
    (make total page perPage).totalPages ≤ k ↔ total ≤ k * max perPage 1 := by
  have hw : 0 < max perPage 1 := by omega
  show (total + max perPage 1 - 1) / max perPage 1 ≤ k ↔ _
  rw [← Nat.lt_succ_iff, Nat.div_lt_iff_lt_mul hw, Nat.succ_mul]
  omega

theorem totalPages_le_total : (make total page perPage).totalPages ≤ total := by
  rw [totalPages_le_iff]
  exact Nat.le_mul_of_pos_right total (by omega)

theorem one_le_currentPage : 1 ≤ (make total page perPage).currentPage := by
  rw [make_currentPage]
  omega

/-- A page between the first and the last is shown as asked. -/
theorem make_currentPage_of_le {k : Nat} (h₁ : 1 ≤ k)
    (h₂ : k ≤ (make total page perPage).totalPages) :
    (make total k perPage).currentPage = k := by
  rw [make_currentPage, make_totalPages page] at *
  omega

theorem offset_make_of_le {k : Nat} (h₁ : 1 ≤ k)
    (h₂ : k ≤ (make total page perPage).totalPages) :
    (make total k perPage).offset = (k - 1) * max perPage 1 := by
  rw [offset, make_currentPage_of_le h₁ h₂, make_perPage]

end Pagination

/-- The clamped page of a nonempty listing starts below its count. -/
theorem Pagination.offset_make_lt {total : Nat} (page perPage : Nat) (h : 0 < total) :
    (Pagination.make total page perPage).offset < total := by
  simp only [Pagination.make, Pagination.offset]
  -- the clamped page is at most the last page, whose first row is below `total`
  set p := max perPage 1 with hp
  set pages := (total + p - 1) / p with hpages
  have hp1 : 1 ≤ p := le_max_right _ _
  have hlast : pages * p ≤ total + p - 1 := Nat.div_mul_le_self _ _
  have hcur : min (max page 1) (max pages 1) - 1 ≤ pages - 1 := by
    have : 1 ≤ pages := by
      rw [hpages, Nat.le_div_iff_mul_le (by omega)]
      omega
    omega
  calc (min (max page 1) (max pages 1) - 1) * p ≤ (pages - 1) * p := Nat.mul_le_mul_right _ hcur
    _ = pages * p - p := Nat.sub_one_mul _ _
    _ < total := by omega

/-- An empty listing has its one page at offset zero. -/
theorem Pagination.offset_make_zero (page perPage : Nat) :
    (Pagination.make 0 page perPage).offset = 0 := by
  -- with no rows there are no pages, so the first page is shown
  have hnone : (0 + max perPage 1 - 1) / max perPage 1 = 0 :=
    Nat.div_eq_of_lt (by have := le_max_right perPage 1; omega)
  have hfirst : min (max page 1) (max 0 1) - 1 = 0 := by omega
  simp only [Pagination.make, Pagination.offset, hnone, hfirst, Nat.zero_mul]

namespace Pagination

/-- The first `m` windows of width `w`, in order, are the first `m * w` rows. -/
theorem take_mul_eq_flatMap {α : Type} (rows : List α) (w : Nat) :
    ∀ m, rows.take (m * w) = (List.range' 1 m).flatMap fun k ↦ (rows.drop ((k - 1) * w)).take w
  | 0 => by simp
  | m + 1 => by
    rw [Nat.succ_mul, List.take_add, take_mul_eq_flatMap rows w m, List.range'_concat,
      List.flatMap_append]
    simp [Nat.add_comm 1 m]

/-- The pages `1..totalPages` of a listing, read in order, show each of its rows exactly once,
and each of them shows at least one row. -/
theorem flatMap_pages {α : Type} (rows : List α) (page perPage : Nat) :
    let pg := make rows.length page perPage
    (List.range' 1 pg.totalPages).flatMap
        (fun k ↦ (rows.drop (make rows.length k perPage).offset).take pg.perPage) = rows ∧
      ∀ k ∈ List.range' 1 pg.totalPages,
        (rows.drop (make rows.length k perPage).offset).take pg.perPage ≠ [] := by
  intro pg
  have hoff : ∀ k ∈ List.range' 1 pg.totalPages,
      (make rows.length k perPage).offset = (k - 1) * max perPage 1 := by
    intro k hk
    rw [List.mem_range'_1] at hk
    exact offset_make_of_le (by omega) (show k ≤ pg.totalPages by omega)
  refine ⟨?_, fun k hk ↦ ?_⟩
  · -- the last page ends at or past the last row
    have hall : rows.length ≤ pg.totalPages * max perPage 1 := (totalPages_le_iff _).mp le_rfl
    rw [List.flatMap_congr fun k hk ↦ by rw [hoff k hk], make_perPage,
      ← take_mul_eq_flatMap, List.take_of_length_le hall]
  · -- a page starts below the count
    have hpos : 0 < rows.length := by
      have := List.mem_range'_1.mp hk
      have : pg.totalPages ≤ rows.length := totalPages_le_total
      omega
    have hlt := offset_make_lt k perPage hpos
    have hw : 0 < pg.perPage := by
      show 0 < max perPage 1
      omega
    simp only [ne_eq, List.take_eq_nil_iff, List.drop_eq_nil_iff]
    omega

/-- The pages of a listing of `total` rows, for every count `total` below `2^64`, every page
asked for and every width below `2^64`. A page holds `max perPage 1` rows; there are as many
pages as the ceiling of `total` over that width; the page shown is the one asked for, clamped
into `[1, max totalPages 1]`. The offset is computed in 64-bit words without underflow or
overflow: the page is at least one and the product, like every field, is below `2^64`. The
offset is zero for an empty listing and below `total` otherwise, and the windows
`[offset, offset + width)` of the pages `1..totalPages`, cut to `[0, total)`, partition
`[0, total)` in order, none of them empty. -/
theorem make_pages (total page perPage : Nat) (ht : total < 2 ^ 64) (hq : perPage < 2 ^ 64) :
    (Pagination.make total page perPage).perPage = max perPage 1 ∧
    let pg := Pagination.make total page perPage
    (∀ k, pg.totalPages ≤ k ↔ total ≤ k * pg.perPage) ∧
    pg.currentPage = min (max page 1) (max pg.totalPages 1) ∧
    (1 ≤ pg.currentPage ∧ (pg.currentPage - 1) * pg.perPage < 2 ^ 64 ∧
      pg.totalPages < 2 ^ 64 ∧ pg.currentPage < 2 ^ 64 ∧ pg.perPage < 2 ^ 64) ∧
    (total = 0 → pg.offset = 0) ∧ (0 < total → pg.offset < total) ∧
    (List.range' 1 pg.totalPages).flatMap
        (fun k ↦
          ((List.range total).drop (Pagination.make total k perPage).offset).take pg.perPage) =
      List.range total ∧
    ∀ k ∈ List.range' 1 pg.totalPages,
      ((List.range total).drop (Pagination.make total k perPage).offset).take pg.perPage ≠
        [] := by
  refine ⟨rfl, ?_⟩
  intro pg
  have hpages : pg.totalPages ≤ total := totalPages_le_total
  have hoff : pg.offset < 2 ^ 64 := by
    rcases Nat.eq_zero_or_pos total with h0 | h0
    · simp [pg, h0, offset_make_zero]
    · exact (offset_make_lt page perPage h0).trans ht
  have hcur : pg.currentPage < 2 ^ 64 := by
    have : pg.currentPage = min (max page 1) (max pg.totalPages 1) := make_currentPage
    omega
  obtain ⟨hcover, hnonempty⟩ :=
    List.length_range ▸ flatMap_pages (List.range total) page perPage
  refine ⟨totalPages_le_iff, make_currentPage, ⟨one_le_currentPage, hoff, by omega, hcur,
    by simp [pg]; omega⟩, fun h0 ↦ ?_, offset_make_lt page perPage, hcover, hnonempty⟩
  subst h0
  exact offset_make_zero page perPage

/-- The pages at the largest count, page and width that fit 64-bit words. -/
theorem make_pages_at_word_limit :
    2 ^ 64 - 1 < 2 ^ 64 ∧ 2 ^ 64 - 1 < 2 ^ 64 ∧
    (Pagination.make (2 ^ 64 - 1) (2 ^ 64 - 1) (2 ^ 64 - 1)).perPage = max (2 ^ 64 - 1) 1 ∧
    let pg := Pagination.make (2 ^ 64 - 1) (2 ^ 64 - 1) (2 ^ 64 - 1)
    (∀ k, pg.totalPages ≤ k ↔ 2 ^ 64 - 1 ≤ k * pg.perPage) ∧
    pg.currentPage = min (max (2 ^ 64 - 1) 1) (max pg.totalPages 1) ∧
    (1 ≤ pg.currentPage ∧ (pg.currentPage - 1) * pg.perPage < 2 ^ 64 ∧
      pg.totalPages < 2 ^ 64 ∧ pg.currentPage < 2 ^ 64 ∧ pg.perPage < 2 ^ 64) ∧
    (2 ^ 64 - 1 = 0 → pg.offset = 0) ∧ (0 < 2 ^ 64 - 1 → pg.offset < 2 ^ 64 - 1) ∧
    (List.range' 1 pg.totalPages).flatMap
        (fun k ↦ ((List.range (2 ^ 64 - 1)).drop
          (Pagination.make (2 ^ 64 - 1) k (2 ^ 64 - 1)).offset).take pg.perPage) =
      List.range (2 ^ 64 - 1) ∧
    ∀ k ∈ List.range' 1 pg.totalPages,
      ((List.range (2 ^ 64 - 1)).drop (Pagination.make (2 ^ 64 - 1) k (2 ^ 64 - 1)).offset).take
        pg.perPage ≠ [] :=
  ⟨by norm_num, by norm_num, make_pages _ _ _ (by norm_num) (by norm_num)⟩

end Pagination

end LevelCross
