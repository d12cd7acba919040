import Mathlib.Algebra.Order.Floor.Div
import Mathlib.Data.List.Nodup
import Mathlib.Data.List.Perm.Basic
import Mathlib.Data.List.Rotate

/-!
# Paging through a list

Page `k`, counted from zero, skips `k * n` elements and takes `n`. Every page is cut from its own
arrangement of the list. With one arrangement for all pages they give the whole list; if each page may
have another one, that is so only when there is no second page.
-/

namespace Paging

variable {α : Type} {n : Nat} {l : List α}

def page (l : List α) (n k : Nat) : List α := (l.drop (k * n)).take n

/-- The number of pages, the last one possibly partial. -/
def pageCount (total n : Nat) : Nat := (total + n - 1) / n

/-- The first `count` pages, page `k` cut from `arrangement k`. -/
def pages (arrangement : Nat → List α) (n count : Nat) : List α :=
  (List.range count).flatMap fun k => page (arrangement k) n k

theorem pages_succ (arrangement : Nat → List α) (n count : Nat) :
    pages arrangement n (count + 1) = pages arrangement n count ++ page (arrangement count) n count := by
  rw [pages, List.range_succ, List.flatMap_append, List.flatMap_singleton]
  rfl

theorem pages_const (l : List α) (n count : Nat) : pages (fun _ => l) n count = l.take (count * n) := by
  induction count with
  | zero => rw [Nat.zero_mul, List.take_zero]; rfl
  | succ count ih => rw [pages_succ, ih, page, Nat.succ_mul, List.take_add]

theorem length_le_pageCount_mul (hn : 0 < n) (total : Nat) : total ≤ pageCount total n * n := by
  have hdiv := Nat.div_add_mod (total + n - 1) n
  have hmod := Nat.mod_lt (total + n - 1) hn
  rw [pageCount, Nat.mul_comm]
  omega

theorem pages_const_pageCount (hn : 0 < n) (l : List α) : pages (fun _ => l) n (pageCount l.length n) = l := by
  rw [pages_const]
  exact List.take_of_length_le (length_le_pageCount_mul hn l.length)

theorem pageCount_le_one (h : l.length ≤ n) : pageCount l.length n ≤ 1 := by
  rw [pageCount]
  rcases Nat.eq_zero_or_pos n with rfl | hn
  · rw [Nat.div_zero]
    omega
  · have hlt : (l.length + n - 1) / n < 2 := by
      rw [Nat.div_lt_iff_lt_mul hn]
      omega
    omega

theorem two_le_pageCount (hn : 0 < n) (h : n < l.length) : 2 ≤ pageCount l.length n := by
  rw [pageCount, Nat.le_div_iff_mul_le hn]
  omega

theorem perm_pages_of_length_le (hn : 0 < n) (h : l.length ≤ n) {arrangement : Nat → List α}
    (hperm : ∀ k, (arrangement k).Perm l) : (pages arrangement n (pageCount l.length n)).Perm l := by
  have hle := length_le_pageCount_mul hn l.length
  have hone := pageCount_le_one h
  rcases Nat.le_one_iff_eq_zero_or_eq_one.mp hone with hcount | hcount
  · rw [hcount, Nat.zero_mul, Nat.le_zero, List.length_eq_zero_iff] at hle
    rw [hcount, hle]
    exact List.Perm.refl []
  · have hpage : pages arrangement n 1 = arrangement 0 := by
      rw [pages_succ, page, Nat.zero_mul, List.drop_zero]
      apply List.take_of_length_le
      rw [(hperm 0).length_eq]
      exact h
    rw [hcount, hpage]
    exact hperm 0

theorem pages_mono (arrangement : Nat → List α) (n : Nat) {i j : Nat} (h : i ≤ j) :
    pages arrangement n i <+: pages arrangement n j := by
  induction h with
  | refl => exact List.prefix_rfl
  | step _ ih =>
      rw [pages_succ]
      exact ih.trans (List.prefix_append _ _)

/-- The first element, on the first page, comes again on the second one when that is cut from the list
turned back by a page. -/
theorem exists_duplicate (hn : 0 < n) (h : n < l.length) :
    ∃ arrangement : Nat → List α, (∀ k, (arrangement k).Perm l) ∧
      ¬ (pages arrangement n (pageCount l.length n)).Nodup := by
  obtain ⟨a, t, rfl⟩ := List.exists_cons_of_length_pos (Nat.lt_of_le_of_lt (Nat.zero_le n) h)
  generalize hl : a :: t = l at h ⊢
  refine ⟨fun k => if k = 1 then l.rotate (l.length - n) else l, fun k => ?_, fun hnodup => ?_⟩
  · dsimp only
    split
    · exact List.rotate_perm l _
    · exact List.Perm.refl l
  · have hfirst : a ∈ l.take n := by
      rw [← hl, ← Nat.succ_pred_eq_of_pos hn, List.take_succ_cons]
      exact List.mem_cons_self
    have hsecond : a ∈ page (l.rotate (l.length - n)) n 1 := by
      have hdrop : (l.rotate (l.length - n)).drop n = l.take (l.length - n) := by
        rw [List.rotate_eq_drop_append_take (Nat.sub_le _ _)]
        apply List.drop_left'
        rw [List.length_drop]
        omega
      rw [page, Nat.one_mul, hdrop, List.take_take, ← hl]
      have hpos : 0 < min n ((a :: t).length - n) := by
        rw [hl]
        omega
      rw [← Nat.succ_pred_eq_of_pos hpos, List.take_succ_cons]
      exact List.mem_cons_self
    have htwo := (pages_mono _ n (two_le_pageCount hn h)).sublist.nodup hnodup
    rw [pages_succ, pages_succ] at htwo
    have hdisjoint := List.disjoint_of_nodup_append htwo
    exact hdisjoint (by simpa [page] using Or.inr hfirst) hsecond

/-- Exactly the lists that fit on one page are given in full whatever the arrangement of each page. -/
theorem forall_perm_pages_iff (hn : 0 < n) (hl : l.Nodup) :
    (∀ arrangement : Nat → List α, (∀ k, (arrangement k).Perm l) →
      (pages arrangement n (pageCount l.length n)).Perm l) ↔ l.length ≤ n := by
  refine ⟨fun hall => ?_, fun h arrangement hperm => perm_pages_of_length_le hn h hperm⟩
  by_contra hlong
  obtain ⟨arrangement, hperm, hduplicate⟩ := exists_duplicate hn (Nat.lt_of_not_le hlong)
  exact hduplicate ((hall arrangement hperm).nodup_iff.mpr hl)

end Paging
