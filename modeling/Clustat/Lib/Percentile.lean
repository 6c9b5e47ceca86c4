/-
# Percentiles of recent samples

A window of a given size takes samples at its end, and gives one up at its front when it is full:
it has the last samples that it was given (`foldl_push`).

The nearest rank of a share `p / q` is a sample with this share of all samples at or below it, and
the least such one.  It is found by its place among the sorted samples
(`isNearestRank_getElem`), and it goes up with the share (`IsNearestRank.mono`).
-/

import Mathlib.Data.List.Induction
import Mathlib.Data.List.Sort
import Mathlib.Order.Basic

namespace Percentile

variable {α : Type*}

/-! ### The window -/

/-- A sample goes into a window of `size` samples. -/
def push (size : ℕ) (window : List α) (x : α) : List α :=
  (if window.length = size then window.tail else window) ++ [x]

/-- **A window has the last samples**, in their order: each push takes out the
oldest one, once there is no more room. -/
theorem foldl_push {size : ℕ} (hsize : 0 < size) (samples : List α) :
    samples.foldl (push size) [] = samples.drop (samples.length - size) := by
  induction samples using List.reverseRecOn with
  | nil => exact (List.drop_nil).symm
  | append_singleton samples x ih =>
    rw [List.foldl_append, ih, List.foldl_cons, List.foldl_nil, push, List.length_drop,
      List.length_append, List.length_singleton, List.tail_drop]
    by_cases hfull : size ≤ samples.length
    · have hlen : samples.length - (samples.length - size) = size := by omega
      have hdrop : samples.length - size + 1 = samples.length + 1 - size := by omega
      rw [if_pos hlen, hdrop, List.drop_append_of_le_length (by omega)]
    · have hlen : samples.length - (samples.length - size) ≠ size := by omega
      have hzero : samples.length - size = 0 := by omega
      have hzero' : samples.length + 1 - size = 0 := by omega
      rw [if_neg hlen, hzero, hzero', List.drop_zero, List.drop_zero]

/-! ### Nearest ranks -/

variable [LinearOrder α] {p p' q : ℕ} {samples sorted : List α} {x x' y : α}

/-- The least sample with `p / q` of the samples at or below it. -/
structure IsNearestRank (p q : ℕ) (samples : List α) (x : α) : Prop where
  mem : x ∈ samples
  share : p * samples.length ≤ q * samples.countP (· ≤ x)
  least : ∀ y ∈ samples, y < x → q * samples.countP (· ≤ y) < p * samples.length

/-- **A greater share** has a nearest rank that is no smaller, since at least
as many samples have to lie at or below it. -/
theorem IsNearestRank.mono (h : IsNearestRank p q samples x) (h' : IsNearestRank p' q samples x')
    (hp : p ≤ p') : x ≤ x' := by
  by_contra hlt
  have hbelow := h.least x' h'.mem (not_le.1 hlt)
  have hshare := h'.share
  have hmul : p * samples.length ≤ p' * samples.length := Nat.mul_le_mul_right _ hp
  omega

/-- A nearest-rank percentile is one of the samples in any other order too,
because it only counts them. -/
theorem IsNearestRank.of_perm (h : IsNearestRank p q sorted x) (hperm : sorted.Perm samples) :
    IsNearestRank p q samples x where
  mem := hperm.subset h.mem
  share := by
    rw [← hperm.length_eq, ← hperm.countP_eq]
    exact h.share
  least y hy hlt := by
    rw [← hperm.length_eq, ← hperm.countP_eq]
    exact h.least y (hperm.symm.subset hy) hlt

/-- Up to a place of a sorted list, the samples are at or below the one there. -/
theorem succ_le_countP (hsorted : sorted.Pairwise (· ≤ ·)) {i : ℕ} (hi : i < sorted.length) :
    i + 1 ≤ sorted.countP (· ≤ sorted[i]) := by
  have htake : ((sorted.take (i + 1)).countP (· ≤ sorted[i])) = i + 1 := by
    rw [List.countP_eq_length.2, List.length_take]
    · omega
    · intro y hy
      obtain ⟨j, hj, rfl⟩ := List.getElem_of_mem hy
      rw [List.length_take] at hj
      rw [List.getElem_take, decide_eq_true_iff]
      exact hsorted.sortedLE.getElem_le_getElem_of_le (by omega)
  exact htake ▸ (List.take_sublist _ _).countP_le

/-- Those at or below a lesser one stand before the place. -/
theorem countP_le_of_lt (hsorted : sorted.Pairwise (· ≤ ·)) {i : ℕ} (hi : i < sorted.length)
    (hy : y < sorted[i]) : sorted.countP (· ≤ y) ≤ i := by
  have hdrop : (sorted.drop i).countP (· ≤ y) = 0 := by
    refine List.countP_eq_zero.2 fun z hz => ?_
    obtain ⟨j, hj, rfl⟩ := List.getElem_of_mem hz
    rw [List.length_drop] at hj
    rw [List.getElem_drop, decide_eq_true_iff, not_le]
    exact lt_of_lt_of_le hy
      (hsorted.sortedLE.getElem_le_getElem_of_le (Nat.le_add_right i j))
  have hsplit : sorted.countP (· ≤ y) =
      (sorted.take i).countP (· ≤ y) + (sorted.drop i).countP (· ≤ y) := by
    rw [← List.countP_append, List.take_append_drop]
  rw [hsplit, hdrop, Nat.add_zero]
  exact List.countP_le_length.trans (by rw [List.length_take]; omega)

/-- **The nearest rank by its place** in the sorted samples: the first place
with the whole share of the samples up to it. -/
theorem isNearestRank_getElem (hsorted : sorted.Pairwise (· ≤ ·)) {i : ℕ}
    (hi : i < sorted.length) (hshare : p * sorted.length ≤ q * (i + 1))
    (hleast : q * i < p * sorted.length) : IsNearestRank p q sorted sorted[i] where
  mem := List.getElem_mem hi
  share := hshare.trans (Nat.mul_le_mul_left q (succ_le_countP hsorted hi))
  least _ _ hlt :=
    lt_of_le_of_lt (Nat.mul_le_mul_left q (countP_le_of_lt hsorted hi hlt)) hleast

end Percentile
