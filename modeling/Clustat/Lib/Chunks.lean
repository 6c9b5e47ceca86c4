/-
# Cutting a list into chunks

`chunks m l` is `slice::chunks(m)`: consecutive pieces of `m` elements, the
last one possibly shorter.  There are `divCeil l.length m` of them
(`usize::div_ceil`), and put together again they are `l`
(`flatten_chunks`).
-/

import Mathlib.Data.List.Basic
import Mathlib.Tactic.Ring

namespace Chunks

variable {α : Type*}

/-- `n.div_ceil(m)`. -/
def divCeil (n m : ℕ) : ℕ := (n + m - 1) / m

/-- `l.chunks(m)`. -/
def chunks (m : ℕ) (l : List α) : List (List α) :=
  (List.range (divCeil l.length m)).map fun i => (l.drop (i * m)).take m

/-- So many chunks of `m` have room for `n`. -/
theorem le_divCeil_mul {n m : ℕ} (hm : 0 < m) : n ≤ divCeil n m * m := by
  have hdiv := Nat.div_add_mod (n + m - 1) m
  have hmod := Nat.mod_lt (n + m - 1) hm
  rw [divCeil, Nat.mul_comm]
  omega

/-- What is not empty needs a chunk. -/
theorem divCeil_pos {n m : ℕ} (hm : 0 < m) (hn : 0 < n) : 0 < divCeil n m :=
  Nat.div_pos (by omega) hm

/-- What fits one chunk needs no second. -/
theorem divCeil_le_one {n m : ℕ} (h : n ≤ m) : divCeil n m ≤ 1 := by
  unfold divCeil
  rcases Nat.eq_zero_or_pos m with rfl | hm
  · simp
  · exact Nat.lt_succ_iff.1 ((Nat.div_lt_iff_lt_mul hm).2 (by omega))

/-- So many pieces are enough. -/
theorem divCeil_le_iff {n m k : ℕ} (hm : 0 < m) : divCeil n m ≤ k ↔ n ≤ k * m := by
  rw [divCeil, ← Nat.lt_succ_iff, Nat.div_lt_iff_lt_mul hm, Nat.succ_mul]
  omega

/-- The number of chunks is the length divided by the size of a chunk, rounded
up. -/
@[simp] theorem length_chunks (m : ℕ) (l : List α) :
    (chunks m l).length = divCeil l.length m := by
  simp [chunks]

/-- Chunk `i` starts where the `i` chunks before it end. -/
theorem getElem_chunks {m : ℕ} {l : List α} {i : ℕ} (h : i < (chunks m l).length) :
    (chunks m l)[i] = (l.drop (i * m)).take m := by
  simp [chunks]

/-- No chunk is longer than the size of a chunk. -/
theorem length_getElem_chunks_le {m : ℕ} {l : List α} {i : ℕ} (h : i < (chunks m l).length) :
    ((chunks m l)[i]).length ≤ m := by
  rw [getElem_chunks h, List.length_take]
  exact Nat.min_le_left ..

/-- The first `k` pieces are the first `k * m` elements. -/
theorem flatten_map_take (m : ℕ) (l : List α) (k : ℕ) :
    ((List.range k).map fun i => (l.drop (i * m)).take m).flatten = l.take (k * m) := by
  induction k with
  | zero => simp
  | succ k ih =>
      rw [List.range_succ, List.map_append, List.flatten_append, ih, Nat.succ_mul, List.take_add]
      simp

/-- **The pieces are the list**: put together again, in their order, nothing
is lost and nothing is there twice. -/
theorem flatten_chunks {m : ℕ} (hm : 0 < m) (l : List α) : (chunks m l).flatten = l := by
  rw [chunks, flatten_map_take, List.take_of_length_le (le_divCeil_mul hm)]

/-- A full piece in front is cut off. -/
theorem chunks_append {m : ℕ} (hm : 0 < m) {a : List α} (ha : a.length = m) (l : List α) :
    chunks m (a ++ l) = a :: chunks m l := by
  have hcount : divCeil (a ++ l).length m = divCeil l.length m + 1 := by
    rw [divCeil, divCeil, List.length_append, ha, ← Nat.add_div_right _ hm]
    congr 1
    omega
  rw [chunks, hcount, List.range_succ_eq_map, List.map_cons, List.map_map, chunks]
  congr 1
  · rw [Nat.zero_mul, List.drop_zero, ← ha, List.take_left]
  · refine List.map_congr_left fun i _ => ?_
    have hdrop : (a ++ l).drop ((i + 1) * m) = l.drop (i * m) := by
      rw [show (i + 1) * m = a.length + i * m by rw [ha]; ring, List.drop_length_add_append]
    exact congrArg (List.take m) hdrop

/-- **Cutting undoes putting together**: pieces that all have the full size
are found again. -/
theorem chunks_flatten {m : ℕ} (hm : 0 < m) {ls : List (List α)} (h : ∀ l ∈ ls, l.length = m) :
    chunks m ls.flatten = ls := by
  induction ls with
  | nil => simp [chunks, divCeil, Nat.div_eq_of_lt (show m - 1 < m by omega)]
  | cons l ls ih =>
    rw [List.flatten_cons, chunks_append hm (h l List.mem_cons_self),
      ih fun l' hl' => h l' (List.mem_cons_of_mem _ hl')]

/-- A list no longer than a piece is one piece. -/
theorem chunks_of_length_le {m : ℕ} {l : List α} (hl : l ≠ []) (h : l.length ≤ m) :
    chunks m l = [l] := by
  have hpos : 0 < l.length := List.length_pos_iff.2 hl
  have hone : divCeil l.length m = 1 :=
    Nat.le_antisymm (divCeil_le_one h) (divCeil_pos (by omega) hpos)
  rw [chunks, hone]
  simp [List.take_of_length_le h]

end Chunks
