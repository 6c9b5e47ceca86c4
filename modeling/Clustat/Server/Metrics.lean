/-
# The server's metrics

`CacheMetrics::snapshot` of `crates/server/src/cache.rs`: counters, their ratios in basis points,
and two percentiles of the latest collections.  The latencies are kept in a queue of
`LATENCY_SAMPLE_LIMIT` samples, in microseconds.

A percentile is the nearest rank of the samples, for every number of them and every percentage
(`latency_percentiles`).  The rank is computed with a ceiling that is written `+ 99`, a saturating
`- 1` and a bound; with `u64` it is the same as with natural numbers, unless the product of the
count and the percentage comes near `2 ^ 64` (`percentileUsChecked_eq`).
-/

import Clustat.Lib.Checked
import Clustat.Lib.Percentile
import Clustat.Server.Cache

namespace Clustat
namespace Server

open Percentile

/-- The order of `u64`. -/
instance linearOrderU64 : LinearOrder UInt64 where
  le_refl := UInt64.le_refl
  le_trans _ _ _ := UInt64.le_trans
  le_antisymm _ _ := UInt64.le_antisymm
  le_total := UInt64.le_total
  lt_iff_le_not_ge a b := by
    rw [UInt64.not_le]
    exact ⟨fun h => ⟨UInt64.le_of_lt h, h⟩, And.right⟩
  toDecidableLE := inferInstance

/-- `CacheMetricsSnapshot`. -/
structure CacheMetricsSnapshot where
  cacheHits : UInt64
  cacheMisses : UInt64
  mergeCount : UInt64
  collectCount : UInt64
  avgCollectLatencyUs : UInt64
  collectLatencyP50Us : UInt64
  collectLatencyP95Us : UInt64
  cacheHitRateBps : UInt64
  cacheMissRateBps : UInt64
  mergeRatioBps : UInt64
  deriving DecidableEq, Repr

/-- `ratio_bps`. -/
def ratioBps (numerator denominator : UInt64) : UInt64 :=
  if denominator = 0 then 0
  else .ofNat (min (numerator.toNat * 10000) (2 ^ 64 - 1)) / denominator

/-- `percentile_us`. -/
def percentileUs (samples : List UInt64) (percentile : ℕ) : UInt64 :=
  if samples = [] then 0
  else
    let rank := min ((samples.length * percentile + 99) / 100 - 1) (samples.length - 1)
    (samples.mergeSort fun a b => a ≤ b)[rank]?.getD 0

/-- `percentile_us` in `u64`: the product may overflow, the sum saturates, and the index has to be
one of the samples. -/
def percentileUsChecked (samples : List UInt64) (percentile : ℕ) : Option UInt64 :=
  if samples = [] then some 0
  else do
    let product := samples.length * percentile
    if 2 ^ 64 ≤ product then none
    let last ← Checked.sub samples.length 1
    Checked.index (samples.mergeSort fun a b => a ≤ b)
      (min (min (product + 99) (2 ^ 64 - 1) / 100 - 1) last)

/-- `CacheMetrics::snapshot`. -/
def CacheMetrics.snapshot (m : CacheMetrics) : CacheMetricsSnapshot :=
  let totalRequests := m.cacheHits + m.cacheMisses
  { cacheHits := m.cacheHits
    cacheMisses := m.cacheMisses
    mergeCount := m.mergeCount
    collectCount := m.collectCount
    avgCollectLatencyUs :=
      if m.collectCount = 0 then 0 else m.collectLatencyTotalNs / m.collectCount / 1000
    collectLatencyP50Us := percentileUs m.collectLatencySamplesUs 50
    collectLatencyP95Us := percentileUs m.collectLatencySamplesUs 95
    cacheHitRateBps := ratioBps m.cacheHits totalRequests
    cacheMissRateBps := ratioBps m.cacheMisses totalRequests
    mergeRatioBps := ratioBps m.mergeCount m.cacheMisses }

/-- What is recorded; a duration is in nanoseconds. -/
inductive Recorded
  | hit
  | miss
  | merge
  | collectLatency (elapsed : ℕ)

/-- One record. -/
def CacheMetrics.record (m : CacheMetrics) : Recorded → CacheMetrics
  | .hit => m.recordHit
  | .miss => m.recordMiss
  | .merge => m.recordMerge
  | .collectLatency elapsed => m.recordCollectLatency elapsed

/-- A latency in microseconds, as it is recorded. -/
def latencyUs (elapsed : ℕ) : UInt64 := .ofNat (min (elapsed / 1000) (2 ^ 64 - 1))

/-- The latencies among what has been recorded. -/
def latencies (records : List Recorded) : List UInt64 :=
  records.filterMap fun
    | .collectLatency elapsed => some (latencyUs elapsed)
    | _ => none

/-! ### The samples -/

/-- One more event pushes its latency, if it has one, onto the samples that
are kept. -/
theorem samples_record (m : CacheMetrics) (r : Recorded) :
    (m.record r).collectLatencySamplesUs =
      (latencies [r]).foldl (push latencySampleLimit) m.collectLatencySamplesUs := by
  cases r <;> rfl

/-- **The queue has the last samples**, in their order, and no more than
`LATENCY_SAMPLE_LIMIT` of them. -/
theorem samples_run (records : List Recorded) :
    (records.foldl CacheMetrics.record {}).collectLatencySamplesUs =
      (latencies records).drop ((latencies records).length - latencySampleLimit) := by
  have hfold (m : CacheMetrics) : (records.foldl CacheMetrics.record m).collectLatencySamplesUs =
      (latencies records).foldl (push latencySampleLimit) m.collectLatencySamplesUs := by
    induction records generalizing m with
    | nil => rfl
    | cons r records ih =>
      have hcons : latencies (r :: records) = latencies [r] ++ latencies records := by
        rw [latencies, latencies, latencies, ← List.filterMap_append]
        rfl
      rw [List.foldl_cons, ih, samples_record, hcons, List.foldl_append]
  rw [hfold]
  exact foldl_push (by decide) _

/-! ### Percentiles -/

/-- The place that `percentile_us` computes is that of the nearest rank. -/
theorem rank_bounds {n p : ℕ} (hn : n ≠ 0) (hp : 1 ≤ p) (hp' : p ≤ 100) :
    min ((n * p + 99) / 100 - 1) (n - 1) < n ∧
    p * n ≤ 100 * (min ((n * p + 99) / 100 - 1) (n - 1) + 1) ∧
    100 * min ((n * p + 99) / 100 - 1) (n - 1) < p * n := by
  have hone : n ≤ n * p := Nat.le_mul_of_pos_right n hp
  have hall : n * p ≤ 100 * n := by
    rw [Nat.mul_comm 100]
    exact Nat.mul_le_mul_left n hp'
  rw [Nat.mul_comm p n]
  omega

/-- **A percentile is a nearest rank** of the samples, whatever order they are
in, if there are any. -/
theorem isNearestRank_percentileUs {samples : List UInt64} (hne : samples ≠ []) {p : ℕ}
    (hp : 1 ≤ p) (hp' : p ≤ 100) :
    IsNearestRank p 100 samples (percentileUs samples p) := by
  have hsort := List.mergeSort_perm samples fun a b => decide (a ≤ b)
  have hlen := hsort.length_eq
  obtain ⟨hrank, hshare, hleast⟩ := rank_bounds (mt List.length_eq_zero_iff.1 hne) hp hp'
  rw [percentileUs, if_neg hne]
  dsimp only
  generalize min ((samples.length * p + 99) / 100 - 1) (samples.length - 1) = rank at *
  rw [List.getElem?_eq_getElem (by omega), Option.getD_some]
  refine (isNearestRank_getElem ?_ (by omega) (by rwa [hlen]) (by rwa [hlen])).of_perm hsort
  exact samples.pairwise_mergeSort' (· ≤ ·)

/-- A percentile of no samples is 0, and else goes up with the percentage. -/
theorem percentileUs_mono (samples : List UInt64) {p p' : ℕ} (hp : 1 ≤ p) (hle : p ≤ p')
    (hp' : p' ≤ 100) : percentileUs samples p ≤ percentileUs samples p' := by
  by_cases hne : samples = []
  · rw [percentileUs, percentileUs, if_pos hne, if_pos hne]
  · exact (isNearestRank_percentileUs hne hp (hle.trans hp')).mono
      (isNearestRank_percentileUs hne (hp.trans hle) hp') hle

/-- **No overflow**, where the product stays below the bound of `u64`; and the
index it is for is one of a sample. -/
theorem percentileUsChecked_eq {samples : List UInt64} {p : ℕ}
    (h : samples.length * p + 99 < 2 ^ 64) :
    percentileUsChecked samples p = some (percentileUs samples p) := by
  rw [percentileUsChecked, percentileUs]
  split_ifs with hne
  · rfl
  · have hpos : 0 < samples.length := List.length_pos_iff.2 hne
    have hsmall : ¬2 ^ 64 ≤ samples.length * p := by omega
    have hsum : min (samples.length * p + 99) (2 ^ 64 - 1) = samples.length * p + 99 := by omega
    have hindex : min ((samples.length * p + 99) / 100 - 1) (samples.length - 1) <
        (samples.mergeSort fun a b => a ≤ b).length := by
      rw [List.length_mergeSort]
      omega
    rw [if_neg hsmall, Checked.sub_of_le hpos, hsum]
    exact (List.getElem?_eq_getElem hindex).trans
      (by simp only [List.getElem?_eq_getElem hindex, Option.getD_some])

/-- The percentiles of a snapshot are computed with no overflow. -/
theorem percentileUsChecked_run (records : List Recorded) {p : ℕ} (hp : p ≤ 100) :
    percentileUsChecked (records.foldl CacheMetrics.record {}).collectLatencySamplesUs p =
      some (percentileUs (records.foldl CacheMetrics.record {}).collectLatencySamplesUs p) := by
  have hlen : (records.foldl CacheMetrics.record {}).collectLatencySamplesUs.length ≤ 128 := by
    rw [samples_run, List.length_drop, latencySampleLimit]
    omega
  have hproduct := Nat.mul_le_mul hlen hp
  exact percentileUsChecked_eq (by omega)

/-- **Latency percentiles** are nearest ranks of the last samples: the queue has the last
`LATENCY_SAMPLE_LIMIT` latencies in their order, a percentile of samples is one of them with this
share of the samples at or below it, and the least such one; it goes up with the percentage, and
the 50th of a snapshot is never above the 95th. -/
theorem latency_percentiles :
    (∀ records : List Recorded,
      (records.foldl CacheMetrics.record {}).collectLatencySamplesUs =
        (latencies records).drop ((latencies records).length - 128)) ∧
    (∀ samples : List UInt64, samples ≠ [] → ∀ p, 1 ≤ p → p ≤ 100 →
      IsNearestRank p 100 samples (percentileUs samples p)) ∧
    (∀ (samples : List UInt64) (p p' : ℕ), 1 ≤ p → p ≤ p' → p' ≤ 100 →
      percentileUs samples p ≤ percentileUs samples p') ∧
    ∀ m : CacheMetrics, m.snapshot.collectLatencyP50Us ≤ m.snapshot.collectLatencyP95Us :=
  ⟨samples_run, fun _ hne _ hp hp' => isNearestRank_percentileUs hne hp hp',
    fun samples _ _ hp hle hp' => percentileUs_mono samples hp hle hp',
    fun _ => percentileUs_mono _ (by decide) (by decide) (by decide)⟩

/-- Three samples out of order. -/
theorem latency_percentiles_three :
    IsNearestRank 50 100 [10, 30, 20] (percentileUs [10, 30, 20] 50) :=
  latency_percentiles.2.1 [10, 30, 20] (by decide) 50 (by decide) (by decide)

end Server
end Clustat
