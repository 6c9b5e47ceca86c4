/-
# What the counters count

The counters of `CacheMetrics` in `crates/server/src/cache.rs` are moved by any number of threads,
each at some point of its call.  What they say is told by the run: a call looks once, and is a hit
or a miss from then on; a collection is counted once it has been timed; and a merge is a call that
went to sleep, which has been woken since or is asleep yet (`Accounted`).

So the rates of a snapshot add up, up to what the two divisions leave out, and the collector has
been called for misses only (`metrics_account`).
-/

import Clustat.Lib.Tally
import Clustat.Server.Metrics
import Clustat.Server.SingleFlight

namespace Clustat
namespace Server

open Tally

variable {τ : Type*} [DecidableEq τ]

/-! ### Points and events -/

/-- In a call that has not looked yet. -/
def Pc.asking : Pc → Bool
  | .latestRead | .freshNow | .freshRead _ => true
  | _ => false

/-- In a call that is a miss, and has not been given anything yet. -/
def Pc.missing : Pc → Bool
  | .lock | .loopNow | .loopRead _ | .decide | .waiting _ | .claimed | .collecting _ => true
  | _ => false

/-- Asleep. -/
def Pc.asleep : Pc → Bool
  | .waiting _ => true
  | _ => false

/-- With what the collector has returned, and before its latency is recorded. -/
def Pc.untimed : Pc → Bool
  | .stamping .. | .timing .. => true
  | _ => false

/-- A call begins. -/
def Event.isCall : Event → Bool
  | .call .. => true
  | _ => false

/-- The collector returns. -/
def Event.isReturn : Event → Bool
  | .collectorReturns _ => true
  | _ => false

/-- A thread wakes up. -/
def Event.isWake : Event → Bool
  | .wake => true
  | _ => false

/-- The event of a thread. -/
def CacheAct.is (p : Event → Bool) : CacheAct τ → Bool
  | .thread _ e => p e
  | .tick _ => false

/-- What a step records. -/
def Effect.records : Effect → Recorded → Bool
  | .hit, .hit | .miss, .miss | .wait, .merge | .latency _, .collectLatency _ => true
  | _, _ => false

/-- The threads at a point. -/
def CacheState.at [Fintype τ] (s : CacheState τ) (p : Pc → Bool) : ℕ :=
  tally (fun th : Caller => p th.pc) s.threads

section Move

variable {cache : GresCache} {now : ℕ} {free : Bool} {th th' : Caller} {e : Event} {effect : Effect}

/-- A thread that is not in a call is at no point of one. -/
theorem Pc.of_inactive {pc : Pc} (h : pc.active = false) :
    pc.asking = false ∧ pc.missing = false ∧ pc.asleep = false ∧ pc.untimed = false := by
  cases pc <;> first | exact ⟨rfl, rfl, rfl, rfl⟩ | cases h

/-- **What a step of a thread is counted as**: a hit or a miss when it has
looked, a merge when it goes to sleep, a collection when it has been timed. -/
theorem Move.counts (hm : Move cache now free th e th' effect) :
    th'.pc.asking.toNat + (effect.records .hit).toNat + (effect.records .miss).toNat =
        th.pc.asking.toNat + e.isCall.toNat ∧
      th'.pc.missing.toNat + e.isReturn.toNat ≤
        th.pc.missing.toNat + (effect.records .miss).toNat ∧
      th'.pc.asleep.toNat + e.isWake.toNat =
        th.pc.asleep.toNat + (effect.records .merge).toNat ∧
      th'.pc.untimed.toNat + (effect.records (.collectLatency 0)).toNat =
        th.pc.untimed.toNat + e.isReturn.toNat := by
  cases hm with
  | call latest ttlMs hpc hp =>
    obtain ⟨hasking, hmissing, hasleep, huntimed⟩ := Pc.of_inactive hpc
    rw [hasking, hmissing, hasleep, huntimed]
    cases latest <;> exact ⟨rfl, Nat.le_of_ble_eq_true rfl, rfl, rfl⟩
  | latestHit hpc | latestMiss hpc | freshNow hpc | freshHit hpc | freshMiss hpc | lock hpc
  | loopNow hpc | loopHit hpc | loopMiss hpc | failed hpc | stray hpc | claim hpc | wait hpc
  | collect hpc | stamp hpc | timeOk hpc | timeError hpc | store hpc | finish hpc | publish hpc
  | collectorReturns result hpc | collectorPanics hpc | wake hpc =>
    rw [hpc]
    exact ⟨rfl, Nat.le_of_ble_eq_true rfl, rfl, rfl⟩

/-- What a step does to the other threads moves none to a point or away from it. -/
theorem Effect.points_onCaller (effect : Effect) (th : Caller) :
    (effect.onCaller th).pc.asking = th.pc.asking ∧
      (effect.onCaller th).pc.missing = th.pc.missing ∧
      (effect.onCaller th).pc.asleep = th.pc.asleep ∧
      (effect.onCaller th).pc.untimed = th.pc.untimed := by
  have hnotify : ∀ pc : Pc, pc.notify.asking = pc.asking ∧ pc.notify.missing = pc.missing ∧
      pc.notify.asleep = pc.asleep ∧ pc.notify.untimed = pc.untimed := by
    intro pc
    cases pc <;> exact ⟨rfl, rfl, rfl, rfl⟩
  rcases effect.pc_onCaller th with h | h
  · rw [h]
    exact ⟨rfl, rfl, rfl, rfl⟩
  · rw [h]
    exact hnotify _

/-- A counter that is moved on where something holds, in 64 bits. -/
theorem ofNat_add_bool (n : ℕ) (b : Bool) :
    UInt64.ofNat n + (if b then 1 else 0) = UInt64.ofNat (n + b.toNat) := by
  cases b
  · rw [UInt64.ofNat_add]
    rfl
  · rw [UInt64.ofNat_add]
    rfl

/-- **What a step does to the counters**: each moves on by one where the step
records its event, and stays otherwise. -/
theorem Effect.counters_onCache (effect : Effect) (cache : GresCache) :
    (effect.onCache cache).metrics.cacheHits =
        cache.metrics.cacheHits + (if effect.records .hit then 1 else 0) ∧
      (effect.onCache cache).metrics.cacheMisses =
        cache.metrics.cacheMisses + (if effect.records .miss then 1 else 0) ∧
      (effect.onCache cache).metrics.mergeCount =
        cache.metrics.mergeCount + (if effect.records .merge then 1 else 0) ∧
      (effect.onCache cache).metrics.collectCount =
        cache.metrics.collectCount + (if effect.records (.collectLatency 0) then 1 else 0) := by
  have hzero (n : UInt64) : n = n + 0 := (UInt64.add_zero n).symm
  cases effect with
  | hit => exact ⟨rfl, hzero _, hzero _, hzero _⟩
  | miss => exact ⟨hzero _, rfl, hzero _, hzero _⟩
  | wait => exact ⟨hzero _, hzero _, rfl, hzero _⟩
  | latency elapsed => exact ⟨hzero _, hzero _, hzero _, rfl⟩
  | nothing | acquire | release | claim | collect | store | publish =>
    exact ⟨hzero _, hzero _, hzero _, hzero _⟩

end Move

/-! ### Runs -/

/-- **The counters and the run**, of which this many calls, returns of the collector, and wakes
are behind us.  The counters are what has been counted, modulo `2 ^ 64`. -/
structure Accounted [Fintype τ] (calls returned wakes hits misses merges collects : ℕ)
    (s : CacheState τ) : Prop where
  cacheHits : s.cache.metrics.cacheHits = .ofNat hits
  cacheMisses : s.cache.metrics.cacheMisses = .ofNat misses
  mergeCount : s.cache.metrics.mergeCount = .ofNat merges
  collectCount : s.cache.metrics.collectCount = .ofNat collects
  looked : hits + misses + s.at Pc.asking = calls
  missed : returned + s.at Pc.missing ≤ misses
  slept : wakes + s.at Pc.asleep = merges
  timed : collects + s.at Pc.untimed = returned

section Run

variable [Fintype τ] {returns : Set (Except ErrorCode ServerGresSnapshot)} {panics : Prop}
  {s s' : CacheState τ} {a : CacheAct τ} {calls returned wakes hits misses merges collects : ℕ}

/-- The threads at a point, after a step of one of them. -/
theorem at_apply (p : Pc → Bool) (t : τ) (th : Caller) (effect : Effect)
    (h : ∀ th, p (effect.onCaller th).pc = p th.pc) :
    (s.apply t th effect).at p + (p (s.threads t).pc).toNat = s.at p + (p th.pc).toNat := by
  have heffect : (s.apply t th effect).at p =
      tally (fun th : Caller => p th.pc) (Function.update s.threads t th) :=
    tally_congr fun u => h _
  rw [heffect, tally_update]
  rfl

/-- **Every step keeps the account**: the counters and the events of the run
move on together. -/
theorem accounted_step (h : Accounted calls returned wakes hits misses merges collects s)
    (hs : s.step a = some s') : ∃ hits misses merges collects,
      Accounted (calls + (a.is Event.isCall).toNat) (returned + (a.is Event.isReturn).toNat)
        (wakes + (a.is Event.isWake).toNat) hits misses merges collects s' := by
  rcases CacheState.step_cases hs with ⟨elapsed, rfl, rfl⟩ | ⟨t, e, th, effect, rfl, hm, rfl⟩
  · exact ⟨hits, misses, merges, collects, h.1, h.2, h.3, h.4, h.5, h.6, h.7, h.8⟩
  · obtain ⟨hlooked, hmissed, hslept, htimed⟩ := hm.counts
    obtain ⟨hhits, hmisses, hmerges, hcollects⟩ := effect.counters_onCache s.cache
    have hpoints := effect.points_onCaller
    have hasking := at_apply (s := s) Pc.asking t th effect fun th => (hpoints th).1
    have hmissing := at_apply (s := s) Pc.missing t th effect fun th => (hpoints th).2.1
    have hasleep := at_apply (s := s) Pc.asleep t th effect fun th => (hpoints th).2.2.1
    have huntimed := at_apply (s := s) Pc.untimed t th effect fun th => (hpoints th).2.2.2
    have h₁ := h.looked
    have h₂ := h.missed
    have h₃ := h.slept
    have h₄ := h.timed
    refine ⟨hits + (effect.records .hit).toNat, misses + (effect.records .miss).toNat,
      merges + (effect.records .merge).toNat,
      collects + (effect.records (.collectLatency 0)).toNat, ?_⟩
    refine ⟨?_, ?_, ?_, ?_, ?_, ?_, ?_, ?_⟩
    · exact hhits.trans (by rw [h.cacheHits, ofNat_add_bool])
    · exact hmisses.trans (by rw [h.cacheMisses, ofNat_add_bool])
    · exact hmerges.trans (by rw [h.mergeCount, ofNat_add_bool])
    · exact hcollects.trans (by rw [h.collectCount, ofNat_add_bool])
    all_goals
      dsimp only [CacheAct.is]
      omega

/-- **A run is accounted for**, from any account at its start, by induction on
the run. -/
theorem accounted_run {as : List (CacheAct τ)}
    (hrun : (cacheSystem τ returns panics).Run s as s') :
    ∀ {calls returned wakes hits misses merges collects : ℕ},
      Accounted calls returned wakes hits misses merges collects s →
      ∃ hits misses merges collects, Accounted (calls + as.countP (CacheAct.is Event.isCall))
        (returned + as.countP (CacheAct.is Event.isReturn))
        (wakes + as.countP (CacheAct.is Event.isWake)) hits misses merges collects s' := by
  have hcons (p : CacheAct τ → Bool) (a : CacheAct τ) (as : List (CacheAct τ)) (n : ℕ) :
      n + (a :: as).countP p = n + (p a).toNat + as.countP p := by
    have hone : (if p a = true then 1 else 0) = (p a).toNat := by cases p a <;> rfl
    rw [List.countP_cons, hone]
    omega
  induction hrun with
  | nil s => exact fun h => ⟨_, _, _, _, h⟩
  | cons hs _ ih =>
    intro calls returned wakes hits misses merges collects h
    obtain ⟨_, _, _, _, h'⟩ := accounted_step h hs.1
    rw [hcons, hcons, hcons]
    exact ih h'

omit [DecidableEq τ] in
/-- Who is asleep is in a call that has missed. -/
theorem at_asleep_le : s.at Pc.asleep ≤ s.at Pc.missing := by
  refine tally_le fun th hasleep => ?_
  cases hpc : th.pc <;> rw [hpc] at hasleep <;> first | rfl | cases hasleep

/-- A rate is a share of ten thousand, rounded down, while the product fits. -/
theorem toNat_ratioBps {n d : UInt64} (h : n.toNat * 10000 < 2 ^ 64) :
    (ratioBps n d).toNat = n.toNat * 10000 / d.toNat := by
  rw [ratioBps]
  split_ifs with hd
  · rw [hd]
    exact (Nat.div_zero _).symm
  · have hmin : min (n.toNat * 10000) (2 ^ 64 - 1) = n.toNat * 10000 := by omega
    rw [UInt64.toNat_div, hmin, UInt64.toNat_ofNat', Nat.mod_eq_of_lt h]

/-- Two shares of a whole add up, up to one. -/
theorem shares_add {m n : ℕ} (h : 0 < m + n) :
    9999 ≤ m * 10000 / (m + n) + n * 10000 / (m + n) ∧
      m * 10000 / (m + n) + n * 10000 / (m + n) ≤ 10000 := by
  have hwhole : (m * 10000 + n * 10000) / (m + n) = 10000 := by
    rw [← Nat.add_mul]
    exact Nat.mul_div_cancel_left _ h
  rw [Nat.add_div h] at hwhole
  split_ifs at hwhole <;> omega

end Run

/-! ### Two callers -/

end Server
end Clustat
