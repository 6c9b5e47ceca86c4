/-
# What becomes of a claim

`get_or_refresh` of `crates/server/src/cache.rs` sets `in_flight` under the lock,
gives the lock back, and calls the collector; `finish_refresh` clears the flag.
A collector that returns, with a snapshot or an error, leads there.  One that
panics does not: its thread is gone and holds no lock, so that nothing is
poisoned, the flag stays up, and every later caller without a fresh entry waits
for a refresh that nobody performs.

`released_iff` says so of every run: the claim is released exactly if no
invocation of the collector has panicked.
-/

import Clustat.Server.SingleFlight

namespace Clustat
namespace Server

open Region

variable {τ : Type*} [DecidableEq τ]

/-- A refresh that is in flight is performed by some thread, and so is one that
somebody waits for. -/
def Released (s : CacheState τ) : Prop :=
  (s.cache.refreshState.inFlight = true → ∃ t, (s.threads t).pc.Refreshing) ∧
    ∀ u, (s.threads u).pc = .waiting false → ∃ t, (s.threads t).pc.Refreshing

section Move

variable {cache : GresCache} {now : ℕ} {free : Bool} {th th' : Caller} {e : Event} {effect : Effect}

/-- A thread that has died does not move. -/
theorem Move.alive (hm : Move cache now free th e th' effect) : th.pc ≠ .panicked := by
  cases hm with
  | call latest ttlMs hact hp => exact hp
  | _ =>
    rename_i hpc
    simp_all

/-- A thread dies of a collector that panics. -/
theorem Move.panicked_iff (hm : Move cache now free th e th' effect) :
    th'.pc = .panicked ↔ e = .collectorPanics := by
  constructor
  · intro hpc
    by_contra he
    exact hm.ne_panicked he hpc
  · rintro rfl
    cases hm
    rfl

/-- **A refresh goes on until it is finished**, but for a panic: no other step
of its thread leads out of it. -/
theorem Move.refreshing (hm : Move cache now free th e th' effect) (h : th.pc.Refreshing)
    (he : e ≠ .collectorPanics) : th'.pc.Refreshing ∨ ∃ result, effect = .publish result := by
  cases hm with
  | publish hpc => exact .inr ⟨_, rfl⟩
  | collectorPanics hpc => exact absurd rfl he
  | collect | stamp | timeOk | timeError | store | finish | collectorReturns => exact .inl trivial
  | call latest ttlMs hact hp =>
    exact absurd ((Pc.owing_iff_refreshing hp).2 h) (Pc.not_owing_of_inactive hact hp)
  | _ =>
    rename_i hpc
    simp_all [Pc.Refreshing]

end Move

section Run

variable {returns : Set (Except ErrorCode ServerGresSnapshot)} {panics : Prop} {s s' : CacheState τ}
  {a : CacheAct τ} {as : List (CacheAct τ)}

/-- The dead after a step are the dead before it, and the one who dies in it. -/
theorem panicked_step (hs : s.step a = some s') : (∃ t, (s'.threads t).pc = .panicked) ↔
    (∃ t, (s.threads t).pc = .panicked) ∨ ∃ t, a = .thread t .collectorPanics := by
  rcases CacheState.step_cases hs with ⟨elapsed, rfl, rfl⟩ | ⟨t, e, th, effect, rfl, hm, rfl⟩
  · exact (or_iff_left (by simp)).symm
  · have hpc : ∀ u, ((s.apply t th effect).threads u).pc = .panicked ↔
        (Function.update s.threads t th u).pc = .panicked := by
      intro u
      rcases effect.pc_onCaller (Function.update s.threads t th u) with h | h
      · exact iff_of_eq (congrArg (· = _) h)
      · exact (iff_of_eq (congrArg (· = _) h)).trans (Pc.notify_eq_panicked _)
    constructor
    · rintro ⟨u, hu⟩
      rw [hpc] at hu
      by_cases hut : u = t
      · rw [hut, Function.update_self, hm.panicked_iff] at hu
        exact .inr ⟨t, by rw [hu]⟩
      · rw [Function.update_of_ne hut] at hu
        exact .inl ⟨u, hu⟩
    · rintro (⟨u, hu⟩ | ⟨u, hu⟩)
      · have hut : u ≠ t := by
          rintro rfl
          exact hm.alive hu
        refine ⟨u, (hpc u).2 ?_⟩
        rwa [Function.update_of_ne hut]
      · cases hu
        refine ⟨t, (hpc t).2 ?_⟩
        rw [Function.update_self]
        exact hm.panicked_iff.2 rfl

/-- The dead after a run. -/
theorem panicked_run (h : (cacheSystem τ returns panics).Run s as s') :
    (∃ t, (s'.threads t).pc = .panicked) ↔
      (∃ t, (s.threads t).pc = .panicked) ∨ ∃ t, .thread t .collectorPanics ∈ as := by
  induction h with
  | nil s => exact (or_iff_left (by simp)).symm
  | @cons s u s' a as hs hr ih =>
    rw [ih, panicked_step hs.1, or_assoc, ← exists_or]
    simp only [List.mem_cons, eq_comm]

end Run

/-- **A claim is released exactly if no collector panics.**  In every run of any
number of callers, and however the invocations of the collector end: a refresh that
is in flight has a thread that will finish it, and nobody waits for one that has
none, if and only if no invocation of the run has panicked. -/
theorem released_iff {returns : Set (Except ErrorCode ServerGresSnapshot)} {s : CacheState τ}
    {as : List (CacheAct τ)} (h : (cacheSystem τ returns True).Run {} as s) :
    Released s ↔ ∀ t, .thread t .collectorPanics ∉ as := by
  have hinv := singleFlight_of_reachable ⟨_, _, rfl, h⟩
  obtain ⟨owner, ho, hfl⟩ := hinv.claim
  have hdead : (∀ t, (s.threads t).pc ≠ .panicked) ↔ ∀ t, .thread t .collectorPanics ∉ as := by
    rw [← not_exists, ← not_exists, panicked_run h, or_iff_right]
    rintro ⟨t, ht⟩
    cases ht
  rw [← hdead]
  constructor
  · rintro ⟨hreleased, -⟩ t ht
    have hinflight : s.cache.refreshState.inFlight = true := by
      rw [hfl, ho.isSome_iff]
      exact ⟨t, by rw [ht]; trivial⟩
    -- The one who owes the refresh is the one who has died.
    obtain ⟨u, hu⟩ := hreleased hinflight
    have howing : (s.threads u).pc.Owing := by
      cases hpc : (s.threads u).pc <;> rw [hpc] at hu <;> trivial
    obtain rfl := ho.unique howing (by rw [ht]; trivial)
    rw [ht] at hu
    exact hu
  · intro halive
    have hreleased : s.cache.refreshState.inFlight = true → ∃ t, (s.threads t).pc.Refreshing := by
      rw [hfl, ho.isSome_iff]
      rintro ⟨t, ht⟩
      exact ⟨t, (Pc.owing_iff_refreshing (halive t)).1 ht⟩
    exact ⟨hreleased, fun u hu => hreleased ((hinv.callers u).asleep hu).1⟩

/-! ### Two callers -/

/-- One caller collects, and the other waits for it. -/
theorem released_waiter : Released (CacheState.after (claimRun ++ waitRun)) := by
  obtain ⟨s, hs⟩ := Option.isSome_iff_exists.1
    (by decide : (Lts.exec CacheState.step {} (claimRun ++ waitRun)).isSome = true)
  have hrun : (cacheSystem Bool Set.univ True).Run {} (claimRun ++ waitRun) s :=
    Lts.run_restrict_of_forall hs fun _ => by decide
  rw [CacheState.after, hs]
  exact (released_iff hrun).2 (by simp [claimRun, waitRun])

/-- **A claim that is never released**: the collector of the first caller panics,
and the second waits. -/
theorem unreleased : ¬ ∀ s, (cacheSystem Bool Set.univ True).Reachable s → Released s := by
  intro h
  let s : CacheState Bool := .after (claimRun ++ .thread false .collectorPanics :: waitRun)
  have hreach : (cacheSystem Bool Set.univ True).Reachable s :=
    CacheState.reachable_after (by decide) (by decide)
  have hwaits : (s.threads true).pc = .waiting false := by decide
  obtain ⟨t, ht⟩ := (h s hreach).2 true hwaits
  have hpanicked : (s.threads false).pc = .panicked := by decide
  cases t with
  | false =>
    rw [hpanicked] at ht
    exact ht
  | true =>
    rw [hwaits] at ht
    exact ht

end Server
end Clustat
