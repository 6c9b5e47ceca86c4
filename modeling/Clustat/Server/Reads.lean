/-
# Reads that never go back

What the callers of `GresCache` (`crates/server/src/cache.rs`) see of time.  The
thread that collects stamps its entry, stores it, finishes the refresh and
returns in steps of their own, while others read the entry without the lock of
the refresh state.  As at most one thread is between a claim and its
`finish_refresh`, the entry that is stored is never older than the one it
replaces (`Ordered`), and what a call returns is covered by the cache from then
on (`Covers`).

So an entry, once stored, stays or is replaced by a later one, and a call that
begins after another has returned an entry returns one that was collected no
earlier (`reads_never_go_back`).  Until it is stored, a call may still find nothing,
and come to a collection of its own, which may fail (`stored_too_late`).
-/

import Clustat.Server.Coalesce

namespace Clustat
namespace Server

open Region

variable {τ : Type*} [DecidableEq τ]

/-- The entry a thread has stamped and not stored yet. -/
def Pc.pending? : Pc → Option CacheEntry
  | .timing _ (.ok entry) | .storing entry => some entry
  | _ => none

/-- The entry a thread has stored, or found in the cache, and returns. -/
def Pc.shown? : Pc → Option CacheEntry
  | .finishing (.ok entry) | .publishing (.ok entry) | .returned (.ok entry) _ => some entry
  | _ => none

/-- Waking a caller leaves alone what it has collected and not stored. -/
@[simp] theorem Pc.pending?_notify (pc : Pc) : pc.notify.pending? = pc.pending? := by
  cases pc <;> rfl

/-- Waking a caller leaves alone what it has been shown. -/
@[simp] theorem Pc.shown?_notify (pc : Pc) : pc.notify.shown? = pc.shown? := by cases pc <;> rfl

/-- A thread with an entry to store has claimed a refresh. -/
theorem Pc.owing_of_pending? {pc : Pc} {x : CacheEntry} (h : pc.pending? = some x) : pc.Owing := by
  cases pc <;> trivial

/-- The cache holds an entry that was collected at this time or later. -/
def Covers (cache : GresCache) (b : ℕ) : Prop := ∃ e, cache.entry = some e ∧ b ≤ e.collectedAt

section Move

variable {cache : GresCache} {now : ℕ} {free : Bool} {th th' : Caller} {e : Event} {effect : Effect}
  {x : CacheEntry}

/-- What another caller does leaves alone what this one has collected and not
stored. -/
theorem Effect.pending?_onCaller (effect : Effect) (th : Caller) :
    (effect.onCaller th).pc.pending? = th.pc.pending? := by
  rcases effect.pc_onCaller th with h | h
  · rw [h]
  · rw [h, Pc.pending?_notify]

/-- What another caller does leaves alone what this one has been shown. -/
theorem Effect.shown?_onCaller (effect : Effect) (th : Caller) :
    (effect.onCaller th).pc.shown? = th.pc.shown? := by
  rcases effect.pc_onCaller th with h | h
  · rw [h]
  · rw [h, Pc.shown?_notify]

/-- Only a store touches the entry. -/
theorem Effect.entry_onCache (hst : ∀ y, effect ≠ .store y) :
    (effect.onCache cache).entry = cache.entry := by
  cases effect with
  | store y => exact absurd rfl (hst y)
  | _ => rfl

/-- A store is of the entry of the thread. -/
theorem Move.store_pc (hm : Move cache now free th e th' (.store x)) :
    e = .step ∧ th.pc = .storing x := by
  cases hm with
  | store hpc => exact ⟨rfl, hpc⟩

/-- An entry to store has just been stamped, or was there before. -/
theorem Move.pending (hm : Move cache now free th e th' effect) (hx : th'.pc.pending? = some x) :
    (∀ y, effect ≠ .store y) ∧ (x.collectedAt = now ∨ th.pc.pending? = some x) := by
  cases hm with
  | call latest ttlMs => cases latest <;> cases hx
  | @stamp started outcome hpc =>
    refine ⟨nofun, .inl ?_⟩
    cases outcome with
    | ok snapshot => rw [← Option.some.inj hx]
    | error code => cases hx
  | timeOk hpc =>
    rw [hpc]
    exact ⟨nofun, .inr hx⟩
  | _ => cases hx

/-- An entry to show was there before, has just been stored, or is that of the
cache. -/
theorem Move.shown (hm : Move cache now free th e th' effect) (hx : th'.pc.shown? = some x) :
    th.pc.shown? = some x ∨ (th.pc = .storing x ∧ effect = .store x) ∨ cache.entry = some x := by
  cases hm with
  | call latest ttlMs => cases latest <;> cases hx
  | latestHit hpc he | freshHit hpc he | loopHit hpc he =>
    refine .inr (.inr ?_)
    cases hx
    first | exact he | exact (Option.filter_eq_some_iff.1 he).1
  | store hpc =>
    cases hx
    exact .inr (.inl ⟨hpc, rfl⟩)
  | @finish result hpc hfree =>
    rw [hpc]
    cases result with
    | ok entry => exact .inl hx
    | error code => cases hx
  | @publish result hpc =>
    rw [hpc]
    cases result with
    | ok entry => exact .inl hx
    | error code => cases hx
  | _ => cases hx

end Move

/-! ### The order of the entries -/

/-- The entries are in order: the one of the cache is of the past, the one that is
about to replace it is no older, and one that is shown is covered. -/
structure Ordered (s : CacheState τ) : Prop where
  cached : ∀ e, s.cache.entry = some e → e.collectedAt ≤ s.now
  pending : ∀ t x, (s.threads t).pc.pending? = some x →
    x.collectedAt ≤ s.now ∧ ∀ e, s.cache.entry = some e → e.collectedAt ≤ x.collectedAt
  shown : ∀ t x, (s.threads t).pc.shown? = some x → Covers s.cache x.collectedAt

section Step

variable {s : CacheState τ} {t : τ} {e : Event} {th : Caller} {effect : Effect} {b : ℕ}

/-- What is covered stays covered. -/
theorem Covers.apply (hb : Covers s.cache b) (h : Ordered s)
    (hm : Move s.cache s.now s.holder.isNone (s.threads t) e th effect) :
    Covers (s.apply t th effect).cache b := by
  obtain ⟨y, hy, hle⟩ := hb
  by_cases hst : ∃ x, effect = .store x
  · obtain ⟨x, rfl⟩ := hst
    have hx : (s.threads t).pc.pending? = some x := by
      rw [hm.store_pc.2]
      rfl
    exact ⟨x, rfl, hle.trans ((h.pending t x hx).2 y hy)⟩
  · exact ⟨y, (Effect.entry_onCache fun x hx => hst ⟨x, hx⟩).trans hy, hle⟩

/-- **A move keeps the entries in order.**  The thread with an entry to store is the
one that has claimed the refresh, so that nobody else stores in between. -/
theorem ordered_apply (h : Ordered s) (hclaim : ClaimHeld s)
    (hm : Move s.cache s.now s.holder.isNone (s.threads t) e th effect) :
    Ordered (s.apply t th effect) := by
  obtain ⟨owner, ho, -⟩ := hclaim
  refine ⟨fun y hy => ?_, fun u x hx => ?_, fun u x hx => ?_⟩
  · by_cases hst : ∃ x, effect = .store x
    · obtain ⟨x, rfl⟩ := hst
      obtain rfl : x = y := Option.some.inj hy
      have hx : (s.threads t).pc.pending? = some x := by
        rw [hm.store_pc.2]
        rfl
      exact (h.pending t x hx).1
    · exact h.cached y ((Effect.entry_onCache fun x hx => hst ⟨x, hx⟩).symm.trans hy)
  · rw [CacheState.apply] at hx ⊢
    dsimp only at hx ⊢
    rw [effect.pending?_onCaller] at hx
    by_cases hu : u = t
    · rw [hu, Function.update_self] at hx
      obtain ⟨hst, hnow | hold⟩ := hm.pending hx
      · rw [hnow, Effect.entry_onCache hst]
        exact ⟨le_rfl, h.cached⟩
      · rw [Effect.entry_onCache hst]
        exact h.pending t x hold
    · rw [Function.update_of_ne hu] at hx
      rw [Effect.entry_onCache fun y hst => ?_]
      · exact h.pending u x hx
      · subst hst
        have howing : (s.threads t).pc.Owing := by
          rw [hm.store_pc.2]
          trivial
        exact hu (ho.unique (Pc.owing_of_pending? hx) howing)
  · rw [CacheState.apply] at hx
    dsimp only at hx
    rw [effect.shown?_onCaller] at hx
    by_cases hu : u = t
    · rw [hu, Function.update_self] at hx
      rcases hm.shown hx with hold | ⟨hpc, rfl⟩ | hcache
      · exact (h.shown t x hold).apply h hm
      · exact ⟨x, rfl, le_rfl⟩
      · exact Covers.apply ⟨x, hcache, le_rfl⟩ h hm
    · rw [Function.update_of_ne hu] at hx
      exact (h.shown u x hx).apply h hm

end Step

/-! ### Runs -/

/-- The invariant of the cache, with the order of its entries, and what they come
from. -/
structure Timed (returns : Set (Except ErrorCode ServerGresSnapshot)) (s : CacheState τ) :
    Prop where
  flight : SingleFlight s
  ordered : Ordered s
  outcome : ∀ t o, (s.threads t).pc.outcome? = some o → o ∈ outcomes returns

section Run

variable {returns : Set (Except ErrorCode ServerGresSnapshot)} {panics : Prop} {s s' : CacheState τ}
  {a : CacheAct τ} {b : ℕ}

/-- Every step keeps the invariant. -/
theorem timed_step (h : Timed returns s) (hadm : a.Admitted returns panics)
    (hs : s.step a = some s') : Timed returns s' := by
  refine ⟨singleFlight_step h.flight hs, ?_, ?_⟩
  · rcases CacheState.step_cases hs with ⟨elapsed, rfl, rfl⟩ | ⟨t, e, th, effect, rfl, hm, rfl⟩
    · exact ⟨fun e he => (h.ordered.cached e he).trans (Nat.le_add_right _ _),
        fun t x hx => (h.ordered.pending t x hx).imp_left fun hle =>
          hle.trans (Nat.le_add_right _ _), h.ordered.shown⟩
    · exact ordered_apply h.ordered h.flight.claim hm
  · rcases CacheState.step_cases hs with ⟨elapsed, rfl, rfl⟩ | ⟨t, e, th, effect, rfl, hm, rfl⟩
    · exact h.outcome
    · intro u o ho
      replace ho := (effect.outcome?_onCaller _).symm.trans ho
      rcases hm.outcome_before u ho with rfl | ⟨v, hv⟩
      · exact hm.collect_mem hadm o rfl
      · exact h.outcome v o hv

/-- **The times are in order in every reachable state**, by induction on the
run; a cache without an entry has none to be out of order. -/
theorem timed_of_reachable (h : (cacheSystem τ returns panics).Reachable s) : Timed returns s := by
  refine h.invariant ?_ fun s a s' hi hs => timed_step hi hs.2 hs.1
  rintro s rfl
  refine ⟨singleFlight_of_reachable (.of_init (M := cacheSystem τ returns panics) rfl), ?_, ?_⟩
  · exact ⟨nofun, fun _ _ hx => absurd hx nofun, fun _ _ hx => absurd hx nofun⟩
  · exact fun _ _ ho => absurd ho nofun

/-- Time goes on, and what is covered stays covered. -/
theorem Timed.covers_step (h : Timed returns s) (hs : s.step a = some s')
    (hb : Covers s.cache b ∧ b ≤ s.now) : Covers s'.cache b ∧ b ≤ s'.now := by
  rcases CacheState.step_cases hs with ⟨elapsed, rfl, rfl⟩ | ⟨t, e, th, effect, rfl, hm, rfl⟩
  · exact ⟨hb.1, hb.2.trans (Nat.le_add_right _ _)⟩
  · exact ⟨hb.1.apply h.ordered hm, hb.2⟩

/-- A thread in a call that has begun at a time at which the cache covered `b`. -/
structure Since (b : ℕ) (u : τ) (s : CacheState τ) : Prop where
  covers : Covers s.cache b ∧ b ≤ s.now
  own : ∀ x, (s.threads u).pc.pending? = some x ∨ (s.threads u).pc.shown? = some x →
    b ≤ x.collectedAt

/-- **A step of anybody keeps it**: what the thread comes to have is stamped now, or
read from the cache. -/
theorem since_step {u : τ} (h : Since b u s) (ht : Timed returns s) (hs : s.step a = some s') :
    Since b u s' := by
  refine ⟨ht.covers_step hs h.covers, fun x hx => ?_⟩
  rcases CacheState.step_cases hs with ⟨elapsed, rfl, rfl⟩ | ⟨t, e, th, effect, rfl, hm, rfl⟩
  · exact h.own x hx
  · rw [CacheState.apply] at hx
    dsimp only at hx
    rw [effect.pending?_onCaller, effect.shown?_onCaller] at hx
    by_cases hu : u = t
    · subst hu
      rw [Function.update_self] at hx
      rcases hx with hx | hx
      · obtain ⟨-, hnow | hold⟩ := hm.pending hx
        · exact hnow ▸ h.covers.2
        · exact h.own x (.inl hold)
      · rcases hm.shown hx with hold | ⟨hpc, -⟩ | hcache
        · exact h.own x (.inr hold)
        · exact h.own x (.inl (by rw [hpc]; rfl))
        · obtain ⟨⟨y, hy, hle⟩, -⟩ := h.covers
          rwa [Option.some.inj (hcache.symm.trans hy)]
    · rw [Function.update_of_ne hu] at hx
      exact h.own x hx

/-- A call that begins has no entry yet. -/
theorem since_call {u : τ} {latest : Bool} {ttlMs : UInt64} (h : Timed returns s)
    (hs : s.step (.thread u (.call latest ttlMs)) = some s')
    (hb : Covers s.cache b ∧ b ≤ s.now) : Since b u s' := by
  refine ⟨h.covers_step hs hb, fun x hx => ?_⟩
  rcases CacheState.step_cases hs with ⟨_, ha, -⟩ | ⟨t, e, th, effect, ha, hm, rfl⟩
  · cases ha
  · cases ha
    cases hm
    have hpc : ((s.apply u { pc := if latest then .latestRead else .freshNow, ttlMs }
        .nothing).threads u).pc = if latest then .latestRead else .freshNow := by
      simp only [CacheState.apply, Function.update_self, Effect.onCaller]
    rw [hpc] at hx
    cases latest <;> rcases hx with hx | hx <;> cases hx

/-- Where the entry changes, a thread stores the one it has collected. -/
theorem Timed.entry_step (h : Timed returns s) (hs : s.step a = some s')
    (hne : s'.cache.entry ≠ s.cache.entry) :
    ∃ t x, a = .thread t .step ∧ (s.threads t).pc = .storing x ∧ s'.cache.entry = some x ∧
      .ok x.snapshot ∈ outcomes returns ∧
        ∀ old, s.cache.entry = some old → old.collectedAt ≤ x.collectedAt := by
  rcases CacheState.step_cases hs with ⟨elapsed, rfl, rfl⟩ | ⟨t, e, th, effect, rfl, hm, rfl⟩
  · exact absurd rfl hne
  · by_cases hst : ∃ x, effect = .store x
    · obtain ⟨x, rfl⟩ := hst
      obtain ⟨rfl, hpc⟩ := hm.store_pc
      refine ⟨t, x, rfl, hpc, rfl, h.outcome t _ (by rw [hpc]; rfl), ?_⟩
      exact (h.ordered.pending t x (by rw [hpc]; rfl)).2
    · exact absurd (Effect.entry_onCache fun x hx => hst ⟨x, hx⟩) hne

/-- `get_latest_or_refresh` of a cache with an entry. -/
theorem step_latestRead {u : τ} {e : Event} {x : CacheEntry}
    (hpc : (s.threads u).pc = .latestRead) (hx : s.cache.entry = some x)
    (hs : s.step (.thread u e) = some s') : (s'.threads u).pc = .returned (.ok x) true := by
  rcases CacheState.step_cases hs with ⟨_, ha, -⟩ | ⟨t, _, th, effect, ha, hm, rfl⟩
  · cases ha
  · cases ha
    cases hm with
    | latestHit hpc' he =>
      simp only [CacheState.apply, Function.update_self, Effect.onCaller]
      rw [← Option.some.inj (hx.symm.trans he)]
    | latestMiss hpc' he => cases hx.symm.trans he
    | call latest ttlMs hact hp =>
      rw [hpc] at hact
      cases hact
    | _ => simp_all

/-- From here on, every `get_latest_or_refresh` returns an entry. -/
def LatestSucceeds (returns : Set (Except ErrorCode ServerGresSnapshot)) (panics : Prop)
    (s : CacheState τ) : Prop :=
  ∀ as s', (cacheSystem τ returns panics).Run s as s' → ∀ u, (s'.threads u).pc = .latestRead →
    (∃ s'', (cacheSystem τ returns panics).step s' (.thread u .step) s'') ∧
      ∀ e s'', (cacheSystem τ returns panics).step s' (.thread u e) s'' →
        ∃ x, (s''.threads u).pc = .returned (.ok x) true

/-- **An entry that is there stays**, so that the latest can be read by every
call from now on, whatever the others do in between. -/
theorem Timed.latestSucceeds (h : Timed returns s) (hb : Covers s.cache b) :
    LatestSucceeds returns panics s := by
  intro as s' hr u hpc
  obtain ⟨x, hx, -⟩ := hb
  have hinv := hr.invariant (I := fun s : CacheState τ => Timed returns s ∧
    Covers s.cache 0 ∧ 0 ≤ s.now) (fun s a s' hi hs =>
      ⟨timed_step hi.1 hs.2 hs.1, hi.1.covers_step hs.1 hi.2⟩) ⟨h, ⟨x, hx, Nat.zero_le _⟩,
        Nat.zero_le _⟩
  obtain ⟨-, ⟨y, hy, -⟩, -⟩ := hinv
  have hnext : (s'.threads u).next s'.cache s'.now s'.holder.isNone .step =
      some ({ s'.threads u with pc := .returned (.ok y) true }, .hit) := by
    simp only [Caller.next, hpc, GresCache.latest, hy]
  have hstep : s'.step (.thread u .step) = some (s'.apply u _ .hit) :=
    congrArg (Option.map _) hnext
  exact ⟨⟨_, hstep, trivial⟩, fun e s'' hs => ⟨y, step_latestRead hpc hy hs.1⟩⟩

/-- **A store** puts the entry of the thread into the cache, in the place of
any that was there. -/
theorem entry_of_store {t : τ} {x : CacheEntry} (hpc : (s.threads t).pc = .storing x)
    (hs : s.step (.thread t .step) = some s') :
    s'.cache.entry = some x := by
  rcases CacheState.step_cases hs with ⟨_, ha, -⟩ | ⟨u, e, th, effect, ha, hm, rfl⟩
  · cases ha
  · cases ha
    cases hm with
    | store hpc' =>
      cases hpc.symm.trans hpc'
      rfl
    | _ => simp_all

/-- **Reads never go back, and lose nothing.**  The entry is only ever replaced by
that of a later collection that has succeeded, and a thread whose collection has
failed leaves it alone.  Once a thread has stored the entry of a collection that has
succeeded, and once any call has returned an entry, every later
`get_latest_or_refresh` returns one.  And if a call has returned an entry before
another begins, what the other returns was collected no earlier. -/
theorem reads_never_go_back (h : (cacheSystem τ returns panics).Reachable s) :
    (∀ a s', (cacheSystem τ returns panics).step s a s' → s'.cache.entry ≠ s.cache.entry →
        ∃ t x, a = .thread t .step ∧ (s.threads t).pc = .storing x ∧ s'.cache.entry = some x ∧
          .ok x.snapshot ∈ outcomes returns ∧
            ∀ old, s.cache.entry = some old → old.collectedAt ≤ x.collectedAt) ∧
      (∀ t c e s', (s.threads t).pc.failure? = some c →
        (cacheSystem τ returns panics).step s (.thread t e) s' →
          s'.cache.entry = s.cache.entry) ∧
      (∀ t x s', (s.threads t).pc = .storing x →
        (cacheSystem τ returns panics).step s (.thread t .step) s' →
          s'.cache.entry = some x ∧ LatestSucceeds returns panics s') ∧
      (∀ t x hit, (s.threads t).pc = .returned (.ok x) hit → LatestSucceeds returns panics s) ∧
      ∀ t x hit, (s.threads t).pc = .returned (.ok x) hit →
        ∀ as s₁, (cacheSystem τ returns panics).Run s as s₁ →
          ∀ u latest ttlMs s₂,
            (cacheSystem τ returns panics).step s₁ (.thread u (.call latest ttlMs)) s₂ →
              ∀ bs s', (cacheSystem τ returns panics).Run s₂ bs s' →
                ∀ y hit', (s'.threads u).pc = .returned (.ok y) hit' →
                  x.collectedAt ≤ y.collectedAt := by
  have ht := timed_of_reachable h
  have hcovers : ∀ t x hit, (s.threads t).pc = .returned (.ok x) hit →
      Covers s.cache x.collectedAt := fun t x hit hx => ht.ordered.shown t x (by rw [hx]; rfl)
  refine ⟨fun a s' hs hne => ht.entry_step hs.1 hne, fun t c e s' hc hs => ?_,
    fun t x s' hpc hs => ?_, fun t x hit hx => ht.latestSucceeds (hcovers t x hit hx),
    fun t x hit hx as s₁ hr u latest ttlMs s₂ hcall bs s' hr' y hit' hy => ?_⟩
  · by_contra hne
    obtain ⟨u, x, ha, hpc, -⟩ := ht.entry_step hs.1 hne
    cases ha
    rw [hpc] at hc
    cases hc
  · have hentry := entry_of_store hpc hs.1
    exact ⟨hentry, (timed_step ht hs.2 hs.1).latestSucceeds ⟨x, hentry, le_rfl⟩⟩
  · -- The entry that has been returned is covered from then on, also when the call begins.
    have hcov := hcovers t x hit hx
    have hnow : x.collectedAt ≤ s.now := by
      obtain ⟨z, hz, hle⟩ := hcov
      exact hle.trans (ht.ordered.cached z hz)
    have hfloor := hr.invariant (I := fun s : CacheState τ => Timed returns s ∧
      Covers s.cache x.collectedAt ∧ x.collectedAt ≤ s.now) (fun s a s' hi hs =>
        ⟨timed_step hi.1 hs.2 hs.1, hi.1.covers_step hs.1 hi.2⟩) ⟨ht, hcov, hnow⟩
    have hsince := hr'.invariant (I := fun s : CacheState τ => Timed returns s ∧
      Since x.collectedAt u s) (fun s a s' hi hs =>
        ⟨timed_step hi.1 hs.2 hs.1, since_step hi.2 hi.1 hs.1⟩)
      ⟨timed_step hfloor.1 hcall.2 hcall.1, since_call hfloor.1 hcall.1 hfloor.2⟩
    exact hsince.2.own y (.inr (by rw [hy]; rfl))

end Run

/-! ### Two callers -/

/-- The collector of the first succeeds, with a node without resources. -/
def storeRun : List (CacheAct Bool) :=
  .thread false (.collectorReturns (.ok { hostname := "a", driverVersion := none, gres := [] })) ::
    List.replicate 5 (.thread false .step)

/-- The second asks for the latest entry later, and gets that of the first. -/
theorem reads_never_go_back_later :
    ∃ s₁ s₂ : CacheState Bool, (CacheState.after (.tick 3 :: (claimRun ++ storeRun))).step
        (.thread true (.call true 0)) = some s₁ ∧ s₁.step (.thread true .step) = some s₂ ∧
      ∃ y, (s₂.threads true).pc = .returned (.ok y) true ∧ 3 ≤ y.collectedAt := by
  let s : CacheState Bool := .after (.tick 3 :: (claimRun ++ storeRun))
  let x : CacheEntry :=
    { snapshot := { hostname := "a", driverVersion := none, gres := [] }, collectedAt := 3 }
  have hreach : (cacheSystem Bool Set.univ False).Reachable s :=
    CacheState.reachable_after (by decide) (by decide)
  have hshown : (s.threads false).pc = .returned (.ok x) false := by decide
  obtain ⟨s₁, hs₁⟩ := Option.isSome_iff_exists.1
    (by decide : (s.step (.thread true (.call true 0))).isSome = true)
  have hpc : ((s.step (.thread true (.call true 0))).bind fun s₁ =>
      s₁.step (.thread true .step)).map (fun s₂ => (s₂.threads true).pc) =
        some (.returned (.ok x) true) := by decide
  rw [hs₁, Option.bind_some] at hpc
  obtain ⟨s₂, hs₂, hpc⟩ := Option.map_eq_some_iff.1 hpc
  refine ⟨s₁, s₂, hs₁, hs₂, x, hpc, ?_⟩
  exact (reads_never_go_back hreach).2.2.2.2 false x false hshown [] s (.nil s) true true 0 s₁
    ⟨hs₁, trivial⟩ _ s₂ (.single ⟨hs₂, trivial⟩) x true hpc

/-- The collector of the first succeeds. -/
def successAct : CacheAct Bool :=
  .thread false (.collectorReturns (.ok { hostname := "a", driverVersion := none, gres := [] }))

/-- The second has begun a call by now, and finds no entry.  The first stores its own then,
which has expired when the second reads it, and the collector of the second fails. -/
def lateRun : List (CacheAct Bool) :=
  .thread true .step :: List.replicate 5 (.thread false .step) ++
    List.replicate 7 (.thread true .step) ++
      .thread true (.collectorReturns (.error .nvmlUnavailable)) ::
        List.replicate 4 (.thread true .step)

/-- **Success alone does not do**: a call that begins after a collection has succeeded,
and before its entry is stored, may return the error of another collection. -/
theorem stored_too_late : ¬ ∀ (s : CacheState Bool) (t : Bool) (snapshot : ServerGresSnapshot)
    (s₁ : CacheState Bool), (cacheSystem Bool Set.univ False).Reachable s →
      (cacheSystem Bool Set.univ False).step s (.thread t (.collectorReturns (.ok snapshot))) s₁ →
        ∀ as s₂, (cacheSystem Bool Set.univ False).Run s₁ as s₂ → ∀ u ttlMs s₃,
          (cacheSystem Bool Set.univ False).step s₂ (.thread u (.call true ttlMs)) s₃ →
            ∀ bs s₄, (cacheSystem Bool Set.univ False).Run s₃ bs s₄ →
              (∀ latest ttlMs', .thread u (.call latest ttlMs') ∉ bs) →
                ∀ result hit, (s₄.threads u).pc = .returned result hit →
                  ∃ x, result = .ok x := by
  intro h
  let s : CacheState Bool := .after claimRun
  have hreach : (cacheSystem Bool Set.univ False).Reachable s :=
    CacheState.reachable_after (by decide) (by decide)
  have hpc : ((s.step successAct).bind fun s₁ => (s₁.step (.thread true (.call true 0))).bind
      fun s₃ => (Lts.exec CacheState.step s₃ lateRun).map fun s₄ => (s₄.threads true).pc) =
        some (.returned (.error .nvmlUnavailable) false) := by decide
  obtain ⟨s₁, hs₁, hpc⟩ := Option.bind_eq_some_iff.1 hpc
  obtain ⟨s₃, hs₃, hpc⟩ := Option.bind_eq_some_iff.1 hpc
  obtain ⟨s₄, hs₄, hpc⟩ := Option.map_eq_some_iff.1 hpc
  have hlate : (cacheSystem Bool Set.univ False).Run s₃ lateRun s₄ :=
    Lts.run_restrict_of_forall hs₄ fun _ => by decide
  obtain ⟨x, hx⟩ := h s false _ s₁ hreach ⟨hs₁, trivial⟩ [] s₁ (.nil s₁) true 0 s₃
    ⟨hs₃, trivial⟩ lateRun s₄ hlate (by simp [lateRun]) _ _ hpc
  cases hx

end Server
end Clustat
