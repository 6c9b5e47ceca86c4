/-
# One refresh at a time, and nobody left asleep

What the lock, the flag and the generation of `GresCache`
(`crates/server/src/cache.rs`) achieve, for any number of callers and any
interleaving.  The lock and the claim are regions one thread at a time is in
(`Lib/Region.lean`), and `in_flight` says whether the second is taken.  A waiter
without a notification sleeps through a refresh that is still in flight, of the
generation it observed.

`missed` counts the refreshes finished since a caller observed the generation.
The generation is a `u64` that wraps, so a caller that has waited takes the
refresh over in the one case that the count is a positive multiple of `2^64`.
-/

import Mathlib.Algebra.Order.Ring.Nat
import Clustat.Server.Cache

namespace Clustat
namespace Server

open Region

variable {τ : Type*} [DecidableEq τ]

/-! ### The lock and the claim -/

section Regions

variable {cache : GresCache} {now : ℕ} {free : Bool} {th th' : Caller} {e : Event} {effect : Effect}

/-- A thread that is not in a call holds no lock. -/
theorem Pc.not_locked_of_inactive {pc : Pc} (h : pc.active = false) : ¬ pc.Locked := by
  cases pc <;> first | exact id | cases h

/-- A thread that is not in a call, and has not died in one, owes no refresh. -/
theorem Pc.not_owing_of_inactive {pc : Pc} (h : pc.active = false) (hp : pc ≠ .panicked) :
    ¬ pc.Owing := by
  cases pc <;> first | exact id | exact absurd rfl hp | cases h

/-- A thread that is alive owes a refresh while it is refreshing. -/
theorem Pc.owing_iff_refreshing {pc : Pc} (hp : pc ≠ .panicked) : pc.Owing ↔ pc.Refreshing := by
  cases pc <;> first | rfl | exact absurd rfl hp

/-- A thread takes the lock when it is free, and gives it back when it has it. -/
theorem Move.locked (h : Move cache now free th e th' effect) :
    match effect with
    | .acquire => free = true ∧ th'.pc.Locked
    | .release | .wait | .claim | .publish _ => th.pc.Locked ∧ ¬ th'.pc.Locked
    | _ => th'.pc.Locked ↔ th.pc.Locked := by
  cases h with
  | call latest ttlMs hpc hp =>
    exact iff_of_false (by cases latest <;> exact id) (Pc.not_locked_of_inactive hpc)
  | _ => simp_all [Pc.Locked]

/-- A thread claims a refresh when none is in flight, and finishes the one it has
claimed. -/
theorem Move.owing (h : Move cache now free th e th' effect) :
    match effect with
    | .claim => cache.refreshState.inFlight = false ∧ th'.pc.Owing
    | .publish _ => th.pc.Owing ∧ ¬ th'.pc.Owing
    | _ => th'.pc.Owing ↔ th.pc.Owing := by
  cases h with
  | call latest ttlMs hpc hp =>
    exact iff_of_false (by cases latest <;> exact id) (Pc.not_owing_of_inactive hpc hp)
  | _ => simp_all [Pc.Owing, Pc.Refreshing]

/-- What a step does to the other threads moves none into a region or out of one. -/
theorem Effect.pc_onCaller (effect : Effect) (th : Caller) :
    (effect.onCaller th).pc = th.pc ∨ (effect.onCaller th).pc = th.pc.notify := by
  cases effect with
  | collect outcome =>
    simp only [onCaller]
    split_ifs <;> exact .inl rfl
  | publish result => exact .inr rfl
  | _ => exact .inl rfl

/-- What another caller does neither gives this one the lock nor takes it
away. -/
theorem Effect.locked_onCaller (effect : Effect) (th : Caller) :
    (effect.onCaller th).pc.Locked ↔ th.pc.Locked := by
  rcases effect.pc_onCaller th with h | h
  · rw [h]
  · rw [h, Pc.locked_notify]

/-- What another caller does does not change whether this one has a refresh to
finish. -/
theorem Effect.owing_onCaller (effect : Effect) (th : Caller) :
    (effect.onCaller th).pc.Owing ↔ th.pc.Owing := by
  rcases effect.pc_onCaller th with h | h
  · rw [h]
  · rw [h, Pc.owing_notify]

/-- Only a claim and the end of a refresh touch the flag. -/
theorem Effect.inFlight_onCache (effect : Effect) (cache : GresCache) :
    (effect.onCache cache).refreshState.inFlight =
      match effect with
      | .claim => true
      | .publish _ => false
      | _ => cache.refreshState.inFlight := by
  cases effect <;> rfl

end Regions

/-- The holder of the lock is the thread that is at a point at which it has it. -/
def LockHeld (s : CacheState τ) : Prop :=
  Tracks (fun th : Caller => th.pc.Locked) s.threads s.holder

/-- The flag is up exactly while one thread owes a refresh. -/
def ClaimHeld (s : CacheState τ) : Prop :=
  ∃ owner, Tracks (fun th : Caller => th.pc.Owing) s.threads owner ∧
    s.cache.refreshState.inFlight = owner.isSome

/-- One step keeps the lock with the caller that holds it. -/
theorem lockHeld_apply {s : CacheState τ} {t : τ} {e : Event} {th : Caller} {effect : Effect}
    (h : LockHeld s) (hm : Move s.cache s.now s.holder.isNone (s.threads t) e th effect) :
    LockHeld (s.apply t th effect) := by
  refine Tracks.map (f := effect.onCaller) ?_ effect.locked_onCaller
  have hl := hm.locked
  cases effect with
  | acquire =>
    obtain ⟨hfree, hth⟩ := hl
    rw [LockHeld, Option.isNone_iff_eq_none.1 hfree] at h
    exact h.enter hth
  | release | wait | claim | publish => exact h.leave hl.1 hl.2
  | nothing | hit | miss | collect | latency | store => exact h.stay hl

/-- One step keeps the claim with the caller that has the refresh to finish.
-/
theorem claimHeld_apply {s : CacheState τ} {t : τ} {e : Event} {th : Caller} {effect : Effect}
    (h : ClaimHeld s) (hm : Move s.cache s.now s.holder.isNone (s.threads t) e th effect) :
    ClaimHeld (s.apply t th effect) := by
  obtain ⟨owner, ho, hfl⟩ := h
  have hl := hm.owing
  have hfl' := effect.inFlight_onCache s.cache
  cases effect with
  | claim =>
    rw [hl.1] at hfl
    rw [Option.isSome_eq_false_iff.1 hfl.symm |> Option.isNone_iff_eq_none.1] at ho
    exact ⟨some t, (ho.enter hl.2).map (Effect.owing_onCaller .claim), hfl'⟩
  | publish result =>
    exact ⟨none, (ho.leave hl.1 hl.2).map (Effect.owing_onCaller (.publish result)), hfl'⟩
  | acquire | release | wait | nothing | hit | miss | collect | latency | store =>
    exact ⟨owner, (ho.stay hl).map (Effect.owing_onCaller _), hfl'.trans hfl⟩

/-! ### The generation -/

/-- What a caller can rely on on its way through a call. -/
structure Observes (refreshState : RefreshState) (th : Caller) : Prop where
  entering : th.pc.Entering → th.waited = false
  generation : th.pc.Looping →
    refreshState.generation = th.observedGeneration + UInt64.ofNat th.missed
  asleep : th.pc = .waiting false →
    refreshState.inFlight = true ∧ refreshState.generation = th.observedGeneration
  woken : th.pc.Looping → th.waited = true → refreshState.inFlight = true ∨ 0 < th.missed
  owing : th.pc.Owing → th.waited = true → 0 < th.missed ∧ 2 ^ 64 ∣ th.missed

section Observes

variable {refreshState : RefreshState} {th : Caller} {pc : Pc}

/-- A caller on its way to the loop. -/
theorem Observes.of_entering (hw : th.waited = false) (hl : ¬ th.pc.Looping) (ho : ¬ th.pc.Owing) :
    Observes refreshState th where
  entering _ := hw
  generation h := absurd h hl
  asleep h := absurd (h ▸ trivial : th.pc.Looping) hl
  woken h := absurd h hl
  owing h := absurd h ho

/-- A caller that goes on with its loop, awake. -/
theorem Observes.of_looping (h : Observes refreshState th) (hl : th.pc.Looping)
    (he : ¬ pc.Entering) (ho : ¬ pc.Owing) (hw : pc ≠ .waiting false) :
    Observes refreshState { th with pc } where
  entering h := absurd h he
  generation _ := h.generation hl
  asleep h := absurd h hw
  woken _ := h.woken hl
  owing h := absurd h ho

/-- A caller that goes on with its refresh. -/
theorem Observes.of_owing (h : Observes refreshState th) (ho : th.pc.Owing) (he : ¬ pc.Entering)
    (hl : ¬ pc.Looping) : Observes refreshState { th with pc } where
  entering h := absurd h he
  generation h := absurd h hl
  asleep hw := absurd (by rw [show pc = .waiting false from hw]; trivial) hl
  woken h := absurd h hl
  owing _ := h.owing ho

/-- A caller that has returned relies on nothing. -/
theorem Observes.of_returned (he : ¬ th.pc.Entering) (hl : ¬ th.pc.Looping) (ho : ¬ th.pc.Owing) :
    Observes refreshState th where
  entering h := absurd h he
  generation h := absurd h hl
  asleep h := absurd (h ▸ trivial : th.pc.Looping) hl
  woken h := absurd h hl
  owing h := absurd h ho

/-- The count of missed refreshes, when the generation is the one observed. -/
theorem dvd_of_add_ofNat_eq {g : UInt64} {n : ℕ} (h : g = g + UInt64.ofNat n) : 2 ^ 64 ∣ n := by
  have hz : UInt64.ofNat n = 0 := by
    have h := congrArg (fun x => x - g) h
    simpa only [UInt64.sub_self, UInt64.add_comm g, UInt64.add_sub_cancel] using h.symm
  have h := congrArg UInt64.toNat hz
  rw [UInt64.toNat_ofNat'] at h
  exact Nat.dvd_of_mod_eq_zero h

/-- **A move keeps it.**  A waiter goes to sleep on what it has just seen; a
caller that claims after it has waited has seen its own generation come back. -/
theorem Move.observes {cache : GresCache} {now : ℕ} {free : Bool} {th' : Caller} {e : Event}
    {effect : Effect} (h : Observes cache.refreshState th)
    (hm : Move cache now free th e th' effect) : Observes cache.refreshState th' := by
  cases hm with
  | call latest ttlMs =>
    cases latest
    · exact .of_entering rfl id id
    · exact .of_entering rfl id id
  | latestMiss hpc he => exact .of_entering (h.entering (by rw [hpc]; trivial)) id id
  | freshNow hpc => exact .of_entering (h.entering (by rw [hpc]; trivial)) id id
  | freshMiss hpc he => exact .of_entering (h.entering (by rw [hpc]; trivial)) id id
  | lock hpc hfree =>
    have hw := h.entering (by rw [hpc]; trivial)
    exact ⟨nofun, fun _ => (UInt64.add_zero _).symm, nofun,
      fun _ hw' => absurd (hw.symm.trans hw') (by decide), nofun⟩
  | loopNow hpc => exact h.of_looping (by rw [hpc]; trivial) id id nofun
  | loopMiss hpc he => exact h.of_looping (by rw [hpc]; trivial) id id nofun
  | wake hpc hfree => exact h.of_looping (by rw [hpc]; trivial) id id nofun
  | wait hpc hgen hfl =>
    exact ⟨nofun, fun _ => h.generation (by rw [hpc]; trivial), fun _ => ⟨hfl, hgen⟩,
      fun _ _ => .inl hfl, nofun⟩
  | claim hpc hgen hfl =>
    have hl : th.pc.Looping := by rw [hpc]; trivial
    refine ⟨nofun, nofun, nofun, nofun, fun _ hw => ⟨?_, ?_⟩⟩
    · exact (h.woken hl hw).resolve_left (by simp [hfl])
    · refine dvd_of_add_ofNat_eq (g := th.observedGeneration) ?_
      rw [← h.generation hl, hgen]
  | collect hpc => exact h.of_owing (by rw [hpc]; trivial) id id
  | stamp hpc => exact h.of_owing (by rw [hpc]; trivial) id id
  | timeOk hpc => exact h.of_owing (by rw [hpc]; trivial) id id
  | timeError hpc => exact h.of_owing (by rw [hpc]; trivial) id id
  | store hpc => exact h.of_owing (by rw [hpc]; trivial) id id
  | finish hpc hfree => exact h.of_owing (by rw [hpc]; trivial) id id
  | collectorReturns result hpc => exact h.of_owing (by rw [hpc]; trivial) id id
  | collectorPanics hpc => exact h.of_owing (by rw [hpc]; trivial) id id
  | latestHit | freshHit | loopHit | failed | stray | publish => exact .of_returned id id id

/-- **The effect of a step keeps it**, of its own thread and of every other: the
end of a refresh moves the generation, notifies every waiter, and counts. -/
theorem Observes.effect {cache : GresCache} {effect : Effect} (h : Observes cache.refreshState th)
    (howing : ∀ result, effect = .publish result → ¬ th.pc.Owing) :
    Observes (effect.onCache cache).refreshState (effect.onCaller th) := by
  cases effect with
  | claim =>
    exact ⟨h.entering, h.generation, fun hw => ⟨rfl, (h.asleep hw).2⟩, fun _ _ => .inl rfl, h.owing⟩
  | collect outcome =>
    simp only [Effect.onCaller]
    split_ifs
    · exact ⟨h.entering, h.generation, h.asleep, h.woken, h.owing⟩
    · exact h
  | publish result =>
    refine ⟨fun he => h.entering (th.pc.entering_notify.1 he), fun hl => ?_,
      fun hw => absurd hw th.pc.notify_ne_waiting, fun _ _ => .inr (Nat.succ_pos _),
      fun ho => absurd (th.pc.owing_notify.1 ho) (howing result rfl)⟩
    have hgen := h.generation (th.pc.looping_notify.1 hl)
    change cache.refreshState.generation + 1 = th.observedGeneration + UInt64.ofNat (th.missed + 1)
    rw [hgen, UInt64.ofNat_add, UInt64.add_assoc]
    rfl
  | _ => exact h

end Observes

/-! ### All callers -/

/-- The invariant of the cache. -/
structure SingleFlight (s : CacheState τ) : Prop where
  lock : LockHeld s
  claim : ClaimHeld s
  callers : ∀ t, Observes s.cache.refreshState (s.threads t)

/-- **Every step keeps the invariant**: the lock, the claim, the waiters and
what they have observed, each by its own lemma. -/
theorem singleFlight_step {s s' : CacheState τ} {a : CacheAct τ} (h : SingleFlight s)
    (hs : s.step a = some s') : SingleFlight s' := by
  rcases CacheState.step_cases hs with ⟨elapsed, rfl, rfl⟩ | ⟨t, e, th, effect, rfl, hm, rfl⟩
  · exact ⟨h.lock, h.claim, h.callers⟩
  · refine ⟨lockHeld_apply h.lock hm, claimHeld_apply h.claim hm, fun u => ?_⟩
    obtain ⟨owner, ho, -⟩ := h.claim
    have hmoved : ∀ u, Observes s.cache.refreshState (Function.update s.threads t th u) :=
      (Function.forall_update_iff _ fun _ th => Observes s.cache.refreshState th).2
        ⟨hm.observes (h.callers t), fun u _ => h.callers u⟩
    refine (hmoved u).effect fun result he => ?_
    subst he
    obtain ⟨hthis, hafter⟩ := hm.owing
    -- The refresh that ends is the one that was claimed, and nobody owes another.
    have howing : ∀ u, ¬ (Function.update s.threads t th u).pc.Owing :=
      (Function.forall_update_iff _ fun _ (th : Caller) => ¬ th.pc.Owing).2
        ⟨hafter, fun u hu hother => hu (ho.unique hother hthis)⟩
    exact howing u

/-- The invariant holds in every reachable state. -/
theorem singleFlight_of_reachable {returns : Set (Except ErrorCode ServerGresSnapshot)}
    {panics : Prop} {s : CacheState τ} (h : (cacheSystem τ returns panics).Reachable s) :
    SingleFlight s := by
  refine h.invariant ?_ fun s a s' hi hs => singleFlight_step hi hs.1
  rintro s rfl
  exact ⟨fun t => iff_of_false id nofun, ⟨none, fun t => iff_of_false id nofun, rfl⟩,
    fun t => .of_returned id id id⟩

/-- A thread dies of its collector only. -/
theorem Move.ne_panicked {cache : GresCache} {now : ℕ} {free : Bool} {th th' : Caller} {e : Event}
    {effect : Effect} (hm : Move cache now free th e th' effect) (he : e ≠ .collectorPanics) :
    th'.pc ≠ .panicked := by
  cases hm with
  | call latest ttlMs => cases latest <;> exact nofun
  | collectorPanics => exact absurd rfl he
  | _ => exact nofun

/-- A collector that always returns leaves every thread alive. -/
theorem ne_panicked_of_reachable {returns : Set (Except ErrorCode ServerGresSnapshot)}
    {s : CacheState τ} (h : (cacheSystem τ returns False).Reachable s) (t : τ) :
    (s.threads t).pc ≠ .panicked := by
  revert t
  refine h.invariant (I := fun s : CacheState τ => ∀ t, (s.threads t).pc ≠ .panicked) ?_
    fun s a s' hi hs => ?_
  · rintro s rfl t
    exact nofun
  · rcases CacheState.step_cases hs.1 with ⟨elapsed, rfl, rfl⟩ | ⟨t, e, th, effect, rfl, hm, rfl⟩
    · exact hi
    · have hevent : e ≠ .collectorPanics := by
        rintro rfl
        exact hs.2
      have hmoved : ∀ u, (Function.update s.threads t th u).pc ≠ .panicked :=
        (Function.forall_update_iff _ fun _ (th : Caller) => th.pc ≠ .panicked).2
          ⟨hm.ne_panicked hevent, fun u _ => hi u⟩
      intro u
      rcases effect.pc_onCaller (Function.update s.threads t th u) with hpc | hpc
      · exact fun h => hmoved u (hpc.symm.trans h)
      · exact fun h => hmoved u ((Pc.notify_eq_panicked _).1 (hpc.symm.trans h))

/-- **One refresh at a time, and nobody left asleep.**  In every reachable state
at most one collector call is in progress; the flag is up exactly while some
thread is between its claim and the end of its `finish_refresh`; a waiter without
a notification sees the flag and the generation it observed; and a call that has
waited is in the collector only if the refreshes finished since it observed the
generation are a positive multiple of `2^64`. -/
theorem singleFlight {returns : Set (Except ErrorCode ServerGresSnapshot)} {s : CacheState τ}
    (h : (cacheSystem τ returns False).Reachable s) :
    (∀ t u started started', (s.threads t).pc = .collecting started →
        (s.threads u).pc = .collecting started' → t = u) ∧
      (s.cache.refreshState.inFlight = true ↔ ∃ t, (s.threads t).pc.Refreshing) ∧
      (∀ t, (s.threads t).pc = .waiting false → s.cache.refreshState.inFlight = true ∧
        s.cache.refreshState.generation = (s.threads t).observedGeneration) ∧
      ∀ t started, (s.threads t).pc = .collecting started → (s.threads t).waited = true →
        0 < (s.threads t).missed ∧ 2 ^ 64 ∣ (s.threads t).missed := by
  have hinv := singleFlight_of_reachable h
  obtain ⟨owner, ho, hfl⟩ := hinv.claim
  refine ⟨fun t u _ _ ht hu => ?_, ?_, fun t hw => (hinv.callers t).asleep hw,
    fun t _ ht hw => (hinv.callers t).owing (by rw [ht]; trivial) hw⟩
  · exact ho.unique (by rw [ht]; trivial) (by rw [hu]; trivial)
  · rw [hfl, ho.isSome_iff]
    exact exists_congr fun t => Pc.owing_iff_refreshing (ne_panicked_of_reachable h t)

/-! ### Two callers -/

/-- The first caller of a new cache: it claims the refresh and calls the collector. -/
def claimRun : List (CacheAct Bool) :=
  .thread false (.call false 0) :: List.replicate 7 (.thread false .step)

/-- The second one, which waits. -/
def waitRun : List (CacheAct Bool) :=
  .thread true (.call false 0) :: List.replicate 6 (.thread true .step)

/-- The collector of the first fails. -/
def failRun : List (CacheAct Bool) :=
  .thread false (.collectorReturns (.error .nvmlUnavailable)) ::
    List.replicate 4 (.thread false .step)

/-- One caller collects and the other waits for it. -/
theorem singleFlight_waiter :
    let s := CacheState.after (claimRun ++ waitRun)
    (s.threads false).pc = .collecting 0 ∧ (s.threads true).pc = .waiting false ∧
      s.cache.refreshState.inFlight = true ∧
        s.cache.refreshState.generation = (s.threads true).observedGeneration := by
  have hreach : (cacheSystem Bool Set.univ False).Reachable (.after (claimRun ++ waitRun)) :=
    CacheState.reachable_after (by decide) (by decide)
  exact ⟨by decide, by decide, (singleFlight hreach).2.2.1 true (by decide)⟩

/-! ### Two to the power of 64 refreshes during one wait -/

/-- Two threads at the time zero. -/
def duo (cache : GresCache) (holder : Option Bool) (spinner sleeper : Caller) : CacheState Bool :=
  { cache, holder, threads := fun u => bif u then sleeper else spinner }

/-- A cache with two callers, at time 0, is made of its four parts. -/
theorem eq_duo {s : CacheState Bool} (h : s.now = 0) :
    s = duo s.cache s.holder (s.threads false) (s.threads true) := by
  obtain ⟨cache, now, holder, threads⟩ := s
  subst h
  simp only [duo, CacheState.mk.injEq, true_and]
  funext u
  cases u <;> rfl

/-- A step of the first of them. -/
theorem exec_duo {cache : GresCache} {holder : Option Bool} {spinner sleeper th : Caller}
    {e : Event} {effect : Effect} {as : List (CacheAct Bool)}
    (h : spinner.next cache 0 holder.isNone e = some (th, effect)) :
    Lts.exec CacheState.step (duo cache holder spinner sleeper) (.thread false e :: as) =
      Lts.exec CacheState.step (duo (effect.onCache cache) (effect.onHolder false holder)
        (effect.onCaller th) (effect.onCaller sleeper)) as := by
  refine (CacheState.exec_thread h).trans ?_
  congr 1
  simp only [CacheState.apply, duo, CacheState.mk.injEq, true_and]
  funext u
  cases u <;> rfl

/-- The second, asleep through `n` failed refreshes. -/
def sleeper (n : ℕ) : Caller where
  pc := .waiting true
  waited := true
  missed := n
  collected := List.replicate n (.error .nvmlUnavailable)
  published := List.replicate n (.error .nvmlUnavailable)

/-- A cache without an entry and without a refresh in flight, after `n` refreshes;
its first caller is not in a call, its second asleep. -/
def Spun (n : ℕ) (s : CacheState Bool) : Prop :=
  ∃ cache spinner, s = duo cache none spinner (sleeper n) ∧ cache.entry = none ∧
    cache.refreshState.inFlight = false ∧ cache.refreshState.generation = UInt64.ofNat n ∧
      spinner.pc.active = false ∧ spinner.pc ≠ .panicked

/-- The second caller has slept through one refresh. -/
theorem spun_one : Spun 1 (.after (claimRun ++ waitRun ++ failRun)) := by
  let s := CacheState.after (claimRun ++ waitRun ++ failRun)
  have hholder : s.holder = none := by decide
  have hsleeper : s.threads true = sleeper 1 := by decide
  refine ⟨s.cache, s.threads false, ?_, by decide, by decide, by decide, by decide, by decide⟩
  rw [← hsleeper, ← hholder]
  exact eq_duo (by decide)

/-- One more refresh. -/
theorem spun_succ {n : ℕ} {s : CacheState Bool} (h : Spun n s) :
    ∃ s', Lts.exec CacheState.step s (claimRun ++ failRun) = some s' ∧ Spun (n + 1) s' := by
  obtain ⟨⟨entry, ⟨inFlight, generation, lastError⟩, metrics⟩, spinner, rfl, he, hfl, hgen, hact,
    hp⟩ := h
  dsimp only at he hfl hgen
  subst he hfl
  have hcall : spinner.next ⟨none, ⟨false, generation, lastError⟩, metrics⟩ 0 true (.call false 0) =
      some ({ pc := .freshNow }, .nothing) := by
    cases hpc : spinner.pc <;> simp_all [Pc.active, Caller.next]
  have hclaim : ∀ th : Caller, th.pc = .decide → th.observedGeneration = generation →
      th.next ⟨none, ⟨false, generation, lastError⟩, metrics.recordMiss⟩ 0 false .step =
        some ({ th with pc := .claimed }, .claim) := by
    rintro th hpc rfl
    simp [Caller.next, hpc]
  have hsleep : (Effect.publish (.error .nvmlUnavailable)).onCaller
      ((Effect.collect (.error .nvmlUnavailable)).onCaller (sleeper n)) = sleeper (n + 1) := by
    simp [sleeper, Effect.onCaller, Pc.active, Pc.notify, List.replicate_succ', Refreshed.outcome,
      Except.map]
  let cache' : GresCache := ⟨none, ⟨false, generation + 1, some .nvmlUnavailable⟩,
    metrics.recordMiss.recordCollectLatency 0⟩
  let spinner' : Caller :=
    { pc := .returned (.error .nvmlUnavailable) false, observedGeneration := generation,
      missed := 1, collected := [.error .nvmlUnavailable] }
  refine ⟨duo cache' none spinner' (sleeper (n + 1)), ?_,
    cache', spinner', rfl, rfl, rfl, ?_, rfl, ?_⟩
  · rw [← hsleep]
    refine (exec_duo hcall).trans ?_
    refine (exec_duo rfl).trans ?_
    refine (exec_duo rfl).trans ?_
    refine (exec_duo rfl).trans ?_
    refine (exec_duo rfl).trans ?_
    refine (exec_duo rfl).trans ?_
    refine (exec_duo (hclaim _ rfl rfl)).trans ?_
    refine (exec_duo rfl).trans ?_
    refine (exec_duo rfl).trans ?_
    refine (exec_duo rfl).trans ?_
    refine (exec_duo rfl).trans ?_
    refine (exec_duo rfl).trans ?_
    refine (exec_duo rfl).trans ?_
    rfl
  · change generation + 1 = _
    rw [hgen, UInt64.ofNat_add]
    rfl
  · intro hpanicked
    cases hpanicked

/-- Any number of refreshes during one wait. -/
theorem spun_of_pos (n : ℕ) : ∃ s, (cacheSystem Bool Set.univ False).Reachable s ∧
    Spun (n + 1) s := by
  induction n with
  | zero => exact ⟨_, CacheState.reachable_after (by decide) (by decide), spun_one⟩
  | succ n ih =>
    obtain ⟨s, hreach, hs⟩ := ih
    obtain ⟨s', hexec, hs'⟩ := spun_succ hs
    exact ⟨s', hreach.run (Lts.run_restrict_of_forall hexec fun _ => by decide), hs'⟩

/-- The sleeper wakes up to the generation it observed, and claims the refresh. -/
theorem spun_wakes {s : CacheState Bool} (h : Spun (2 ^ 64) s) :
    ∃ s', Lts.exec CacheState.step s (.thread true .wake :: List.replicate 4 (.thread true .step)) =
      some s' ∧ (s'.threads true).pc = .collecting 0 ∧ (s'.threads true).waited = true := by
  obtain ⟨⟨entry, ⟨inFlight, generation, lastError⟩, metrics⟩, spinner, rfl, he, hfl, hgen, -⟩ := h
  dsimp only at he hfl hgen
  have hzero : UInt64.ofNat (2 ^ 64) = 0 := by decide
  rw [hzero] at hgen
  subst he hfl hgen
  exact ⟨_, rfl, rfl, rfl⟩

/-- **A call that has waited can call the collector**: after `2^64` refreshes the
generation is again the one it observed. -/
theorem waited_collects : ¬ ∀ s, (cacheSystem Bool Set.univ False).Reachable s →
    ∀ t started, (s.threads t).pc = .collecting started → (s.threads t).waited = false := by
  intro h
  obtain ⟨s, hreach, hs⟩ := spun_of_pos (2 ^ 64 - 1)
  obtain ⟨s', hexec, hpc, hw⟩ := spun_wakes hs
  have hreach' := hreach.run (Lts.run_restrict_of_forall hexec fun _ => by decide)
  exact absurd (hw.symm.trans (h s' hreach' true 0 hpc)) (by decide)

end Server
end Clustat
