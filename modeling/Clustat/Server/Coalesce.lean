/-
# Where the errors of a coalesced call come from

A call of `get_or_refresh` (`crates/server/src/cache.rs`) that waits for the
refresh of another decides, when it wakes up, by what it finds: a fresh entry, or
a generation that has moved and the error of the last refresh.  Some time may
have passed since the end of that refresh.  If the entry has expired by then, or
another caller has claimed the next refresh and reset the error, the waiter finds
neither, and returns `Internal` though no invocation failed with it
(`expired_internal`).

`NoStray` is the condition that no caller comes to this branch.  Under it a call
that is not a hit returns the outcome of an invocation that returned, or was
announced, during the call (`Sourced`).  An invocation announced during a call
may have returned before the call began; `NoLateCall` excludes that, and then
every error comes from an invocation that returned during the call.
-/

import Mathlib.Data.Fintype.Basic
import Clustat.Server.SingleFlight

namespace Clustat
namespace Server

open Region

variable {τ : Type*} [DecidableEq τ]

/-- The outcome a caller has of its own invocation. -/
def Pc.outcome? : Pc → Option Outcome
  | .stamping _ outcome => some outcome
  | .timing _ result | .finishing result | .publishing result => some (Refreshed.outcome result)
  | .storing entry => some (.ok entry.snapshot)
  | _ => none

/-- Waking a caller leaves its outcome alone. -/
@[simp] theorem Pc.outcome?_notify (pc : Pc) : pc.notify.outcome? = pc.outcome? := by
  cases pc <;> rfl

/-- The failure of its own invocation. -/
def Pc.failure? (pc : Pc) : Option ErrorCode := pc.outcome?.bind fun
  | .ok _ => none
  | .error code => some code

/-- A caller has failed with an error code exactly when its outcome is that
error. -/
theorem Pc.failure?_eq_some {pc : Pc} {c : ErrorCode} :
    pc.failure? = some c ↔ pc.outcome? = some (.error c) := by
  unfold failure?
  cases ho : pc.outcome? with
  | none => simp
  | some o => cases o <;> simp

/-- A caller without a fresh entry that finds the generation moved finds an error. -/
def NoStray (s : CacheState τ) : CacheAct τ → Prop
  | .thread t .step => (s.threads t).pc = .decide →
      s.cache.refreshState.generation ≠ (s.threads t).observedGeneration →
        s.cache.refreshState.lastError ≠ none
  | _ => True

/-- No call begins between the return of a failed invocation and its announcement. -/
def NoLateCall (s : CacheState τ) : CacheAct τ → Prop
  | .thread _ (.call ..) => ∀ u, (s.threads u).pc.failure? = none
  | _ => True

instance (s : CacheState τ) : DecidablePred (NoStray s) := fun
  | .thread t .step => inferInstanceAs (Decidable ((s.threads t).pc = .decide →
      s.cache.refreshState.generation ≠ (s.threads t).observedGeneration →
        s.cache.refreshState.lastError ≠ none))
  | .thread _ (.call ..) | .thread _ (.collectorReturns _) | .thread _ .collectorPanics
  | .thread _ .wake | .tick _ => .isTrue trivial

instance [Fintype τ] (s : CacheState τ) : DecidablePred (NoLateCall s) := fun
  | .thread _ (.call ..) => inferInstanceAs (Decidable (∀ u, (s.threads u).pc.failure? = none))
  | .thread _ .step | .thread _ (.collectorReturns _) | .thread _ .collectorPanics
  | .thread _ .wake | .tick _ => .isTrue trivial

/-- What the collector can come to, as far as its callers can tell. -/
def outcomes (returns : Set (Except ErrorCode ServerGresSnapshot)) : Set Outcome :=
  Set.image (Except.map omitProcessCommands) returns

/-! ### One caller -/

/-- What a caller knows of the invocations that have returned, or have been
announced, during its call. -/
structure Sourced (outcomes : Set Outcome) (lastError : Option ErrorCode) (th : Caller) : Prop where
  collected : ∀ o ∈ th.collected, o ∈ outcomes
  published : ∀ o ∈ th.published, o ∈ outcomes
  own : ∀ o, th.pc.outcome? = some o → o ∈ th.collected
  lastError : th.pc.Looping → 0 < th.missed → ∀ c, lastError = some c → .error c ∈ th.published
  hit : ∀ r, th.pc = .returned r true → ∃ entry, r = .ok entry
  returned : ∀ r, th.pc = .returned r false →
    Refreshed.outcome r ∈ th.collected ∨ Refreshed.outcome r ∈ th.published

section Caller

variable {outs : Set Outcome} {refreshState : RefreshState} {lastError : Option ErrorCode}
  {th th' : Caller} {pc : Pc}

/-- A caller that moves to a point with nothing of an invocation. -/
theorem Sourced.of_none (h : Sourced outs lastError th) (ho : pc.outcome? = none)
    (hl : pc.Looping → th.pc.Looping) (hr : ∀ r hit, pc ≠ .returned r hit) :
    Sourced outs lastError { th with pc } where
  collected := h.collected
  published := h.published
  own _ hp := absurd (ho.symm.trans hp) nofun
  lastError hp := h.lastError (hl hp)
  hit r hp := absurd hp (hr r true)
  returned r hp := absurd hp (hr r false)

/-- A caller that goes on with what it has of its invocation. -/
theorem Sourced.of_own (h : Sourced outs lastError th) (ho : pc.outcome? = th.pc.outcome?)
    (hl : ¬ pc.Looping) (hr : ∀ r hit, pc ≠ .returned r hit) :
    Sourced outs lastError { th with pc } where
  collected := h.collected
  published := h.published
  own o hp := h.own o (ho.symm.trans hp)
  lastError hp := absurd hp hl
  hit r hp := absurd hp (hr r true)
  returned r hp := absurd hp (hr r false)

/-- A hit. -/
theorem Sourced.of_hit (h : Sourced outs lastError th) (entry : CacheEntry) :
    Sourced outs lastError { th with pc := .returned (.ok entry) true } where
  collected := h.collected
  published := h.published
  own _ hp := absurd hp nofun
  lastError hp := absurd hp id
  hit r hp := by cases hp; exact ⟨entry, rfl⟩
  returned r hp := absurd hp nofun

/-- A result that is one of an invocation. -/
theorem Sourced.of_returned (h : Sourced outs lastError th) {result : Refreshed}
    (hr : result.outcome ∈ th.collected ∨ result.outcome ∈ th.published) :
    Sourced outs lastError { th with pc := .returned result false } where
  collected := h.collected
  published := h.published
  own _ hp := absurd hp nofun
  lastError hp := absurd hp id
  hit r hp := absurd hp nofun
  returned r hp := by cases hp; exact hr

/-- The effect of a step on what a caller knows: an invocation that returns, or is
announced, counts for the callers in a call. -/
theorem Sourced.effect {cache : GresCache} {effect : Effect}
    (h : Sourced outs cache.refreshState.lastError th)
    (hcollect : ∀ o, effect = .collect o → o ∈ outs)
    (hpublish : ∀ r, effect = .publish r → r.outcome ∈ outs) :
    Sourced outs (effect.onCache cache).refreshState.lastError (effect.onCaller th) := by
  cases effect with
  | claim =>
    exact ⟨h.collected, h.published, h.own, fun _ _ c hc => absurd hc nofun, h.hit, h.returned⟩
  | collect o =>
    simp only [Effect.onCaller]
    split_ifs with hact
    · refine ⟨fun o' ho => ?_, h.published, fun o' ho => List.mem_append_left _ (h.own o' ho),
        h.lastError, h.hit, fun r hr => (h.returned r hr).imp_left (List.mem_append_left _)⟩
      rcases List.mem_append.1 ho with ho | ho
      · exact h.collected o' ho
      · exact List.mem_singleton.1 ho ▸ hcollect o rfl
    · exact h
  | publish r =>
    have hpub : ∀ o, o ∈ th.published →
        o ∈ (if th.pc.active then th.published ++ [r.outcome] else th.published) := by
      intro o ho
      split_ifs
      · exact List.mem_append_left _ ho
      · exact ho
    refine ⟨h.collected, fun o ho => ?_, fun o ho => h.own o (th.pc.outcome?_notify ▸ ho),
      fun hl _ c hc => ?_, fun r' hr => h.hit r' (th.pc.notify_eq_returned.1 hr),
      fun r' hr => (h.returned r' (th.pc.notify_eq_returned.1 hr)).imp_right (hpub _)⟩
    · simp only [Effect.onCaller] at ho
      split_ifs at ho
      · rcases List.mem_append.1 ho with ho | ho
        · exact h.published o ho
        · exact List.mem_singleton.1 ho ▸ hpublish r rfl
      · exact h.published o ho
    · have hact : th.pc.active = true := Pc.active_of_looping (th.pc.looping_notify.1 hl)
      cases r with
      | ok entry => cases hc
      | error code =>
        obtain rfl := Option.some.inj hc
        simp only [Effect.onCaller, hact, if_true]
        exact List.mem_append_right _ (List.mem_singleton_self _)
  | _ => exact h

/-- **A move keeps it**, but for the return of the collector: what a caller returns
with is an entry of the cache, the outcome of its own invocation, or the error of
a refresh that was finished during the call. -/
theorem Move.sourced {cache : GresCache} {now : ℕ} {free : Bool} {e : Event} {effect : Effect}
    (h : Sourced outs cache.refreshState.lastError th) (ho : Observes cache.refreshState th)
    (hm : Move cache now free th e th' effect)
    (hstray : e = .step → th.pc = .decide →
      cache.refreshState.generation ≠ th.observedGeneration → cache.refreshState.lastError ≠ none)
    (hcollect : ∀ o, effect ≠ .collect o) : Sourced outs cache.refreshState.lastError th' := by
  cases hm with
  | call latest ttlMs => cases latest <;> exact ⟨nofun, nofun, nofun, nofun, nofun, nofun⟩
  | latestHit hpc he => exact h.of_hit _
  | freshHit hpc he => exact h.of_hit _
  | loopHit hpc he => exact h.of_hit _
  | latestMiss hpc he => exact h.of_none rfl nofun nofun
  | freshNow hpc => exact h.of_none rfl nofun nofun
  | freshMiss hpc he => exact h.of_none rfl nofun nofun
  | lock hpc hfree =>
    exact ⟨h.collected, h.published, nofun, fun _ hn => absurd hn (lt_irrefl 0), nofun, nofun⟩
  | loopNow hpc => exact h.of_none rfl (fun _ => by rw [hpc]; trivial) nofun
  | loopMiss hpc he => exact h.of_none rfl (fun _ => by rw [hpc]; trivial) nofun
  | wake hpc hfree => exact h.of_none rfl (fun _ => by rw [hpc]; trivial) nofun
  | wait hpc hgen hfl =>
    have h' : Sourced outs _ { th with pc := .waiting false } :=
      h.of_none rfl (fun _ => by rw [hpc]; trivial) nofun
    exact ⟨h'.collected, h'.published, h'.own, h'.lastError, h'.hit, h'.returned⟩
  | claim hpc hgen hfl => exact h.of_none rfl nofun nofun
  | collect hpc => exact h.of_none rfl nofun nofun
  | collectorPanics hpc => exact h.of_none rfl nofun nofun
  | stray hpc hgen he => exact absurd he (hstray rfl hpc hgen)
  | failed hpc hgen he =>
    have hl : th.pc.Looping := by rw [hpc]; trivial
    refine h.of_returned (.inr (h.lastError hl ?_ _ he))
    refine Nat.pos_of_ne_zero fun hz => hgen ?_
    rw [ho.generation hl, hz]
    exact UInt64.add_zero _
  | stamp hpc =>
    refine h.of_own ?_ id nofun
    rw [hpc]
    exact congrArg some (Refreshed.outcome_stamp _ _)
  | timeOk hpc => exact h.of_own (by rw [hpc]; rfl) id nofun
  | timeError hpc => exact h.of_own (by rw [hpc]; rfl) id nofun
  | store hpc => exact h.of_own (by rw [hpc]; rfl) id nofun
  | finish hpc hfree => exact h.of_own (by rw [hpc]; rfl) id nofun
  | publish hpc => exact h.of_returned (.inl (h.own _ (by rw [hpc]; rfl)))
  | collectorReturns result hpc => exact absurd rfl (hcollect _)

/-- The return of the collector, to the thread that has called it. -/
theorem Sourced.collectorReturns {started : ℕ} (h : Sourced outs lastError th) {o : Outcome}
    (ho : o ∈ outs) :
    Sourced outs lastError ((Effect.collect o).onCaller { th with pc := .stamping started o }) := by
  refine ⟨fun o' hmem => ?_, h.published, fun o' hp => ?_, nofun, nofun, nofun⟩
  · rcases List.mem_append.1 hmem with hmem | hmem
    · exact h.collected o' hmem
    · exact List.mem_singleton.1 hmem ▸ ho
  · exact List.mem_append_right _ (List.mem_singleton.2 (Option.some.inj hp).symm)

end Caller

/-! ### All callers -/

section All

variable {returns : Set (Except ErrorCode ServerGresSnapshot)} {panics : Prop} {s s' : CacheState τ}
  {a : CacheAct τ}

/-- The outcomes of a refresh that is announced are the collector's. -/
theorem Move.publish_mem {outs : Set Outcome} {cache : GresCache} {now : ℕ} {free : Bool}
    {th th' : Caller} {e : Event} {effect : Effect} {lastError : Option ErrorCode}
    (h : Sourced outs lastError th) (hm : Move cache now free th e th' effect) :
    ∀ r, effect = .publish r → r.outcome ∈ outs := by
  rintro r rfl
  cases hm with
  | publish hpc => exact h.collected _ (h.own _ (by rw [hpc]; rfl))

omit [DecidableEq τ] in
/-- The outcomes that come in are the collector's. -/
theorem Move.collect_mem {cache : GresCache} {now : ℕ} {free : Bool} {th th' : Caller} {e : Event}
    {effect : Effect} {t : τ} (hadm : (CacheAct.thread t e).Admitted returns panics)
    (hm : Move cache now free th e th' effect) :
    ∀ o, effect = .collect o → o ∈ outcomes returns := by
  rintro o rfl
  cases hm with
  | collectorReturns result hpc => exact ⟨result, hadm, rfl⟩

/-- **Every step keeps what the callers know**: the outcome a caller has comes
from an invocation, or from a refresh that was finished while it was there. -/
theorem sourced_step (hinv : SingleFlight s) (hadm : a.Admitted returns panics)
    (hstray : NoStray s a)
    (h : ∀ t, Sourced (outcomes returns) s.cache.refreshState.lastError (s.threads t))
    (hs : s.step a = some s') (t : τ) :
    Sourced (outcomes returns) s'.cache.refreshState.lastError (s'.threads t) := by
  rcases CacheState.step_cases hs with ⟨elapsed, rfl, rfl⟩ | ⟨u, e, th, effect, rfl, hm, rfl⟩
  · exact h t
  have hcollect := hm.collect_mem hadm
  have hpublish := hm.publish_mem (h u)
  by_cases ht : t = u
  · subst ht
    change Sourced _ _ (effect.onCaller (Function.update s.threads t th t))
    rw [Function.update_self]
    by_cases hc : ∃ o, effect = .collect o
    · obtain ⟨o, rfl⟩ := hc
      cases hm with
      | collectorReturns result hpc => exact (h t).collectorReturns (hcollect _ rfl)
    · refine (hm.sourced (h t) (hinv.callers t) ?_ fun o he => hc ⟨o, he⟩).effect hcollect hpublish
      rintro rfl
      exact hstray
  · change Sourced _ _ (effect.onCaller (Function.update s.threads u th t))
    rw [Function.update_of_ne ht]
    exact (h t).effect hcollect hpublish

/-- What the callers know, in every state of a run without a stray waiter. -/
theorem sourced_of_reachable (h : ((cacheSystem τ returns panics).restrict NoStray).Reachable s)
    (t : τ) : Sourced (outcomes returns) s.cache.refreshState.lastError (s.threads t) := by
  have hboth := h.invariant (I := fun s : CacheState τ => SingleFlight s ∧
      ∀ t, Sourced (outcomes returns) s.cache.refreshState.lastError (s.threads t)) ?_ ?_
  · exact hboth.2 t
  · rintro s rfl
    exact ⟨singleFlight_of_reachable (.of_init (M := cacheSystem τ returns panics) rfl),
      fun t => ⟨nofun, nofun, nofun, nofun, nofun, nofun⟩⟩
  · rintro s a s' ⟨hinv, hi⟩ ⟨⟨hs, hadm⟩, hstray⟩
    exact ⟨singleFlight_step hinv hs, sourced_step hinv hadm hstray hi hs⟩

/-! ### Calls that begin late -/

/-- A failure that is announced to a caller in a call, or is about to be, has
returned during the call. -/
structure Timely (s : CacheState τ) : Prop where
  published : ∀ t c, .error c ∈ (s.threads t).published → .error c ∈ (s.threads t).collected
  pending : ∀ t c, (s.threads t).pc.failure? = some c →
    ∀ u, (s.threads u).pc.active = true → .error c ∈ (s.threads u).collected

section Move

variable {cache : GresCache} {now : ℕ} {free : Bool} {th th' : Caller} {e : Event} {effect : Effect}

/-- Within a call nothing that is kept of it is lost. -/
theorem Move.kept (hm : Move cache now free th e th' effect)
    (hcall : ∀ latest ttlMs, e ≠ .call latest ttlMs) :
    th'.collected = th.collected ∧ th'.published = th.published ∧
      (th'.pc.active = true → th.pc.active = true) := by
  cases hm with
  | call latest ttlMs => exact absurd rfl (hcall latest ttlMs)
  | _ => simp_all [Pc.active]

/-- An outcome has just come in, or was there before. -/
theorem Move.outcome (hm : Move cache now free th e th' effect) {o : Outcome}
    (ho : th'.pc.outcome? = some o) : effect = .collect o ∨ th.pc.outcome? = some o := by
  cases hm with
  | call latest ttlMs => cases latest <;> cases ho
  | collectorReturns result hpc => exact .inl (congrArg _ (Option.some.inj ho))
  | stamp hpc =>
    rw [hpc]
    exact .inr ((congrArg some (Refreshed.outcome_stamp _ _)).symm.trans ho)
  | timeOk hpc => exact .inr (by rw [hpc]; exact ho)
  | timeError hpc => exact .inr (by rw [hpc]; exact ho)
  | store hpc => exact .inr (by rw [hpc]; exact ho)
  | finish hpc hfree => exact .inr (by rw [hpc]; exact ho)
  | _ => cases ho

/-- What another caller does leaves the outcome of this one alone. -/
theorem Effect.outcome?_onCaller (effect : Effect) (th : Caller) :
    (effect.onCaller th).pc.outcome? = th.pc.outcome? := by
  rcases effect.pc_onCaller th with h | h
  · rw [h]
  · rw [h, Pc.outcome?_notify]

/-- What another caller does neither ends this one nor starts it. -/
theorem Effect.active_onCaller (effect : Effect) (th : Caller) :
    (effect.onCaller th).pc.active = th.pc.active := by
  rcases effect.pc_onCaller th with h | h
  · rw [h]
  · rw [h, Pc.active_notify]

/-- What was collected while a caller was there stays on its list. -/
theorem Effect.mem_collected_onCaller {o : Outcome} (h : o ∈ th.collected) :
    o ∈ (effect.onCaller th).collected := by
  cases effect with
  | collect o' =>
    simp only [onCaller]
    split_ifs
    · exact List.mem_append_left _ h
    · exact h
  | _ => exact h

/-- What comes in counts for every caller in a call. -/
theorem Effect.mem_collected_self {o : Outcome} (h : th.pc.active = true) :
    o ∈ ((Effect.collect o).onCaller th).collected := by
  simp only [onCaller, h, if_true]
  exact List.mem_append_right _ (List.mem_singleton_self o)

/-- What another caller does puts on the list of an active caller at most what
it publishes. -/
theorem Effect.mem_published_onCaller {o : Outcome} (h : o ∈ (effect.onCaller th).published) :
    o ∈ th.published ∨
      ∃ r, effect = .publish r ∧ o = Refreshed.outcome r ∧ th.pc.active = true := by
  cases effect with
  | publish r =>
    simp only [onCaller] at h
    split_ifs at h with hact
    · rcases List.mem_append.1 h with h | h
      · exact .inl h
      · exact .inr ⟨r, rfl, List.mem_singleton.1 h, hact⟩
    · exact .inl h
  | collect o' =>
    simp only [onCaller] at h
    split_ifs at h <;> exact .inl h
  | _ => exact .inl h

end Move

section Timely

variable {t : τ} {e : Event} {th : Caller} {effect : Effect}

/-- A pending failure is known to every caller after the move of one: a call that
begins would begin late. -/
theorem Timely.known (h : Timely s) (hlate : NoLateCall s (.thread t e))
    (hm : Move s.cache s.now s.holder.isNone (s.threads t) e th effect) {w : τ} {c : ErrorCode}
    (hw : (s.threads w).pc.outcome? = some (.error c)) :
    ∀ u, (Function.update s.threads t th u).pc.active = true →
      .error c ∈ (Function.update s.threads t th u).collected := by
  rw [← Pc.failure?_eq_some] at hw
  refine (Function.forall_update_iff _ fun _ (th : Caller) =>
    th.pc.active = true → .error c ∈ th.collected).2 ⟨fun hact => ?_, fun u _ => h.pending w c hw u⟩
  have hcall : ∀ latest ttlMs, e ≠ .call latest ttlMs := by
    rintro latest ttlMs rfl
    exact absurd ((hlate w).symm.trans hw) nofun
  obtain ⟨hcol, -, hact'⟩ := hm.kept hcall
  rw [hcol]
  exact h.pending w c hw t (hact' hact)

/-- What has been announced to a caller is known to it after the move of one: a
call that begins has been told nothing. -/
theorem Timely.announced (h : Timely s)
    (hm : Move s.cache s.now s.holder.isNone (s.threads t) e th effect) :
    ∀ u c, .error c ∈ (Function.update s.threads t th u).published →
      .error c ∈ (Function.update s.threads t th u).collected := by
  refine (Function.forall_update_iff _ fun _ (th : Caller) =>
    ∀ c, .error c ∈ th.published → .error c ∈ th.collected).2
      ⟨fun c hold => ?_, fun u _ => h.published u⟩
  by_cases hcall : ∃ latest ttlMs, e = .call latest ttlMs
  · obtain ⟨latest, ttlMs, rfl⟩ := hcall
    cases hm
    exact absurd hold List.not_mem_nil
  · obtain ⟨hcol, hpub, -⟩ := hm.kept fun latest ttlMs he => hcall ⟨latest, ttlMs, he⟩
    rw [hcol]
    exact h.published t c (hpub ▸ hold)

/-- A failure that is pending after the move of a caller has just come in, or was
pending before. -/
theorem Move.outcome_before (hm : Move s.cache s.now s.holder.isNone (s.threads t) e th effect)
    {o : Outcome} : ∀ w, (Function.update s.threads t th w).pc.outcome? = some o →
      effect = .collect o ∨ ∃ v, (s.threads v).pc.outcome? = some o :=
  (Function.forall_update_iff _ fun _ (th : Caller) => th.pc.outcome? = some o →
    effect = .collect o ∨ ∃ v, (s.threads v).pc.outcome? = some o).2
      ⟨fun ho => (hm.outcome ho).imp_right fun h => ⟨t, h⟩, fun w _ ho => .inr ⟨w, ho⟩⟩

end Timely

/-- **Every step keeps announced failures timely**, if no call begins late: a
failure that a caller takes over was of an invocation that returned during its
call. -/
theorem timely_step (h : Timely s) (hlate : NoLateCall s a) (hs : s.step a = some s') :
    Timely s' := by
  rcases CacheState.step_cases hs with ⟨elapsed, rfl, rfl⟩ | ⟨t, e, th, effect, rfl, hm, rfl⟩
  · exact ⟨h.published, h.pending⟩
  refine ⟨fun u c hc => ?_, fun w c hc u hact => ?_⟩
  · apply Effect.mem_collected_onCaller
    rcases Effect.mem_published_onCaller hc with hold | ⟨r, rfl, hr, hact⟩
    · exact h.announced hm u c hold
    · refine h.known hlate hm (w := t) ?_ u hact
      cases hm with
      | publish hpc => rw [hpc, hr]; rfl
  · rw [Pc.failure?_eq_some] at hc
    replace hc := (effect.outcome?_onCaller _).symm.trans hc
    replace hact := (effect.active_onCaller _).symm.trans hact
    rcases hm.outcome_before w hc with rfl | ⟨v, hv⟩
    · exact Effect.mem_collected_self hact
    · exact Effect.mem_collected_onCaller (h.known hlate hm hv u hact)

/-- Announced failures are timely in every state of a run without late calls. -/
theorem timely_of_reachable {C : CacheState τ → CacheAct τ → Prop}
    (hC : ∀ s a, C s a → NoLateCall s a)
    (h : ((cacheSystem τ returns panics).restrict C).Reachable s) : Timely s := by
  refine h.invariant ?_ fun s a s' hi hs => timely_step hi (hC s a hs.2) hs.1.1
  rintro s rfl
  exact ⟨fun t c => nofun, fun t c => nofun⟩

end All

/-- **Where errors come from.**  In a run without a stray waiter, a call that has
returned an error has it from an invocation that returned, or whose refresh was
finished, during the call; if every invocation succeeds no call returns an error;
and if every invocation fails with `e`, a call that is not a hit returns `e`.  If
no call begins late either, the invocation has returned during the call. -/
theorem errors_happened {returns : Set (Except ErrorCode ServerGresSnapshot)} {panics : Prop}
    {s : CacheState τ} {t : τ} {r : Refreshed} {hit : Bool}
    (h : ((cacheSystem τ returns panics).restrict NoStray).Reachable s)
    (hr : (s.threads t).pc = .returned r hit) :
    (∀ c, r = .error c →
        .error c ∈ (s.threads t).collected ∨ .error c ∈ (s.threads t).published) ∧
      ((∀ result ∈ returns, ∃ snapshot, result = .ok snapshot) → ∃ entry, r = .ok entry) ∧
      (∀ e, (∀ result ∈ returns, result = .error e) → hit = false → r = .error e) ∧
      (((cacheSystem τ returns panics).restrict
          fun s a => NoStray s a ∧ NoLateCall s a).Reachable s →
        ∀ c, r = .error c → .error c ∈ (s.threads t).collected) := by
  have hs := sourced_of_reachable h t
  have hmem : ∀ r', r = r' → hit = false → Refreshed.outcome r' ∈ (s.threads t).collected ∨
      Refreshed.outcome r' ∈ (s.threads t).published := by
    rintro r' rfl rfl
    exact hs.returned r hr
  have hmiss : ∀ c, r = .error c → hit = false := by
    rintro c rfl
    cases hit with
    | false => rfl
    | true =>
      obtain ⟨entry, he⟩ := hs.hit _ hr
      cases he
  have hout : hit = false → ∃ result ∈ returns, result.map omitProcessCommands =
      Refreshed.outcome r := fun hfalse =>
    (hmem r rfl hfalse).elim (hs.collected _) (hs.published _)
  refine ⟨fun c hc => hmem _ hc (hmiss c hc), fun hok => ?_, fun e he hfalse => ?_,
    fun h' c hc => ?_⟩
  · cases r with
    | ok entry => exact ⟨entry, rfl⟩
    | error c =>
      obtain ⟨result, hresult, heq⟩ := hout (hmiss c rfl)
      obtain ⟨snapshot, rfl⟩ := hok result hresult
      cases heq
  · obtain ⟨result, hresult, heq⟩ := hout hfalse
    obtain rfl := he result hresult
    cases r with
    | ok entry => cases heq
    | error c =>
      cases heq
      rfl
  · exact (hmem _ hc (hmiss c hc)).elim id
      ((timely_of_reachable (fun _ _ hC => hC.2) h').published t c)

/-! ### Two callers -/

/-- The collector fails while the second caller waits. -/
def failedRun : List (CacheAct Bool) :=
  claimRun ++ waitRun ++ failRun ++ .thread true .wake :: List.replicate 3 (.thread true .step)

/-- In this run the only collection fails, and nothing panics. -/
theorem admitted_failedRun :
    ∀ a ∈ failedRun, a.Admitted {.error .nvmlUnavailable} False := by
  simp [failedRun, claimRun, waitRun, failRun, CacheAct.Admitted]

/-- The waiter returns the failure of the invocation it has waited for. -/
theorem errors_happened_failedRun :
    ((CacheState.after failedRun).threads true).pc = .returned (.error .nvmlUnavailable) false ∧
      .error .nvmlUnavailable ∈ ((CacheState.after failedRun).threads true).collected := by
  have hboth : ((cacheSystem Bool {.error .nvmlUnavailable} False).restrict
      fun s a => NoStray s a ∧ NoLateCall s a).Reachable (.after failedRun) :=
    CacheState.reachable_checked (by decide) admitted_failedRun
  have hstray : ((cacheSystem Bool {.error .nvmlUnavailable} False).restrict
      NoStray).Reachable (.after failedRun) :=
    CacheState.reachable_checked (by decide) admitted_failedRun
  have hpc : ((CacheState.after failedRun).threads true).pc =
      .returned (.error .nvmlUnavailable) false := by decide
  exact ⟨hpc, (errors_happened hstray hpc).2.2.2 hboth _ rfl⟩

/-- The collector succeeds while the second caller waits, which wakes up after the
entry has expired. -/
def expiredRun : List (CacheAct Bool) :=
  .thread false (.call false 1) :: List.replicate 7 (.thread false .step) ++
    .thread true (.call false 1) :: List.replicate 6 (.thread true .step) ++
      .thread false (.collectorReturns
          (.ok { hostname := "gpu", driverVersion := none, gres := [] })) ::
        List.replicate 5 (.thread false .step) ++
          .tick 1000000 :: .thread true .wake :: List.replicate 3 (.thread true .step)

/-- **An error nobody had**: every invocation succeeds, and a call returns
`Internal`, since the entry it waited for has expired when it looks. -/
theorem expired_internal : ¬ ∀ s : CacheState Bool,
    (cacheSystem Bool {result | ∃ snapshot, result = .ok snapshot} False).Reachable s →
      ∀ t c hit, (s.threads t).pc ≠ .returned (.error c) hit := by
  intro h
  have hpc : ((CacheState.after expiredRun).threads true).pc =
      .returned (.error .internal) false := by decide
  have hadmitted : ∀ a ∈ expiredRun, a.Admitted {result | ∃ snapshot, result = .ok snapshot}
      False := by
    simp [expiredRun, CacheAct.Admitted]
  exact h _ (CacheState.reachable_after (by decide) hadmitted) true .internal false hpc

end Server
end Clustat
