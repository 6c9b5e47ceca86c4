/-
# How often a query starts a discovery

`should_skip_query_discovery_reconcile` of `crates/client-backend/src/local_api.rs`: with an empty
cache a query always starts one, with a full cache never, and else if the last one that was
started is `discover_wait` ago.  The time of the last is under a lock of its own.  With an empty
cache the clock is read under that lock, and otherwise before it, so that a handler can come to
the lock with an older clock than the one that had it before.

The handlers are modelled as a transition system: any number of them, with the cache changing at
any time and clocks that say anything.  What is compared is always the last clock that was
written, so that the distance is kept whatever the order, as long as it fits an `i64`
(`rate_limited_iff`).
-/

import Mathlib.Data.List.Chain
import Clustat.Backend.LocalApi

namespace Clustat
namespace Backend

open LocalApiState (saturatingSub)

/-- A discovery that was permitted: the clock of the handler, and whether it saw an empty
cache. -/
structure Permission where
  clock : Int64
  sawEmpty : Bool
  deriving DecidableEq, Repr

/-- Where a handler is in `should_skip_query_discovery_reconcile`. -/
inductive ReconcilePc
  | idle
  | readsClock
  | compares (now : Int64)
  | resets
  deriving DecidableEq, Repr

/-- The length of the cache, `last_discovery_reconcile_ms`, the handlers, and what they have been
permitted, the latest first. -/
structure ReconcileState where
  cacheLen : ℕ
  lastDiscoveryReconcileMs : Int64 := 0
  handlers : ℕ → ReconcilePc := fun _ => .idle
  permitted : List Permission := []

namespace ReconcileState

/-- `min_interval_ms`: the cast keeps 64 bits of it. -/
def minIntervalMs (discoverWaitMs : ℕ) : Int64 := .ofNat (max discoverWaitMs 1)

/-- Where a handler goes that has read the length of the cache. -/
def afterLen (maxConnections cacheLen : ℕ) : ReconcilePc :=
  if cacheLen = 0 then .resets
  else if maxConnections ≤ cacheLen then .idle
  else .readsClock

/-- A handler goes on. -/
def goto (s : ReconcileState) (i : ℕ) (pc : ReconcilePc) : ReconcileState :=
  { s with handlers := Function.update s.handlers i pc }

/-- The clock of a handler becomes the time of the last discovery. -/
def permit (s : ReconcileState) (now : Int64) (sawEmpty : Bool) : ReconcileState :=
  { s with
    lastDiscoveryReconcileMs := now
    permitted := { clock := now, sawEmpty } :: s.permitted }

/-- What happens next: the cache changes, or a handler reads its length, reads the clock, has the
lock to compare its clock, or has it in `set_last_discovery_reconcile_now`. -/
inductive Move
  | cacheChanges (cacheLen : ℕ)
  | readLen (i : ℕ)
  | readClock (i : ℕ) (now : Int64)
  | compare (i : ℕ)
  | reset (i : ℕ) (now : Int64)

/-- One step. -/
def step (maxConnections discoverWaitMs : ℕ) (s : ReconcileState) : Move → Option ReconcileState
  | .cacheChanges cacheLen => some { s with cacheLen }
  | .readLen i =>
    match s.handlers i with
    | .idle => some (s.goto i (afterLen maxConnections s.cacheLen))
    | _ => none
  | .readClock i now =>
    match s.handlers i with
    | .readsClock => some (s.goto i (.compares now))
    | _ => none
  | .compare i =>
    match s.handlers i with
    | .compares now =>
      if saturatingSub now s.lastDiscoveryReconcileMs < minIntervalMs discoverWaitMs then
        some (s.goto i .idle)
      else some ((s.permit now false).goto i .idle)
    | _ => none
  | .reset i now =>
    match s.handlers i with
    | .resets => some ((s.permit now true).goto i .idle)
    | _ => none

/-- The handlers of a backend that starts with some rows. -/
def system (maxConnections discoverWaitMs cacheLen : ℕ) : Lts ReconcileState Move :=
  Lts.ofFn { cacheLen } (step maxConnections discoverWaitMs)

/-- **Discoveries are rate-limited**: one that was permitted with rows in the cache is by
`discover_wait`, and at least a millisecond, later than the one before. -/
def RateLimited (discoverWaitMs : ℕ) (permitted : List Permission) : Prop :=
  permitted.IsChain fun p before : Permission => p.sawEmpty = false →
    before.clock.toInt + ((max discoverWaitMs 1 : ℕ) : ℤ) ≤ p.clock.toInt

/-! ### Steps -/

/-- What a step does to the time of the last discovery, and where a handler stands after it that
is about to compare. -/
theorem step_cases {maxConnections discoverWaitMs : ℕ} {s t : ReconcileState} {move : Move}
    (h : step maxConnections discoverWaitMs s move = some t) :
    (t.lastDiscoveryReconcileMs = s.lastDiscoveryReconcileMs ∧ t.permitted = s.permitted) ∨
    (∃ now, t.lastDiscoveryReconcileMs = now ∧ t.permitted = ⟨now, true⟩ :: s.permitted) ∨
    ∃ i now, s.handlers i = .compares now ∧
      ¬saturatingSub now s.lastDiscoveryReconcileMs < minIntervalMs discoverWaitMs ∧
      t.lastDiscoveryReconcileMs = now ∧ t.permitted = ⟨now, false⟩ :: s.permitted := by
  cases move with
  | cacheChanges cacheLen =>
    obtain rfl := Option.some.inj h
    exact .inl ⟨rfl, rfl⟩
  | readLen i =>
    rw [step] at h
    split at h
    · obtain rfl := Option.some.inj h
      exact .inl ⟨rfl, rfl⟩
    · cases h
  | readClock i now =>
    rw [step] at h
    split at h
    · obtain rfl := Option.some.inj h
      exact .inl ⟨rfl, rfl⟩
    · cases h
  | compare i =>
    rw [step] at h
    split at h
    · rename_i now hpc
      split_ifs at h with hsoon
      · obtain rfl := Option.some.inj h
        exact .inl ⟨rfl, rfl⟩
      · obtain rfl := Option.some.inj h
        exact .inr (.inr ⟨i, now, hpc, hsoon, rfl, rfl⟩)
    · cases h
  | reset i now =>
    rw [step] at h
    split at h
    · obtain rfl := Option.some.inj h
      exact .inr (.inl ⟨now, rfl, rfl⟩)
    · cases h

/-! ### Intervals that fit -/

/-- The saturated distance of two clocks is as long as the interval only if their distance is. -/
theorem le_of_not_soon {discoverWaitMs : ℕ} (hfits : max discoverWaitMs 1 < 2 ^ 63)
    {now last : Int64} (h : ¬saturatingSub now last < minIntervalMs discoverWaitMs) :
    last.toInt + ((max discoverWaitMs 1 : ℕ) : ℤ) ≤ now.toInt := by
  have hmin : (minIntervalMs discoverWaitMs).toInt = (max discoverWaitMs 1 : ℕ) :=
    Int64.toInt_ofNat_of_lt hfits
  have hsub : (saturatingSub now last).toInt =
      max (-2 ^ 63) (min (2 ^ 63 - 1) (now.toInt - last.toInt)) :=
    Int64.toInt_ofInt_of_le (by omega) (by omega)
  rw [Int64.lt_iff_toInt_lt, hmin, hsub] at h
  omega

/-- What holds in every state: the time of the last discovery is the clock of the last permission,
and the permissions are rate-limited. -/
structure Inv (discoverWaitMs : ℕ) (s : ReconcileState) : Prop where
  last : ∀ p ∈ s.permitted.head?, p.clock = s.lastDiscoveryReconcileMs
  limited : RateLimited discoverWaitMs s.permitted

/-- A permission that keeps the distance to the time of the last. -/
theorem Inv.cons {discoverWaitMs : ℕ} {s t : ReconcileState} (hinv : Inv discoverWaitMs s)
    {now : Int64} {sawEmpty : Bool} (hlast : t.lastDiscoveryReconcileMs = now)
    (hpermitted : t.permitted = ⟨now, sawEmpty⟩ :: s.permitted)
    (hlater : sawEmpty = false →
      s.lastDiscoveryReconcileMs.toInt + ((max discoverWaitMs 1 : ℕ) : ℤ) ≤ now.toInt) :
    Inv discoverWaitMs t := by
  refine ⟨fun p hp => ?_, ?_⟩
  · rw [hpermitted] at hp
    rw [hlast, ← Option.some.inj hp]
  · rw [hpermitted, RateLimited, List.isChain_cons]
    refine ⟨fun before hbefore hsaw => ?_, hinv.limited⟩
    rw [hinv.last before hbefore]
    exact hlater hsaw

/-- **One step keeps the invariant**: a permission given after the clocks were
compared keeps the distance, and one given for an empty cache need not. -/
theorem Inv.step {maxConnections discoverWaitMs : ℕ} (hfits : max discoverWaitMs 1 < 2 ^ 63)
    {s t : ReconcileState} {move : Move} (hinv : Inv discoverWaitMs s)
    (h : ReconcileState.step maxConnections discoverWaitMs s move = some t) :
    Inv discoverWaitMs t := by
  obtain ⟨hlast, hpermitted⟩ | ⟨now, hlast, hpermitted⟩ | ⟨_, now, -, hsoon, hlast, hpermitted⟩ :=
    step_cases h
  · exact ⟨by rw [hpermitted, hlast]; exact hinv.last, hpermitted ▸ hinv.limited⟩
  · exact hinv.cons hlast hpermitted nofun
  · exact hinv.cons hlast hpermitted fun _ => le_of_not_soon hfits hsoon

/-! ### One connection at most -/

/-- No handler is about to compare, and none has: no cache has rows and room. -/
structure NoneCompares (s : ReconcileState) : Prop where
  handlers : ∀ i, s.handlers i = .idle ∨ s.handlers i = .resets
  sawEmpty : ∀ p ∈ s.permitted, p.sawEmpty = true

/-- Where every handler is idle or about to reset, and one moves to such a
place, every one still is. -/
theorem handlers_goto {s : ReconcileState} {pc : ReconcilePc}
    (h : ∀ i, s.handlers i = .idle ∨ s.handlers i = .resets) (hpc : pc = .idle ∨ pc = .resets)
    (i j : ℕ) : (s.goto i pc).handlers j = .idle ∨ (s.goto i pc).handlers j = .resets := by
  simp only [goto, Function.update_apply]
  split_ifs
  · exact hpc
  · exact h j

/-- With room for one connection at most, a cache is empty or full whatever
its length, so the clocks are not compared. -/
theorem afterLen_of_le_one {maxConnections : ℕ} (hmax : maxConnections ≤ 1) (cacheLen : ℕ) :
    afterLen maxConnections cacheLen = .idle ∨ afterLen maxConnections cacheLen = .resets := by
  rw [afterLen]
  split_ifs with hempty hfull
  · exact .inr rfl
  · exact .inl rfl
  · omega

/-- With at most one connection no handler ever comes to compare. -/
theorem NoneCompares.step {maxConnections discoverWaitMs : ℕ} (hmax : maxConnections ≤ 1)
    {s t : ReconcileState} {move : Move} (hinv : NoneCompares s)
    (h : ReconcileState.step maxConnections discoverWaitMs s move = some t) : NoneCompares t := by
  cases move with
  | cacheChanges cacheLen =>
    obtain rfl := Option.some.inj h
    exact ⟨hinv.handlers, hinv.sawEmpty⟩
  | readLen i =>
    rw [ReconcileState.step] at h
    split at h
    · obtain rfl := Option.some.inj h
      exact ⟨handlers_goto hinv.handlers (afterLen_of_le_one hmax _) i, hinv.sawEmpty⟩
    · cases h
  | readClock i now =>
    have hpc := hinv.handlers i
    rw [ReconcileState.step] at h
    split at h
    · rename_i hclock
      rw [hclock] at hpc
      simp at hpc
    · cases h
  | compare i =>
    have hpc := hinv.handlers i
    rw [ReconcileState.step] at h
    split at h
    · rename_i now hcompares
      rw [hcompares] at hpc
      simp at hpc
    · cases h
  | reset i now =>
    rw [ReconcileState.step] at h
    split at h
    · obtain rfl := Option.some.inj h
      exact ⟨handlers_goto (s := s.permit now true) hinv.handlers (.inl rfl) i,
        List.forall_mem_cons.2 ⟨rfl, hinv.sawEmpty⟩⟩
    · cases h

/-- Where every permission was given for an empty cache, nothing is asked of
their distance. -/
theorem NoneCompares.rateLimited {s : ReconcileState} (h : NoneCompares s) (discoverWaitMs : ℕ) :
    RateLimited discoverWaitMs s.permitted := by
  obtain ⟨-, hempty⟩ := h
  rw [RateLimited]
  generalize s.permitted = permitted at hempty ⊢
  induction permitted with
  | nil => exact .nil
  | cons p permitted ih =>
    rw [List.forall_mem_cons] at hempty
    refine List.isChain_cons.2 ⟨fun _ _ hsaw => ?_, ih hempty.2⟩
    rw [hempty.1] at hsaw
    cases hsaw

/-! ### Intervals that do not fit -/

/-- Two handlers, the first with an empty cache at the time 0, the second with one row at the
latest time there is. -/
def lateMoves : List Move :=
  [.cacheChanges 0, .readLen 0, .reset 0 0, .cacheChanges 1, .readLen 1,
    .readClock 1 Int64.maxValue, .compare 1]

/-- The second is permitted, whatever the interval. -/
theorem exists_late {maxConnections : ℕ} (hmax : 1 < maxConnections)
    (discoverWaitMs cacheLen : ℕ) :
    ∃ s, Lts.exec (step maxConnections discoverWaitMs) { cacheLen } lateMoves = some s ∧
      s.permitted = [⟨Int64.maxValue, false⟩, ⟨0, true⟩] := by
  have hroom : ¬maxConnections ≤ 1 := by omega
  have hdistance : saturatingSub Int64.maxValue 0 = Int64.maxValue := by decide
  have hlate : ¬Int64.maxValue < minIntervalMs discoverWaitMs :=
    Int64.not_lt.2 (Int64.le_maxValue _)
  have hpermitted : (Lts.exec (step maxConnections discoverWaitMs) { cacheLen } lateMoves).map
      permitted = some [⟨Int64.maxValue, false⟩, ⟨0, true⟩] := by
    simp [lateMoves, Lts.exec, step, goto, permit, afterLen, hroom, hdistance, hlate]
  exact Option.map_eq_some_iff.1 hpermitted

/-- **Discoveries are rate-limited in every state any handlers can reach if and only if** there is
never room beside a row, or the interval fits an `i64`. -/
theorem rate_limited_iff (maxConnections discoverWaitMs cacheLen : ℕ) :
    (∀ s, (system maxConnections discoverWaitMs cacheLen).Reachable s →
      RateLimited discoverWaitMs s.permitted) ↔
    maxConnections ≤ 1 ∨ max discoverWaitMs 1 < 2 ^ 63 := by
  constructor
  · intro hall
    by_contra hnot
    rw [not_or, not_le, not_lt] at hnot
    obtain ⟨hmax, hlong⟩ := hnot
    obtain ⟨s, hexec, hpermitted⟩ := exists_late hmax discoverWaitMs cacheLen
    have hlimited := hall s ((Lts.Reachable.of_init rfl).run (Lts.run_of_exec hexec))
    rw [hpermitted, RateLimited, List.isChain_cons_cons] at hlimited
    have hdistance : (0 : Int64).toInt + ((max discoverWaitMs 1 : ℕ) : ℤ) ≤
        Int64.maxValue.toInt := hlimited.1 rfl
    rw [show (0 : Int64).toInt = 0 by rfl, show Int64.maxValue.toInt = 2 ^ 63 - 1 by rfl]
      at hdistance
    omega
  · rintro (hmax | hfits) s hs
    · refine NoneCompares.rateLimited (hs.invariant ?_ fun _ _ _ => NoneCompares.step hmax) _
      rintro _ rfl
      exact ⟨fun _ => .inl rfl, nofun⟩
    · refine (hs.invariant (I := Inv discoverWaitMs) ?_ fun _ _ _ => Inv.step hfits).limited
      rintro _ rfl
      exact ⟨nofun, .nil⟩

/-- With a `discover_wait` of 9223372036854776 seconds the interval is negative once it is cast:
two handlers with one row in the cache are permitted a millisecond apart. -/
theorem millisecond_apart : ∃ s, (system 64 9223372036854776000 1).Reachable s ∧
    s.permitted = [⟨1001, false⟩, ⟨1000, false⟩] ∧
    ¬RateLimited 9223372036854776000 s.permitted := by
  obtain ⟨s, hexec, hpermitted⟩ : ∃ s, Lts.exec (step 64 9223372036854776000) { cacheLen := 1 }
      [.readLen 0, .readClock 0 1000, .compare 0, .readLen 1, .readClock 1 1001, .compare 1] =
        some s ∧ s.permitted = [⟨1001, false⟩, ⟨1000, false⟩] :=
    Option.map_eq_some_iff.1 (by decide)
  refine ⟨s, (Lts.Reachable.of_init rfl).run (Lts.run_of_exec hexec), hpermitted, ?_⟩
  rw [hpermitted]
  intro hlimited
  exact absurd ((List.isChain_cons_cons.1 hlimited).1 rfl) (by decide)

end ReconcileState
end Backend
end Clustat
