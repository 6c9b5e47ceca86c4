/-
# The server's cache

`crates/server/src/cache.rs`: one `GresCache` serves every thread of the server.
A caller of `get_or_refresh` that finds no fresh entry takes the lock of the
refresh state, and either claims the refresh, calls the collector without the
lock, stores the entry and announces the end (`finish_refresh`), or waits on the
condition variable for the one who has.

The cache is modelled as a transition system of any number of callers.  A step
is what one thread does between two points at which another may act: `Pc` says
where it is, `Caller.next` what it does next and what that does to the rest
(`Effect`), and `Move` is the list of all steps.  Waiting gives the lock back; a
waiter that is notified, or woken for no reason, has to take it again.
-/

import Clustat.Common.Snapshot
import Clustat.Lib.Lts
import Clustat.Lib.Region

namespace Clustat
namespace Server

/-- `CacheEntry`; the instant is in nanoseconds. -/
structure CacheEntry where
  snapshot : ServerGresSnapshot
  collectedAt : ℕ
  deriving DecidableEq

/-- `is_expired`: the age in whole milliseconds, as a `u64`. -/
def CacheEntry.isExpired (entry : CacheEntry) (ttlMs : UInt64) (now : ℕ) : Bool :=
  UInt64.ofNat ((now - entry.collectedAt) / 1000000) ≥ ttlMs

/-- `LATENCY_SAMPLE_LIMIT`. -/
def latencySampleLimit : ℕ := 128

/-- `CacheMetrics`; the samples are the oldest first. -/
structure CacheMetrics where
  cacheHits : UInt64 := 0
  cacheMisses : UInt64 := 0
  mergeCount : UInt64 := 0
  collectCount : UInt64 := 0
  collectLatencyTotalNs : UInt64 := 0
  collectLatencySamplesUs : List UInt64 := []
  deriving DecidableEq

namespace CacheMetrics

/-- `record_hit`; the counters wrap. -/
def recordHit (m : CacheMetrics) : CacheMetrics := { m with cacheHits := m.cacheHits + 1 }

/-- `record_miss`. -/
def recordMiss (m : CacheMetrics) : CacheMetrics := { m with cacheMisses := m.cacheMisses + 1 }

/-- `record_merge`. -/
def recordMerge (m : CacheMetrics) : CacheMetrics := { m with mergeCount := m.mergeCount + 1 }

/-- `record_collect_latency`; a duration that does not fit a `u64` counts as the
largest. -/
def recordCollectLatency (m : CacheMetrics) (elapsed : ℕ) : CacheMetrics :=
  let samples := m.collectLatencySamplesUs
  { m with
    collectCount := m.collectCount + 1
    collectLatencyTotalNs := m.collectLatencyTotalNs + UInt64.ofNat (min elapsed (2 ^ 64 - 1))
    collectLatencySamplesUs :=
      (if samples.length = latencySampleLimit then samples.tail else samples) ++
        [UInt64.ofNat (min (elapsed / 1000) (2 ^ 64 - 1))] }

end CacheMetrics

/-- `RefreshState`, with its `Default`. -/
structure RefreshState where
  inFlight : Bool := false
  generation : UInt64 := 0
  lastError : Option ErrorCode := none
  deriving DecidableEq

/-- `GresCache`, less the lock and the condition variable of the refresh state. -/
structure GresCache where
  entry : Option CacheEntry := none
  refreshState : RefreshState := {}
  metrics : CacheMetrics := {}
  deriving DecidableEq

namespace GresCache

/-- `GresCache::new`. -/
def new : GresCache := {}

/-- `latest`. -/
def latest (cache : GresCache) : Option CacheEntry := cache.entry

/-- `get_fresh`. -/
def getFresh (cache : GresCache) (ttlMs : UInt64) (now : ℕ) : Option CacheEntry :=
  cache.entry.filter fun entry => !entry.isExpired ttlMs now

/-- `store`. -/
def store (cache : GresCache) (entry : CacheEntry) : GresCache := { cache with entry := some entry }

/-- The claim of a refresh, under the lock. -/
def claimRefresh (cache : GresCache) : GresCache :=
  { cache with refreshState := { cache.refreshState with inFlight := true, lastError := none } }

/-- The assignments of `finish_refresh`, under the lock. -/
def finishRefresh (cache : GresCache) (error : Option ErrorCode) : GresCache :=
  { cache with refreshState :=
      { inFlight := false, generation := cache.refreshState.generation + 1, lastError := error } }

end GresCache

/-! ### One caller -/

/-- The outcome of a call. -/
abbrev Refreshed := Except ErrorCode CacheEntry

/-- What a collector invocation came to, as far as its callers can tell. -/
abbrev Outcome := Except ErrorCode ServerGresSnapshot

/-- The error a refresh is finished with. -/
def Refreshed.error? : Refreshed → Option ErrorCode
  | .ok _ => none
  | .error code => some code

/-- What the caller has of an invocation. -/
def Refreshed.outcome : Refreshed → Outcome := Except.map CacheEntry.snapshot

/-- The stamp of an entry is nothing of its outcome. -/
theorem Refreshed.outcome_stamp (outcome : Outcome) (now : ℕ) :
    Refreshed.outcome (outcome.map fun snapshot => { snapshot, collectedAt := now }) = outcome := by
  cases outcome <;> rfl

/-- The point a caller is at. -/
inductive Pc
  /-- Not in a call. -/
  | idle
  /-- `get_latest_or_refresh`, before `latest`. -/
  | latestRead
  /-- `get_or_refresh`, before it reads the clock for the first `get_fresh`. -/
  | freshNow
  /-- Before the first `get_fresh` reads the entry. -/
  | freshRead (now : ℕ)
  /-- Before it takes the lock. -/
  | lock
  /-- At the head of the loop. -/
  | loopNow
  /-- Before the `get_fresh` of the loop reads the entry. -/
  | loopRead (now : ℕ)
  /-- In the loop, without a fresh entry. -/
  | decide
  /-- In `refreshed.wait`, with or without a pending notification. -/
  | waiting (notified : Bool)
  /-- The refresh is claimed and the lock given back. -/
  | claimed
  /-- In `collect_gres_snapshot`. -/
  | collecting (started : ℕ)
  /-- The collector has returned; the entry is not stamped yet. -/
  | stamping (started : ℕ) (outcome : Outcome)
  /-- Before it records the latency. -/
  | timing (started : ℕ) (result : Refreshed)
  /-- Before `store`. -/
  | storing (entry : CacheEntry)
  /-- In `finish_refresh`, before it takes the lock. -/
  | finishing (result : Refreshed)
  /-- In `finish_refresh`, with the lock. -/
  | publishing (result : Refreshed)
  /-- The call has returned; `hit` when with an entry of the cache. -/
  | returned (result : Refreshed) (hit : Bool)
  /-- The collector has panicked and the thread is gone. -/
  | panicked
  deriving DecidableEq

/-- A thread.  `waited`, `missed`, `collected` and `published` are kept to speak
about and read by nothing: whether the call has waited, how many refreshes have
finished since it observed the generation, and the outcomes of the invocations
that have returned, and of those that have been announced, during the call. -/
structure Caller where
  pc : Pc := .idle
  ttlMs : UInt64 := 0
  observedGeneration : UInt64 := 0
  waited : Bool := false
  missed : ℕ := 0
  collected : List Outcome := []
  published : List Outcome := []
  deriving DecidableEq

/-- What a thread can do, or have done to it. -/
inductive Event
  /-- It calls `get_latest_or_refresh` or `get_or_refresh`. -/
  | call (latest : Bool) (ttlMs : UInt64)
  /-- It goes on. -/
  | step
  /-- Its collector returns. -/
  | collectorReturns (result : Except ErrorCode ServerGresSnapshot)
  /-- Its collector panics. -/
  | collectorPanics
  /-- It wakes up, notified or not, and takes the lock. -/
  | wake
  deriving DecidableEq

/-- What a step does besides moving its thread. -/
inductive Effect
  | nothing
  /-- The lock is taken. -/
  | acquire
  /-- The lock is given back. -/
  | release
  | hit
  | miss
  /-- `record_merge`, and the lock is given back. -/
  | wait
  /-- The refresh is claimed, and the lock given back. -/
  | claim
  /-- A collector invocation has returned. -/
  | collect (outcome : Outcome)
  | latency (elapsed : ℕ)
  | store (entry : CacheEntry)
  /-- The refresh is finished, all waiters are notified, and the lock is given back. -/
  | publish (result : Refreshed)

/-- The points at which a thread holds the lock. -/
def Pc.Locked : Pc → Prop
  | .loopNow | .loopRead _ | .decide | .publishing _ => True
  | _ => False

/-- The points between a claim and the end of its `finish_refresh`. -/
def Pc.Refreshing : Pc → Prop
  | .claimed | .collecting _ | .stamping .. | .timing .. | .storing _ | .finishing _
  | .publishing _ => True
  | _ => False

/-- The points at which a refresh has been claimed and not finished: a thread
whose collector has panicked never finishes it. -/
def Pc.Owing : Pc → Prop
  | .panicked => True
  | pc => pc.Refreshing

/-- The points of a call before it observes the generation. -/
def Pc.Entering : Pc → Prop
  | .latestRead | .freshNow | .freshRead _ | .lock => True
  | _ => False

/-- The points of the loop, asleep or not. -/
def Pc.Looping : Pc → Prop
  | .loopNow | .loopRead _ | .decide | .waiting _ => True
  | _ => False

/-- The points of a call. -/
def Pc.active : Pc → Bool
  | .idle | .returned .. | .panicked => false
  | _ => true

/-- A caller in the loop of `get_or_refresh` has not returned. -/
theorem Pc.active_of_looping {pc : Pc} (h : pc.Looping) : pc.active = true := by
  cases pc <;> first | rfl | cases h

/-- One event of a thread, if it can happen: the thread after it, and the effect.
`free` says that nobody holds the lock. -/
def Caller.next (cache : GresCache) (now : ℕ) (free : Bool) (th : Caller) :
    Event → Option (Caller × Effect)
  | .call latest ttlMs =>
    match th.pc with
    | .idle | .returned .. =>
      some ({ pc := if latest then .latestRead else .freshNow, ttlMs }, .nothing)
    | _ => none
  | .step =>
    match th.pc with
    | .latestRead =>
      match cache.latest with
      | some entry => some ({ th with pc := .returned (.ok entry) true }, .hit)
      | none => some ({ th with pc := .freshNow }, .nothing)
    | .freshNow => some ({ th with pc := .freshRead now }, .nothing)
    | .freshRead now =>
      match cache.getFresh th.ttlMs now with
      | some entry => some ({ th with pc := .returned (.ok entry) true }, .hit)
      | none => some ({ th with pc := .lock }, .miss)
    | .lock =>
      if free then
        some ({ th with
          pc := .loopNow, observedGeneration := cache.refreshState.generation, missed := 0 },
          .acquire)
      else none
    | .loopNow => some ({ th with pc := .loopRead now }, .nothing)
    | .loopRead now =>
      match cache.getFresh th.ttlMs now with
      | some entry => some ({ th with pc := .returned (.ok entry) true }, .release)
      | none => some ({ th with pc := .decide }, .nothing)
    | .decide =>
      if cache.refreshState.generation ≠ th.observedGeneration then
        match cache.refreshState.lastError with
        | some code => some ({ th with pc := .returned (.error code) false }, .release)
        | none => some ({ th with pc := .returned (.error .internal) false }, .release)
      else if !cache.refreshState.inFlight then some ({ th with pc := .claimed }, .claim)
      else some ({ th with pc := .waiting false, waited := true }, .wait)
    | .claimed => some ({ th with pc := .collecting now }, .nothing)
    | .stamping started outcome =>
      some ({ th with
        pc := .timing started (outcome.map fun snapshot => { snapshot, collectedAt := now }) },
        .nothing)
    | .timing started (.ok entry) =>
      some ({ th with pc := .storing entry }, .latency (now - started))
    | .timing started (.error code) =>
      some ({ th with pc := .finishing (.error code) }, .latency (now - started))
    | .storing entry => some ({ th with pc := .finishing (.ok entry) }, .store entry)
    | .finishing result =>
      if free then some ({ th with pc := .publishing result }, .acquire) else none
    | .publishing result => some ({ th with pc := .returned result false }, .publish result)
    | _ => none
  | .collectorReturns result =>
    match th.pc with
    | .collecting started =>
      let outcome := result.map omitProcessCommands
      some ({ th with pc := .stamping started outcome }, .collect outcome)
    | _ => none
  | .collectorPanics =>
    match th.pc with
    | .collecting _ => some ({ th with pc := .panicked }, .nothing)
    | _ => none
  | .wake =>
    match th.pc with
    | .waiting _ => if free then some ({ th with pc := .loopNow }, .acquire) else none
    | _ => none

/-- **The steps of a thread**: where it is, what it finds, and what it does. -/
inductive Move (cache : GresCache) (now : ℕ) (free : Bool) (th : Caller) :
    Event → Caller → Effect → Prop
  | call (latest : Bool) (ttlMs : UInt64) (hpc : th.pc.active = false) (hp : th.pc ≠ .panicked) :
    Move cache now free th (.call latest ttlMs)
      { pc := if latest then .latestRead else .freshNow, ttlMs } .nothing
  | latestHit {entry : CacheEntry} (hpc : th.pc = .latestRead) (he : cache.latest = some entry) :
    Move cache now free th .step { th with pc := .returned (.ok entry) true } .hit
  | latestMiss (hpc : th.pc = .latestRead) (he : cache.latest = none) :
    Move cache now free th .step { th with pc := .freshNow } .nothing
  | freshNow (hpc : th.pc = .freshNow) :
    Move cache now free th .step { th with pc := .freshRead now } .nothing
  | freshHit {at' : ℕ} {entry : CacheEntry} (hpc : th.pc = .freshRead at')
      (he : cache.getFresh th.ttlMs at' = some entry) :
    Move cache now free th .step { th with pc := .returned (.ok entry) true } .hit
  | freshMiss {at' : ℕ} (hpc : th.pc = .freshRead at')
      (he : cache.getFresh th.ttlMs at' = none) :
    Move cache now free th .step { th with pc := .lock } .miss
  | lock (hpc : th.pc = .lock) (hfree : free = true) :
    Move cache now free th .step
      { th with pc := .loopNow, observedGeneration := cache.refreshState.generation, missed := 0 }
      .acquire
  | loopNow (hpc : th.pc = .loopNow) :
    Move cache now free th .step { th with pc := .loopRead now } .nothing
  | loopHit {at' : ℕ} {entry : CacheEntry} (hpc : th.pc = .loopRead at')
      (he : cache.getFresh th.ttlMs at' = some entry) :
    Move cache now free th .step { th with pc := .returned (.ok entry) true } .release
  | loopMiss {at' : ℕ} (hpc : th.pc = .loopRead at')
      (he : cache.getFresh th.ttlMs at' = none) :
    Move cache now free th .step { th with pc := .decide } .nothing
  | failed {code : ErrorCode} (hpc : th.pc = .decide)
      (hgen : cache.refreshState.generation ≠ th.observedGeneration)
      (he : cache.refreshState.lastError = some code) :
    Move cache now free th .step { th with pc := .returned (.error code) false } .release
  | stray (hpc : th.pc = .decide)
      (hgen : cache.refreshState.generation ≠ th.observedGeneration)
      (he : cache.refreshState.lastError = none) :
    Move cache now free th .step { th with pc := .returned (.error .internal) false } .release
  | claim (hpc : th.pc = .decide)
      (hgen : cache.refreshState.generation = th.observedGeneration)
      (hfl : cache.refreshState.inFlight = false) :
    Move cache now free th .step { th with pc := .claimed } .claim
  | wait (hpc : th.pc = .decide)
      (hgen : cache.refreshState.generation = th.observedGeneration)
      (hfl : cache.refreshState.inFlight = true) :
    Move cache now free th .step { th with pc := .waiting false, waited := true } .wait
  | collect (hpc : th.pc = .claimed) :
    Move cache now free th .step { th with pc := .collecting now } .nothing
  | stamp {started : ℕ} {outcome : Outcome} (hpc : th.pc = .stamping started outcome) :
    Move cache now free th .step
      { th with
        pc := .timing started (outcome.map fun snapshot => { snapshot, collectedAt := now }) }
      .nothing
  | timeOk {started : ℕ} {entry : CacheEntry} (hpc : th.pc = .timing started (.ok entry)) :
    Move cache now free th .step { th with pc := .storing entry } (.latency (now - started))
  | timeError {started : ℕ} {code : ErrorCode} (hpc : th.pc = .timing started (.error code)) :
    Move cache now free th .step { th with pc := .finishing (.error code) }
      (.latency (now - started))
  | store {entry : CacheEntry} (hpc : th.pc = .storing entry) :
    Move cache now free th .step { th with pc := .finishing (.ok entry) } (.store entry)
  | finish {result : Refreshed} (hpc : th.pc = .finishing result) (hfree : free = true) :
    Move cache now free th .step { th with pc := .publishing result } .acquire
  | publish {result : Refreshed} (hpc : th.pc = .publishing result) :
    Move cache now free th .step { th with pc := .returned result false } (.publish result)
  | collectorReturns {started : ℕ} (result : Except ErrorCode ServerGresSnapshot)
      (hpc : th.pc = .collecting started) :
    Move cache now free th (.collectorReturns result)
      { th with pc := .stamping started (result.map omitProcessCommands) }
      (.collect (result.map omitProcessCommands))
  | collectorPanics {started : ℕ} (hpc : th.pc = .collecting started) :
    Move cache now free th .collectorPanics { th with pc := .panicked } .nothing
  | wake {notified : Bool} (hpc : th.pc = .waiting notified) (hfree : free = true) :
    Move cache now free th .wake { th with pc := .loopNow } .acquire

/-- **What a thread can do**: the inversion of `Caller.next`, one case for
each point of the two functions and each event there. -/
theorem Caller.move_of_next {cache : GresCache} {now : ℕ} {free : Bool} {th th' : Caller}
    {e : Event} {effect : Effect} (h : th.next cache now free e = some (th', effect)) :
    Move cache now free th e th' effect := by
  cases e with
  | call latest ttlMs =>
    simp only [next] at h
    split at h
    · rename_i hpc
      cases h
      exact .call _ _ (by rw [hpc]; rfl) (by simp [hpc])
    · rename_i hpc
      cases h
      exact .call _ _ (by rw [hpc]; rfl) (by simp [hpc])
    · cases h
  | step =>
    simp only [next] at h
    split at h
    · rename_i hpc
      split at h
      · rename_i he
        cases h
        exact .latestHit hpc he
      · rename_i he
        cases h
        exact .latestMiss hpc he
    · rename_i hpc
      cases h
      exact .freshNow hpc
    · rename_i hpc
      split at h
      · rename_i he
        cases h
        exact .freshHit hpc he
      · rename_i he
        cases h
        exact .freshMiss hpc he
    · rename_i hpc
      split_ifs at h with hfree
      cases h
      exact .lock hpc hfree
    · rename_i hpc
      cases h
      exact .loopNow hpc
    · rename_i hpc
      split at h
      · rename_i he
        cases h
        exact .loopHit hpc he
      · rename_i he
        cases h
        exact .loopMiss hpc he
    · rename_i hpc
      split_ifs at h with hgen hfl
      · split at h
        · rename_i he
          cases h
          exact .failed hpc hgen he
        · rename_i he
          cases h
          exact .stray hpc hgen he
      · cases h
        exact .claim hpc (not_not.1 hgen) (by simpa using hfl)
      · cases h
        exact .wait hpc (not_not.1 hgen) (by simpa using hfl)
    · rename_i hpc
      cases h
      exact .collect hpc
    · rename_i hpc
      cases h
      exact .stamp hpc
    · rename_i hpc
      cases h
      exact .timeOk hpc
    · rename_i hpc
      cases h
      exact .timeError hpc
    · rename_i hpc
      cases h
      exact .store hpc
    · rename_i hpc
      split_ifs at h with hfree
      cases h
      exact .finish hpc hfree
    · rename_i hpc
      cases h
      exact .publish hpc
    · cases h
  | collectorReturns result =>
    simp only [next] at h
    split at h
    · rename_i hpc
      cases h
      exact .collectorReturns result hpc
    · cases h
  | collectorPanics =>
    simp only [next] at h
    split at h
    · rename_i hpc
      cases h
      exact .collectorPanics hpc
    · cases h
  | wake =>
    simp only [next] at h
    split at h
    · rename_i hpc
      split_ifs at h with hfree
      cases h
      exact .wake hpc hfree
    · cases h

/-! ### All callers -/

/-- The effect on the cache. -/
def Effect.onCache : Effect → GresCache → GresCache
  | .hit, cache => { cache with metrics := cache.metrics.recordHit }
  | .miss, cache => { cache with metrics := cache.metrics.recordMiss }
  | .wait, cache => { cache with metrics := cache.metrics.recordMerge }
  | .claim, cache => cache.claimRefresh
  | .latency elapsed, cache => { cache with metrics := cache.metrics.recordCollectLatency elapsed }
  | .store entry, cache => cache.store entry
  | .publish result, cache => cache.finishRefresh result.error?
  | _, cache => cache

/-- The effect on the lock, of a step of `t`. -/
def Effect.onHolder {τ : Type*} (t : τ) : Effect → Option τ → Option τ
  | .acquire, _ => some t
  | .release, _ | .wait, _ | .claim, _ | .publish _, _ => none
  | _, holder => holder

/-- `notify_all`, for one thread. -/
def Pc.notify : Pc → Pc
  | .waiting _ => .waiting true
  | pc => pc

/-- Waking a caller does not give it the lock, nor take it away. -/
@[simp] theorem Pc.locked_notify (pc : Pc) : pc.notify.Locked ↔ pc.Locked := by cases pc <;> rfl

/-- Waking a caller does not change whether it has a refresh to finish. -/
@[simp] theorem Pc.owing_notify (pc : Pc) : pc.notify.Owing ↔ pc.Owing := by cases pc <;> rfl

/-- Waking a caller does not change whether it has still to observe the
generation. -/
@[simp] theorem Pc.entering_notify (pc : Pc) : pc.notify.Entering ↔ pc.Entering := by
  cases pc <;> rfl

/-- A caller that is woken is in the loop still. -/
@[simp] theorem Pc.looping_notify (pc : Pc) : pc.notify.Looping ↔ pc.Looping := by cases pc <;> rfl

/-- A caller that is woken has not returned by that. -/
@[simp] theorem Pc.active_notify (pc : Pc) : pc.notify.active = pc.active := by cases pc <;> rfl

/-- A notified thread has a pending notification. -/
theorem Pc.notify_ne_waiting (pc : Pc) : pc.notify ≠ .waiting false := by cases pc <;> exact nofun

/-- Waking changes nothing for a caller that has returned. -/
theorem Pc.notify_eq_returned (pc : Pc) {r : Refreshed} {hit : Bool} :
    pc.notify = .returned r hit ↔ pc = .returned r hit := by cases pc <;> simp [Pc.notify]

/-- Nor for one that has panicked. -/
theorem Pc.notify_eq_panicked (pc : Pc) : pc.notify = .panicked ↔ pc = .panicked := by
  cases pc <;> simp [Pc.notify]

/-- The effect on a thread: `notify_all`, and what is kept of the call. -/
def Effect.onCaller : Effect → Caller → Caller
  | .collect outcome, th =>
    if th.pc.active then { th with collected := th.collected ++ [outcome] } else th
  | .publish result, th =>
    { th with
      pc := th.pc.notify
      missed := th.missed + 1
      published := if th.pc.active then th.published ++ [result.outcome] else th.published }
  | _, th => th

/-- The cache, the clock in nanoseconds, the holder of the lock and the threads. -/
structure CacheState (τ : Type*) where
  cache : GresCache := .new
  now : ℕ := 0
  holder : Option τ := none
  threads : τ → Caller := fun _ => {}

/-- An event of a thread, or time passes. -/
inductive CacheAct (τ : Type*)
  | thread (t : τ) (event : Event)
  | tick (elapsed : ℕ)

variable {τ : Type*} [DecidableEq τ]

/-- The state after a step of `t`. -/
def CacheState.apply (s : CacheState τ) (t : τ) (th : Caller) (effect : Effect) : CacheState τ where
  cache := effect.onCache s.cache
  now := s.now
  holder := effect.onHolder t s.holder
  threads u := effect.onCaller (Function.update s.threads t th u)

/-- One step. -/
def CacheState.step (s : CacheState τ) : CacheAct τ → Option (CacheState τ)
  | .thread t event =>
    ((s.threads t).next s.cache s.now s.holder.isNone event).map fun (th, effect) =>
      s.apply t th effect
  | .tick elapsed => some { s with now := s.now + elapsed }

/-- What is asked of the collector: its results are of `returns`, and it panics
only if `panics`. -/
def CacheAct.Admitted (returns : Set (Except ErrorCode ServerGresSnapshot)) (panics : Prop) :
    CacheAct τ → Prop
  | .thread _ (.collectorReturns result) => result ∈ returns
  | .thread _ .collectorPanics => panics
  | _ => True

instance (returns : Set (Except ErrorCode ServerGresSnapshot)) [DecidablePred (· ∈ returns)]
    (panics : Prop) [Decidable panics] (a : CacheAct τ) : Decidable (a.Admitted returns panics) :=
  match a with
  | .thread _ (.collectorReturns result) => inferInstanceAs (Decidable (result ∈ returns))
  | .thread _ .collectorPanics => inferInstanceAs (Decidable panics)
  | .thread _ (.call ..) | .thread _ .step | .thread _ .wake | .tick _ => .isTrue trivial

/-- Any number of callers of a new cache. -/
def cacheSystem (τ : Type*) [DecidableEq τ] (returns : Set (Except ErrorCode ServerGresSnapshot))
    (panics : Prop) : Lts (CacheState τ) (CacheAct τ) :=
  (Lts.ofFn {} CacheState.step).restrict fun _ a => a.Admitted returns panics

/-- A computed run that begins with a step of `t`. -/
theorem CacheState.exec_thread {s : CacheState τ} {t : τ} {e : Event} {th : Caller}
    {effect : Effect} {as : List (CacheAct τ)}
    (h : (s.threads t).next s.cache s.now s.holder.isNone e = some (th, effect)) :
    Lts.exec step s (.thread t e :: as) = Lts.exec step (s.apply t th effect) as := by
  have hstep : s.step (.thread t e) = some (s.apply t th effect) := congrArg (Option.map _) h
  rw [Lts.exec, hstep, Option.bind_some]

/-- The state of a new cache after a computed run. -/
def CacheState.after (as : List (CacheAct τ)) : CacheState τ := (Lts.exec step {} as).getD {}

/-- A computed run is a run. -/
theorem CacheState.reachable_after {returns : Set (Except ErrorCode ServerGresSnapshot)}
    {panics : Prop} {as : List (CacheAct τ)} (h : (Lts.exec step {} as).isSome = true)
    (ha : ∀ a ∈ as, a.Admitted returns panics) :
    (cacheSystem τ returns panics).Reachable (after as) := by
  obtain ⟨s, hs⟩ := Option.isSome_iff_exists.1 h
  rw [after, hs]
  exact ⟨{}, as, rfl, Lts.run_restrict_of_forall hs fun _ => ha⟩

/-- A computed run whose steps are checked against a condition. -/
theorem CacheState.reachable_checked {returns : Set (Except ErrorCode ServerGresSnapshot)}
    {panics : Prop} {C : CacheState τ → CacheAct τ → Prop} [∀ s a, Decidable (C s a)]
    {as : List (CacheAct τ)}
    (h : (Lts.exec (fun s a => if C s a then step s a else none) {} as).isSome = true)
    (ha : ∀ a ∈ as, a.Admitted returns panics) :
    ((cacheSystem τ returns panics).restrict C).Reachable (after as) := by
  obtain ⟨s, hs⟩ := Option.isSome_iff_exists.1 h
  rw [after, Lts.exec_of_checked hs]
  have hrun : ((Lts.ofFn {} step).restrict C).Run {} as s := Lts.run_restrict_of_exec hs
  refine ⟨{}, as, rfl, hrun.mono fun a hmem s t hstep => ?_⟩
  exact ⟨⟨hstep.1, ha a hmem⟩, hstep.2⟩

/-- **What a step can be**: time passes, or a thread moves and the cache, the
lock and the other threads see the effect. -/
theorem CacheState.step_cases {s s' : CacheState τ} {a : CacheAct τ} (h : s.step a = some s') :
    (∃ elapsed, a = .tick elapsed ∧ s' = { s with now := s.now + elapsed }) ∨
      ∃ t event th effect, a = .thread t event ∧
        Move s.cache s.now s.holder.isNone (s.threads t) event th effect ∧
          s' = s.apply t th effect := by
  cases a with
  | tick elapsed => exact .inl ⟨elapsed, rfl, (Option.some.inj h).symm⟩
  | thread t event =>
    obtain ⟨⟨th, effect⟩, hnext, rfl⟩ := Option.map_eq_some_iff.1 h
    exact .inr ⟨t, event, th, effect, rfl, Caller.move_of_next hnext, rfl⟩

end Server
end Clustat
