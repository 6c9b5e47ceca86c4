/-
# The connection pool under any interleaving

`crates/client-backend/src/local_api.rs` again, now with any number of threads:
query handlers in `refresh_stale_cache_for_query`, and the announce listener and
background reconciles in `add_discovered_nodes` and `establish_connections`.  A
step is one critical section, or the wait for a server, which holds no lock of
the backend: `Pc` says where a thread is, `Handler.next` what it does next, and
`PoolMove` what of that matters to the pool.  The functions of the critical
sections are those of `LocalApi.lean`.

The pool maps an address to a connection to it, and has room for it, in every
reachable state (`inOrder_of_reachable`).  As long as hosts keep their names, no
two pooled connections have the same host, and a connection that gives way to
another of its host does so in the step that puts the other in the pool
(`pool_invariant`).
-/

import Clustat.Backend.LocalApi
import Mathlib.Data.Fintype.Basic

namespace Clustat
namespace Backend

open LocalApiState

/-- Where a thread is. -/
inductive Pc
  /-- Not in an operation. -/
  | idle
  /-- `establish_connections`, before it reads the count of rows. -/
  | indexing (addrs : List SocketAddr)
  /-- Its loop, before the first lock of the next `establish_one_connection`. -/
  | establishing
  /-- Before `connecting.insert`. -/
  | reserving (index : ℕ) (addr : SocketAddr)
  /-- In `connect_with_retry`. -/
  | connecting (index : ℕ) (addr : SocketAddr)
  /-- Before `connecting.remove`. -/
  | unreserving (index : ℕ) (addr : SocketAddr) (connected : Option Connection)
  /-- Before the second pool lock. -/
  | installing (index : ℕ) (addr : SocketAddr) (c : Connection)
  /-- Before `upsert_connection_placeholder`. -/
  | placing (index : ℕ) (c : Connection)
  /-- `refresh_stale_cache_for_query`, before it looks for the next connection. -/
  | looking
  /-- Before it looks again, after a connect. -/
  | relooking (target : RefreshTarget)
  /-- Without a connection for the target. -/
  | unavailable (target : RefreshTarget)
  /-- In `query`. -/
  | querying (target : RefreshTarget) (c : Connection)
  /-- Before `upsert_snapshot`. -/
  | storing (target : RefreshTarget) (snapshot : ServerGresSnapshot)
  /-- After a query that failed, before the pool lock. -/
  | evicting (target : RefreshTarget) (c : Connection)
  /-- After that, before the row lock. -/
  | removing (target : RefreshTarget) (c : Connection)
  deriving DecidableEq

/-- A thread: where it is, the connects left of `establish_connections`, the
target it connects for, and the targets left of a refresh. -/
structure Handler where
  pc : Pc := .idle
  jobs : List (ℕ × SocketAddr) := []
  current : Option RefreshTarget := none
  targets : List RefreshTarget := []
  deriving DecidableEq

/-- What a step reads of the outside. -/
structure StepEnv where
  order : Iteration SocketAddr Connection
  latencyUs : UInt64
  nowMs : Int64

/-- What a thread can do, or have done to it. -/
inductive Event
  | addDiscoveredNodes (nodes : List DiscoveredNode)
  | establishConnections (addrs : List SocketAddr)
  | refreshStaleCacheForQuery (order : Iteration CacheKey ConnectionCacheEntry) (nowMs : Int64)
  /-- It goes on. -/
  | step (env : StepEnv)
  /-- Its connect comes to an end. -/
  | connects (result : Except String HostMetadata)
  /-- Its query returns; the connection may have new metadata by then. -/
  | queryReturns (result : Except String (ServerGresSnapshot × HostMetadata))

/-- What is noted of a step: a connection whose query has failed, or that has given
way to another. -/
inductive Note
  | nothing
  | failed (c : Connection)
  | replaced (c : Connection)
  deriving DecidableEq

/-- The connection that an `install` takes out. -/
def replacedNote (api : LocalApiState) (order : Iteration SocketAddr Connection)
    (addr : SocketAddr) (c : Connection) : Note :=
  if addr ∈ api.connections then .nothing
  else
    match api.existing? order c with
    | some existing => .replaced existing.2
    | none => .nothing

/-- One event of a thread, if it can happen. -/
def Handler.next (cfg : Config) (api : LocalApiState) (th : Handler) :
    Event → Option (Handler × LocalApiState × Note)
  | .addDiscoveredNodes nodes =>
    match th.pc with
    | .idle => some (th, api.addDiscoveredNodes nodes, .nothing)
    | _ => none
  | .establishConnections addrs =>
    match th.pc with
    | .idle => some ({ th with pc := .indexing addrs }, api, .nothing)
    | _ => none
  | .refreshStaleCacheForQuery order nowMs =>
    match th.pc with
    | .idle =>
      some ({ th with pc := .looking, targets := api.staleTargets cfg order nowMs }, api, .nothing)
    | _ => none
  | .connects result =>
    match th.pc with
    | .connecting index addr =>
      match result with
      | .error _ => some ({ th with pc := .unreserving index addr none }, api, .nothing)
      | .ok metadata =>
        let (api', c) := api.connectNode addr metadata
        some ({ th with pc := .unreserving index addr (some c) }, api', .nothing)
    | _ => none
  | .queryReturns result =>
    match th.pc with
    | .querying target c =>
      match result with
      | .ok (snapshot, metadata) =>
        some ({ th with pc := .storing target snapshot }, api.setMetadata c metadata, .nothing)
      | .error _ => some ({ th with pc := .evicting target c }, api, .failed c)
    | _ => none
  | .step env =>
    match th.pc with
    | .indexing addrs =>
      let jobs := addrs.zipIdx.map fun (addr, idx) => (api.rows.size + idx + 1, addr)
      some ({ th with pc := .establishing, jobs }, api, .nothing)
    | .establishing =>
      match th.jobs with
      | [] =>
        match th.current with
        | none => some ({ th with pc := .idle }, api, .nothing)
        | some target => some ({ th with pc := .relooking target, current := none }, api, .nothing)
      | (index, addr) :: jobs =>
        if api.mayConnect cfg addr then
          some ({ th with pc := .reserving index addr, jobs }, api, .nothing)
        else some ({ th with jobs }, api, .nothing)
    | .reserving index addr =>
      match api.reserve addr with
      | none => some ({ th with pc := .establishing }, api, .nothing)
      | some api' => some ({ th with pc := .connecting index addr }, api', .nothing)
    | .unreserving index addr connected =>
      match connected with
      | none => some ({ th with pc := .establishing }, api.unreserve addr, .nothing)
      | some c => some ({ th with pc := .installing index addr c }, api.unreserve addr, .nothing)
    | .installing index addr c =>
      let note := replacedNote api env.order addr c
      match api.install cfg env.order addr c with
      | (api', true) => some ({ th with pc := .placing index c }, api', note)
      | (api', false) => some ({ th with pc := .establishing }, api', note)
    | .placing index c =>
      some ({ th with pc := .establishing }, api.upsertConnectionPlaceholder index c env.nowMs,
        .nothing)
    | .looking =>
      match th.targets with
      | [] => some ({ th with pc := .idle }, api, .nothing)
      | target :: targets =>
        match api.connections.lookup target.addr with
        | some c => some ({ th with pc := .querying target c, targets }, api, .nothing)
        | none =>
          some ({ th with pc := .indexing [target.addr], current := some target, targets }, api,
            .nothing)
    | .relooking target =>
      match api.connections.lookup target.addr with
      | some c => some ({ th with pc := .querying target c }, api, .nothing)
      | none => some ({ th with pc := .unavailable target }, api, .nothing)
    | .unavailable target =>
      some ({ th with pc := .looking }, api.unavailable cfg target env.nowMs, .nothing)
    | .storing target snapshot =>
      some ({ th with pc := .looking },
        api.storeSnapshot target snapshot env.latencyUs env.nowMs, .nothing)
    | .evicting target c =>
      some ({ th with pc := .removing target c }, api.evictConnection target, .nothing)
    | .removing target _ => some ({ th with pc := .looking }, api.removeRow target, .nothing)
    | _ => none

/-- **The steps of a thread**: where it is, what it finds, and what it does. -/
inductive Handler.Move (cfg : Config) (api : LocalApiState) (th : Handler) :
    Event → Handler → LocalApiState → Note → Prop
  | discovered (nodes : List DiscoveredNode) (hpc : th.pc = .idle) :
    Move cfg api th (.addDiscoveredNodes nodes) th (api.addDiscoveredNodes nodes) .nothing
  | asked (addrs : List SocketAddr) (hpc : th.pc = .idle) :
    Move cfg api th (.establishConnections addrs) { th with pc := .indexing addrs } api .nothing
  | refreshes (order : Iteration CacheKey ConnectionCacheEntry) (nowMs : Int64)
    (hpc : th.pc = .idle) :
    Move cfg api th (.refreshStaleCacheForQuery order nowMs)
      { th with pc := .looking, targets := api.staleTargets cfg order nowMs } api .nothing
  | refused {index : ℕ} {addr : SocketAddr} (error : String) (hpc : th.pc = .connecting index addr) :
    Move cfg api th (.connects (.error error)) { th with pc := .unreserving index addr none } api
      .nothing
  | connected {index : ℕ} {addr : SocketAddr} (metadata : HostMetadata)
    (hpc : th.pc = .connecting index addr) :
    Move cfg api th (.connects (.ok metadata))
      { th with pc := .unreserving index addr (some (api.connectNode addr metadata).2) }
      (api.connectNode addr metadata).1 .nothing
  | queried {target : RefreshTarget} {c : Connection} (snapshot : ServerGresSnapshot)
    (metadata : HostMetadata) (hpc : th.pc = .querying target c) :
    Move cfg api th (.queryReturns (.ok (snapshot, metadata)))
      { th with pc := .storing target snapshot } (api.setMetadata c metadata) .nothing
  | failed {target : RefreshTarget} {c : Connection} (error : String)
    (hpc : th.pc = .querying target c) :
    Move cfg api th (.queryReturns (.error error)) { th with pc := .evicting target c } api
      (.failed c)
  | indexed {env : StepEnv} {addrs : List SocketAddr} (hpc : th.pc = .indexing addrs) :
    Move cfg api th (.step env)
      { th with
        pc := .establishing
        jobs := addrs.zipIdx.map fun (addr, idx) => (api.rows.size + idx + 1, addr) } api .nothing
  | established {env : StepEnv} (hpc : th.pc = .establishing) (hjobs : th.jobs = [])
    (hcurrent : th.current = none) :
    Move cfg api th (.step env) { th with pc := .idle } api .nothing
  | returns {env : StepEnv} {target : RefreshTarget} (hpc : th.pc = .establishing)
    (hjobs : th.jobs = []) (hcurrent : th.current = some target) :
    Move cfg api th (.step env) { th with pc := .relooking target, current := none } api .nothing
  | tries {env : StepEnv} {index : ℕ} {addr : SocketAddr} {jobs : List (ℕ × SocketAddr)}
    (hpc : th.pc = .establishing) (hjobs : th.jobs = (index, addr) :: jobs)
    (hmay : api.mayConnect cfg addr = true) :
    Move cfg api th (.step env) { th with pc := .reserving index addr, jobs } api .nothing
  | skips {env : StepEnv} {index : ℕ} {addr : SocketAddr} {jobs : List (ℕ × SocketAddr)}
    (hpc : th.pc = .establishing) (hjobs : th.jobs = (index, addr) :: jobs)
    (hmay : api.mayConnect cfg addr = false) :
    Move cfg api th (.step env) { th with jobs } api .nothing
  | taken {env : StepEnv} {index : ℕ} {addr : SocketAddr} (hpc : th.pc = .reserving index addr)
    (hres : api.reserve addr = none) :
    Move cfg api th (.step env) { th with pc := .establishing } api .nothing
  | reserved {env : StepEnv} {index : ℕ} {addr : SocketAddr} {api' : LocalApiState}
    (hpc : th.pc = .reserving index addr) (hres : api.reserve addr = some api') :
    Move cfg api th (.step env) { th with pc := .connecting index addr } api' .nothing
  | unreserved {env : StepEnv} {index : ℕ} {addr : SocketAddr}
    (hpc : th.pc = .unreserving index addr none) :
    Move cfg api th (.step env) { th with pc := .establishing } (api.unreserve addr) .nothing
  | carried {env : StepEnv} {index : ℕ} {addr : SocketAddr} {c : Connection}
    (hpc : th.pc = .unreserving index addr (some c)) :
    Move cfg api th (.step env) { th with pc := .installing index addr c } (api.unreserve addr)
      .nothing
  | installed {env : StepEnv} {index : ℕ} {addr : SocketAddr} {c : Connection}
    {api' : LocalApiState} (hpc : th.pc = .installing index addr c)
    (hinst : api.install cfg env.order addr c = (api', true)) :
    Move cfg api th (.step env) { th with pc := .placing index c } api'
      (replacedNote api env.order addr c)
  | turnedAway {env : StepEnv} {index : ℕ} {addr : SocketAddr} {c : Connection}
    {api' : LocalApiState} (hpc : th.pc = .installing index addr c)
    (hinst : api.install cfg env.order addr c = (api', false)) :
    Move cfg api th (.step env) { th with pc := .establishing } api'
      (replacedNote api env.order addr c)
  | placed {env : StepEnv} {index : ℕ} {c : Connection} (hpc : th.pc = .placing index c) :
    Move cfg api th (.step env) { th with pc := .establishing }
      (api.upsertConnectionPlaceholder index c env.nowMs) .nothing
  | refreshed {env : StepEnv} (hpc : th.pc = .looking) (htargets : th.targets = []) :
    Move cfg api th (.step env) { th with pc := .idle } api .nothing
  | found {env : StepEnv} {target : RefreshTarget} {targets : List RefreshTarget} {c : Connection}
    (hpc : th.pc = .looking) (htargets : th.targets = target :: targets)
    (hc : api.connections.lookup target.addr = some c) :
    Move cfg api th (.step env) { th with pc := .querying target c, targets } api .nothing
  | missed {env : StepEnv} {target : RefreshTarget} {targets : List RefreshTarget}
    (hpc : th.pc = .looking) (htargets : th.targets = target :: targets)
    (hc : api.connections.lookup target.addr = none) :
    Move cfg api th (.step env)
      { th with pc := .indexing [target.addr], current := some target, targets } api .nothing
  | refound {env : StepEnv} {target : RefreshTarget} {c : Connection}
    (hpc : th.pc = .relooking target) (hc : api.connections.lookup target.addr = some c) :
    Move cfg api th (.step env) { th with pc := .querying target c } api .nothing
  | lost {env : StepEnv} {target : RefreshTarget} (hpc : th.pc = .relooking target)
    (hc : api.connections.lookup target.addr = none) :
    Move cfg api th (.step env) { th with pc := .unavailable target } api .nothing
  | reported {env : StepEnv} {target : RefreshTarget} (hpc : th.pc = .unavailable target) :
    Move cfg api th (.step env) { th with pc := .looking } (api.unavailable cfg target env.nowMs)
      .nothing
  | stored {env : StepEnv} {target : RefreshTarget} {snapshot : ServerGresSnapshot}
    (hpc : th.pc = .storing target snapshot) :
    Move cfg api th (.step env) { th with pc := .looking }
      (api.storeSnapshot target snapshot env.latencyUs env.nowMs) .nothing
  | evicted {env : StepEnv} {target : RefreshTarget} {c : Connection}
    (hpc : th.pc = .evicting target c) :
    Move cfg api th (.step env) { th with pc := .removing target c } (api.evictConnection target)
      .nothing
  | removed {env : StepEnv} {target : RefreshTarget} {c : Connection}
    (hpc : th.pc = .removing target c) :
    Move cfg api th (.step env) { th with pc := .looking } (api.removeRow target) .nothing

/-- **What a thread can do**, with all that it has found: the inversion of
`Handler.next`, from which the moves on the pool, the reservations and the
rows are read off. -/
theorem Handler.move_of_next {cfg : Config} {api api' : LocalApiState} {th th' : Handler}
    {e : Event} {note : Note} (h : th.next cfg api e = some (th', api', note)) :
    th.Move cfg api e th' api' note := by
  cases e with
  | addDiscoveredNodes nodes =>
    simp only [next] at h
    split at h <;> cases h
    exact .discovered nodes ‹_›
  | establishConnections addrs =>
    simp only [next] at h
    split at h <;> cases h
    exact .asked addrs ‹_›
  | refreshStaleCacheForQuery order nowMs =>
    simp only [next] at h
    split at h <;> cases h
    exact .refreshes order nowMs ‹_›
  | connects result =>
    simp only [next] at h
    split at h
    · split at h <;> cases h
      · exact .refused _ ‹_›
      · exact .connected _ ‹_›
    · cases h
  | queryReturns result =>
    simp only [next] at h
    split at h
    · split at h <;> cases h
      · exact .queried _ _ ‹_›
      · exact .failed _ ‹_›
    · cases h
  | step env =>
    simp only [next] at h
    split at h
    all_goals try rename_i hpc
    · cases h
      exact .indexed hpc
    · split at h
      · rename_i hjobs
        split at h <;> cases h
        · exact .established hpc hjobs ‹_›
        · exact .returns hpc hjobs ‹_›
      · rename_i hjobs
        split_ifs at h with hmay <;> cases h
        · exact .tries hpc hjobs hmay
        · exact .skips hpc hjobs (Bool.not_eq_true _ ▸ hmay)
    · split at h <;> cases h
      · exact .taken hpc ‹_›
      · exact .reserved hpc ‹_›
    · split at h <;> cases h
      · exact .unreserved hpc
      · exact .carried hpc
    · split at h <;> cases h
      · exact .installed hpc ‹_›
      · exact .turnedAway hpc ‹_›
    · cases h
      exact .placed hpc
    · split at h
      · cases h
        exact .refreshed hpc ‹_›
      · rename_i htargets
        split at h <;> cases h
        · exact .found hpc htargets ‹_›
        · exact .missed hpc htargets ‹_›
    · split at h <;> cases h
      · exact .refound hpc ‹_›
      · exact .lost hpc ‹_›
    · cases h
      exact .reported hpc
    · cases h
      exact .stored hpc
    · cases h
      exact .evicted hpc
    · cases h
      exact .removed hpc
    · cases h

/-! ### What a step does to the pool -/

/-- The pool, and what is known of its connections, are as before. -/
structure SamePool (api api' : LocalApiState) : Prop where
  connections : api'.connections = api.connections
  metadata : api'.metadata = api.metadata
  nextSerial : api'.nextSerial = api.nextSerial

/-- Nothing has changed. -/
theorem SamePool.refl (api : LocalApiState) : SamePool api api := ⟨rfl, rfl, rfl⟩

/-- Reserving an address does not touch the pool. -/
theorem samePool_reserve {api api' : LocalApiState} {addr : SocketAddr}
    (h : api.reserve addr = some api') : SamePool api api' := by
  unfold reserve at h
  split_ifs at h
  obtain rfl := Option.some.inj h
  exact ⟨rfl, rfl, rfl⟩

/-- Marking a target as unavailable does not touch the pool. -/
theorem samePool_unavailable (cfg : Config) (api : LocalApiState) (target : RefreshTarget)
    (nowMs : Int64) : SamePool api (api.unavailable cfg target nowMs) := by
  unfold LocalApiState.unavailable
  dsimp only
  split_ifs <;> exact ⟨rfl, rfl, rfl⟩

/-- The connection a thread has made and not put in the pool yet. -/
def Pc.fresh? : Pc → Option (SocketAddr × Connection)
  | .unreserving _ addr connected => connected.map fun c => (addr, c)
  | .installing _ addr c => some (addr, c)
  | _ => none

/-- The connection a thread queries, or has queried in vain, for a target. -/
def Pc.served? : Pc → Option (RefreshTarget × Connection)
  | .querying target c | .evicting target c | .removing target c => some (target, c)
  | _ => none

/-- **The steps that matter to the pool**: a connection is made, carried to the
pool and installed; one is found, queried, and evicted if the query fails. -/
inductive PoolMove (cfg : Config) (api : LocalApiState) (th : Handler) :
    Event → Handler → LocalApiState → Note → Prop
  | other {e : Event} {th' : Handler} {api' : LocalApiState} (hsame : SamePool api api')
      (hfresh : th'.pc.fresh? = none) (hserved : th'.pc.served? = none) :
    PoolMove cfg api th e th' api' .nothing
  | connected {index : ℕ} {addr : SocketAddr} {th' : Handler} (metadata : HostMetadata)
      (hpc : th'.pc = .unreserving index addr (some (api.connectNode addr metadata).2)) :
    PoolMove cfg api th (.connects (.ok metadata)) th' (api.connectNode addr metadata).1 .nothing
  | carried {env : StepEnv} {index : ℕ} {addr : SocketAddr} {c : Connection} {th' : Handler}
      {api' : LocalApiState} (hpc : th.pc = .unreserving index addr (some c))
      (hpc' : th'.pc = .installing index addr c) (hsame : SamePool api api') :
    PoolMove cfg api th (.step env) th' api' .nothing
  | installed {env : StepEnv} {index : ℕ} {addr : SocketAddr} {c : Connection} {th' : Handler}
      {api' : LocalApiState} {pooled : Bool} (hpc : th.pc = .installing index addr c)
      (hinst : api.install cfg env.order addr c = (api', pooled)) (hfresh : th'.pc.fresh? = none)
      (hserved : th'.pc.served? = none) :
    PoolMove cfg api th (.step env) th' api' (replacedNote api env.order addr c)
  | found {env : StepEnv} {target : RefreshTarget} {c : Connection} {th' : Handler}
      (hc : api.connections.lookup target.addr = some c) (hpc : th'.pc = .querying target c) :
    PoolMove cfg api th (.step env) th' api .nothing
  | queried {target : RefreshTarget} {c : Connection} {th' : Handler}
      (snapshot : ServerGresSnapshot) (metadata : HostMetadata) (hpc : th.pc = .querying target c)
      (hfresh : th'.pc.fresh? = none) (hserved : th'.pc.served? = none) :
    PoolMove cfg api th (.queryReturns (.ok (snapshot, metadata))) th' (api.setMetadata c metadata)
      .nothing
  | failed {target : RefreshTarget} {c : Connection} {th' : Handler} (error : String)
      (hpc : th.pc = .querying target c) (hpc' : th'.pc = .evicting target c) :
    PoolMove cfg api th (.queryReturns (.error error)) th' api (.failed c)
  | evicted {env : StepEnv} {target : RefreshTarget} {c : Connection} {th' : Handler}
      (hpc : th.pc = .evicting target c) (hpc' : th'.pc = .removing target c) :
    PoolMove cfg api th (.step env) th' (api.evictConnection target) .nothing

/-- **What a step can do to the pool**: make a connection, carry it to the
pool and install it; find one, query it and evict it; or nothing to either. -/
theorem Handler.poolMove_of_next {cfg : Config} {api api' : LocalApiState} {th th' : Handler}
    {e : Event} {note : Note} (h : th.next cfg api e = some (th', api', note)) :
    PoolMove cfg api th e th' api' note := by
  cases Handler.move_of_next h with
  | discovered nodes hpc => exact .other ⟨rfl, rfl, rfl⟩ (by rw [hpc]; rfl) (by rw [hpc]; rfl)
  | connected metadata => exact .connected metadata rfl
  | queried snapshot metadata hpc => exact .queried snapshot metadata hpc rfl rfl
  | failed error hpc => exact .failed error hpc rfl
  | skips hpc => exact .other (.refl _) (by rw [hpc]; rfl) (by rw [hpc]; rfl)
  | reserved hpc hres => exact .other (samePool_reserve hres) rfl rfl
  | carried hpc => exact .carried hpc rfl ⟨rfl, rfl, rfl⟩
  | installed hpc hinst => exact .installed hpc hinst rfl rfl
  | turnedAway hpc hinst => exact .installed hpc hinst rfl rfl
  | found hpc htargets hc => exact .found hc rfl
  | refound hpc hc => exact .found hc rfl
  | reported => exact .other (samePool_unavailable ..) rfl rfl
  | evicted hpc => exact .evicted hpc rfl
  | unreserved | placed | stored | removed => exact .other ⟨rfl, rfl, rfl⟩ rfl rfl
  | asked | refreshes | refused | indexed | established | returns | tries | taken | refreshed
  | missed | lost => exact .other (.refl _) rfl rfl

/-- The backend and its threads; `failed` and `replaced` are kept to speak about. -/
structure PoolState (τ : Type*) where
  api : LocalApiState
  threads : τ → Handler := fun _ => {}
  failed : List Connection := []
  replaced : List Connection := []

variable {τ : Type*} [DecidableEq τ]

/-- One step. -/
def PoolState.step (cfg : Config) (s : PoolState τ) (a : τ × Event) : Option (PoolState τ) :=
  ((s.threads a.1).next cfg s.api a.2).map fun (th, api, note) =>
    { api
      threads := Function.update s.threads a.1 th
      failed := match note with | .failed c => c :: s.failed | _ => s.failed
      replaced := match note with | .replaced c => c :: s.replaced | _ => s.replaced }

/-- Any number of threads, from any rows and an empty pool. -/
def poolSystem (τ : Type*) [DecidableEq τ] (cfg : Config) (rows : CacheMap) :
    Lts (PoolState τ) (τ × Event) :=
  Lts.ofFn { api := { rows } } (PoolState.step cfg)

/-- The state of a new backend after a computed run. -/
def PoolState.after (cfg : Config) (rows : CacheMap) (as : List (τ × Event)) : PoolState τ :=
  (Lts.exec (step cfg) { api := { rows } } as).getD { api := { rows } }

/-- A computed run is a run, and one of the system with a condition that all its
labels meet. -/
theorem PoolState.reachable_after {cfg : Config} {rows : CacheMap}
    {C : PoolState τ → τ × Event → Prop} {as : List (τ × Event)}
    (h : (Lts.exec (step cfg) { api := { rows } } as).isSome = true) (hC : ∀ s, ∀ a ∈ as, C s a) :
    ((poolSystem τ cfg rows).restrict C).Reachable (after cfg rows as) := by
  obtain ⟨s, hs⟩ := Option.isSome_iff_exists.1 h
  rw [after, hs]
  exact ⟨_, as, rfl, Lts.run_restrict_of_forall hs hC⟩

/-! ### The second pool section -/

section Install

variable {cfg : Config} {api api' : LocalApiState} {order : Iteration SocketAddr Connection}
  {addr : SocketAddr} {c : Connection} {pooled : Bool}

/-- A connection that is found to have the host is in the pool, and has it. -/
theorem existing?_eq_some {x : SocketAddr × Connection} (h : api.existing? order c = some x) :
    api.connections.lookup x.1 = some x.2 ∧ api.hostname x.2 = api.hostname c := by
  have hx := List.mem_of_find?_eq_some h
  obtain ⟨y, hy, rfl⟩ := List.mem_map.1 ((order.perm api.connections).mem_iff.1 hx)
  exact ⟨AList.mem_lookup_iff.2 hy, by simpa using List.find?_some h⟩

/-- If none is found, no pooled connection has the host. -/
theorem existing?_eq_none (h : api.existing? order c = none) {a : SocketAddr} {e : Connection}
    (he : api.connections.lookup a = some e) : api.hostname e ≠ api.hostname c := by
  have hmem : (a, e) ∈ order.entries api.connections :=
    (order.perm api.connections).mem_iff.2 (List.mem_map.2 ⟨⟨a, e⟩, AList.mem_lookup_iff.1 he, rfl⟩)
  simpa using List.find?_eq_none.1 h (a, e) hmem

/-- **What `install` can do**: it finds the address in the pool, or no room,
or puts the connection in, after making way for it. -/
theorem install_cases (h : api.install cfg order addr c = (api', pooled)) :
    (addr ∈ api.connections ∧ api' = api ∧ pooled = false) ∨
      (addr ∉ api.connections ∧ cfg.maxConnections ≤ (api.makeWay order c).connections.size ∧
        api' = api.makeWay order c ∧ pooled = false) ∨
      (addr ∉ api.connections ∧ (api.makeWay order c).connections.size < cfg.maxConnections ∧
        api' = { api.makeWay order c with
          connections := (api.makeWay order c).connections.insert addr c } ∧ pooled = true) := by
  unfold install at h
  split_ifs at h with hin
  · cases h
    exact .inl ⟨hin, rfl, rfl⟩
  · dsimp only at h
    split_ifs at h with hfull
    · cases h
      exact .inr (.inl ⟨hin, hfull, rfl, rfl⟩)
    · cases h
      exact .inr (.inr ⟨hin, Nat.lt_of_not_le hfull, rfl, rfl⟩)

/-- Making way removes at most one connection, of the same host. -/
theorem lookup_makeWay {a : SocketAddr} {e : Connection} :
    (api.makeWay order c).connections.lookup a = some e →
      api.connections.lookup a = some e := by
  unfold LocalApiState.makeWay
  split
  · intro h
    rw [replaceExisting, Table.lookup_erase_eq] at h
    split_ifs at h
    exact h
  · exact id

/-- Making way for a connection changes the metadata of none. -/
theorem makeWay_metadata : (api.makeWay order c).metadata = api.metadata := by
  unfold LocalApiState.makeWay
  split <;> rfl

/-- Making way for a connection makes none. -/
theorem makeWay_nextSerial : (api.makeWay order c).nextSerial = api.nextSerial := by
  unfold LocalApiState.makeWay
  split <;> rfl

/-- After it no pooled connection has the host, if there was at most one. -/
theorem hostname_makeWay (hd : Table.Distinct api.hostname api.connections) {a : SocketAddr}
    {e : Connection} (he : (api.makeWay order c).connections.lookup a = some e) :
    api.hostname e ≠ api.hostname c := by
  unfold LocalApiState.makeWay at he
  cases hx : api.existing? order c with
  | none =>
    rw [hx] at he
    exact existing?_eq_none hx he
  | some x =>
    obtain ⟨hlookup, hhost⟩ := existing?_eq_some hx
    rw [hx] at he
    simp only [replaceExisting, Table.lookup_erase_eq] at he
    split_ifs at he with ha
    exact fun heq => ha (hd a x.1 e x.2 he hlookup (heq.trans hhost.symm))

/-- Who gives way makes room. -/
theorem size_makeWay {x : SocketAddr × Connection} (hx : api.existing? order c = some x) :
    (api.makeWay order c).connections.size + 1 = api.connections.size := by
  unfold LocalApiState.makeWay
  rw [hx]
  exact Table.size_erase (AList.lookup_isSome.1 (by rw [(existing?_eq_some hx).1]; rfl))

/-- Who gives way does so to the new connection: with one less than there may be,
there is room. -/
theorem install_replaces (h : api.install cfg order addr c = (api', pooled))
    (hroom : api.connections.size ≤ cfg.maxConnections) {a : SocketAddr} {d : Connection}
    (hd : api.connections.lookup a = some d) (hd' : api'.connections.lookup a ≠ some d) :
    replacedNote api order addr c = .replaced d ∧ api.hostname d = api.hostname c ∧
      api'.connections.lookup addr = some c := by
  have hway : (api.makeWay order c).connections.lookup a ≠ some d →
      ∃ x, api.existing? order c = some x ∧ x.2 = d := by
    intro hne
    cases hx : api.existing? order c with
    | none =>
      rw [LocalApiState.makeWay, hx] at hne
      exact absurd hd hne
    | some x =>
      rw [LocalApiState.makeWay, hx] at hne
      simp only [replaceExisting, Table.lookup_erase_eq] at hne
      split_ifs at hne with ha
      · refine ⟨x, rfl, ?_⟩
        rw [ha, (existing?_eq_some hx).1] at hd
        exact Option.some.inj hd
      · exact absurd hd hne
  rcases install_cases h with ⟨-, rfl, -⟩ | ⟨hout, hfull, rfl, -⟩ | ⟨hout, -, rfl, -⟩
  · exact absurd hd hd'
  · obtain ⟨x, hx, -⟩ := hway hd'
    have hsize := size_makeWay hx
    omega
  · have ha : a ≠ addr := fun ha =>
      hout (AList.lookup_isSome.1 (by rw [← ha, hd]; rfl))
    rw [Table.lookup_insert_eq, if_neg ha] at hd'
    obtain ⟨x, hx, rfl⟩ := hway hd'
    refine ⟨?_, (existing?_eq_some hx).2, AList.lookup_insert _⟩
    rw [replacedNote, if_neg hout, hx]

end Install

/-! ### The pool -/

/-- The invariant of the pool: an address is mapped to a connection to it that has
been made, and there is room for all. -/
structure Pooled (cfg : Config) (api : LocalApiState) : Prop where
  addr : ∀ a c, api.connections.lookup a = some c → c.addr = a
  made : ∀ a c, api.connections.lookup a = some c → c.serial < api.nextSerial
  room : api.connections.size ≤ cfg.maxConnections

/-- The invariant of a thread: the connection it carries is one to the address it
carries it for, and the one it queries is one to the address of its target. -/
structure Carries (api : LocalApiState) (th : Handler) : Prop where
  fresh : ∀ addr c, th.pc.fresh? = some (addr, c) → c.addr = addr ∧ c.serial < api.nextSerial
  served : ∀ target c, th.pc.served? = some (target, c) → c.addr = target.addr

section Invariant

variable {cfg : Config} {api api' : LocalApiState} {th th' : Handler} {e : Event} {note : Note}

/-- A thread that carries no connection and queries none has nothing to keep.
-/
theorem Carries.of_none (hf : th.pc.fresh? = none) (hs : th.pc.served? = none) :
    Carries api th where
  fresh _ _ h := absurd (hf.symm.trans h) nofun
  served _ _ h := absurd (hs.symm.trans h) nofun

/-- What a thread carries stays what it is, while other connections are made.
-/
theorem Carries.mono (h : Carries api th) (hle : api.nextSerial ≤ api'.nextSerial) :
    Carries api' th where
  fresh addr c hc := ⟨(h.fresh addr c hc).1, (h.fresh addr c hc).2.trans_le hle⟩
  served := h.served

/-- A pool some connections have left. -/
theorem Pooled.of_left (h : Pooled cfg api)
    (hsub : ∀ a c, api'.connections.lookup a = some c → api.connections.lookup a = some c)
    (hsize : api'.connections.size ≤ api.connections.size)
    (hmade : api.nextSerial ≤ api'.nextSerial) : Pooled cfg api' where
  addr a c hc := h.addr a c (hsub a c hc)
  made a c hc := (h.made a c (hsub a c hc)).trans_le hmade
  room := hsize.trans h.room

/-- What does not touch the pool keeps its invariant. -/
theorem Pooled.of_same (h : Pooled cfg api) (hsame : SamePool api api') : Pooled cfg api' :=
  h.of_left (fun _ _ hc => hsame.connections ▸ hc) (hsame.connections ▸ le_rfl)
    hsame.nextSerial.ge

/-- Making way only takes connections out, so the invariant of the pool is
kept. -/
theorem Pooled.makeWay (h : Pooled cfg api) (order : Iteration SocketAddr Connection)
    (c : Connection) : Pooled cfg (api.makeWay order c) := by
  refine h.of_left (fun a e => lookup_makeWay) ?_ makeWay_nextSerial.ge
  unfold LocalApiState.makeWay
  split
  · exact Table.size_erase_le _ _
  · exact le_rfl

/-- Connections are made anew, with a number of their own. -/
theorem PoolMove.nextSerial_le (hm : PoolMove cfg api th e th' api' note) :
    api.nextSerial ≤ api'.nextSerial := by
  cases hm with
  | other hsame => exact hsame.nextSerial.ge
  | connected metadata hpc => exact Nat.le_succ _
  | carried hpc hpc' hsame => exact hsame.nextSerial.ge
  | installed hpc hinst hf hs =>
    rcases install_cases hinst with ⟨-, rfl, -⟩ | ⟨-, -, rfl, -⟩ | ⟨-, -, rfl, -⟩
    · exact le_rfl
    · exact makeWay_nextSerial.ge
    · exact makeWay_nextSerial.ge
  | found | queried | failed | evicted => exact le_rfl

/-- **A step keeps the pool in order**: what is installed is a connection to
its address, and there is room for it. -/
theorem PoolMove.pooled (hm : PoolMove cfg api th e th' api' note) (h : Pooled cfg api)
    (hc : Carries api th) : Pooled cfg api' := by
  cases hm with
  | other hsame => exact h.of_same hsame
  | connected metadata hpc =>
    exact ⟨h.addr, fun a c hl => (h.made a c hl).trans (Nat.lt_succ_self _), h.room⟩
  | carried hpc hpc' hsame => exact h.of_same hsame
  | @installed env index addr c _ _ _ hpc hinst hf hs =>
    obtain ⟨haddr, hmade⟩ := hc.fresh addr c (by rw [hpc]; rfl)
    have hway := h.makeWay env.order c
    rcases install_cases hinst with ⟨-, rfl, -⟩ | ⟨-, -, rfl, -⟩ | ⟨hin, hroom, rfl, -⟩
    · exact h
    · exact hway
    · refine ⟨fun a d hd => ?_, fun a d hd => ?_, ?_⟩
      · rw [Table.lookup_insert_eq] at hd
        split_ifs at hd with ha
        · rw [← Option.some.inj hd, ha, haddr]
        · exact hway.addr a d hd
      · rw [Table.lookup_insert_eq] at hd
        split_ifs at hd with ha
        · rw [← Option.some.inj hd]
          exact hmade.trans_le makeWay_nextSerial.ge
        · exact hway.made a d hd
      · have hout : addr ∉ (api.makeWay env.order c).connections := fun hmem => by
          obtain ⟨d, hd⟩ := Option.isSome_iff_exists.1 (AList.lookup_isSome.2 hmem)
          exact hin (AList.lookup_isSome.1 (by rw [lookup_makeWay hd]; rfl))
        change Table.size (AList.insert addr c _) ≤ _
        rw [Table.size_insert hout]
        exact hroom
  | found => exact h
  | queried => exact ⟨h.addr, h.made, h.room⟩
  | failed => exact h
  | @evicted _ target =>
    refine h.of_left (fun a c hc => ?_) (Table.size_erase_le _ _) le_rfl
    rw [evictConnection, Table.lookup_erase_eq] at hc
    split_ifs at hc
    exact hc

/-- **A step leaves its thread carrying what it should**: a connection that is
new, or the one of its target. -/
theorem PoolMove.carries (hm : PoolMove cfg api th e th' api' note) (h : Pooled cfg api)
    (hc : Carries api th) : Carries api' th' := by
  cases hm with
  | other hsame hf hs => exact .of_none hf hs
  | connected metadata hpc =>
    refine ⟨fun addr c heq => ?_, fun target c heq => ?_⟩
    · rw [hpc] at heq
      cases heq
      exact ⟨rfl, Nat.lt_succ_self _⟩
    · rw [hpc] at heq
      cases heq
  | carried hpc hpc' hsame =>
    refine ⟨fun addr c heq => ?_, fun target c heq => ?_⟩
    · rw [hpc'] at heq
      cases heq
      rw [hsame.nextSerial]
      exact hc.fresh _ _ (by rw [hpc]; rfl)
    · rw [hpc'] at heq
      cases heq
  | installed hpc hinst hf hs => exact .of_none hf hs
  | found hlookup hpc =>
    refine ⟨fun addr c heq => ?_, fun target c heq => ?_⟩
    · rw [hpc] at heq
      cases heq
    · rw [hpc] at heq
      cases heq
      exact h.addr _ _ hlookup
  | queried snapshot metadata hpc hf hs => exact .of_none hf hs
  | failed error hpc hpc' =>
    refine ⟨fun addr c heq => ?_, fun target c heq => ?_⟩
    · rw [hpc'] at heq
      cases heq
    · rw [hpc'] at heq
      cases heq
      exact hc.served _ _ (by rw [hpc]; rfl)
  | evicted hpc hpc' =>
    refine ⟨fun addr c heq => ?_, fun target c heq => ?_⟩
    · rw [hpc'] at heq
      cases heq
    · rw [hpc'] at heq
      cases heq
      exact hc.served _ _ (by rw [hpc]; rfl)

end Invariant

/-- **What a step can be**: a move of one thread on the pool, while the others
stay where they are. -/
theorem PoolState.step_cases {cfg : Config} {s s' : PoolState τ} {a : τ × Event}
    (h : s.step cfg a = some s') :
    ∃ th note, PoolMove cfg s.api (s.threads a.1) a.2 th s'.api note ∧
      s'.threads = Function.update s.threads a.1 th ∧
        s'.failed = (match note with | .failed c => c :: s.failed | _ => s.failed) ∧
          s'.replaced = match note with | .replaced c => c :: s.replaced | _ => s.replaced := by
  obtain ⟨⟨th, api, note⟩, hnext, rfl⟩ := Option.map_eq_some_iff.1 h
  exact ⟨th, note, Handler.poolMove_of_next hnext, rfl, rfl, rfl⟩

/-- The invariant of the backend and its threads. -/
structure InOrder (cfg : Config) (s : PoolState τ) : Prop where
  pooled : Pooled cfg s.api
  carries : ∀ t, Carries s.api (s.threads t)

/-- **Every step keeps the invariant**: the pool is in order, and each thread
carries what it should; the threads that do not move carry what they did. -/
theorem inOrder_step {cfg : Config} {s s' : PoolState τ} {a : τ × Event} (h : InOrder cfg s)
    (hs : s.step cfg a = some s') : InOrder cfg s' := by
  obtain ⟨th, note, hm, hthreads, -, -⟩ := PoolState.step_cases hs
  refine ⟨hm.pooled h.pooled (h.carries a.1), ?_⟩
  rw [hthreads, Function.forall_update_iff _ fun _ th => Carries s'.api th]
  exact ⟨hm.carries h.pooled (h.carries a.1), fun t _ => (h.carries t).mono hm.nextSerial_le⟩

/-- The invariant holds in every reachable state. -/
theorem inOrder_of_reachable {cfg : Config} {rows : CacheMap} {s : PoolState τ}
    (h : (poolSystem τ cfg rows).Reachable s) : InOrder cfg s := by
  refine h.invariant ?_ fun s a s' hi hs => inOrder_step hi hs
  rintro s rfl
  refine ⟨⟨fun a c hc => ?_, fun a c hc => ?_, Nat.zero_le _⟩, fun t => .of_none rfl rfl⟩
  all_goals
    rw [AList.lookup_empty] at hc
    cases hc

/-! ### Hosts that keep their names -/

/-- A query leaves the hostname of its connection as it is. -/
def StableHostname (api : LocalApiState) (th : Handler) : Event → Prop
  | .queryReturns (.ok (_, metadata)) =>
    ∀ target c, th.pc = .querying target c → metadata.hostname = api.hostname c
  | _ => True

/-- The same of a step of the system. -/
def StableHostnames (s : PoolState τ) (a : τ × Event) : Prop :=
  StableHostname s.api (s.threads a.1) a.2

section Hostnames

variable {cfg : Config} {api api' : LocalApiState} {th th' : Handler} {e : Event} {note : Note}

/-- **A step keeps the hosts of the pool apart**, if hosts keep their names: a
connection is installed only after the one to the same host has been taken
out. -/
theorem PoolMove.distinct (hm : PoolMove cfg api th e th' api' note) (h : Pooled cfg api)
    (hstable : StableHostname api th e) (hd : Table.Distinct api.hostname api.connections) :
    Table.Distinct api'.hostname api'.connections := by
  cases hm with
  | other hsame | carried _ _ hsame =>
    rw [hsame.connections]
    exact hd.congr fun a c _ => by rw [hostname, hostname, hsame.metadata]
  | connected metadata hpc =>
    -- The number of the new connection is that of no pooled one.
    refine hd.congr fun a c hc => ?_
    have hne : c.serial ≠ api.nextSerial := (h.made a c hc).ne
    simp only [hostname, connectNode, Function.update_of_ne hne]
  | @installed env index addr c _ _ _ hpc hinst hf hs =>
    have hkept : ∀ d, (api.makeWay env.order c).hostname d = api.hostname d := fun d => by
      rw [hostname, hostname, makeWay_metadata]
    have hway : Table.Distinct api.hostname (api.makeWay env.order c).connections :=
      fun a b d d' ha hb => hd a b d d' (lookup_makeWay ha) (lookup_makeWay hb)
    rcases install_cases hinst with ⟨-, rfl, -⟩ | ⟨-, -, rfl, -⟩ | ⟨-, -, rfl, -⟩
    · exact hd
    · exact hway.congr fun _ d _ => hkept d
    · exact (hway.insert fun _ _ _ hl => hostname_makeWay hd hl).congr fun _ d _ => hkept d
  | found | failed => exact hd
  | @queried target c _ snapshot metadata hpc hf hs =>
    refine hd.congr fun a d _ => ?_
    have hname : metadata.hostname = api.hostname c := hstable target c hpc
    by_cases hdc : d.serial = c.serial
    · simp only [hostname, setMetadata, hdc, Function.update_self]
      exact hname
    · simp only [hostname, setMetadata, Function.update_of_ne hdc]
  | evicted hpc hpc' => exact hd.erase _

/-- **How a connection leaves the pool**: a query to its address has failed, or the
step puts another of its host there. -/
theorem PoolMove.left (hm : PoolMove cfg api th e th' api' note)
    (hroom : api.connections.size ≤ cfg.maxConnections) {a : SocketAddr} {d : Connection}
    (hd : api.connections.lookup a = some d) (hd' : api'.connections.lookup a ≠ some d) :
    (∃ target c, th.pc = .evicting target c ∧ a = target.addr) ∨
      ∃ index addr c, th.pc = .installing index addr c ∧ note = .replaced d ∧
        api.hostname d = api.hostname c ∧ api'.connections.lookup addr = some c := by
  cases hm with
  | other hsame | carried _ _ hsame => exact absurd (hsame.connections ▸ hd) hd'
  | connected | found | queried | failed => exact absurd hd hd'
  | installed hpc hinst hf hs =>
    exact .inr ⟨_, _, _, hpc, install_replaces hinst hroom hd hd'⟩
  | evicted hpc hpc' =>
    rw [evictConnection, Table.lookup_erase_eq] at hd'
    split_ifs at hd' with ha
    · exact .inl ⟨_, _, hpc, ha⟩
    · exact absurd hd hd'

end Hostnames

/-- **The invariant of the pool.**  With any number of threads in any order, and
hosts that keep their names: the pool maps an address to a connection to it, no two
pooled connections have the same host, there are at most `max_connections`, and a
step that installs a connection and takes out another leaves in the pool a
connection to the same host. -/
theorem pool_invariant {cfg : Config} {rows : CacheMap} {s : PoolState τ}
    (h : ((poolSystem τ cfg rows).restrict StableHostnames).Reachable s) :
    (∀ a c, s.api.connections.lookup a = some c → c.addr = a) ∧
      Table.Distinct s.api.hostname s.api.connections ∧
      s.api.connections.size ≤ cfg.maxConnections ∧
      ∀ t env s' index addr c, (s.threads t).pc = .installing index addr c →
        s.step cfg (t, .step env) = some s' → ∀ a d, s.api.connections.lookup a = some d →
          s'.api.connections.lookup a ≠ some d →
            s.api.hostname d = s.api.hostname c ∧ s'.api.connections.lookup addr = some c := by
  have hin := inOrder_of_reachable h.of_restrict
  have hd : InOrder cfg s ∧ Table.Distinct s.api.hostname s.api.connections := by
    refine h.invariant (I := fun s : PoolState τ =>
      InOrder cfg s ∧ Table.Distinct s.api.hostname s.api.connections) ?_ ?_
    · rintro s rfl
      exact ⟨inOrder_of_reachable (.of_init rfl), Table.distinct_empty⟩
    · rintro s a s' ⟨hi, hd⟩ ⟨hs, hstable⟩
      obtain ⟨th, note, hm, -, -, -⟩ := PoolState.step_cases hs
      exact ⟨inOrder_step hi hs, hm.distinct hi.pooled hstable hd⟩
  refine ⟨hin.pooled.addr, hd.2, hin.pooled.room, ?_⟩
  intro t env s' index addr c hpc hs a d hl hl'
  obtain ⟨th, note, hm, -, -, -⟩ := PoolState.step_cases hs
  rcases hm.left hin.pooled.room hl hl' with ⟨_, _, hpc', -⟩ | ⟨_, _, _, hpc', -, hhost, hnew⟩
  · rw [hpc] at hpc'
    cases hpc'
  · rw [hpc] at hpc'
    cases hpc'
    exact ⟨hhost, hnew⟩

/-! ### Two addresses of one host -/

/-- Room for some connections. -/
def roomFor (maxConnections : ℕ) : Config where
  maxConnections
  cacheTtlMs := 1000
  protocol := "udp"
  printed _ := ""

/-- The outside at time zero. -/
def atZero : StepEnv where
  order := .list _ _
  latencyUs := 0
  nowMs := 0

/-- A thread connects to an address, up to its second pool lock, and finds a host. -/
def connectRun {τ : Type*} (t : τ) (addr : SocketAddr) (hostname : String) : List (τ × Event) :=
  [(t, .establishConnections [addr]), (t, .step atZero), (t, .step atZero), (t, .step atZero),
    (t, .connects (.ok { hostname, driverVersion := none, gres := [] })), (t, .step atZero)]

/-- Two threads connect to two addresses of a host, and one of them is through. -/
def raceRun : List (Bool × Event) :=
  connectRun false (.v4 1 7070) "a" ++ connectRun true (.v4 2 7070) "a" ++
    [(false, .step atZero)]

/-- The other takes its place, though there is no room for two. -/
theorem pool_invariant_race :
    ∃ s', (PoolState.after (roomFor 1) ∅ raceRun).step (roomFor 1) (true, .step atZero) =
        some s' ∧ s'.api.connections.lookup (.v4 2 7070) =
          some { serial := 1, addr := .v4 2 7070 } := by
  let s : PoolState Bool := .after (roomFor 1) ∅ raceRun
  have hreach : ((poolSystem Bool (roomFor 1) ∅).restrict StableHostnames).Reachable s := by
    refine PoolState.reachable_after (by decide +kernel) fun s a ha => ?_
    simp only [raceRun, connectRun, List.mem_append, List.mem_cons, List.not_mem_nil,
      or_false] at ha
    rcases ha with ((rfl | rfl | rfl | rfl | rfl | rfl) | (rfl | rfl | rfl | rfl | rfl | rfl)) | rfl
    all_goals trivial
  have hpc : (s.threads true).pc =
      .installing 1 (.v4 2 7070) { serial := 1, addr := .v4 2 7070 } := by decide +kernel
  obtain ⟨s', hs'⟩ := Option.isSome_iff_exists.1
    (by decide +kernel : (s.step (roomFor 1) (true, .step atZero)).isSome = true)
  have hleft : (s.step (roomFor 1) (true, .step atZero)).map
      (fun s' => s'.api.connections.lookup (.v4 1 7070)) = some none := by decide +kernel
  rw [hs', Option.map_some] at hleft
  have hgone := Option.some.inj hleft
  have hthere : s.api.connections.lookup (.v4 1 7070) =
      some { serial := 0, addr := .v4 1 7070 } := by decide +kernel
  have hreplaced := (pool_invariant hreach).2.2.2 true atZero s' 1 _ _ hpc hs' _ _ hthere
    (by rw [hgone]; exact nofun)
  exact ⟨s', hs', hreplaced.2⟩

end Backend
end Clustat
