/-
# The locks of the backend

Which locks each function of `crates/client-backend/src/local_api.rs`,
`tcp_client.rs` and `udp_client.rs` takes, in which order, and until when: the
pool, the connecting set, the row cache, the time of the last reconcile, and the
`io` and `metadata` of every connection.  What decides a branch or ends a loop is
left open, so that every run of the code is one of the program.

A guard lives to the end of its block, and a temporary one to the end of the
statement it is made in.  The scrutinee of a `match` or an `if let` is such a
temporary, and lives through all the arms: a connection whose hostname is replaced
is sent its disconnect with the pool locked, a poisoned pool stays locked in the
`else` branch, and so does the pool that is looked up a second time in a refresh,
while the row cache is locked.

The locks have a rank (`Lock.rank`): the pool is below the row cache and every
`io`, and these are below the locks that are taken last.  Every function takes its
locks upwards, and so the backend cannot deadlock on them (`no_deadlock`).
-/

import Clustat.Lib.Locks
import Mathlib.Data.Nat.Basic

namespace Clustat
namespace Backend
namespace Locking

open Locks Locks.Prog

/-- The locks, of a backend with connections `C`. -/
inductive Lock (C : Type*)
  | pool
  | connecting
  | rows
  | reconcile
  | io (c : C)
  | metadata (c : C)
  /-- The names `username_for_uid` has looked up. -/
  | usernames

/-- Where a lock is in the order. -/
def Lock.rank {C : Type*} : Lock C → ℕ
  | .pool => 0
  | .rows | .io _ => 1
  | .connecting | .reconcile | .metadata _ | .usernames => 2

section Programs

variable {C : Type*}

/-- The locking of a function of the backend; it may pick connections. -/
abbrev Program (C : Type*) := Prog (Lock C) C

/-! ### A connection -/

/-- `ServerConnection::hostname`. -/
def hostname (c : C) : Program C := .locked (.metadata c) .skip

/-- `ServerConnection::gres_num`. -/
def gresNum (c : C) : Program C := .locked (.metadata c) .skip

/-- `ServerConnection::disconnect`. -/
def disconnect (c : C) : Program C := .locked (.io c) .skip

/-- `ServerConnection::close`, which does nothing over UDP. -/
def close (c : C) : Program C := opt (.locked (.io c) .skip)

/-- `query_connected`, over TCP and over UDP: the metadata are read with the stream
locked, for the snapshot or for the error, and written after a refresh. -/
def queryConnected (c : C) : Program C :=
  .locked (.io c) (opt (upTo [.locked (.metadata c) .skip, .locked (.metadata c) .skip]))

/-! ### The pool and the rows -/

/-- `add_discovered_nodes`. -/
def addDiscoveredNodes : Program C := opt (.locked .rows .skip)

/-- `upsert_connection_placeholder`. -/
def upsertConnectionPlaceholder (c : C) : Program C :=
  .locked .rows (opt (all [hostname c, gresNum c]))

/-- The branch of `establish_one_connection` for a host that has a connection. -/
def replaceExisting (c existing : C) : Program C :=
  all [hostname c, disconnect existing, .locked .rows .skip]

/-- `establish_one_connection` with the new connection, in the block of the pool:
the disconnect of a duplicate, or of any connection to a poisoned pool; the search
for the hostname; the replacement; and the check of the bound. -/
def installConnection (c : C) : Program C :=
  .either (disconnect c)
    (all [.loop (.pick fun existing => all [hostname existing, hostname c]),
      opt (.pick fun existing => replaceExisting c existing),
      opt (disconnect c)])

/-- `establish_one_connection`. -/
def establishOneConnection : Program C :=
  upTo [.locked .pool .skip, .locked .connecting .skip, .locked .connecting .skip,
    .pick fun c => upTo [.locked .pool (installConnection c),
      all [hostname c, gresNum c, upsertConnectionPlaceholder c]]]

/-- `establish_connections`. -/
def establishConnections : Program C :=
  .seq (.locked .rows .skip) (.loop establishOneConnection)

/-! ### A query of the frontend -/

/-- `should_skip_query_discovery_reconcile`, with `set_last_discovery_reconcile_now`. -/
def shouldSkipQueryDiscoveryReconcile : Program C :=
  upTo [.locked .rows .skip, .locked .reconcile .skip]

/-- `run_discovery_reconcile`. -/
def runDiscoveryReconcile : Program C :=
  upTo [.locked .rows .skip, addDiscoveredNodes, .locked .rows .skip, establishConnections]

/-- `reconcile_discovery_for_query`; what it spawns is a thread of its own. -/
def reconcileDiscoveryForQuery : Program C :=
  upTo [shouldSkipQueryDiscoveryReconcile, .locked .rows .skip, .locked .pool .skip,
    runDiscoveryReconcile]

/-- The connection of a target of `refresh_stale_cache_for_query`: the second look
into the pool still has it locked when the rows are changed for want of one. -/
def targetConnection : Program C :=
  .seq (.locked .pool .skip)
    (opt (.seq establishConnections (.locked .pool (opt (.locked .rows .skip)))))

/-- The query of a target, and what follows its success or failure. -/
def queryTarget (c : C) : Program C :=
  .seq (queryConnected c)
    (.either (.locked .rows .skip) (upTo [close c, .locked .pool .skip, .locked .rows .skip]))

/-- `refresh_stale_cache_for_query`. -/
def refreshStaleCacheForQuery : Program C :=
  .seq (.locked .rows .skip) (.loop (upTo [targetConnection, .pick queryTarget]))

/-- `build_query_response`, which looks names up one by one. -/
def buildQueryResponse : Program C :=
  .loop (upTo [.locked .usernames .skip, .locked .usernames .skip])

/-- `shutdown`, of a debug build. -/
def shutdown : Program C :=
  .seq (.locked .pool .skip) (.loop (.pick fun c => all [hostname c, disconnect c, hostname c]))

/-- `disconnect_hostname`, of a debug build. -/
def disconnectHostname : Program C :=
  all [.locked .pool (.loop (.pick hostname)),
    .loop (.seq (.locked .pool .skip)
      (.pick fun c => all [hostname c, disconnect c, hostname c])),
    .locked .rows .skip]

/-- `handle_command`: `QUERY`, `LIST`, and the two commands of a debug build. -/
def handleCommand : Program C :=
  .either
    (upTo [reconcileDiscoveryForQuery, refreshStaleCacheForQuery,
      .locked .rows buildQueryResponse])
    (.either (.locked .rows .skip) (.either shutdown disconnectHostname))

end Programs

/-! ### The threads -/

/-- The threads of the backend. -/
inductive Role
  /-- `handle_client`, of a frontend. -/
  | frontend
  /-- The loop of `spawn_announce_listener`. -/
  | announceListener
  /-- A reconcile that a query has spawned. -/
  | reconcile
  /-- The connections to what `main` has discovered. -/
  | startup
  deriving DecidableEq

/-- What a thread runs. -/
def Role.program {C : Type*} : Role → Program C
  | .frontend => .loop handleCommand
  | .announceListener => .loop (.seq addDiscoveredNodes (opt establishConnections))
  | .reconcile => runDiscoveryReconcile
  | .startup => establishConnections

/-- A backend, with any number of threads of each role. -/
def lockSystem {τ : Type*} [DecidableEq τ] (C : Type*) (roles : τ → Role) :
    Lts (τ → List (Instr (Lock C) C)) τ :=
  Locks.system fun t => (roles t).program

/-! ### Every function takes its locks upwards -/

section Ascends

variable {C : Type*} {h : List (Lock C)} {n : ℕ}

/-- All locks held are of a rank below `n`. -/
def Below (n : ℕ) (h : List (Lock C)) : Prop := ∀ m ∈ h, m.rank < n

/-- No lock is held. -/
theorem below_nil : Below n ([] : List (Lock C)) := nofun

/-- A lock of a rank below `n`, on top of such locks. -/
theorem Below.cons {l : Lock C} (hl : l.rank < n) (hh : Below n h) : Below n (l :: h) :=
  List.forall_mem_cons.2 ⟨hl, hh⟩

/-- With the pool locked. -/
theorem below_pool (hn : 0 < n) : Below n [(.pool : Lock C)] := .cons hn below_nil

/-- The hostname is read under the lock of the metadata, which nothing is
locked inside of. -/
theorem ascends_hostname (hh : Below 2 h) (c : C) : (hostname c).Ascends Lock.rank h :=
  ascends_locked_skip hh

/-- The devices are counted under the same lock. -/
theorem ascends_gresNum (hh : Below 2 h) (c : C) : (gresNum c).Ascends Lock.rank h :=
  ascends_locked_skip hh

/-- Disconnecting locks the io, for which nothing but the pool may be held. -/
theorem ascends_disconnect (hh : Below 1 h) (c : C) : (disconnect c).Ascends Lock.rank h :=
  ascends_locked_skip hh

/-- A query to a connection takes its io lock first and the metadata lock
inside it. -/
theorem ascends_queryConnected (c : C) : (queryConnected c).Ascends Lock.rank [] := by
  refine .locked below_nil (.opt (ascends_upTo ?_))
  have hmetadata : (.locked (.metadata c) .skip : Program C).Ascends Lock.rank [.io c] :=
    ascends_locked_skip (Below.cons Nat.one_lt_two below_nil)
  simp [hmetadata]

/-- With nothing locked, any lock may be taken. -/
theorem ascends_alone (l : Lock C) : (.locked l .skip : Program C).Ascends Lock.rank [] :=
  ascends_locked_skip nofun

/-- Adding discovered nodes takes the lock of the rows alone. -/
theorem ascends_addDiscoveredNodes : (addDiscoveredNodes : Program C).Ascends Lock.rank [] :=
  .opt (ascends_alone .rows)

/-- The row of a new connection is written with the rows locked; its hostname
and its devices are read inside that. -/
theorem ascends_upsertConnectionPlaceholder (c : C) :
    (upsertConnectionPlaceholder c).Ascends Lock.rank [] := by
  have hrows : Below 2 [(.rows : Lock C)] := .cons Nat.one_lt_two below_nil
  refine .locked below_nil (.opt (ascends_all ?_))
  simp [ascends_hostname hrows, ascends_gresNum hrows]

/-- With the pool locked, installing a connection reads hostnames, disconnects
and changes the rows: all of these rank above the pool. -/
theorem ascends_installConnection (c : C) : (installConnection c).Ascends Lock.rank [.pool] := by
  have h1 : Below 1 [(.pool : Lock C)] := below_pool Nat.one_pos
  have h2 : Below 2 [(.pool : Lock C)] := below_pool Nat.two_pos
  have hfind : ∀ existing : C, (all [hostname existing, hostname c]).Ascends Lock.rank [.pool] :=
    fun existing => ascends_all (by simp [ascends_hostname h2])
  have hrows : (.locked .rows .skip : Program C).Ascends Lock.rank [.pool] :=
    ascends_locked_skip h1
  have hreplace : ∀ existing : C, (replaceExisting c existing).Ascends Lock.rank [.pool] :=
    fun existing => ascends_all (by simp [ascends_hostname h2, ascends_disconnect h1, hrows])
  refine .either (ascends_disconnect h1 c) (ascends_all ?_)
  intro p hp
  simp only [List.mem_cons, List.not_mem_nil, or_false] at hp
  rcases hp with rfl | rfl | rfl
  · exact hfind
  · exact .opt hreplace
  · exact .opt (ascends_disconnect h1 c)

/-- Connecting to one address: the set of reservations, then the pool, then
the rows, none inside another but what `install_connection` takes. -/
theorem ascends_establishOneConnection :
    (establishOneConnection : Program C).Ascends Lock.rank [] := by
  have hconnected : ∀ c : C, (all [hostname c, gresNum c,
      upsertConnectionPlaceholder c]).Ascends Lock.rank [] := fun c =>
    ascends_all (by simp [ascends_hostname below_nil, ascends_gresNum below_nil,
      ascends_upsertConnectionPlaceholder])
  refine ascends_upTo ?_
  intro p hp
  simp only [List.mem_cons, List.not_mem_nil, or_false] at hp
  rcases hp with rfl | rfl | rfl | rfl
  · exact ascends_alone _
  · exact ascends_alone _
  · exact ascends_alone _
  · intro c
    refine ascends_upTo ?_
    simp only [List.forall_mem_cons, List.not_mem_nil, false_implies, implies_true, and_true]
    exact ⟨.locked nofun (ascends_installConnection c), hconnected c⟩

/-- Connecting to several addresses is doing so one after the other. -/
theorem ascends_establishConnections : (establishConnections : Program C).Ascends Lock.rank [] :=
  ⟨ascends_alone .rows, ascends_establishOneConnection⟩

/-- A discovery, which may end after any of its steps: nothing is held between
two of them. -/
theorem ascends_runDiscoveryReconcile :
    (runDiscoveryReconcile : Program C).Ascends Lock.rank [] :=
  ascends_upTo (by simp [ascends_alone, ascends_addDiscoveredNodes, ascends_establishConnections])

/-- The discovery before a query, under the limit on its rate. -/
theorem ascends_reconcileDiscoveryForQuery :
    (reconcileDiscoveryForQuery : Program C).Ascends Lock.rank [] := by
  have hskip : (shouldSkipQueryDiscoveryReconcile : Program C).Ascends Lock.rank [] :=
    ascends_upTo (by simp [ascends_alone])
  exact ascends_upTo (by simp [hskip, ascends_alone, ascends_runDiscoveryReconcile])

/-- Finding the connection of a target: that of the pool, or else a new one,
for which the pool is locked and the rows inside it. -/
theorem ascends_targetConnection : (targetConnection : Program C).Ascends Lock.rank [] := by
  have hrows : (.locked .rows .skip : Program C).Ascends Lock.rank [.pool] :=
    ascends_locked_skip (below_pool Nat.one_pos)
  exact ⟨ascends_alone .pool, .opt ⟨ascends_establishConnections, .locked nofun hrows.opt⟩⟩

/-- Querying a target: the locks of the connection, then that of the rows;
after a failure those of the pool and of the rows, one after the other. -/
theorem ascends_queryTarget (c : C) : (queryTarget c).Ascends Lock.rank [] := by
  have hfailed : (upTo [close c, .locked .pool .skip, .locked .rows .skip]).Ascends
      Lock.rank [] := ascends_upTo (by simp [close, ascends_alone, Ascends.opt])
  exact ⟨ascends_queryConnected c, ascends_alone .rows, hfailed⟩

/-- Refreshing reads the stale rows first, and gives their lock back before it
connects to anything. -/
theorem ascends_refreshStaleCacheForQuery :
    (refreshStaleCacheForQuery : Program C).Ascends Lock.rank [] := by
  have hquery : (.pick queryTarget : Program C).Ascends Lock.rank [] := ascends_queryTarget
  exact ⟨ascends_alone .rows, ascends_upTo (by simp [ascends_targetConnection, hquery])⟩

/-- With the rows locked, building the response takes the lock of the user
names, which ranks above them. -/
theorem ascends_buildQueryResponse :
    (buildQueryResponse : Program C).Ascends Lock.rank [.rows] := by
  have hnames : (.locked .usernames .skip : Program C).Ascends Lock.rank [.rows] :=
    ascends_locked_skip (Below.cons Nat.one_lt_two below_nil)
  exact ascends_upTo (by simp [hnames])

/-- What `shutdown` and `disconnect_hostname` do with a connection. -/
theorem ascends_disconnecting (c : C) :
    (all [hostname c, disconnect c, hostname c]).Ascends Lock.rank [] :=
  ascends_all (by simp [ascends_hostname below_nil, ascends_disconnect below_nil])

/-- Disconnecting a hostname: the pool with the metadata inside it, the pool
once more, each connection, and the rows at the end. -/
theorem ascends_disconnectHostname : (disconnectHostname : Program C).Ascends Lock.rank [] := by
  refine ascends_all ?_
  simp only [List.forall_mem_cons, List.not_mem_nil, false_implies, implies_true, and_true]
  exact ⟨.locked nofun fun c => ascends_hostname (below_pool Nat.two_pos) c,
    ⟨ascends_alone .pool, ascends_disconnecting⟩, ascends_alone .rows⟩

/-- **Each command ascends**, whichever it is: `QUERY` and `LIST`, and the two
of a debug build. -/
theorem ascends_handleCommand : (handleCommand : Program C).Ascends Lock.rank [] := by
  have hrespond : (.locked .rows buildQueryResponse : Program C).Ascends Lock.rank [] :=
    .locked nofun ascends_buildQueryResponse
  refine .either (ascends_upTo ?_) (.either (ascends_alone .rows) (.either ?_ ?_))
  · simp [ascends_reconcileDiscoveryForQuery, ascends_refreshStaleCacheForQuery, hrespond]
  · exact ⟨ascends_alone .pool, ascends_disconnecting⟩
  · exact ascends_disconnectHostname

/-- **Every thread takes its locks upwards**, whatever it has been started
for; with this the general theorem about ascending programs applies. -/
theorem ascends_program (role : Role) : (role.program : Program C).Ascends Lock.rank [] := by
  cases role with
  | frontend => exact ascends_handleCommand
  | announceListener => exact ⟨ascends_addDiscoveredNodes, ascends_establishConnections.opt⟩
  | reconcile => exact ascends_runDiscoveryReconcile
  | startup => exact ascends_establishConnections

end Ascends

/-- **The backend cannot deadlock on its own locks.**  Whatever threads it has, whatever
commands, announces and connections they are busy with, and however their steps
interleave: there is no circle of threads each of which holds a lock and waits for
one that the next one holds. -/
theorem no_deadlock {τ C : Type*} [DecidableEq τ] {roles : τ → Role}
    {s : τ → List (Instr (Lock C) C)} (h : (lockSystem C roles).Reachable s) : ¬ Deadlocked s :=
  not_deadlocked_of_reachable (fun t => ascends_program (roles t)) h

/-- The rest of a reconcile that is about to lock the rows, or has locked them. -/
def afterRows : List (Instr (Lock Unit) Unit) :=
  [.run (opt (upTo [addDiscoveredNodes, .locked .rows .skip, establishConnections]))]

/-- Two reconciles that begin together. -/
def contended (t : Bool) : List (Instr (Lock Unit) Unit) :=
  if t then .run (.locked .rows .skip) :: afterRows else .run .skip :: .unlock .rows :: afterRows

/-- One of two reconciles waits for the other, and they are not deadlocked. -/
theorem no_deadlock_contended : WaitsFor contended true false ∧ ¬ Deadlocked contended := by
  let start : Bool → List (Instr (Lock Unit) Unit) := fun _ => [.run runDiscoveryReconcile]
  let begun : List (Instr (Lock Unit) Unit) := .run (.locked .rows .skip) :: afterRows
  have hbegin : ∀ free, Step free [.run runDiscoveryReconcile] begun := fun free => .seq _ _ []
  have hinit : (lockSystem Unit fun _ : Bool => .reconcile).Reachable start := .of_init rfl
  have hfalse := hinit.step ⟨begun, hbegin _, rfl⟩ (a := false)
  have htrue := hfalse.step ⟨begun, hbegin _, rfl⟩ (a := true)
  have hfree : Free (Function.update (Function.update start false begun) true begun) .rows := by
    intro t
    cases t <;> exact List.not_mem_nil
  have hlocked := htrue.step ⟨_, .lock .skip afterRows hfree, rfl⟩ (a := false)
  have heq : Function.update (Function.update (Function.update start false begun) true begun) false
      (.run .skip :: .unlock .rows :: afterRows) = contended := by
    funext t
    cases t <;> rfl
  rw [heq] at hlocked
  exact ⟨⟨.rows, ⟨.skip, afterRows, rfl⟩, List.mem_cons_self⟩, no_deadlock hlocked⟩

end Locking
end Backend
end Clustat
