/-
# Connections and rows of the backend

`crates/client-backend/src/local_api.rs`: the backend holds a pool of
connections, at most one for an address and a host, and the rows of
`cache.rs`.  Discovery adds rows (`add_discovered_nodes`), connecting adds
connections and gives their rows a new id (`establish_connections`), and a query
refreshes the stale rows, connecting where it has to
(`refresh_stale_cache_for_query`).

Each function that holds a lock is a function on the state here, and the three
operations are composed of them as they run when nothing else does.  What is
outside of the program is a parameter: what a connect and a query come to, the
clock, and the order in which a hash map is iterated.
-/

import Clustat.Backend.Cache
import Clustat.Lib.Lts

namespace Clustat
namespace Backend

/-- What of the configuration is used: `max_connections`, `cache_ttl_ms`, and the
names that appear in error texts. -/
structure Config where
  maxConnections : ℕ
  cacheTtlMs : UInt64
  protocol : String
  printed : SocketAddr → String

/-- An order in which a hash map is iterated: of all its entries, and any. -/
structure Iteration (κ ν : Type) where
  entries : Table κ ν → List (κ × ν)
  perm : ∀ m : Table κ ν, (entries m).Perm (m.entries.map fun e => (e.1, e.2))

/-- The order of the list. -/
def Iteration.list (κ ν : Type) : Iteration κ ν where
  entries m := m.entries.map fun e => (e.1, e.2)
  perm _ := .refl _

/-- A `SharedServerConnection`: a shared object of its own for an address. -/
structure Connection where
  serial : ℕ
  addr : SocketAddr
  deriving DecidableEq

/-- `LocalApiState`, less its configuration and its locks, and the metadata that
the connections share. -/
structure LocalApiState where
  rows : CacheMap
  connections : Table SocketAddr Connection := ∅
  connecting : List SocketAddr := []
  metadata : ℕ → HostMetadata := fun _ => { hostname := "", driverVersion := none, gres := [] }
  nextSerial : ℕ := 0

namespace LocalApiState

/-- `ServerConnection::hostname`. -/
def hostname (s : LocalApiState) (c : Connection) : String := (s.metadata c.serial).hostname

/-- `ServerConnection::gres_num`. -/
def gresNum (s : LocalApiState) (c : Connection) : UInt8 :=
  Backend.gresNum (s.metadata c.serial).gres

/-! ### Discovery -/

/-- One node of `add_discovered_nodes`: a known host is skipped, and a known
address keeps its row. -/
def addDiscoveredNode (indexBase : ℕ) (rows : CacheMap) (x : DiscoveredNode × ℕ) : CacheMap :=
  let (node, idx) := x
  if rows.values.any fun entry => entry.hostname == node.hostname then rows
  else if node.addr.cacheKey ∈ rows then rows
  else rows.insert node.addr.cacheKey (.discovered (connectionId (indexBase + idx + 1)) node)

/-- `add_discovered_nodes`. -/
def addDiscoveredNodes (s : LocalApiState) (nodes : List DiscoveredNode) : LocalApiState :=
  { s with rows := nodes.zipIdx.foldl (addDiscoveredNode s.rows.size) s.rows }

/-! ### Connecting -/

/-- The first lock of `establish_one_connection`: no connection for the address
yet, and room for one. -/
def mayConnect (cfg : Config) (s : LocalApiState) (addr : SocketAddr) : Bool :=
  addr ∉ s.connections ∧ s.connections.size < cfg.maxConnections

/-- `connecting.insert`. -/
def reserve (s : LocalApiState) (addr : SocketAddr) : Option LocalApiState :=
  if addr ∈ s.connecting then none else some { s with connecting := addr :: s.connecting }

/-- `connecting.remove`. -/
def unreserve (s : LocalApiState) (addr : SocketAddr) : LocalApiState :=
  { s with connecting := s.connecting.filter (· ≠ addr) }

/-- `connect_node`, when the server answers the handshake. -/
def connectNode (s : LocalApiState) (addr : SocketAddr) (metadata : HostMetadata) :
    LocalApiState × Connection :=
  ({ s with
      metadata := Function.update s.metadata s.nextSerial metadata
      nextSerial := s.nextSerial + 1 },
    { serial := s.nextSerial, addr })

/-- A pooled connection to the same host. -/
def existing? (s : LocalApiState) (order : Iteration SocketAddr Connection) (c : Connection) :
    Option (SocketAddr × Connection) :=
  (order.entries s.connections).find? fun (_, existing) => s.hostname existing == s.hostname c

/-- A pooled connection gives way, with its row. -/
def replaceExisting (s : LocalApiState) (existing : SocketAddr × Connection) : LocalApiState :=
  { s with
    connections := s.connections.erase existing.1
    rows := s.rows.erase existing.2.addr.cacheKey }

/-- The removal of a connection to the same host, should there be one. -/
def makeWay (s : LocalApiState) (order : Iteration SocketAddr Connection) (c : Connection) :
    LocalApiState :=
  match s.existing? order c with
  | some existing => s.replaceExisting existing
  | none => s

/-- The second lock of `establish_one_connection`: the state after it, and whether
the connection is in the pool. -/
def install (cfg : Config) (s : LocalApiState) (order : Iteration SocketAddr Connection)
    (addr : SocketAddr) (c : Connection) : LocalApiState × Bool :=
  if addr ∈ s.connections then (s, false)
  else
    let s := s.makeWay order c
    if cfg.maxConnections ≤ s.connections.size then (s, false)
    else ({ s with connections := s.connections.insert addr c }, true)

/-- The row of a new connection: that of its address, renewed, or a first one. -/
def placeholder (s : LocalApiState) (index : ℕ) (c : Connection) (nowMs : Int64) :
    ConnectionCacheEntry :=
  match s.rows.lookup c.addr.cacheKey with
  | some entry =>
    { entry with
      connectionId := connectionId index, hostname := s.hostname c, num := s.gresNum c }
  | none =>
    { connectionId := connectionId index, hostname := s.hostname c, num := s.gresNum c
      recordTimestamp := nowMs, addr := c.addr }

/-- `upsert_connection_placeholder`. -/
def upsertConnectionPlaceholder (s : LocalApiState) (index : ℕ) (c : Connection) (nowMs : Int64) :
    LocalApiState :=
  { s with rows := s.rows.insert c.addr.cacheKey (s.placeholder index c nowMs) }

/-- What a connect meets: its result, the order of the pool, and the clock. -/
structure ConnectEnv where
  result : Except String HostMetadata
  order : Iteration SocketAddr Connection
  nowMs : Int64

/-- `establish_one_connection` up to its placeholder: the connection, if it is in
the pool. -/
def connectOne (cfg : Config) (s : LocalApiState) (addr : SocketAddr) (env : ConnectEnv) :
    LocalApiState × Option Connection :=
  if s.mayConnect cfg addr then
    match s.reserve addr with
    | none => (s, none)
    | some s =>
      match env.result with
      | .error _ => (s.unreserve addr, none)
      | .ok metadata =>
        let (s, c) := s.connectNode addr metadata
        match (s.unreserve addr).install cfg env.order addr c with
        | (s, true) => (s, some c)
        | (s, false) => (s, none)
  else (s, none)

/-- `establish_one_connection`. -/
def establishOneConnection (cfg : Config) (s : LocalApiState) (index : ℕ) (addr : SocketAddr)
    (env : ConnectEnv) : LocalApiState :=
  match s.connectOne cfg addr env with
  | (s, none) => s
  | (s, some c) => s.upsertConnectionPlaceholder index c env.nowMs

/-- One node of `establish_connections`. -/
def establishNode (cfg : Config) (indexBase : ℕ) (env : ℕ → ConnectEnv) (s : LocalApiState)
    (x : DiscoveredNode × ℕ) : LocalApiState :=
  let (node, idx) := x
  s.establishOneConnection cfg (indexBase + idx + 1) node.addr (env idx)

/-- `establish_connections`. -/
def establishConnections (cfg : Config) (s : LocalApiState) (nodes : List DiscoveredNode)
    (env : ℕ → ConnectEnv) : LocalApiState :=
  nodes.zipIdx.foldl (establishNode cfg s.rows.size env) s

/-! ### Refreshing -/

/-- `RefreshTarget`. -/
structure RefreshTarget where
  connectionId : String
  hostname : String
  addr : SocketAddr
  hadSnapshot : Bool
  deriving DecidableEq

/-- `i64::saturating_sub`. -/
def saturatingSub (a b : Int64) : Int64 :=
  Int64.ofInt (max (-2 ^ 63) (min (2 ^ 63 - 1) (a.toInt - b.toInt)))

/-- A row that has to be refreshed. -/
def isStale (cfg : Config) (nowMs : Int64) (entry : ConnectionCacheEntry) : Bool :=
  entry.lastSnapshot.isNone || saturatingSub nowMs entry.recordTimestamp > cfg.cacheTtlMs.toInt64

/-- `stale_targets`. -/
def staleTargets (cfg : Config) (s : LocalApiState)
    (order : Iteration CacheKey ConnectionCacheEntry) (nowMs : Int64) : List RefreshTarget :=
  (((order.entries s.rows).map Prod.snd).filter (isStale cfg nowMs)).map fun entry =>
    { connectionId := entry.connectionId, hostname := entry.hostname, addr := entry.addr
      hadSnapshot := entry.lastSnapshot.isSome }

/-- The rows when there is no connection for a target. -/
def unavailable (cfg : Config) (s : LocalApiState) (target : RefreshTarget) (nowMs : Int64) :
    LocalApiState :=
  let error := "no " ++ cfg.protocol ++ " connection for " ++ cfg.printed target.addr
  if target.hadSnapshot then
    { s with
      rows := markStale s.rows target.connectionId target.addr target.hostname error nowMs }
  else { s with rows := s.rows.erase target.addr.cacheKey }

/-- What a query does to the metadata of its connection. -/
def setMetadata (s : LocalApiState) (c : Connection) (metadata : HostMetadata) : LocalApiState :=
  { s with metadata := Function.update s.metadata c.serial metadata }

/-- The row after a query that succeeds. -/
def storeSnapshot (s : LocalApiState) (target : RefreshTarget) (snapshot : ServerGresSnapshot)
    (latencyUs : UInt64) (nowMs : Int64) : LocalApiState :=
  { s with
    rows := upsertSnapshot s.rows target.connectionId target.addr snapshot (some latencyUs) nowMs }

/-- The pool after a query that fails. -/
def evictConnection (s : LocalApiState) (target : RefreshTarget) : LocalApiState :=
  { s with connections := s.connections.erase target.addr }

/-- The rows after a query that fails. -/
def removeRow (s : LocalApiState) (target : RefreshTarget) : LocalApiState :=
  { s with rows := s.rows.erase target.addr.cacheKey }

/-- What a target meets: its connect, should there be one, what the query comes to
(the snapshot, and the metadata the connection then has) and takes, and the clock. -/
structure TargetEnv where
  connect : ConnectEnv
  query : Except String (ServerGresSnapshot × HostMetadata)
  latencyUs : UInt64
  nowMs : Int64

/-- The query of a target. -/
def queryTarget (s : LocalApiState) (target : RefreshTarget) (c : Connection) (env : TargetEnv) :
    LocalApiState :=
  match env.query with
  | .ok (snapshot, metadata) =>
    (s.setMetadata c metadata).storeSnapshot target snapshot env.latencyUs env.nowMs
  | .error _ => (s.evictConnection target).removeRow target

/-- One target of `refresh_stale_cache_for_query`. -/
def refreshTarget (cfg : Config) (s : LocalApiState) (target : RefreshTarget) (env : TargetEnv) :
    LocalApiState :=
  match s.connections.lookup target.addr with
  | some c => s.queryTarget target c env
  | none =>
    let node : DiscoveredNode :=
      { hostname := target.hostname, addr := target.addr, tsMs := env.nowMs }
    let s := s.establishConnections cfg [node] fun _ => env.connect
    match s.connections.lookup target.addr with
    | some c => s.queryTarget target c env
    | none => s.unavailable cfg target env.nowMs

/-- `refresh_stale_cache_for_query`. -/
def refreshStaleCacheForQuery (cfg : Config) (s : LocalApiState)
    (order : Iteration CacheKey ConnectionCacheEntry) (nowMs : Int64) (env : ℕ → TargetEnv) :
    LocalApiState :=
  (s.staleTargets cfg order nowMs).zipIdx.foldl
    (fun s (target, i) => s.refreshTarget cfg target (env i)) s

/-! ### The operations -/

/-- An operation, with what it meets. -/
inductive Op
  | addDiscoveredNodes (nodes : List DiscoveredNode)
  | establishConnections (nodes : List DiscoveredNode) (env : ℕ → ConnectEnv)
  | refreshStaleCacheForQuery (order : Iteration CacheKey ConnectionCacheEntry) (nowMs : Int64)
      (env : ℕ → TargetEnv)

/-- An operation run to completion. -/
def run (cfg : Config) (s : LocalApiState) : Op → LocalApiState
  | .addDiscoveredNodes nodes => s.addDiscoveredNodes nodes
  | .establishConnections nodes env => s.establishConnections cfg nodes env
  | .refreshStaleCacheForQuery order nowMs env => s.refreshStaleCacheForQuery cfg order nowMs env

/-- The backend that starts from what has been discovered, with its operations one
after another. -/
def sequential (cfg : Config) (discovered : List DiscoveredNode) : Lts LocalApiState Op :=
  Lts.ofFn { rows := buildCache discovered } fun s op => some (s.run cfg op)

end LocalApiState
end Backend
end Clustat
