/-
# What the commands do

`handle_command` of `crates/client-backend/src/local_api.rs`, with the rows and the connections
behind it.  `LIST` prints a line for each row.  `QUERY` looks for servers that are not known yet
(`reconcile_discovery_for_query`), asks for what is stale (`refresh_stale_cache_for_query`), and
answers with what the rows are then.  With rows and connections the search is left to a thread of
its own, which is none of the query's; without, the query waits for it.

The two commands show the same rows in the same order (`list_agrees`), so that a line of `LIST`
can be looked up in the answer to a query.
-/

import Clustat.Backend.Commands
import Clustat.Backend.RateLimit
import Clustat.Backend.Response

namespace Clustat
namespace Backend

open LocalApiState

/-- What the commands read of the configuration. -/
structure BackendConfig extends Config where
  discoverWaitMs : ℕ

/-- The rows and the connections, and `last_discovery_reconcile_ms`. -/
structure BackendState where
  api : LocalApiState
  lastDiscoveryReconcileMs : Int64 := 0

/-- What a query meets: the clocks, what comes of the search for servers, of a connect to an
address and of the refresh of one, and the orders of the hash maps. -/
structure QueryEnv where
  nowMs : Int64
  multicastNodes : Except String (List DiscoveredNode)
  staticNodes : Except String (List DiscoveredNode)
  merging : Iteration String DiscoveredNode
  connects : SocketAddr → ConnectEnv
  refreshing : Iteration CacheKey ConnectionCacheEntry
  staleAtMs : Int64
  targets : SocketAddr → TargetEnv
  listing : Iteration CacheKey ConnectionCacheEntry
  response : ResponseEnv

/-- A search that fails has found nothing. -/
def foundNodes : Except String (List DiscoveredNode) → List DiscoveredNode
  | .ok nodes => nodes
  | .error _ => []

/-- The nodes of `run_discovery_reconcile`. -/
def QueryEnv.discovered (env : QueryEnv) : List DiscoveredNode :=
  mergeDiscoveredNodes env.merging (foundNodes env.multicastNodes) (foundNodes env.staticNodes)

/-- What the items of a list meet, by their addresses. -/
def meeting {α β : Type} (env : SocketAddr → β) (addr : α → SocketAddr) (l : List α) (i : ℕ) : β :=
  env ((l.map addr).getD i (.v4 0 0))

namespace BackendState

/-- `should_skip_query_discovery_reconcile`. -/
def shouldSkipQueryDiscoveryReconcile (cfg : BackendConfig) (nowMs : Int64) (s : BackendState) :
    Bool × BackendState :=
  let cacheLen := s.api.rows.size
  if cacheLen = 0 then (false, { s with lastDiscoveryReconcileMs := nowMs })
  else if cfg.maxConnections ≤ cacheLen then (true, s)
  else if saturatingSub nowMs s.lastDiscoveryReconcileMs <
      ReconcileState.minIntervalMs cfg.discoverWaitMs then (true, s)
  else (false, { s with lastDiscoveryReconcileMs := nowMs })

/-- `run_discovery_reconcile`. -/
def runDiscoveryReconcile (cfg : BackendConfig) (env : QueryEnv) (s : BackendState) :
    BackendState :=
  let discovered := env.discovered
  if discovered.isEmpty then s
  else
    let api := s.api.addDiscoveredNodes discovered
    { s with
      api := api.establishConnections cfg.toConfig discovered
        (meeting env.connects DiscoveredNode.addr discovered) }

/-- `reconcile_discovery_for_query`. -/
def reconcileDiscoveryForQuery (cfg : BackendConfig) (env : QueryEnv) (s : BackendState) :
    BackendState :=
  match s.shouldSkipQueryDiscoveryReconcile cfg env.nowMs with
  | (true, s) => s
  | (false, s) =>
    if 0 < s.api.rows.size ∧ 0 < s.api.connections.size then s
    else s.runDiscoveryReconcile cfg env

/-- `refresh_stale_cache_for_query`. -/
def refreshStaleCacheForQuery (cfg : BackendConfig) (env : QueryEnv) (s : BackendState) :
    BackendState :=
  let targets := s.api.staleTargets cfg.toConfig env.refreshing env.staleAtMs
  { s with
    api := s.api.refreshStaleCacheForQuery cfg.toConfig env.refreshing env.staleAtMs
      (meeting env.targets RefreshTarget.addr targets) }

/-- The backend when it answers a query. -/
def prepare (cfg : BackendConfig) (env : QueryEnv) (s : BackendState) : BackendState :=
  (s.reconcileDiscoveryForQuery cfg env).refreshStaleCacheForQuery cfg env

/-- `QUERY`; there is no response if `NodeFilter::parse` panics. -/
def query (cfg : BackendConfig) (env : QueryEnv) (s : BackendState) (filter user : Option String) :
    Option QueryResponse × BackendState :=
  let s := s.prepare cfg env
  (buildQueryResponse env.response env.listing s.api.rows filter user, s)

end BackendState

/-- A line of `LIST`. -/
def listLine (n : ConnectionCacheEntry) : String :=
  n.connectionId ++ " " ++ n.hostname ++ " " ++ n.addr.printed ++ " " ++
    toString n.recordTimestamp.toInt ++ "\n"

/-- `LIST`. -/
def listText (order : Iteration CacheKey ConnectionCacheEntry) (rows : CacheMap) : String :=
  let entries := ((order.entries rows).map Prod.snd).mergeSort fun a b =>
    a.connectionId ≤ b.connectionId
  String.join (entries.map listLine)

/-- The commands of a backend; what the queries meet comes one after the other.  A panic ends
the thread of the connection, as an error does. -/
def service (cfg : BackendConfig) : Service (BackendState × (ℕ → QueryEnv)) where
  list s := listText (s.2 0).listing s.1.api.rows
  query s filter user :=
    match s.1.query cfg (s.2 0) filter user with
    | (some resp, s') => .ok (resp, s', fun n => s.2 (n + 1))
    | (none, _) => .error "Formatting argument out of range"

/-! ### The two commands -/

/-- The empty filter matches every row. -/
theorem matchesFilter_nil (entry : ConnectionCacheEntry) : entry.matchesFilter ⟨[]⟩ = true := rfl

/-- Without a filter, all rows are shown. -/
theorem query_unfiltered (env : ResponseEnv) (order : Iteration CacheKey ConnectionCacheEntry)
    (rows : CacheMap) (user : Option String) :
    ∃ resp, buildQueryResponse env order rows none user = some resp ∧
      resp.nodes = (((order.entries rows).map Prod.snd).mergeSort fun a b =>
        a.connectionId ≤ b.connectionId).map
          fun entry => applyUserFilter user (nodeViewFromEntry env entry) := by
  refine ⟨_, buildQueryResponse_of_parse user (f := ⟨[]⟩) rfl order rows, ?_⟩
  rw [nodes_filteredResponse, List.filter_eq_self.2 fun entry _ => matchesFilter_nil entry]

/-- **`LIST` and `QUERY` agree.**  Where connection ids are distinct, the lines of `LIST` are of
the rows that the nodes of a query without a filter show, in the same order, whatever the orders
of the hash map. -/
theorem list_agrees (env : ResponseEnv) (order order' : Iteration CacheKey ConnectionCacheEntry)
    {rows : CacheMap} (hrows : rows.Distinct ConnectionCacheEntry.connectionId)
    (user : Option String) :
    ∃ (entries : List ConnectionCacheEntry) (resp : QueryResponse), entries.Perm rows.values ∧
      listText order rows = String.join (entries.map listLine) ∧
      buildQueryResponse env order' rows none user = some resp ∧
      List.Forall₂ (Shows env user) entries resp.nodes := by
  have hperm : ((order'.entries rows).map Prod.snd).Perm ((order.entries rows).map Prod.snd) :=
    (listing_perm order' rows).trans (listing_perm order rows).symm
  have hdistinct : (((order'.entries rows).map Prod.snd).map
      ConnectionCacheEntry.connectionId).Nodup :=
    ((listing_perm order' rows).map _).nodup_iff.2 (Keyed.nodup_values hrows)
  obtain ⟨resp, hresp, hnodes⟩ := query_unfiltered env order' rows user
  refine ⟨_, resp, (List.mergeSort_perm _ _).trans (listing_perm order rows), rfl, hresp, ?_⟩
  rw [hnodes, Keyed.mergeSort_eq_of_perm hperm hdistinct]
  exact List.forall₂_map_right_iff.2 (List.forall₂_same.2 fun entry _ => shows_applyUserFilter user)

/-- The rows of two nodes have ids of their own. -/
theorem list_agrees_two :
    ∃ (entries : List ConnectionCacheEntry) (resp : QueryResponse), entries.Perm twoRows.values ∧
      listText (.list _ _) twoRows = String.join (entries.map listLine) ∧
      buildQueryResponse quietEnv (.list _ _) twoRows none none = some resp ∧
      List.Forall₂ (Shows quietEnv none) entries resp.nodes := by
  refine list_agrees quietEnv (.list _ _) (.list _ _) (fun k k' v v' hv hv' heq => ?_) none
  have hdistinct : ∀ x ∈ twoRows.entries, ∀ y ∈ twoRows.entries,
      x.2.connectionId = y.2.connectionId → x.1 = y.1 := by decide +kernel
  exact hdistinct ⟨k, v⟩ (AList.mem_lookup_iff.1 hv) ⟨k', v'⟩ (AList.mem_lookup_iff.1 hv') heq

end Backend
end Clustat
