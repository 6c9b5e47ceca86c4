/-
# Every row is accounted for after a refresh

`refresh_stale_cache_for_query` of `crates/client-backend/src/local_api.rs` takes the list of its
targets before it starts, and what it does for one of them (it may connect, which adds a row or
renews one, and takes another connection to the same host out with its row) changes what the next
ones meet.  A target comes to one of five ends, and each of them writes the row of the target or
removes it, after everything else that is done for it.

So after a refresh a row that was no target is as it was, or gone, and the row of a target is what
the target came to, or gone (`lookup_refreshTargets`).  A target whose query fails loses its row
and its connection, and no later one brings them back (`failed_refreshTargets`).
-/

import Clustat.Backend.ConnectionIds
import Clustat.Backend.Pool
import Clustat.Lib.Keyed
import Mathlib.Data.Set.Function

namespace Clustat
namespace Backend
namespace LocalApiState

open Table

/-- Rows and connections are under their own addresses, and ip and port tell these addresses
apart. -/
structure KeyedByAddress (s : LocalApiState) : Prop where
  rows : Keyed s.rows
  pool : ∀ a c, s.connections.lookup a = some c → c.addr = a
  identified : Set.InjOn SocketAddr.cacheKey
    {a | (∃ key entry, s.rows.lookup key = some entry ∧ entry.addr = a) ∨ a ∈ s.connections}

/-- A query of a refresh: its target, the connection, and what it came to. -/
structure Query where
  target : RefreshTarget
  connection : Connection
  result : Except String (ServerGresSnapshot × HostMetadata)

/-- What a refresh has for a target, once it has looked for a connection and maybe made one. -/
def connectTarget (cfg : Config) (s : LocalApiState) (target : RefreshTarget) (env : TargetEnv) :
    LocalApiState × Option Connection :=
  match s.connections.lookup target.addr with
  | some c => (s, some c)
  | none =>
    let node : DiscoveredNode :=
      { hostname := target.hostname, addr := target.addr, tsMs := env.nowMs }
    let s := s.establishConnections cfg [node] fun _ => env.connect
    (s, s.connections.lookup target.addr)

/-- The query of a target, if it comes to one. -/
def queryOf (cfg : Config) (s : LocalApiState) (target : RefreshTarget) (env : TargetEnv) :
    Option Query :=
  (s.connectTarget cfg target env).2.map fun connection =>
    { target, connection, result := env.query }

/-- The targets of a refresh, one after another. -/
def refreshTargets (cfg : Config) (env : ℕ → TargetEnv) (s : LocalApiState)
    (targets : List (RefreshTarget × ℕ)) : LocalApiState :=
  targets.foldl (fun s (target, i) => s.refreshTarget cfg target (env i)) s

/-- And their queries. -/
def targetQueries (cfg : Config) (env : ℕ → TargetEnv) :
    LocalApiState → List (RefreshTarget × ℕ) → List Query
  | _, [] => []
  | s, (target, i) :: targets =>
    (s.queryOf cfg target (env i)).toList ++
      targetQueries cfg env (s.refreshTarget cfg target (env i)) targets

/-- The queries of a refresh. -/
def refreshQueries (cfg : Config) (s : LocalApiState)
    (order : Iteration CacheKey ConnectionCacheEntry) (nowMs : Int64) (env : ℕ → TargetEnv) :
    List Query :=
  targetQueries cfg env s (s.staleTargets cfg order nowMs).zipIdx

/-- What a refresh can have written into a row: the snapshot that one of its queries returned, or
that there is no connection. -/
inductive Renewed (queries : List Query) (entry : ConnectionCacheEntry) : Prop
  | queried {q : Query} {snapshot : ServerGresSnapshot} {metadata : HostMetadata}
      (hquery : q ∈ queries) (hresult : q.result = .ok (snapshot, metadata))
      (haddr : q.connection.addr = entry.addr) (hsnapshot : entry.lastSnapshot = some snapshot)
      (herror : entry.lastError = none)
  | unavailable (hsnapshot : entry.lastSnapshot = none) (herror : entry.lastError.isSome)

/-- A row that one of the queries has renewed is one that one of more queries
has. -/
theorem Renewed.mono {queries queries' : List Query} {entry : ConnectionCacheEntry}
    (h : Renewed queries entry) (hsub : ∀ q ∈ queries, q ∈ queries') : Renewed queries' entry := by
  cases h with
  | queried hquery hresult haddr hsnapshot herror =>
    exact .queried (hsub _ hquery) hresult haddr hsnapshot herror
  | unavailable hsnapshot herror => exact .unavailable hsnapshot herror

section Steps

variable {cfg : Config} {s : LocalApiState} {addr : SocketAddr} {target : RefreshTarget}
  {env : ConnectEnv} {tenv : TargetEnv}

/-! ### One target -/

/-- Refreshing a target is connecting to it and, where there is a connection
then, asking it. -/
theorem refreshTarget_eq :
    s.refreshTarget cfg target tenv =
      match s.connectTarget cfg target tenv with
      | (s, some c) => s.queryTarget target c tenv
      | (s, none) => s.unavailable cfg target tenv.nowMs := by
  unfold refreshTarget connectTarget
  cases s.connections.lookup target.addr with
  | some c => rfl
  | none =>
    dsimp only
    split <;> simp_all only

/-- What a connect puts into the pool is a connection to its address. -/
theorem lookup_establishOneConnection {index : ℕ} {a : SocketAddr} {c : Connection}
    (h : (s.establishOneConnection cfg index addr env).connections.lookup a = some c) :
    s.connections.lookup a = some c ∨ (a = addr ∧ c.addr = a) := by
  unfold establishOneConnection connectOne reserve at h
  split_ifs at h with hmay hres
  · exact .inl h
  · cases hresult : env.result with
    | error e =>
      rw [hresult] at h
      exact .inl h
    | ok metadata =>
      rw [hresult] at h
      dsimp only [connectNode] at h
      generalize hmade : LocalApiState.unreserve _ addr = made at h
      have hpool : made.connections = s.connections := by rw [← hmade]; rfl
      rcases hinst : made.install cfg env.order addr ⟨s.nextSerial, addr⟩ with ⟨s', pooled⟩
      rw [hinst] at h
      rcases install_cases hinst with ⟨-, rfl, rfl⟩ | ⟨-, -, rfl, rfl⟩ | ⟨-, -, rfl, rfl⟩
      · exact .inl (hpool ▸ h)
      · exact .inl (hpool ▸ lookup_makeWay h)
      · dsimp only [upsertConnectionPlaceholder] at h
        rw [lookup_insert_eq] at h
        split_ifs at h with ha
        · exact .inr ⟨ha, by rw [← Option.some.inj h, ha]⟩
        · exact .inl (hpool ▸ lookup_makeWay h)
  · exact .inl h

/-- The pool before a target is queried. -/
theorem lookup_connectTarget {a : SocketAddr} {c : Connection}
    (h : (s.connectTarget cfg target tenv).1.connections.lookup a = some c) :
    s.connections.lookup a = some c ∨ (a = target.addr ∧ c.addr = a) := by
  unfold connectTarget at h
  split at h
  · exact .inl h
  · exact lookup_establishOneConnection h

/-- Before a target is queried, rows under other keys can only be removed. -/
theorem connectTarget_off :
    LabelsFromOff id target.addr.cacheKey s.rows (s.connectTarget cfg target tenv).1.rows := by
  unfold connectTarget
  split
  · exact (LabelsFrom.refl _).off _
  · exact establishOneConnection_off _

/-- A target is queried on a connection to its address. -/
theorem addr_of_connectTarget (hpool : ∀ a c, s.connections.lookup a = some c → c.addr = a)
    {c : Connection} (h : (s.connectTarget cfg target tenv).2 = some c) :
    c.addr = target.addr := by
  have hlookup : (s.connectTarget cfg target tenv).1.connections.lookup target.addr = some c := by
    unfold connectTarget at h ⊢
    cases hfound : s.connections.lookup target.addr with
    | some c' =>
      rw [hfound] at h
      exact hfound.trans h
    | none =>
      rw [hfound] at h
      exact h
  obtain hold | ⟨-, hnew⟩ := lookup_connectTarget hlookup
  · exact hpool _ _ hold
  · exact hnew

/-- The pool after a target: what was there, and a connection of its own. -/
theorem lookup_refreshTarget_pool {a : SocketAddr} {c : Connection}
    (h : (s.refreshTarget cfg target tenv).connections.lookup a = some c) :
    s.connections.lookup a = some c ∨ (a = target.addr ∧ c.addr = a) := by
  rw [refreshTarget_eq] at h
  suffices hconnected : (s.connectTarget cfg target tenv).1.connections.lookup a = some c from
    lookup_connectTarget hconnected
  generalize s.connectTarget cfg target tenv = connected at h ⊢
  obtain ⟨s', _ | c'⟩ := connected
  · dsimp only at h ⊢
    rwa [(samePool_unavailable cfg s' target tenv.nowMs).connections] at h
  · dsimp only [queryTarget] at h ⊢
    split at h
    · exact h
    · dsimp only [removeRow, evictConnection] at h
      rw [lookup_erase_eq] at h
      split_ifs at h
      exact h

/-- Refreshing a target keeps the addresses of the pool: each connection stays
under its own. -/
theorem pool_refreshTarget (hpool : ∀ a c, s.connections.lookup a = some c → c.addr = a) :
    ∀ a c, (s.refreshTarget cfg target tenv).connections.lookup a = some c → c.addr = a := by
  intro a c hc
  obtain hold | ⟨-, hnew⟩ := lookup_refreshTarget_pool hc
  · exact hpool a c hold
  · exact hnew

/-- Where nobody can be asked, the row of the target becomes one without a connection, or goes. -/
theorem lookup_unavailable {key : CacheKey} {entry : ConnectionCacheEntry} {nowMs : Int64}
    (h : (s.unavailable cfg target nowMs).rows.lookup key = some entry) :
    (key ≠ target.addr.cacheKey ∧ s.rows.lookup key = some entry) ∨
      key = target.addr.cacheKey ∧ Renewed [] entry := by
  dsimp only [unavailable, markStale] at h
  split_ifs at h
  · rw [lookup_insert_eq] at h
    split_ifs at h with hk
    · obtain rfl := Option.some.inj h
      exact .inr ⟨hk, .unavailable rfl rfl⟩
    · exact .inl ⟨hk, h⟩
  · rw [lookup_erase_eq] at h
    split_ifs at h with hk
    exact .inl ⟨hk, h⟩

/-- A query writes what it returned into the row of the target, or removes it. -/
theorem lookup_queryTarget {key : CacheKey} {entry : ConnectionCacheEntry} {c : Connection}
    (haddr : c.addr = target.addr)
    (h : (s.queryTarget target c tenv).rows.lookup key = some entry) :
    (key ≠ target.addr.cacheKey ∧ s.rows.lookup key = some entry) ∨
      key = target.addr.cacheKey ∧ Renewed [⟨target, c, tenv.query⟩] entry := by
  dsimp only [queryTarget] at h
  split at h
  · rename_i snapshot metadata hresult
    dsimp only [storeSnapshot, setMetadata, upsertSnapshot] at h
    rw [lookup_insert_eq] at h
    split_ifs at h with hk
    · obtain rfl := Option.some.inj h
      exact .inr ⟨hk, .queried (List.mem_singleton_self _) hresult haddr rfl rfl⟩
    · exact .inl ⟨hk, h⟩
  · dsimp only [removeRow, evictConnection] at h
    rw [lookup_erase_eq] at h
    split_ifs at h with hk
    exact .inl ⟨hk, h⟩

/-- **What a target does to the rows**: others can be removed and not changed, and its own is what
it came to, or gone. -/
theorem lookup_refreshTarget {key : CacheKey} {entry : ConnectionCacheEntry}
    (hpool : ∀ a c, s.connections.lookup a = some c → c.addr = a)
    (h : (s.refreshTarget cfg target tenv).rows.lookup key = some entry) :
    (key ≠ target.addr.cacheKey ∧ s.rows.lookup key = some entry) ∨
      key = target.addr.cacheKey ∧ Renewed (s.queryOf cfg target tenv).toList entry := by
  have hoff : LabelsFromOff id target.addr.cacheKey s.rows
      (s.connectTarget cfg target tenv).1.rows := connectTarget_off
  have haddr : ∀ c, (s.connectTarget cfg target tenv).2 = some c → c.addr = target.addr :=
    fun c => addr_of_connectTarget hpool
  rw [refreshTarget_eq] at h
  unfold queryOf
  generalize s.connectTarget cfg target tenv = connected at h hoff haddr ⊢
  obtain ⟨s', c?⟩ := connected
  have hother : key ≠ target.addr.cacheKey → s'.rows.lookup key = some entry →
      s.rows.lookup key = some entry := by
    intro hne hlookup
    obtain ⟨e, he, rfl⟩ := hoff key entry hne hlookup
    exact he
  cases c? with
  | none => exact (lookup_unavailable h).imp_left fun ⟨hne, hlookup⟩ => ⟨hne, hother hne hlookup⟩
  | some c =>
    exact (lookup_queryTarget (haddr c rfl) h).imp_left fun ⟨hne, hlookup⟩ =>
      ⟨hne, hother hne hlookup⟩

/-- **A target whose query fails** loses its row and its connection, each
under its own address. -/
theorem failed_refreshTarget {q : Query} (hq : q ∈ s.queryOf cfg target tenv) {e : String}
    (he : q.result = .error e) :
    q.target = target ∧ target.addr.cacheKey ∉ (s.refreshTarget cfg target tenv).rows ∧
      target.addr ∉ (s.refreshTarget cfg target tenv).connections := by
  rw [refreshTarget_eq]
  unfold queryOf at hq
  generalize s.connectTarget cfg target tenv = connected at hq ⊢
  obtain ⟨s', _ | c⟩ := connected
  · cases hq
  · obtain rfl := Option.some.inj hq
    dsimp only [queryTarget] at he ⊢
    rw [he]
    exact ⟨rfl, fun h => (AList.mem_erase.1 h).1 rfl, fun h => (AList.mem_erase.1 h).1 rfl⟩

/-! ### All targets -/

variable {targets : List (RefreshTarget × ℕ)} {env : ℕ → TargetEnv}

/-- The targets are refreshed one after the other, each with its own outcomes.
-/
theorem refreshTargets_cons (i : ℕ) :
    s.refreshTargets cfg env ((target, i) :: targets) =
      (s.refreshTarget cfg target (env i)).refreshTargets cfg env targets := rfl

/-- The pool after some targets: what was there, and connections of their own. -/
theorem lookup_refreshTargets_pool {a : SocketAddr} {c : Connection}
    (h : (s.refreshTargets cfg env targets).connections.lookup a = some c) :
    s.connections.lookup a = some c ∨ (∃ x ∈ targets, x.1.addr = a) ∧ c.addr = a := by
  induction targets generalizing s with
  | nil => exact .inl h
  | cons x targets ih =>
    rw [refreshTargets_cons] at h
    obtain hlookup | ⟨⟨y, hy, hya⟩, hc⟩ := ih h
    · obtain hold | ⟨ha, hc⟩ := lookup_refreshTarget_pool hlookup
      · exact .inl hold
      · exact .inr ⟨⟨x, List.mem_cons_self, ha.symm⟩, hc⟩
    · exact .inr ⟨⟨y, List.mem_cons_of_mem _ hy, hya⟩, hc⟩

/-- **The rows after some targets**: as they were, if they were none of the targets, or what a
target came to. -/
theorem lookup_refreshTargets {key : CacheKey} {entry : ConnectionCacheEntry}
    (hpool : ∀ a c, s.connections.lookup a = some c → c.addr = a)
    (h : (s.refreshTargets cfg env targets).rows.lookup key = some entry) :
    ((∀ x ∈ targets, x.1.addr.cacheKey ≠ key) ∧ s.rows.lookup key = some entry) ∨
      (∃ x ∈ targets, x.1.addr.cacheKey = key) ∧
        Renewed (targetQueries cfg env s targets) entry := by
  induction targets generalizing s with
  | nil => exact .inl ⟨nofun, h⟩
  | cons x targets ih =>
    rw [refreshTargets_cons] at h
    obtain ⟨hnone, hlookup⟩ | ⟨⟨y, hy, hkey⟩, hrenewed⟩ := ih (pool_refreshTarget hpool) h
    · obtain ⟨hne, hold⟩ | ⟨hkey, hrenewed⟩ := lookup_refreshTarget hpool hlookup
      · exact .inl ⟨List.forall_mem_cons.2 ⟨hne.symm, hnone⟩, hold⟩
      · exact .inr ⟨⟨x, List.mem_cons_self, hkey.symm⟩,
          hrenewed.mono fun q hq => List.mem_append_left _ hq⟩
    · exact .inr ⟨⟨y, List.mem_cons_of_mem _ hy, hkey⟩,
        hrenewed.mono fun q hq => List.mem_append_right _ hq⟩

/-- **No later target brings back** what a failed query has taken away: the
targets have different keys, so none of them has this one's row or connection.
-/
theorem failed_refreshTargets (hpool : ∀ a c, s.connections.lookup a = some c → c.addr = a)
    (hdistinct : ((targets.map Prod.fst).map fun target => target.addr.cacheKey).Nodup)
    {q : Query} (hq : q ∈ targetQueries cfg env s targets) {e : String} (he : q.result = .error e) :
    q.target.addr.cacheKey ∉ (s.refreshTargets cfg env targets).rows ∧
      q.target.addr ∉ (s.refreshTargets cfg env targets).connections := by
  induction targets generalizing s with
  | nil => cases hq
  | cons x targets ih =>
    rw [refreshTargets_cons]
    rw [List.map_cons, List.map_cons, List.nodup_cons] at hdistinct
    obtain hq | hq := List.mem_append.1 hq
    · obtain ⟨htarget, hrow, hconnection⟩ := failed_refreshTarget (Option.mem_toList.1 hq) he
      rw [htarget]
      have hlater : ∀ y ∈ targets, y.1.addr.cacheKey ≠ x.1.addr.cacheKey := fun y hy heq =>
        hdistinct.1 (List.mem_map.2 ⟨y.1, List.mem_map_of_mem hy, heq⟩)
      constructor
      · intro hmem
        obtain ⟨entry, hentry⟩ := Option.isSome_iff_exists.1 (AList.lookup_isSome.2 hmem)
        obtain ⟨-, hold⟩ | ⟨⟨y, hy, heq⟩, -⟩ :=
          lookup_refreshTargets (pool_refreshTarget hpool) hentry
        · exact hrow (AList.lookup_isSome.1 (by rw [hold]; rfl))
        · exact hlater y hy heq
      · intro hmem
        obtain ⟨c, hc⟩ := Option.isSome_iff_exists.1 (AList.lookup_isSome.2 hmem)
        obtain hold | ⟨⟨y, hy, heq⟩, -⟩ := lookup_refreshTargets_pool hc
        · exact hconnection (AList.lookup_isSome.1 (by rw [hold]; rfl))
        · exact hlater y hy (congrArg SocketAddr.cacheKey heq)
    · exact ih (pool_refreshTarget hpool) hdistinct.2 hq

/-- Who is queried is a target. -/
theorem mem_of_mem_targetQueries {q : Query} (hq : q ∈ targetQueries cfg env s targets) :
    ∃ x ∈ targets, x.1 = q.target := by
  induction targets generalizing s with
  | nil => cases hq
  | cons x targets ih =>
    obtain hq | hq := List.mem_append.1 hq
    · obtain ⟨c, -, rfl⟩ := Option.map_eq_some_iff.1 (Option.mem_toList.1 hq)
      exact ⟨x, List.mem_cons_self, rfl⟩
    · obtain ⟨y, hy, htarget⟩ := ih hq
      exact ⟨y, List.mem_cons_of_mem _ hy, htarget⟩

/-- The targets of a refresh are rows of different keys. -/
theorem nodup_staleTargets (hkeyed : Keyed s.rows)
    (order : Iteration CacheKey ConnectionCacheEntry) (nowMs : Int64) :
    ((s.staleTargets cfg order nowMs).map fun target => target.addr.cacheKey).Nodup := by
  have hkeys : (((order.entries s.rows).map Prod.snd).map fun entry =>
      entry.addr.cacheKey).Nodup := Keyed.nodup_listing hkeyed (order.perm s.rows)
  rw [staleTargets, List.map_map]
  exact (List.filter_sublist.map _).nodup hkeys

/-- A row that no target has the key of is fresh. -/
theorem fresh_of_forall_ne (hkeyed : Keyed s.rows)
    (order : Iteration CacheKey ConnectionCacheEntry) {nowMs : Int64} {key : CacheKey}
    {entry : ConnectionCacheEntry} (h : s.rows.lookup key = some entry)
    (hne : ∀ target ∈ s.staleTargets cfg order nowMs, target.addr.cacheKey ≠ key) :
    isStale cfg nowMs entry = false := by
  by_contra hstale
  rw [Bool.not_eq_false] at hstale
  have hlisted : entry ∈ (order.entries s.rows).map Prod.snd :=
    (Keyed.mem_listing (order.perm s.rows)).2 ⟨key, h⟩
  have hentry : entry ∈ ((order.entries s.rows).map Prod.snd).filter (isStale cfg nowMs) :=
    List.mem_filter.2 ⟨hlisted, hstale⟩
  exact hne _ (List.mem_map_of_mem hentry) (hkeyed key entry h)

/-- **No row is left unaccounted for**: after a refresh a row is one that was fresh, as it was, or
it holds the snapshot that a query to its address returned and no error, or no snapshot and an
error; and a target whose query failed has left neither a row nor a connection. -/
theorem refresh_accounts {cfg : Config} {s : LocalApiState} (h : s.KeyedByAddress)
    (order : Iteration CacheKey ConnectionCacheEntry) (nowMs : Int64) (env : ℕ → TargetEnv) :
    (∀ key entry,
      (s.refreshStaleCacheForQuery cfg order nowMs env).rows.lookup key = some entry →
        (s.rows.lookup key = some entry ∧ isStale cfg nowMs entry = false) ∨
          Renewed (s.refreshQueries cfg order nowMs env) entry) ∧
    ∀ q ∈ s.refreshQueries cfg order nowMs env, ∀ e, q.result = .error e →
      q.target.addr.cacheKey ∉ (s.refreshStaleCacheForQuery cfg order nowMs env).rows ∧
        ∀ a ∈ (s.refreshStaleCacheForQuery cfg order nowMs env).connections,
          a.cacheKey ≠ q.target.addr.cacheKey := by
  have htargets := List.zipIdx_map_fst 0 (s.staleTargets cfg order nowMs)
  constructor
  · intro key entry hentry
    obtain ⟨hne, hold⟩ | ⟨-, hrenewed⟩ := lookup_refreshTargets h.pool hentry
    · refine .inl ⟨hold, fresh_of_forall_ne h.rows order hold fun target htarget => ?_⟩
      rw [← htargets] at htarget
      obtain ⟨x, hx, rfl⟩ := List.mem_map.1 htarget
      exact hne x hx
    · exact .inr hrenewed
  · intro q hq e he
    have hdistinct : ((s.staleTargets cfg order nowMs).map fun target =>
        target.addr.cacheKey).Nodup := nodup_staleTargets h.rows order nowMs
    rw [← htargets] at hdistinct
    obtain ⟨hrow, hconnection⟩ := failed_refreshTargets h.pool hdistinct hq he
    refine ⟨hrow, fun a ha heq => hconnection ?_⟩
    have hknown : ∀ x ∈ (s.staleTargets cfg order nowMs).zipIdx,
        ∃ key entry, s.rows.lookup key = some entry ∧ entry.addr = x.1.addr := by
      intro x hx
      obtain ⟨entry, hentry, hlabel⟩ := targets_of_mem h.rows (List.fst_mem_of_mem_zipIdx hx)
      exact ⟨_, entry, hentry, congrArg Prod.snd hlabel⟩
    obtain ⟨x, hx, htarget⟩ := mem_of_mem_targetQueries hq
    have hsame : a = q.target.addr := by
      refine h.identified ?_ (.inl (htarget ▸ hknown x hx)) heq
      obtain ⟨c, hc⟩ := Option.isSome_iff_exists.1 (AList.lookup_isSome.2 ha)
      obtain hold | ⟨⟨y, hy, rfl⟩, -⟩ := lookup_refreshTargets_pool hc
      · exact .inr (AList.lookup_isSome.1 (by rw [hold]; rfl))
      · exact .inl (hknown y hy)
    exact hsame ▸ ha

end Steps

/-! ### Two rows -/

/-- Two servers are connected to; the first that is queried answers, the second does not. -/
def answeredOnce (i : ℕ) : TargetEnv where
  connect := answered (if i = 0 then "b" else "a")
  query :=
    if i = 0 then
      .ok ({ hostname := "b", driverVersion := none, gres := [] },
        { hostname := "b", driverVersion := none, gres := [] })
    else .error "timeout"
  latencyUs := 100
  nowMs := 0

/-- Two rows under the addresses they have. -/
theorem keyedByAddress_two :
    KeyedByAddress { rows := buildCache [nodeAt "a" 1, nodeAt "b" 2] } where
  rows key entry h := by
    have hkeyed : ∀ x ∈ (buildCache [nodeAt "a" 1, nodeAt "b" 2]).entries,
        x.2.addr.cacheKey = x.1 := by decide +kernel
    exact hkeyed ⟨key, entry⟩ (AList.mem_lookup_iff.1 h)
  pool a c h := by
    rw [AList.lookup_empty] at h
    cases h
  identified := by
    have hdistinct : ∀ x ∈ (buildCache [nodeAt "a" 1, nodeAt "b" 2]).entries,
        ∀ y ∈ (buildCache [nodeAt "a" 1, nodeAt "b" 2]).entries,
          x.2.addr.cacheKey = y.2.addr.cacheKey → x.2.addr = y.2.addr := by decide +kernel
    rintro _ (⟨key, entry, h, rfl⟩ | h) _ (⟨key', entry', h', rfl⟩ | h') heq
    · exact hdistinct ⟨key, entry⟩ (AList.mem_lookup_iff.1 h) ⟨key', entry'⟩
        (AList.mem_lookup_iff.1 h') heq
    all_goals exact absurd ‹_ ∈ (∅ : Table SocketAddr Connection)› (AList.notMem_empty _)

/-- Of two rows of which one server does not answer, the other is left. -/
theorem refresh_accounts_two :
    let s : LocalApiState := { rows := buildCache [nodeAt "a" 1, nodeAt "b" 2] }
    let s' := s.refreshStaleCacheForQuery smallConfig (.list _ _) 0 answeredOnce
    (nodeAt "b" 2).addr.cacheKey ∈ s'.rows ∧
    (∀ key entry, s'.rows.lookup key = some entry →
      (s.rows.lookup key = some entry ∧ isStale smallConfig 0 entry = false) ∨
        Renewed (s.refreshQueries smallConfig (.list _ _) 0 answeredOnce) entry) ∧
    ∀ q ∈ s.refreshQueries smallConfig (.list _ _) 0 answeredOnce, ∀ e, q.result = .error e →
      q.target.addr.cacheKey ∉ s'.rows ∧
        ∀ a ∈ s'.connections, a.cacheKey ≠ q.target.addr.cacheKey :=
  ⟨by decide +kernel, refresh_accounts keyedByAddress_two (.list _ _) 0 answeredOnce⟩

end LocalApiState
end Backend
end Clustat
