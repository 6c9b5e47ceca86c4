/-
# The first query

A backend that knows no server searches for some when it is asked, connects to each that it
finds, queries them, and answers (`reconcile_discovery_for_query`, `refresh_stale_cache_for_query`
of `crates/client-backend/src/local_api.rs`).  A server that does not answer the first connect is
connected to once more in the refresh, if it has a row.

Each step of this is told by what it does to one address: the pool keeps its connections, as long
as servers have names of their own (`establishOneConnection_eq`), and a target leaves the rows and
the connections of the others alone (`refreshTarget_blank`).  So the answer shows the
servers that answer, all of them and no others (`first_query_shows`).
-/

import Clustat.Backend.Accounted
import Clustat.Backend.Refresh
import Clustat.Backend.Serve

namespace Clustat
namespace Backend
namespace LocalApiState

open Table

/-- The backend knows only servers of a list, and nobody is connecting: a connection is to its
address and to the server of that name, and so is each row. -/
structure Knows (name : SocketAddr → String) (addrs : List SocketAddr) (s : LocalApiState) :
    Prop where
  idle : s.connecting = []
  pool : ∀ a c, s.connections.lookup a = some c →
    a ∈ addrs ∧ c.addr = a ∧ c.serial < s.nextSerial ∧ s.hostname c = name a
  rows : ∀ key entry, s.rows.lookup key = some entry → entry.addr ∈ addrs ∧
    entry.addr.cacheKey = key

/-- No row has a snapshot, and each connection has a row. -/
structure Blank (s : LocalApiState) : Prop where
  rows : ∀ key entry, s.rows.lookup key = some entry → entry.lastSnapshot = none
  pool : ∀ a ∈ s.connections, a.cacheKey ∈ s.rows

/-- The state with a new connection. -/
def joined (s : LocalApiState) (index : ℕ) (a : SocketAddr) (metadata : HostMetadata)
    (nowMs : Int64) : LocalApiState :=
  let s' : LocalApiState :=
    { s with
      connections := s.connections.insert a { serial := s.nextSerial, addr := a }
      metadata := Function.update s.metadata s.nextSerial metadata
      nextSerial := s.nextSerial + 1 }
  s'.upsertConnectionPlaceholder index { serial := s.nextSerial, addr := a } nowMs

section Connect

variable {name : SocketAddr → String} {addrs : List SocketAddr} {cfg : Config}
  {s : LocalApiState} {a : SocketAddr} {index : ℕ} {env : ConnectEnv}

/-- A server that is not connected to has room. -/
theorem Knows.size_lt (h : s.Knows name addrs) (hroom : addrs.length ≤ cfg.maxConnections)
    (ha : a ∈ addrs) (hnew : a ∉ s.connections) : s.connections.size < cfg.maxConnections := by
  have hnodup : (a :: s.connections.keys).Nodup :=
    List.nodup_cons.2 ⟨fun hmem => hnew (AList.mem_keys.2 hmem), s.connections.keys_nodup⟩
  have hsub : a :: s.connections.keys ⊆ addrs := by
    refine List.cons_subset.2 ⟨ha, fun b hb => ?_⟩
    obtain ⟨c, hc⟩ := Option.isSome_iff_exists.1 (AList.lookup_isSome.2 (AList.mem_keys.2 hb))
    exact (h.pool b c hc).1
  have hlength := (List.subperm_of_subset hnodup hsub).length_le
  rw [size_eq_length_keys]
  rw [List.length_cons] at hlength
  omega

/-- **A connect**: nothing happens if there is a connection or it fails, and else there is one
more, and its row.  Nobody has to make way, since no other server has the name. -/
theorem establishOneConnection_eq (h : s.Knows name addrs)
    (hname : Set.InjOn name {a | a ∈ addrs}) (hroom : addrs.length ≤ cfg.maxConnections)
    (ha : a ∈ addrs) (henv : ∀ m, env.result = .ok m → m.hostname = name a) :
    s.establishOneConnection cfg index a env =
      if a ∈ s.connections then s
      else
        match env.result with
        | .error _ => s
        | .ok metadata => s.joined index a metadata env.nowMs := by
  by_cases hnew : a ∈ s.connections
  · simp [establishOneConnection, connectOne, mayConnect, hnew]
  · have hmay : s.mayConnect cfg a = true := by
      simp [mayConnect, hnew, h.size_lt hroom ha hnew]
    have hreserve : s.reserve a = some { s with connecting := [a] } := by
      simp [reserve, h.idle]
    rw [if_neg hnew, establishOneConnection, connectOne, if_pos hmay, hreserve]
    dsimp only
    cases hresult : env.result with
    | error e =>
      have hback : (unreserve { s with connecting := [a] } a) = s := by
        obtain ⟨_, _, _, _, _⟩ := s
        obtain rfl := h.idle
        simp [unreserve]
      simp only [hback]
    | ok metadata =>
      let c : Connection := { serial := s.nextSerial, addr := a }
      let made : LocalApiState :=
        { s with
          connecting := []
          metadata := Function.update s.metadata s.nextSerial metadata
          nextSerial := s.nextSerial + 1 }
      have hmade : (unreserve (connectNode { s with connecting := [a] } a metadata).1 a) =
          made := by
        simp [unreserve, connectNode, made]
      have hnobody : made.existing? env.order c = none := by
        cases hfound : made.existing? env.order c with
        | none => rfl
        | some x =>
          obtain ⟨hlookup, hhost⟩ := existing?_eq_some hfound
          obtain ⟨hx, -, hserial, hxname⟩ := h.pool x.1 x.2 hlookup
          have hold : made.hostname x.2 = name x.1 := by
            rw [← hxname, hostname, hostname]
            exact congrArg _ (Function.update_of_ne hserial.ne _ _)
          have hown : made.hostname c = name a := by
            rw [hostname, ← henv metadata hresult]
            exact congrArg _ (Function.update_self _ _ _)
          have hsame : x.1 = a := hname hx ha (hold.symm.trans (hhost.trans hown))
          exact absurd (AList.lookup_isSome.1 (by rw [← hsame, hlookup]; rfl)) hnew
      have hinstall : made.install cfg env.order a c =
          ({ made with connections := made.connections.insert a c }, true) := by
        have hroom' : ¬cfg.maxConnections ≤ made.connections.size :=
          Nat.not_le.2 (h.size_lt hroom ha hnew)
        rw [install, if_neg hnew, makeWay, hnobody]
        dsimp only
        rw [if_neg hroom']
      dsimp only [connectNode] at hmade ⊢
      rw [hmade, hinstall]
      simp only [joined, h.idle]
      rfl

/-- A new connection is under its own address, and nothing else has changed in
the pool. -/
theorem lookup_joined_pool (b : SocketAddr) (metadata : HostMetadata) (nowMs : Int64) :
    (s.joined index a metadata nowMs).connections.lookup b =
      if b = a then some { serial := s.nextSerial, addr := a } else s.connections.lookup b :=
  lookup_insert_eq

/-- A new connection changes no row but its own. -/
theorem lookup_joined_rows {key : CacheKey} (hkey : key ≠ a.cacheKey) (metadata : HostMetadata)
    (nowMs : Int64) : (s.joined index a metadata nowMs).rows.lookup key = s.rows.lookup key :=
  AList.lookup_insert_ne hkey

/-- The row of a new connection, under its key: it has no snapshot where none
had one before. -/
theorem exists_lookup_joined_rows (h : s.Knows name addrs) (index : ℕ) (a : SocketAddr)
    (metadata : HostMetadata) (nowMs : Int64) :
    ∃ entry, (s.joined index a metadata nowMs).rows.lookup a.cacheKey = some entry ∧
      entry.addr.cacheKey = a.cacheKey ∧ (s.Blank → entry.lastSnapshot = none) ∧
        (a ∈ addrs → entry.addr ∈ addrs) := by
  refine ⟨_, AList.lookup_insert _, ?_⟩
  unfold placeholder
  split
  · rename_i entry hentry
    obtain ⟨hmem, hkey⟩ := h.rows _ entry hentry
    exact ⟨hkey, fun hblank => hblank.rows _ entry hentry, fun _ => hmem⟩
  · exact ⟨rfl, fun _ => rfl, id⟩

/-- A server that joins is known. -/
theorem Knows.joined (h : s.Knows name addrs) (ha : a ∈ addrs) {metadata : HostMetadata}
    (hname : metadata.hostname = name a) (nowMs : Int64) :
    (s.joined index a metadata nowMs).Knows name addrs := by
  refine ⟨h.idle, fun b c hc => ?_, fun key entry hentry => ?_⟩
  · rw [lookup_joined_pool] at hc
    split_ifs at hc with hb
    · obtain rfl := Option.some.inj hc
      refine ⟨hb ▸ ha, hb.symm, Nat.lt_succ_self _, ?_⟩
      rw [hb, ← hname]
      exact congrArg HostMetadata.hostname (Function.update_self _ _ _)
    · obtain ⟨hmem, haddr, hserial, hhost⟩ := h.pool b c hc
      refine ⟨hmem, haddr, Nat.lt_succ_of_lt hserial, ?_⟩
      rw [← hhost]
      exact congrArg HostMetadata.hostname (Function.update_of_ne hserial.ne _ _)
  · by_cases hkey : key = a.cacheKey
    · obtain ⟨entry', hentry', hkey', -, hmem⟩ :=
        exists_lookup_joined_rows h index a metadata nowMs
      rw [hkey, hentry'] at hentry
      obtain rfl := Option.some.inj hentry
      exact ⟨hmem ha, hkey'.trans hkey.symm⟩
    · rw [lookup_joined_rows hkey] at hentry
      exact h.rows key entry hentry

/-- The row of a server that joins has no snapshot. -/
theorem Blank.joined (hblank : s.Blank) (h : s.Knows name addrs) (metadata : HostMetadata)
    (nowMs : Int64) : (s.joined index a metadata nowMs).Blank := by
  obtain ⟨entry', hentry', -, hnone, -⟩ := exists_lookup_joined_rows h index a metadata nowMs
  refine ⟨fun key entry hentry => ?_, fun b hb => ?_⟩
  · by_cases hkey : key = a.cacheKey
    · rw [hkey, hentry'] at hentry
      rw [← Option.some.inj hentry]
      exact hnone hblank
    · rw [lookup_joined_rows hkey] at hentry
      exact hblank.rows key entry hentry
  · by_cases hkey : b.cacheKey = a.cacheKey
    · exact AList.lookup_isSome.1 (by rw [hkey, hentry']; rfl)
    · have hold : b ∈ s.connections := by
        obtain ⟨c, hc⟩ := Option.isSome_iff_exists.1 (AList.lookup_isSome.2 hb)
        rw [lookup_joined_pool, if_neg fun hba => hkey (congrArg SocketAddr.cacheKey hba)] at hc
        exact AList.lookup_isSome.1 (by rw [hc]; rfl)
      obtain ⟨entry, hentry⟩ := Option.isSome_iff_exists.1
        (AList.lookup_isSome.2 (hblank.pool b hold))
      exact AList.lookup_isSome.1 (by rw [lookup_joined_rows hkey, hentry]; rfl)

end Connect

/-! ### Discovery -/

section Discovery

variable {name : SocketAddr → String} {addrs : List SocketAddr} {cfg : Config}
  {s : LocalApiState}

/-- What is discovered gets a row without a snapshot. -/
theorem knows_addDiscoveredNodes (h : s.Knows name addrs) (hblank : s.Blank)
    {nodes : List DiscoveredNode} (hnodes : ∀ node ∈ nodes, node.addr ∈ addrs) :
    (s.addDiscoveredNodes nodes).Knows name addrs ∧ (s.addDiscoveredNodes nodes).Blank := by
  suffices hrun : ∀ (xs : List (DiscoveredNode × ℕ)) (rows : CacheMap),
      (∀ x ∈ xs, x.1.addr ∈ addrs) → Knows name addrs { s with rows } → Blank { s with rows } →
        Knows name addrs { s with rows := xs.foldl (addDiscoveredNode s.rows.size) rows } ∧
          Blank { s with rows := xs.foldl (addDiscoveredNode s.rows.size) rows } from
    hrun nodes.zipIdx s.rows (fun x hx => hnodes _ (List.fst_mem_of_mem_zipIdx hx)) h hblank
  intro xs
  induction xs with
  | nil => exact fun rows _ hknows hblank => ⟨hknows, hblank⟩
  | cons x xs ih =>
    intro rows hxs hknows hblank
    rw [List.forall_mem_cons] at hxs
    rw [List.foldl_cons]
    let entry : ConnectionCacheEntry :=
      .discovered (connectionId (s.rows.size + x.2 + 1)) x.1
    have hone : addDiscoveredNode s.rows.size rows x = rows ∨
        addDiscoveredNode s.rows.size rows x = rows.insert x.1.addr.cacheKey entry := by
      unfold addDiscoveredNode
      dsimp only
      split_ifs
      · exact .inl rfl
      · exact .inl rfl
      · exact .inr rfl
    rcases hone with hone | hone
    · rw [hone]
      exact ih rows hxs.2 hknows hblank
    · rw [hone]
      refine ih _ hxs.2 ⟨hknows.idle, hknows.pool, fun key e he => ?_⟩
        ⟨fun key e he => ?_, fun a ha => (AList.mem_insert _).2 (.inr (hblank.pool a ha))⟩
      · rw [lookup_insert_eq] at he
        split_ifs at he with hkey
        · obtain rfl := Option.some.inj he
          exact ⟨hxs.1, hkey.symm⟩
        · exact hknows.rows key e he
      · rw [lookup_insert_eq] at he
        split_ifs at he
        · rw [← Option.some.inj he]
          rfl
        · exact hblank.rows key e he

/-- **All servers are connected to** that answer, and no others: by induction
on the nodes, each of which finds room and no connection to its host. -/
theorem knows_establish (hname : Set.InjOn name {a | a ∈ addrs})
    (hroom : addrs.length ≤ cfg.maxConnections) (indexBase : ℕ) {env : ℕ → ConnectEnv}
    (xs : List (DiscoveredNode × ℕ)) :
    ∀ (s : LocalApiState), s.Knows name addrs → s.Blank →
      (∀ x ∈ xs, x.1.addr ∈ addrs ∧
        ∀ m, (env x.2).result = .ok m → m.hostname = name x.1.addr) →
      let s' := xs.foldl (establishNode cfg indexBase env) s
      s'.Knows name addrs ∧ s'.Blank ∧ ∀ a, a ∈ s'.connections ↔
        a ∈ s.connections ∨ ∃ x ∈ xs, x.1.addr = a ∧ (env x.2).result.isOk := by
  induction xs with
  | nil => exact fun s hknows hblank _ => ⟨hknows, hblank, fun a => by simp⟩
  | cons x xs ih =>
    intro s hknows hblank hxs
    rw [List.forall_mem_cons] at hxs
    obtain ⟨⟨ha, henv⟩, hxs⟩ := hxs
    have hstep : (establishNode cfg indexBase env s x).Knows name addrs ∧
        (establishNode cfg indexBase env s x).Blank ∧
        ∀ a, a ∈ (establishNode cfg indexBase env s x).connections ↔
          a ∈ s.connections ∨ (x.1.addr = a ∧ (env x.2).result.isOk) := by
      rw [establishNode, establishOneConnection_eq hknows hname hroom ha henv]
      split_ifs with hconnected
      · refine ⟨hknows, hblank, fun a => (or_iff_left_of_imp ?_).symm⟩
        rintro ⟨rfl, -⟩
        exact hconnected
      · split
        · rename_i e hresult
          exact ⟨hknows, hblank, fun a => by simp [hresult, Except.isOk, Except.toBool]⟩
        · rename_i metadata hresult
          refine ⟨hknows.joined ha (henv _ hresult) _, hblank.joined hknows _ _, fun a => ?_⟩
          rw [hresult, ← AList.lookup_isSome, lookup_joined_pool, ← AList.lookup_isSome]
          by_cases hsame : a = x.1.addr
          · simp [hsame, Except.isOk, Except.toBool]
          · simp [hsame, Ne.symm hsame]
    obtain ⟨hknows', hblank', hpool'⟩ := hstep
    obtain ⟨hfinal, hfinalBlank, hfinalPool⟩ := ih _ hknows' hblank' hxs
    refine ⟨hfinal, hfinalBlank, fun a => ?_⟩
    rw [List.foldl_cons, hfinalPool, hpool', List.exists_mem_cons_iff, or_assoc]

end Discovery

/-! ### Refreshing -/

/-- What a target comes to that has had no snapshot. -/
def outcome (connected : Bool) (target : RefreshTarget) (env : TargetEnv) :
    Option ConnectionCacheEntry :=
  if connected || env.connect.result.isOk then
    match env.query with
    | .ok (snapshot, _) =>
      some (.fromSnapshot target.connectionId target.addr snapshot (some env.latencyUs) env.nowMs)
    | .error _ => none
  else none

/-- What happens for a target concerns no other. -/
structure Aside (target : RefreshTarget) (s s' : LocalApiState) : Prop where
  rows : ∀ key, key ≠ target.addr.cacheKey → s'.rows.lookup key = s.rows.lookup key
  pool : ∀ a, a ≠ target.addr → s'.connections.lookup a = s.connections.lookup a

/-- Two things that concern no other target, one after the other. -/
theorem Aside.trans {target : RefreshTarget} {s s' s'' : LocalApiState} (h : Aside target s s')
    (h' : Aside target s' s'') : Aside target s s'' :=
  ⟨fun key hkey => (h'.rows key hkey).trans (h.rows key hkey),
    fun a ha => (h'.pool a ha).trans (h.pool a ha)⟩

section Refresh

variable {name : SocketAddr → String} {addrs : List SocketAddr} {cfg : Config}
  {s : LocalApiState} {target : RefreshTarget} {env : TargetEnv}

/-- A target has a connection if there was one, or it is answered now. -/
theorem connectTarget_knows (h : s.Knows name addrs) (hname : Set.InjOn name {a | a ∈ addrs})
    (hroom : addrs.length ≤ cfg.maxConnections) (ha : target.addr ∈ addrs)
    (henv : ∀ m, env.connect.result = .ok m → m.hostname = name target.addr) :
    (s.connectTarget cfg target env).1.Knows name addrs ∧
      Aside target s (s.connectTarget cfg target env).1 ∧
      (s.connectTarget cfg target env).2 =
        (s.connectTarget cfg target env).1.connections.lookup target.addr ∧
      (s.connectTarget cfg target env).2.isSome =
        ((s.connections.lookup target.addr).isSome || env.connect.result.isOk) := by
  unfold connectTarget
  cases hfound : s.connections.lookup target.addr with
  | some c =>
    exact ⟨h, ⟨fun _ _ => rfl, fun _ _ => rfl⟩, hfound.symm, rfl⟩
  | none =>
    have hnew : target.addr ∉ s.connections := AList.lookup_eq_none.1 hfound
    dsimp only [establishConnections, List.zipIdx_cons, List.zipIdx_nil, List.foldl_cons,
      List.foldl_nil, establishNode]
    rw [establishOneConnection_eq h hname hroom ha henv, if_neg hnew]
    split
    · rename_i e hresult
      rw [hfound]
      exact ⟨h, ⟨fun _ _ => rfl, fun _ _ => rfl⟩, rfl, by rw [hresult]; rfl⟩
    · rename_i metadata hresult
      refine ⟨h.joined ha (henv _ hresult) _, ⟨fun key hkey => ?_, fun a hne => ?_⟩, rfl, ?_⟩
      · exact lookup_joined_rows hkey _ _
      · rw [lookup_joined_pool, if_neg hne]
      · rw [lookup_joined_pool, if_pos rfl, hresult]
        rfl

/-- **A target that has had no snapshot** comes to its outcome, and concerns
no other: its row has the snapshot of the query, or there is no row. -/
theorem refreshTarget_blank (h : s.Knows name addrs) (hname : Set.InjOn name {a | a ∈ addrs})
    (hroom : addrs.length ≤ cfg.maxConnections) (ha : target.addr ∈ addrs)
    (hblank : target.hadSnapshot = false)
    (hconnect : ∀ m, env.connect.result = .ok m → m.hostname = name target.addr)
    (hquery : ∀ answer, env.query = .ok answer → answer.2.hostname = name target.addr) :
    (s.refreshTarget cfg target env).Knows name addrs ∧
      Aside target s (s.refreshTarget cfg target env) ∧
      (s.refreshTarget cfg target env).rows.lookup target.addr.cacheKey =
        outcome (s.connections.lookup target.addr).isSome target env := by
  obtain ⟨hknows, haside, hlookup, hsome⟩ := connectTarget_knows h hname hroom ha hconnect
  rw [refreshTarget_eq, outcome]
  generalize s.connectTarget cfg target env = connected at *
  obtain ⟨s', _ | c⟩ := connected
  · have hnone :
        ¬((s.connections.lookup target.addr).isSome || env.connect.result.isOk) = true := by
      rw [← hsome]
      exact Bool.false_ne_true
    have hrows : (s'.unavailable cfg target env.nowMs) =
        { s' with rows := s'.rows.erase target.addr.cacheKey } := by
      simp [unavailable, hblank]
    rw [if_neg hnone]
    dsimp only
    rw [hrows]
    refine ⟨⟨hknows.idle, hknows.pool, fun key entry hentry => ?_⟩,
      haside.trans ⟨fun key hkey => AList.lookup_erase_ne hkey, fun _ _ => rfl⟩,
      AList.lookup_erase _ _⟩
    rw [lookup_erase_eq] at hentry
    split_ifs at hentry
    exact hknows.rows key entry hentry
  · have hconnected : ((s.connections.lookup target.addr).isSome || env.connect.result.isOk) =
        true := hsome.symm
    rw [if_pos hconnected]
    dsimp only [queryTarget]
    obtain ⟨-, haddr, hserial, hhost⟩ := hknows.pool _ c hlookup.symm
    cases hresult : env.query with
    | error e =>
      refine ⟨⟨hknows.idle, fun a d hd => ?_, fun key entry hentry => ?_⟩,
        haside.trans ⟨fun key hkey => AList.lookup_erase_ne hkey,
          fun a hne => AList.lookup_erase_ne hne⟩, AList.lookup_erase _ _⟩
      · dsimp only [removeRow, evictConnection] at hd
        rw [lookup_erase_eq] at hd
        split_ifs at hd
        exact hknows.pool a d hd
      · dsimp only [removeRow, evictConnection] at hentry
        rw [lookup_erase_eq] at hentry
        split_ifs at hentry
        exact hknows.rows key entry hentry
    | ok answer =>
      obtain ⟨snapshot, metadata⟩ := answer
      refine ⟨⟨hknows.idle, fun a d hd => ?_, fun key entry hentry => ?_⟩,
        haside.trans ⟨fun key hkey => AList.lookup_insert_ne hkey, fun _ _ => rfl⟩,
        AList.lookup_insert _⟩
      · obtain ⟨hmem, hda, hdserial, hdhost⟩ := hknows.pool a d hd
        refine ⟨hmem, hda, hdserial, ?_⟩
        -- The server has kept its name, and it has that of no other connection.
        by_cases hsame : d.serial = c.serial
        · have hname' : (s'.metadata d.serial).hostname = name target.addr := hsame ▸ hhost
          rw [← hdhost, hostname, hostname, hname', ← hquery _ hresult]
          exact congrArg HostMetadata.hostname (hsame ▸ Function.update_self _ _ _)
        · rw [← hdhost]
          exact congrArg HostMetadata.hostname (Function.update_of_ne hsame _ _)
      · dsimp only [storeSnapshot, setMetadata, upsertSnapshot] at hentry
        rw [lookup_insert_eq] at hentry
        split_ifs at hentry with hkey
        · obtain rfl := Option.some.inj hentry
          exact ⟨ha, hkey.symm⟩
        · exact hknows.rows key entry hentry

/-- **All targets come to their outcomes**, in any order, since none of them
concerns another. -/
theorem refreshTargets_blank (hname : Set.InjOn name {a | a ∈ addrs})
    (hroom : addrs.length ≤ cfg.maxConnections) {env : ℕ → TargetEnv}
    (xs : List (RefreshTarget × ℕ)) :
    ∀ s : LocalApiState, s.Knows name addrs →
      ((xs.map Prod.fst).map fun target => target.addr.cacheKey).Nodup →
      (∀ x ∈ xs, x.1.addr ∈ addrs ∧ x.1.hadSnapshot = false ∧
        (∀ m, (env x.2).connect.result = .ok m → m.hostname = name x.1.addr) ∧
          ∀ answer, (env x.2).query = .ok answer → answer.2.hostname = name x.1.addr) →
      let s' := s.refreshTargets cfg env xs
      s'.Knows name addrs ∧
      (∀ key, (∀ x ∈ xs, x.1.addr.cacheKey ≠ key) → s'.rows.lookup key = s.rows.lookup key) ∧
        ∀ x ∈ xs, s'.rows.lookup x.1.addr.cacheKey =
          outcome (s.connections.lookup x.1.addr).isSome x.1 (env x.2) := by
  induction xs with
  | nil => exact fun s h _ _ => ⟨h, fun _ _ => rfl, List.forall_mem_nil _⟩
  | cons x xs ih =>
    intro s h hdistinct hxs
    rw [List.map_cons, List.map_cons, List.nodup_cons] at hdistinct
    rw [List.forall_mem_cons] at hxs
    obtain ⟨⟨ha, hblank, hconnect, hquery⟩, hxs⟩ := hxs
    have hother : ∀ y ∈ xs, y.1.addr.cacheKey ≠ x.1.addr.cacheKey := fun y hy heq =>
      hdistinct.1 (List.mem_map.2 ⟨y.1, List.mem_map_of_mem hy, heq⟩)
    obtain ⟨hknows, haside, hown⟩ :=
      refreshTarget_blank h hname hroom ha hblank hconnect hquery
    obtain ⟨hfinal, hrest, hcome⟩ := ih _ hknows hdistinct.2 hxs
    refine ⟨hfinal, fun key hkey => ?_, List.forall_mem_cons.2 ⟨?_, fun y hy => ?_⟩⟩
    · rw [List.forall_mem_cons] at hkey
      exact (hrest key hkey.2).trans (haside.rows key hkey.1.symm)
    · exact (hrest _ hother).trans hown
    · rw [← haside.pool y.1.addr fun heq => hother y hy (congrArg SocketAddr.cacheKey heq)]
      exact hcome y hy

end Refresh

end LocalApiState

/-! ### The answer -/

open LocalApiState

/-- **The servers have names of their own and keep them**, and there is room for all of them; ip
and port tell their addresses apart. -/
structure QueryEnv.Named (cfg : BackendConfig) (env : QueryEnv) (name : SocketAddr → String) :
    Prop where
  room : env.discovered.length ≤ cfg.maxConnections
  injOn : Set.InjOn name {a | a ∈ env.discovered.map DiscoveredNode.addr}
  keys : Set.InjOn SocketAddr.cacheKey {a | a ∈ env.discovered.map DiscoveredNode.addr}
  connects : ∀ node ∈ env.discovered, ∀ metadata,
    (env.connects node.addr).result = .ok metadata → metadata.hostname = name node.addr
  reconnects : ∀ node ∈ env.discovered, ∀ metadata,
    (env.targets node.addr).connect.result = .ok metadata → metadata.hostname = name node.addr
  queries : ∀ node ∈ env.discovered, ∀ answer,
    (env.targets node.addr).query = .ok answer → answer.2.hostname = name node.addr

/-- A node of an answer that shows a snapshot of the server at an address. -/
def ShowsServer (env : ResponseEnv) (user : Option String) (addr : SocketAddr)
    (snapshot : ServerGresSnapshot) (node : NodeView) : Prop :=
  ∃ entry : ConnectionCacheEntry, entry.addr = addr ∧ Shows env user entry node ∧
    ShowsSnapshot env user entry snapshot node

/-- An item of a list meets what it should. -/
theorem meeting_of_mem {α β : Type} {env : SocketAddr → β} {addr : α → SocketAddr} {l : List α}
    {x : α × ℕ} (hx : x ∈ l.zipIdx) : meeting env addr l x.2 = env (addr x.1) := by
  have hget : l[x.2]? = some x.1 := List.mem_zipIdx_iff_getElem?.1 hx
  rw [meeting, List.getD_eq_getElem?_getD, List.getElem?_map, hget]
  rfl

section Answer

variable {cfg : BackendConfig} {env : QueryEnv} {s : BackendState} {name : SocketAddr → String}

/-- Without rows the query waits for the search. -/
theorem api_reconcile_of_empty (hrows : s.api.rows = ∅) :
    (s.reconcileDiscoveryForQuery cfg env).api =
      (s.api.addDiscoveredNodes env.discovered).establishConnections cfg.toConfig env.discovered
        (meeting env.connects DiscoveredNode.addr env.discovered) := by
  have hsize : s.api.rows.size = 0 := by rw [hrows]; rfl
  rw [BackendState.reconcileDiscoveryForQuery, BackendState.shouldSkipQueryDiscoveryReconcile,
    if_pos hsize]
  dsimp only
  rw [if_neg (by omega), BackendState.runDiscoveryReconcile]
  dsimp only
  split_ifs with hempty
  · rw [List.isEmpty_iff.1 hempty]
    rfl
  · rfl

/-- **After the search** there is a connection to each server that has
answered, and to no other that was found; no row has a snapshot yet. -/
theorem knows_reconcile (hrows : s.api.rows = ∅) (hpool : s.api.connections = ∅)
    (hidle : s.api.connecting = []) (hnamed : env.Named cfg name) :
    let api := (s.reconcileDiscoveryForQuery cfg env).api
    api.Knows name (env.discovered.map DiscoveredNode.addr) ∧ api.Blank ∧
      ∀ node ∈ env.discovered, node.addr ∈ api.connections ↔
        (env.connects node.addr).result.isOk := by
  have hlookup (a : SocketAddr) : s.api.connections.lookup a = none := by
    rw [hpool, AList.lookup_empty]
  have hrow (key : CacheKey) : s.api.rows.lookup key = none := by
    rw [hrows, AList.lookup_empty]
  have hknows : s.api.Knows name (env.discovered.map DiscoveredNode.addr) :=
    ⟨hidle, fun a c hc => (Option.some_ne_none c (hc.symm.trans (hlookup a))).elim,
      fun key entry he => (Option.some_ne_none entry (he.symm.trans (hrow key))).elim⟩
  have hblank : s.api.Blank := by
    refine ⟨fun key entry he => (Option.some_ne_none entry (he.symm.trans (hrow key))).elim,
      fun a ha => ?_⟩
    rw [hpool] at ha
    exact absurd ha (AList.notMem_empty a)
  have hmem : ∀ node ∈ env.discovered, node.addr ∈ env.discovered.map DiscoveredNode.addr :=
    fun node => List.mem_map_of_mem
  obtain ⟨hknows', hblank'⟩ := knows_addDiscoveredNodes hknows hblank hmem
  have hroom : (env.discovered.map DiscoveredNode.addr).length ≤ cfg.maxConnections := by
    rw [List.length_map]
    exact hnamed.room
  have hxs : ∀ x ∈ env.discovered.zipIdx,
      x.1.addr ∈ env.discovered.map DiscoveredNode.addr ∧ ∀ m,
        (meeting env.connects DiscoveredNode.addr env.discovered x.2).result = .ok m →
          m.hostname = name x.1.addr := by
    intro x hx
    have hnode := List.fst_mem_of_mem_zipIdx hx
    rw [meeting_of_mem hx]
    exact ⟨hmem _ hnode, hnamed.connects _ hnode⟩
  obtain ⟨hfinal, hfinalBlank, hfinalPool⟩ := knows_establish hnamed.injOn hroom
    (s.api.addDiscoveredNodes env.discovered).rows.size env.discovered.zipIdx _ hknows'
    hblank' hxs
  rw [api_reconcile_of_empty hrows]
  refine ⟨hfinal, hfinalBlank, fun node hnode => (hfinalPool node.addr).trans ?_⟩
  have hnone : node.addr ∉ (s.api.addDiscoveredNodes env.discovered).connections := by
    change node.addr ∉ s.api.connections
    rw [hpool]
    exact AList.notMem_empty _
  rw [or_iff_right hnone]
  constructor
  · rintro ⟨x, hx, haddr, hok⟩
    rw [meeting_of_mem hx, haddr] at hok
    exact hok
  · intro hok
    obtain ⟨i, hi⟩ := List.mem_iff_getElem?.1 hnode
    have hx : (node, i) ∈ env.discovered.zipIdx := List.mem_zipIdx_iff_getElem?.2 hi
    exact ⟨_, hx, rfl, by rw [meeting_of_mem hx]; exact hok⟩

/-- The targets of a refresh whose rows have no snapshots are all the rows. -/
theorem blank_targets {api : LocalApiState} (hblank : api.Blank)
    (hkeyed : Keyed api.rows) (nowMs : Int64) :
    (∀ key, (∀ target ∈ api.staleTargets cfg.toConfig env.refreshing nowMs,
      target.addr.cacheKey ≠ key) → api.rows.lookup key = none) ∧
    ∀ target ∈ api.staleTargets cfg.toConfig env.refreshing nowMs,
      target.hadSnapshot = false := by
  constructor
  · intro key hkey
    cases hrow : api.rows.lookup key with
    | none => rfl
    | some entry =>
      have hfresh := fresh_of_forall_ne hkeyed env.refreshing hrow hkey
      rw [isStale, hblank.rows key entry hrow] at hfresh
      cases hfresh
  · intro target htarget
    obtain ⟨entry, hentry, rfl⟩ := List.mem_map.1 htarget
    obtain ⟨key, hrow⟩ :=
      (Keyed.mem_listing (env.refreshing.perm api.rows)).1 (List.mem_filter.1 hentry).1
    rw [hblank.rows key entry hrow]
    rfl

/-- What becomes of the row of a server that has been found. -/
structure Found (env : QueryEnv) (rows : CacheMap) (node : DiscoveredNode) : Prop where
  shown : ∀ answer, (env.connects node.addr).result.isOk →
    (env.targets node.addr).query = .ok answer →
      ∃ entry, rows.lookup node.addr.cacheKey = some entry
  only : ∀ entry, rows.lookup node.addr.cacheKey = some entry → entry.addr = node.addr ∧
    ((env.connects node.addr).result.isOk ∨ (env.targets node.addr).connect.result.isOk) ∧
      ∃ answer, (env.targets node.addr).query = .ok answer ∧ entry.lastSnapshot = some answer.1

/-- **After the refresh** the rows are those of the servers that have
answered, each with the snapshot that its query has come to. -/
theorem found_prepare (hrows : s.api.rows = ∅) (hpool : s.api.connections = ∅)
    (hidle : s.api.connecting = []) (hnamed : env.Named cfg name) :
    (s.prepare cfg env).api.Knows name (env.discovered.map DiscoveredNode.addr) ∧
      ∀ node ∈ env.discovered, Found env (s.prepare cfg env).api.rows node := by
  obtain ⟨hknows, hblank, hconnected⟩ := knows_reconcile hrows hpool hidle hnamed
  have hrefresh : (s.prepare cfg env).api =
      let api := (s.reconcileDiscoveryForQuery cfg env).api
      let targets := api.staleTargets cfg.toConfig env.refreshing env.staleAtMs
      api.refreshTargets cfg.toConfig (meeting env.targets RefreshTarget.addr targets)
        targets.zipIdx := rfl
  rw [hrefresh]
  generalize (s.reconcileDiscoveryForQuery cfg env).api = api at *
  dsimp only
  have hkeyed : Keyed api.rows := fun key entry he => (hknows.rows key entry he).2
  obtain ⟨hall, hfirst⟩ := @blank_targets cfg env api hblank hkeyed env.staleAtMs
  have htargets (target : RefreshTarget)
      (ht : target ∈ api.staleTargets cfg.toConfig env.refreshing env.staleAtMs) :
      ∃ node ∈ env.discovered, node.addr = target.addr := by
    obtain ⟨entry, hentry, hlabel⟩ := targets_of_mem hkeyed ht
    have haddr : entry.addr = target.addr := congrArg Prod.snd hlabel
    exact haddr ▸ List.mem_map.1 (hknows.rows _ entry hentry).1
  have hroom : (env.discovered.map DiscoveredNode.addr).length ≤ cfg.maxConnections := by
    rw [List.length_map]
    exact hnamed.room
  have hdistinct := @nodup_staleTargets cfg.toConfig api hkeyed env.refreshing env.staleAtMs
  generalize api.staleTargets cfg.toConfig env.refreshing env.staleAtMs = targets at *
  obtain ⟨hfinal, hrest, hcome⟩ := @refreshTargets_blank name _ cfg.toConfig hnamed.injOn
    hroom (meeting env.targets RefreshTarget.addr targets) targets.zipIdx api hknows
    (by rwa [List.zipIdx_map_fst]) (fun x hx => by
      have hx' := List.fst_mem_of_mem_zipIdx hx
      obtain ⟨node, hnode, haddr⟩ := htargets _ hx'
      rw [meeting_of_mem hx, ← haddr]
      exact ⟨List.mem_map_of_mem hnode, hfirst _ hx', hnamed.reconnects node hnode,
        hnamed.queries node hnode⟩)
  refine ⟨hfinal, fun node hnode => ?_⟩
  by_cases htarget : ∃ target ∈ targets, target.addr.cacheKey = node.addr.cacheKey
  · obtain ⟨target, ht, hkey⟩ := htarget
    obtain ⟨node', hnode', haddr'⟩ := htargets target ht
    have haddr : target.addr = node.addr := by
      rw [← haddr'] at hkey ⊢
      exact hnamed.keys (List.mem_map_of_mem hnode') (List.mem_map_of_mem hnode) hkey
    obtain ⟨i, hi⟩ := List.mem_iff_getElem?.1 ht
    have hx : (target, i) ∈ targets.zipIdx := List.mem_zipIdx_iff_getElem?.2 hi
    have hrow := hcome _ hx
    have hpooled : (api.connections.lookup node.addr).isSome =
        (env.connects node.addr).result.isOk := by
      rw [Bool.eq_iff_iff, AList.lookup_isSome]
      exact hconnected node hnode
    rw [meeting_of_mem hx, haddr, hpooled, outcome] at hrow
    constructor
    · intro answer hok hanswer
      rw [hok, Bool.true_or, if_pos rfl, hanswer] at hrow
      exact ⟨_, hrow⟩
    · intro entry hentry
      rw [hrow] at hentry
      split_ifs at hentry with hok
      rw [Bool.or_eq_true] at hok
      cases hanswer : (env.targets node.addr).query with
      | error e =>
        rw [hanswer] at hentry
        cases hentry
      | ok answer =>
        rw [hanswer] at hentry
        obtain rfl := Option.some.inj hentry
        exact ⟨haddr, hok, answer, rfl, rfl⟩
  · push Not at htarget
    have hnone : api.rows.lookup node.addr.cacheKey = none := hall _ htarget
    have hgone := (hrest _ fun x hx => htarget _ (List.fst_mem_of_mem_zipIdx hx)).trans hnone
    refine ⟨fun answer hok _ => ?_, fun entry hentry => ?_⟩
    · -- A server that is connected to has a row.
      have hmem := hblank.pool _ ((hconnected node hnode).2 hok)
      rw [← AList.lookup_isSome, hnone] at hmem
      cases hmem
    · rw [hgone] at hentry
      cases hentry

/-- **The first query shows the servers that answer.**  A backend without rows and connections is
asked: each server that it finds and that answers a connect and a query is shown with its
snapshot; a node that is shown is a server that has been found and has answered; and each is
shown once. -/
theorem first_query_shows (hrows : s.api.rows = ∅) (hpool : s.api.connections = ∅)
    (hidle : s.api.connecting = []) (hnamed : env.Named cfg name) (user : Option String) :
    ∃ resp, (s.query cfg env none user).1 = some resp ∧
    (∀ node ∈ env.discovered, (env.connects node.addr).result.isOk → ∀ answer,
      (env.targets node.addr).query = .ok answer →
        ∃ view ∈ resp.nodes, ShowsServer env.response user node.addr answer.1 view) ∧
    (∀ view ∈ resp.nodes, ∃ node ∈ env.discovered,
      ((env.connects node.addr).result.isOk ∨ (env.targets node.addr).connect.result.isOk) ∧
        ∃ answer, (env.targets node.addr).query = .ok answer ∧
          ShowsServer env.response user node.addr answer.1 view) ∧
    (resp.nodes.map NodeView.addr).Nodup := by
  obtain ⟨hknows, hfound⟩ := found_prepare hrows hpool hidle hnamed
  dsimp only [BackendState.query]
  generalize (s.prepare cfg env).api = api at *
  obtain ⟨resp, hresp, hnodes⟩ := query_unfiltered env.response env.listing api.rows user
  refine ⟨resp, hresp, ?_⟩
  rw [hnodes]
  have hmem (entry : ConnectionCacheEntry) :
      entry ∈ (((env.listing.entries api.rows).map Prod.snd).mergeSort fun a b =>
        a.connectionId ≤ b.connectionId) ↔ ∃ key, api.rows.lookup key = some entry := by
    rw [List.mem_mergeSort, Keyed.mem_listing (env.listing.perm api.rows)]
  refine ⟨fun node hnode hok answer hanswer => ?_, fun view hview => ?_, ?_⟩
  · obtain ⟨entry, hentry⟩ := (hfound node hnode).shown answer hok hanswer
    obtain ⟨haddr, -, answer', hanswer', hsnapshot⟩ := (hfound node hnode).only entry hentry
    obtain rfl := Except.ok.inj (hanswer.symm.trans hanswer')
    have hshows : Shows env.response user entry _ := shows_applyUserFilter user
    exact ⟨_, List.mem_map_of_mem ((hmem entry).2 ⟨_, hentry⟩), entry, haddr, hshows,
      hshows.snapshot _ hsnapshot⟩
  · obtain ⟨entry, hentry, rfl⟩ := List.mem_map.1 hview
    obtain ⟨key, hrow⟩ := (hmem entry).1 hentry
    obtain ⟨hknown, hkey⟩ := hknows.rows key entry hrow
    obtain ⟨node, hnode, haddr⟩ := List.mem_map.1 hknown
    rw [← hkey, ← haddr] at hrow
    obtain ⟨-, hok, answer, hanswer, hsnapshot⟩ := (hfound node hnode).only entry hrow
    have hshows : Shows env.response user entry _ := shows_applyUserFilter user
    exact ⟨node, hnode, hok, answer, hanswer, entry, haddr.symm, hshows,
      hshows.snapshot _ hsnapshot⟩
  · have hprinted : Set.InjOn SocketAddr.printed
        {a | a ∈ env.discovered.map DiscoveredNode.addr} := by
      have hnodup : ((env.discovered.map DiscoveredNode.addr).map SocketAddr.printed).Nodup := by
        rw [List.map_map]
        exact List.pairwise_map.2 ((pairwise_mergeDiscoveredNodes _ _ _).imp fun h => h.ne)
      exact fun a ha b hb => List.inj_on_of_nodup_map hnodup ha hb
    have hdistinct : api.rows.Distinct fun entry => entry.addr.printed := by
      intro key key' entry entry' hentry hentry' heq
      obtain ⟨hknown, hkey⟩ := hknows.rows key entry hentry
      obtain ⟨hknown', hkey'⟩ := hknows.rows key' entry' hentry'
      rw [← hkey, ← hkey', hprinted hknown hknown' heq]
    have hperm := ((List.mergeSort_perm ((env.listing.entries api.rows).map Prod.snd)
      fun a b => decide (a.connectionId ≤ b.connectionId)).trans
        (listing_perm env.listing api.rows)).map fun entry => entry.addr.printed
    have haddr : (NodeView.addr ∘ fun entry => applyUserFilter user
        (nodeViewFromEntry env.response entry)) = fun entry => entry.addr.printed :=
      funext fun entry => (shows_applyUserFilter user).addr
    rw [List.map_map, haddr]
    exact hperm.nodup_iff.2 (Keyed.nodup_values hdistinct)

end Answer

/-! ### Three servers -/

/-- A search finds `a`, `b` and `c`; `b` does not answer its query, and `c` no connect. -/
def threeServers : QueryEnv where
  nowMs := 0
  multicastNodes := .ok [nodeAt "b" 3, nodeAt "a" 2]
  staticNodes := .ok [nodeAt "0.0.0.1" 1]
  merging := .list _ _
  connects addr :=
    if addr = .v4 2 7070 then answered "a"
    else if addr = .v4 3 7070 then answered "b"
    else { result := .error "refused", order := .list _ _, nowMs := 0 }
  refreshing := .list _ _
  staleAtMs := 0
  targets addr :=
    { connect := { result := .error "refused", order := .list _ _, nowMs := 0 }
      query :=
        if addr = .v4 2 7070 then
          .ok (emptySnapshot "1", { hostname := "a", driverVersion := none, gres := [] })
        else .error "timeout"
      latencyUs := 100
      nowMs := 0 }
  listing := .list _ _
  response := quietEnv

/-- What the three servers are discovered as, in the order of their addresses.
-/
theorem discovered_threeServers :
    threeServers.discovered = [nodeAt "0.0.0.1" 1, nodeAt "a" 2, nodeAt "b" 3] := by
  rw [QueryEnv.discovered, mergeDiscoveredNodes_eq, List.mergeSort_of_pairwise]
  · decide +kernel
  · decide +kernel

/-- Only `a` is shown. -/
theorem first_query_shows_three :
    let cfg : BackendConfig := { smallConfig with discoverWaitMs := 1 }
    ∃ resp, (BackendState.query cfg threeServers { api := { rows := ∅ } } none none).1 =
        some resp ∧
      (∃ view ∈ resp.nodes, ShowsServer quietEnv none (.v4 2 7070) (emptySnapshot "1") view) ∧
      ∀ view ∈ resp.nodes, view.addr = (SocketAddr.v4 2 7070).printed := by
  let name (addr : SocketAddr) : String :=
    if addr = .v4 2 7070 then "a" else if addr = .v4 3 7070 then "b" else "c"
  let cfg : BackendConfig := { smallConfig with discoverWaitMs := 1 }
  have haddrs : threeServers.discovered.map DiscoveredNode.addr =
      [.v4 1 7070, .v4 2 7070, .v4 3 7070] := by
    rw [discovered_threeServers]
    rfl
  have hnamed : threeServers.Named cfg name := by
    have hquery : ∀ node ∈ [nodeAt "0.0.0.1" 1, nodeAt "a" 2, nodeAt "b" 3], ∀ answer,
        (threeServers.targets node.addr).query = .ok answer →
          answer.2.hostname = name node.addr := by
      simp [threeServers, nodeAt, name]
    refine ⟨?_, ?_, ?_, ?_, ?_, ?_⟩
    · rw [discovered_threeServers]
      decide
    · rw [haddrs]
      have hinj : ∀ a ∈ [SocketAddr.v4 1 7070, .v4 2 7070, .v4 3 7070],
          ∀ b ∈ [SocketAddr.v4 1 7070, .v4 2 7070, .v4 3 7070], name a = name b → a = b := by
        decide
      exact fun a ha b hb => hinj a ha b hb
    · rw [haddrs]
      have hinj : ∀ a ∈ [SocketAddr.v4 1 7070, .v4 2 7070, .v4 3 7070],
          ∀ b ∈ [SocketAddr.v4 1 7070, .v4 2 7070, .v4 3 7070],
            a.cacheKey = b.cacheKey → a = b := by
        decide
      exact fun a ha b hb => hinj a ha b hb
    all_goals rw [discovered_threeServers]
    · simp [threeServers, nodeAt, name, answered]
    · simp [threeServers]
    · exact hquery
  obtain ⟨resp, hresp, hshown, honly, -⟩ := @first_query_shows cfg threeServers
    { api := { rows := ∅ } } name rfl rfl rfl hnamed none
  refine ⟨resp, hresp, ?_, fun view hview => ?_⟩
  · have ha : nodeAt "a" 2 ∈ threeServers.discovered := by
      rw [discovered_threeServers]
      decide
    exact hshown _ ha rfl _ rfl
  · obtain ⟨node, -, -, answer, hanswer, entry, haddr, hshows, -⟩ := honly view hview
    rw [hshows.addr, haddr]
    by_cases hnode : node.addr = .v4 2 7070
    · rw [hnode]
    · simp [threeServers, hnode] at hanswer

end Backend
end Clustat
