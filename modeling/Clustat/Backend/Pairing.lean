/-
# Rows and connections stay paired

The rows of the backend and its pool of connections are two maps
(`crates/client-backend/src/local_api.rs`), the one by the text `{ip}-{port}`, the
other by the address, and the operations change one after the other.  A
connection that is installed gets a row or has its row renewed; a connection that
gives way to another of its host, or whose query fails, is removed with its row;
and where there is no connection, a row that had a snapshot is replaced by one
that has none.

So, as long as no two addresses share ip and port and a server keeps its hostname,
every operation leaves the maps paired (`Paired`): a connection has a row, a row
with a snapshot has a connection, of the hostname it shows, and no hostname is
shown with two snapshots (`paired_of_reachable`).
-/

import Clustat.Backend.ConnectionIds
import Clustat.Backend.Pool
import Mathlib.Data.Set.Function

namespace Clustat
namespace Backend
namespace LocalApiState

open Table Lts

/-- The server at the address answers a handshake with its hostname. -/
def ConnectEnv.Stable (host : SocketAddr → String) (addr : SocketAddr) (env : ConnectEnv) : Prop :=
  ∀ metadata, env.result = .ok metadata → metadata.hostname = host addr

/-- And a query. -/
def TargetEnv.Stable (host : SocketAddr → String) (addr : SocketAddr) (env : TargetEnv) : Prop :=
  env.connect.Stable host addr ∧ ∀ snapshot metadata, env.query = .ok (snapshot, metadata) →
    snapshot.hostname = host addr ∧ metadata.hostname = host addr

/-- The operation is given addresses of `A`, and the servers it meets have the
hostnames `host`. -/
def Op.Stable (cfg : Config) (host : SocketAddr → String) (A : Set SocketAddr)
    (s : LocalApiState) : Op → Prop
  | .addDiscoveredNodes nodes => ∀ node ∈ nodes, node.addr ∈ A
  | .establishConnections nodes env =>
    ∀ x ∈ nodes.zipIdx, x.1.addr ∈ A ∧ (env x.2).Stable host x.1.addr
  | .refreshStaleCacheForQuery order nowMs env =>
    ∀ x ∈ (s.staleTargets cfg order nowMs).zipIdx, (env x.2).Stable host x.1.addr

/-- **The invariant**: the pool and the rows, with addresses of `A` and the
hostnames of the servers there. -/
structure Paired (host : SocketAddr → String) (A : Set SocketAddr) (s : LocalApiState) : Prop where
  pooled : ∀ a c, s.connections.lookup a = some c →
    c.addr = a ∧ a ∈ A ∧ c.serial < s.nextSerial ∧ s.hostname c = host a
  distinct : ∀ a ∈ s.connections, ∀ b ∈ s.connections, host a = host b → a = b
  keyed : Keyed s.rows
  known : ∀ key entry, s.rows.lookup key = some entry → entry.addr ∈ A
  row : ∀ a ∈ s.connections, a.cacheKey ∈ s.rows
  shown : ∀ key entry, s.rows.lookup key = some entry → entry.lastSnapshot.isSome →
    entry.addr ∈ s.connections ∧ entry.hostname = host entry.addr

section Steps

variable {cfg : Config} {host : SocketAddr → String} {A : Set SocketAddr} {s s' : LocalApiState}
  {addr : SocketAddr} {c : Connection} {entry : ConnectionCacheEntry}

/-- An address is in the pool when the pool has a connection for it. -/
theorem mem_connections : addr ∈ s.connections ↔ ∃ c, s.connections.lookup addr = some c := by
  rw [← AList.lookup_isSome, Option.isSome_iff_exists]

/-- The addresses of the pool are among those of `A`. -/
theorem Paired.mem_of_pooled (h : Paired host A s) (ha : addr ∈ s.connections) : addr ∈ A := by
  obtain ⟨c, hc⟩ := mem_connections.1 ha
  exact (h.pooled addr c hc).2.1

/-- The pooled connections are of different hosts. -/
theorem Paired.distinct_hostname (h : Paired host A s) : Distinct s.hostname s.connections := by
  intro a b c d hc hd heq
  rw [(h.pooled a c hc).2.2.2, (h.pooled b d hd).2.2.2] at heq
  exact h.distinct a (mem_connections.2 ⟨c, hc⟩) b (mem_connections.2 ⟨d, hd⟩) heq

/-! ### Single changes -/

/-- A row without a snapshot, or with that of a connection there is. -/
theorem Paired.insertRow (h : Paired host A s) (entry : ConnectionCacheEntry)
    (hA : entry.addr ∈ A)
    (hshown : entry.lastSnapshot.isSome →
      entry.addr ∈ s.connections ∧ entry.hostname = host entry.addr) :
    Paired host A { s with rows := s.rows.insert entry.addr.cacheKey entry } where
  pooled := h.pooled
  distinct := h.distinct
  keyed key e he := by
    rw [lookup_insert_eq] at he
    split_ifs at he with hk
    · rw [← Option.some.inj he, hk]
    · exact h.keyed key e he
  known key e he := by
    rw [lookup_insert_eq] at he
    split_ifs at he with hk
    · rwa [← Option.some.inj he]
    · exact h.known key e he
  row a ha := (AList.mem_insert _).2 (.inr (h.row a ha))
  shown key e he hsome := by
    rw [lookup_insert_eq] at he
    split_ifs at he with hk
    · obtain rfl := Option.some.inj he
      exact hshown hsome
    · exact h.shown key e he hsome

/-- A row that no connection has. -/
theorem Paired.eraseRow (h : Paired host A s) {key : CacheKey}
    (hkey : ∀ a ∈ s.connections, a.cacheKey ≠ key) :
    Paired host A { s with rows := s.rows.erase key } where
  pooled := h.pooled
  distinct := h.distinct
  keyed k e he := by
    rw [lookup_erase_eq] at he
    split_ifs at he
    exact h.keyed k e he
  known k e he := by
    rw [lookup_erase_eq] at he
    split_ifs at he
    exact h.known k e he
  row a ha := AList.mem_erase.2 ⟨hkey a ha, h.row a ha⟩
  shown k e he hsome := by
    rw [lookup_erase_eq] at he
    split_ifs at he
    exact h.shown k e he hsome

/-- **A connection and its row are removed together**, and what is left is
paired as it was. -/
theorem Paired.drop (hA : Set.InjOn SocketAddr.cacheKey A) (h : Paired host A s) (ha : addr ∈ A) :
    Paired host A { s with
      connections := s.connections.erase addr, rows := s.rows.erase addr.cacheKey } := by
  have hleft : ∀ a c, (s.connections.erase addr).lookup a = some c →
      s.connections.lookup a = some c := by
    intro a c hc
    rw [lookup_erase_eq] at hc
    split_ifs at hc
    exact hc
  have hmem : ∀ a, a ∈ s.connections.erase addr ↔ a ≠ addr ∧ a ∈ s.connections := fun a =>
    AList.mem_erase
  refine ⟨fun a c hc => h.pooled a c (hleft a c hc), fun a ha b hb => ?_, fun key e he => ?_,
    fun key e he => ?_, fun a ha' => ?_, fun key e he hsome => ?_⟩
  · exact h.distinct a ((hmem a).1 ha).2 b ((hmem b).1 hb).2
  · rw [lookup_erase_eq] at he
    split_ifs at he
    exact h.keyed key e he
  · rw [lookup_erase_eq] at he
    split_ifs at he
    exact h.known key e he
  · obtain ⟨hne, hin⟩ := (hmem a).1 ha'
    refine AList.mem_erase.2 ⟨fun hk => ?_, h.row a hin⟩
    exact hne (hA (h.mem_of_pooled hin) ha hk)
  · rw [lookup_erase_eq] at he
    split_ifs at he with hk
    obtain ⟨hin, hhost⟩ := h.shown key e he hsome
    refine ⟨(hmem e.addr).2 ⟨fun heq => hk ?_, hin⟩, hhost⟩
    rw [← h.keyed key e he, heq]

/-- **A connection and its row are added together**: the connection is to a
host that no other has, and the row is its own. -/
theorem Paired.add (h : Paired host A s) (hA : c.addr ∈ A) (hmade : c.serial < s.nextSerial)
    (hhost : s.hostname c = host c.addr)
    (hnew : ∀ a ∈ s.connections, host a ≠ host c.addr) (haddr : entry.addr = c.addr)
    (hrow : entry.hostname = host c.addr) :
    Paired host A { s with
      connections := s.connections.insert c.addr c
      rows := s.rows.insert c.addr.cacheKey entry } := by
  have hmem : ∀ a, a ∈ s.connections.insert c.addr c ↔ a = c.addr ∨ a ∈ s.connections := fun a =>
    AList.mem_insert _
  refine ⟨fun a d hd => ?_, fun a ha b hb heq => ?_, fun key e he => ?_, fun key e he => ?_,
    fun a ha => ?_, fun key e he hsome => ?_⟩
  · rw [lookup_insert_eq] at hd
    split_ifs at hd with hac
    · obtain rfl := Option.some.inj hd
      exact ⟨hac.symm, hac ▸ hA, hmade, hac ▸ hhost⟩
    · exact h.pooled a d hd
  · rcases (hmem a).1 ha with rfl | ha
    · rcases (hmem b).1 hb with rfl | hb
      · rfl
      · exact absurd heq.symm (hnew b hb)
    · rcases (hmem b).1 hb with rfl | hb
      · exact absurd heq (hnew a ha)
      · exact h.distinct a ha b hb heq
  · rw [lookup_insert_eq] at he
    split_ifs at he with hk
    · rw [← Option.some.inj he, hk, haddr]
    · exact h.keyed key e he
  · rw [lookup_insert_eq] at he
    split_ifs at he with hk
    · rw [← Option.some.inj he, haddr]
      exact hA
    · exact h.known key e he
  · rcases (hmem a).1 ha with rfl | ha
    · exact (AList.mem_insert _).2 (.inl rfl)
    · exact (AList.mem_insert _).2 (.inr (h.row a ha))
  · rw [lookup_insert_eq] at he
    split_ifs at he with hk
    · obtain rfl := Option.some.inj he
      exact ⟨(hmem _).2 (.inl haddr), by rw [hrow, haddr]⟩
    · obtain ⟨hin, hshow⟩ := h.shown key e he hsome
      exact ⟨(hmem _).2 (.inr hin), hshow⟩

/-! ### Connecting -/

/-- A connection that is made and not pooled yet. -/
theorem Paired.connectNode (h : Paired host A s) (addr : SocketAddr) (metadata : HostMetadata) :
    Paired host A (s.connectNode addr metadata).1 := by
  refine ⟨fun a d hd => ?_, h.distinct, h.keyed, h.known, h.row, h.shown⟩
  obtain ⟨haddr, hA, hmade, hhost⟩ := h.pooled a d hd
  refine ⟨haddr, hA, hmade.trans (Nat.lt_succ_self _), ?_⟩
  have hold : (s.connectNode addr metadata).1.metadata d.serial = s.metadata d.serial :=
    Function.update_of_ne (Nat.ne_of_lt hmade) _ _
  rw [hostname, hold]
  exact hhost

/-- The new connection. -/
theorem connectNode_connection (s : LocalApiState) (addr : SocketAddr) (metadata : HostMetadata) :
    (s.connectNode addr metadata).2.addr = addr ∧
      (s.connectNode addr metadata).2.serial < (s.connectNode addr metadata).1.nextSerial ∧
      (s.connectNode addr metadata).1.hostname (s.connectNode addr metadata).2 =
        metadata.hostname :=
  ⟨rfl, Nat.lt_succ_self _, congrArg HostMetadata.hostname (Function.update_self ..)⟩

/-- A connection of the same host gives way with its row. -/
theorem Paired.makeWay (hA : Set.InjOn SocketAddr.cacheKey A) (h : Paired host A s)
    (order : Iteration SocketAddr Connection) (c : Connection) :
    Paired host A (s.makeWay order c) := by
  unfold LocalApiState.makeWay
  cases hx : s.existing? order c with
  | none => exact h
  | some x =>
    obtain ⟨hlookup, -⟩ := existing?_eq_some hx
    obtain ⟨haddr, hin, -⟩ := h.pooled x.1 x.2 hlookup
    have hdrop := h.drop hA hin
    dsimp only [replaceExisting]
    rw [haddr]
    exact hdrop

/-- And then there is none of the host. -/
theorem Paired.ne_of_makeWay (hA : Set.InjOn SocketAddr.cacheKey A) (h : Paired host A s)
    {order : Iteration SocketAddr Connection} (hhost : s.hostname c = host addr) :
    ∀ a ∈ (s.makeWay order c).connections, host a ≠ host addr := by
  intro a ha heq
  obtain ⟨d, hd⟩ := mem_connections.1 ha
  have hd' := ((h.makeWay hA order c).pooled a d hd).2.2.2
  have hne := hostname_makeWay h.distinct_hostname hd
  rw [hostname, makeWay_metadata] at hd'
  exact hne (hd'.trans (heq.trans hhost.symm))

/-- What a new connection's row is. -/
theorem Paired.placeholder (hA : Set.InjOn SocketAddr.cacheKey A) (h : Paired host A s)
    (hc : c.addr ∈ A) (s' : LocalApiState) (hrows : s'.rows = s.rows) (index : ℕ)
    (nowMs : Int64) :
    (s'.placeholder index c nowMs).addr = c.addr ∧
      (s'.placeholder index c nowMs).hostname = s'.hostname c := by
  unfold LocalApiState.placeholder
  rw [hrows]
  cases hrow : s.rows.lookup c.addr.cacheKey with
  | none => exact ⟨rfl, rfl⟩
  | some e => exact ⟨hA (h.known _ e hrow) hc (h.keyed _ e hrow), rfl⟩

/-- **One connect keeps the pairing**, whatever it comes to: nothing, a new
connection, or one in the place of another to the same host. -/
theorem Paired.establishOneConnection (hA : Set.InjOn SocketAddr.cacheKey A) (h : Paired host A s)
    (index : ℕ) (ha : addr ∈ A) {env : ConnectEnv} (henv : env.Stable host addr) :
    Paired host A (s.establishOneConnection cfg index addr env) := by
  unfold LocalApiState.establishOneConnection connectOne reserve
  split_ifs with hmay hres
  · exact h
  · cases hresult : env.result with
    | error e => exact ⟨h.pooled, h.distinct, h.keyed, h.known, h.row, h.shown⟩
    | ok metadata =>
      -- The connection, and the state before the second pool section.
      have hreserved : Paired host A { s with connecting := addr :: s.connecting } :=
        ⟨h.pooled, h.distinct, h.keyed, h.known, h.row, h.shown⟩
      have hmade := hreserved.connectNode addr metadata
      obtain ⟨hcaddr, hserial, hhost⟩ := connectNode_connection
        { s with connecting := addr :: s.connecting } addr metadata
      rw [henv metadata hresult] at hhost
      dsimp only
      generalize LocalApiState.connectNode _ addr metadata = made at hmade hcaddr hserial hhost
      obtain ⟨s₁, c⟩ := made
      dsimp only at hmade hcaddr hserial hhost ⊢
      have h₂ : Paired host A (s₁.unreserve addr) :=
        ⟨hmade.pooled, hmade.distinct, hmade.keyed, hmade.known, hmade.row, hmade.shown⟩
      have hhost₂ : (s₁.unreserve addr).hostname c = host addr := hhost
      have hserial₂ : c.serial < (s₁.unreserve addr).nextSerial := hserial
      generalize s₁.unreserve addr = s₂ at h₂ hhost₂ hserial₂
      rcases hinst : s₂.install cfg env.order addr c with ⟨s₃, pooled⟩
      rcases install_cases hinst with ⟨-, rfl, rfl⟩ | ⟨-, -, rfl, rfl⟩ | ⟨-, -, rfl, rfl⟩
      · exact h₂
      · exact h₂.makeWay hA _ _
      · have hway := h₂.makeWay hA env.order c
        have hhost₃ : (s₂.makeWay env.order c).hostname c = host c.addr := by
          rw [hostname, makeWay_metadata, hcaddr]
          exact hhost₂
        obtain ⟨hrowAddr, hrowHost⟩ := hway.placeholder hA (hcaddr ▸ ha)
          { s₂.makeWay env.order c with
            connections := (s₂.makeWay env.order c).connections.insert addr c }
          rfl index env.nowMs
        have hadd := hway.add (hcaddr ▸ ha) (hserial₂.trans_le makeWay_nextSerial.ge) hhost₃
          (hcaddr ▸ h₂.ne_of_makeWay hA hhost₂) hrowAddr (hrowHost.trans hhost₃)
        rw [hcaddr] at hadd
        dsimp only [upsertConnectionPlaceholder]
        rw [hcaddr]
        exact hadd
  · exact h

/-! ### Refreshing -/

variable {target : RefreshTarget} {tenv : TargetEnv}

/-- A query leaves the metadata of its connection with the hostname of the server. -/
theorem Paired.setMetadata (h : Paired host A s) (hc : s.connections.lookup addr = some c)
    {metadata : HostMetadata} (hhost : metadata.hostname = host addr) :
    Paired host A (s.setMetadata c metadata) := by
  refine ⟨fun a d hd => ?_, h.distinct, h.keyed, h.known, h.row, h.shown⟩
  obtain ⟨haddr, hin, hmade, hd'⟩ := h.pooled a d hd
  refine ⟨haddr, hin, hmade, ?_⟩
  by_cases hserial : d.serial = c.serial
  · -- The same object: its hostname was that of `addr` before, too.
    have hold : s.hostname d = s.hostname c := by rw [hostname, hostname, hserial]
    have hnew : (s.setMetadata c metadata).hostname d = metadata.hostname := by
      rw [hostname, hserial]
      exact congrArg HostMetadata.hostname (Function.update_self ..)
    rw [hnew, hhost, ← hd', hold, (h.pooled addr c hc).2.2.2]
  · have hold : (s.setMetadata c metadata).metadata d.serial = s.metadata d.serial :=
      Function.update_of_ne hserial _ _
    rw [hostname, hold]
    exact hd'

/-- **The query of a target** keeps the pairing, whether it succeeds or fails:
the row gets a snapshot of its own host, or goes together with the connection.
-/
theorem Paired.queryTarget (hA : Set.InjOn SocketAddr.cacheKey A) (h : Paired host A s)
    (hc : s.connections.lookup target.addr = some c) (henv : tenv.Stable host target.addr) :
    Paired host A (s.queryTarget target c tenv) := by
  have hin : target.addr ∈ s.connections := mem_connections.2 ⟨c, hc⟩
  unfold LocalApiState.queryTarget
  cases hquery : tenv.query with
  | error e => exact h.drop hA (h.mem_of_pooled hin)
  | ok result =>
    obtain ⟨snapshot, metadata⟩ := result
    obtain ⟨hsnapshot, hmetadata⟩ := henv.2 snapshot metadata hquery
    exact (h.setMetadata hc hmetadata).insertRow
      (.fromSnapshot target.connectionId target.addr snapshot (some tenv.latencyUs) tenv.nowMs)
      (h.mem_of_pooled hin) fun _ => ⟨hin, hsnapshot⟩

/-- A target without a connection. -/
theorem Paired.unavailable (hA : Set.InjOn SocketAddr.cacheKey A) (h : Paired host A s)
    (ht : target.addr ∈ A) (hnone : s.connections.lookup target.addr = none) (nowMs : Int64) :
    Paired host A (s.unavailable cfg target nowMs) := by
  unfold LocalApiState.unavailable
  dsimp only
  split_ifs
  · exact h.insertRow { connectionId := _, hostname := _, recordTimestamp := _
                        addr := target.addr, lastError := _ } ht nofun
  · refine h.eraseRow fun a ha hk => ?_
    obtain rfl := hA (h.mem_of_pooled ha) ht hk
    exact AList.lookup_eq_none.1 hnone ha

/-- **One target keeps the pairing**, also when its own row or connection has gone
since the refresh began. -/
theorem Paired.refreshTarget (hA : Set.InjOn SocketAddr.cacheKey A) (h : Paired host A s)
    (ht : target.addr ∈ A) (henv : tenv.Stable host target.addr) :
    Paired host A (s.refreshTarget cfg target tenv) := by
  unfold LocalApiState.refreshTarget
  cases hc : s.connections.lookup target.addr with
  | some c => exact h.queryTarget hA hc henv
  | none =>
    let node : DiscoveredNode :=
      { hostname := target.hostname, addr := target.addr, tsMs := tenv.nowMs }
    have h₁ : Paired host A (s.establishConnections cfg [node] fun _ => tenv.connect) :=
      h.establishOneConnection hA (s.rows.size + 0 + 1) ht henv.1
    dsimp only
    generalize LocalApiState.establishConnections cfg s _ _ = s₁ at h₁ ⊢
    cases hc₁ : s₁.connections.lookup target.addr with
    | some c => exact h₁.queryTarget hA hc₁ henv
    | none => exact h₁.unavailable hA ht hc₁ _

/-! ### All operations -/

/-- **Every operation keeps the pairing**, if the servers keep their hostnames
in it. -/
theorem Paired.run (hA : Set.InjOn SocketAddr.cacheKey A) (h : Paired host A s) {op : Op}
    (hop : op.Stable cfg host A s) : Paired host A (s.run cfg op) := by
  cases op with
  | addDiscoveredNodes nodes =>
    refine foldl_invariant (C := fun _ x => x.1.addr ∈ A)
      (I := fun rows => Paired host A { s with rows := rows })
      (along_of_forall fun x hx _ => hop x.1 (List.fst_mem_of_mem_zipIdx hx)) ?_ h
    rintro rows ⟨node, idx⟩ hrows hnode
    unfold addDiscoveredNode
    dsimp only
    split_ifs
    · exact hrows
    · exact hrows
    · exact hrows.insertRow (.discovered _ node) hnode nofun
  | establishConnections nodes env =>
    refine foldl_invariant (C := fun _ x => x.1.addr ∈ A ∧ (env x.2).Stable host x.1.addr)
      (I := Paired host A) (along_of_forall fun x hx _ => hop x hx) ?_ h
    rintro s ⟨node, idx⟩ hs ⟨hin, henv⟩
    exact hs.establishOneConnection hA _ hin henv
  | refreshStaleCacheForQuery order nowMs env =>
    refine foldl_invariant (C := fun _ x => x.1.addr ∈ A ∧ (env x.2).Stable host x.1.addr)
      (I := Paired host A) (along_of_forall fun x hx _ => ⟨?_, hop x hx⟩)
      (fun s x hs hx => hs.refreshTarget hA hx.1 hx.2) h
    obtain ⟨entry, hentry, heq⟩ := targets_of_mem h.keyed (List.fst_mem_of_mem_zipIdx hx)
    have haddr : entry.addr = x.1.addr := congrArg Prod.snd heq
    exact haddr ▸ h.known _ entry hentry

/-- The rows of what has been discovered, and no connections. -/
theorem paired_buildCache {discovered : List DiscoveredNode}
    (h : ∀ node ∈ discovered, node.addr ∈ A) :
    Paired host A { rows := buildCache discovered } := by
  have hempty : Paired host A { rows := ∅ } := by
    refine ⟨fun a c hc => ?_, fun a ha => ?_, fun k e he => ?_, fun k e he => ?_, fun a ha => ?_,
      fun k e he => ?_⟩
    all_goals first
      | exact absurd ha (AList.notMem_empty _)
      | simp [AList.lookup_empty] at hc
      | simp [AList.lookup_empty] at he
  refine foldl_invariant (C := fun _ x => x.1.addr ∈ A)
    (I := fun rows => Paired host A { rows })
    (along_of_forall fun x hx _ => h x.1 (List.fst_mem_of_mem_zipIdx hx)) ?_ hempty
  rintro rows ⟨node, idx⟩ hrows hnode
  exact hrows.insertRow (.discovered _ node) hnode nofun

end Steps

/-- **Rows and connections stay paired.**  Let no two of the addresses in use share ip
and port, and every server keep its hostname.  After any operations, one after
another and with any outcome of their connects and queries: the address of every
connection has a row under its key, every row is under the key of its address, every
row with a snapshot has a connection to its address with the hostname it shows, and
no hostname is shown with two snapshots. -/
theorem rows_and_connections_paired {cfg : Config} {host : SocketAddr → String}
    {A : Set SocketAddr} (hA : Set.InjOn SocketAddr.cacheKey A) {discovered : List DiscoveredNode}
    (hd : ∀ node ∈ discovered, node.addr ∈ A) {s : LocalApiState}
    (h : ((sequential cfg discovered).restrict fun s op => op.Stable cfg host A s).Reachable s) :
    (∀ a c, s.connections.lookup a = some c → c.addr = a ∧ c.addr.cacheKey ∈ s.rows) ∧
      (∀ key entry, s.rows.lookup key = some entry → entry.addr.cacheKey = key) ∧
      (∀ key entry, s.rows.lookup key = some entry → entry.lastSnapshot.isSome →
        ∃ c, s.connections.lookup entry.addr = some c ∧ s.hostname c = entry.hostname) ∧
      ∀ key key' entry entry', s.rows.lookup key = some entry → s.rows.lookup key' = some entry' →
        entry.lastSnapshot.isSome → entry'.lastSnapshot.isSome →
          entry.hostname = entry'.hostname → key = key' := by
  have hinv : Paired host A s := by
    refine h.invariant ?_ ?_
    · rintro s rfl
      exact paired_buildCache hd
    · rintro s op s' hs ⟨hstep, hop⟩
      rw [← Option.some.inj hstep]
      exact hs.run hA hop
  refine ⟨fun a c hc => ?_, hinv.keyed, fun key entry hrow hsome => ?_, ?_⟩
  · obtain ⟨haddr, -⟩ := hinv.pooled a c hc
    exact ⟨haddr, haddr ▸ hinv.row a (mem_connections.2 ⟨c, hc⟩)⟩
  · obtain ⟨hin, hhost⟩ := hinv.shown key entry hrow hsome
    obtain ⟨c, hc⟩ := mem_connections.1 hin
    exact ⟨c, hc, by rw [hhost, (hinv.pooled _ c hc).2.2.2]⟩
  · intro key key' entry entry' hrow hrow' hsome hsome' heq
    obtain ⟨hin, hhost⟩ := hinv.shown key entry hrow hsome
    obtain ⟨hin', hhost'⟩ := hinv.shown key' entry' hrow' hsome'
    have haddr := hinv.distinct _ hin _ hin' (hhost.symm.trans (heq.trans hhost'))
    rw [← hinv.keyed key entry hrow, ← hinv.keyed key' entry' hrow', haddr]

/-! ### One host, two addresses -/

/-- A snapshot of the host `a`. -/
def pairedSnapshot : ServerGresSnapshot where
  hostname := "a"
  driverVersion := none
  gres := []

/-- What a target of the host meets: its connect and its query are answered. -/
def pairedEnv : TargetEnv where
  connect := answered "a"
  query := .ok (pairedSnapshot, { hostname := "a", driverVersion := none, gres := [] })
  latencyUs := 7
  nowMs := 5

/-- The host is discovered and connected to under one address, and then under another;
then comes a refresh. -/
def pairedState : LocalApiState :=
  let s : LocalApiState := { rows := buildCache [nodeAt "a" 1] }
  let s := s.run smallConfig (.establishConnections [nodeAt "a" 1] fun _ => answered "a")
  let s := s.run smallConfig (.establishConnections [nodeAt "a" 2] fun _ => answered "a")
  s.run smallConfig (.refreshStaleCacheForQuery (.list _ _) 5 fun _ => pairedEnv)

/-- The first connection has given way to the second, with its row, and the only row
has a snapshot. -/
theorem rows_and_connections_paired_moved :
    pairedState.connections.keys = [(nodeAt "a" 2).addr] ∧
      pairedState.rows.values.map (fun entry => (entry.addr, entry.lastSnapshot)) =
        [((nodeAt "a" 2).addr, some pairedSnapshot)] ∧
      ∀ key entry, pairedState.rows.lookup key = some entry → entry.lastSnapshot.isSome →
        ∃ c, pairedState.connections.lookup entry.addr = some c ∧
          pairedState.hostname c = entry.hostname := by
  let A : Set SocketAddr := {(nodeAt "a" 1).addr, (nodeAt "a" 2).addr}
  have hA : Set.InjOn SocketAddr.cacheKey A := by
    rintro a (rfl | rfl) b (rfl | rfl) <;> decide
  have hnode : ∀ node ∈ [nodeAt "a" 1], node.addr ∈ A := by simp [A]
  have hinit : ((sequential smallConfig [nodeAt "a" 1]).restrict fun s op =>
      op.Stable smallConfig (fun _ => "a") A s).Reachable
        { rows := buildCache [nodeAt "a" 1] } := .of_init rfl
  have hanswered : ∀ addr, (answered "a").Stable (fun _ => "a") addr := by
    rintro addr metadata h
    rw [← Except.ok.inj h]
  have henv : ∀ addr, pairedEnv.Stable (fun _ => "a") addr := fun addr =>
    ⟨hanswered addr, by rintro snapshot metadata h; cases h; exact ⟨rfl, rfl⟩⟩
  have h := hinit.step (a := .establishConnections [nodeAt "a" 1] fun _ => answered "a")
    ⟨rfl, by simp [Op.Stable, A, hanswered]⟩
  have h := h.step (a := .establishConnections [nodeAt "a" 2] fun _ => answered "a")
    ⟨rfl, by simp [Op.Stable, A, hanswered]⟩
  have h := h.step (a := .refreshStaleCacheForQuery (.list _ _) 5 fun _ => pairedEnv)
    ⟨rfl, by intro x _; exact henv x.1.addr⟩
  exact ⟨by decide, by decide, (rows_and_connections_paired hA hnode h).2.2.1⟩

end LocalApiState
end Backend
end Clustat
