/-
# When connection ids identify rows

The rows of the backend are selected by their connection id
(`crates/client-backend/src/local_api.rs`), and the number of a new id is the
count of rows plus the position of the node.  A connection gives its row a new
number, and rows are removed, so that the count may fall behind the numbers in
use, and the next node gets one that another row has (`duplicate_ids`).

Of the three operations only two hand out numbers that stay.  A refresh gives a
row it touches the id back that the row had when the refresh began
(`refresh_labelsFrom`), whatever connects, queries and replacements do in
between.  So the ids stay distinct in every run in which discovery and connects
hand out no number another row has (`FreshNumbers`).
-/

import Clustat.Backend.LocalApi

namespace Clustat
namespace Backend
namespace LocalApiState

open Table Lts

/-- No row under another key has the number. -/
def Unused (rows : CacheMap) (key : CacheKey) (n : ℕ) : Prop :=
  ∀ x ∈ rows.entries, x.1 ≠ key → x.2.connectionId ≠ connectionId n

/-- A node that gets a row gets a number no other row has. -/
def FreshAdd (indexBase : ℕ) (rows : CacheMap) (x : DiscoveredNode × ℕ) : Prop :=
  (rows.values.any fun entry => entry.hostname == x.1.hostname) = false →
    x.1.addr.cacheKey ∉ rows → Unused rows x.1.addr.cacheKey (indexBase + x.2 + 1)

/-- A connection that gets to the pool gets a number no other row has then. -/
def FreshConnect (cfg : Config) (indexBase : ℕ) (env : ℕ → ConnectEnv) (s : LocalApiState)
    (x : DiscoveredNode × ℕ) : Prop :=
  ∀ c ∈ (s.connectOne cfg x.1.addr (env x.2)).2,
    Unused (s.connectOne cfg x.1.addr (env x.2)).1.rows c.addr.cacheKey (indexBase + x.2 + 1)

/-- **The condition**: no number that discovery or connecting writes into a row is
that of another row. -/
def FreshNumbers (cfg : Config) (s : LocalApiState) : Op → Prop
  | .addDiscoveredNodes nodes =>
    Along (addDiscoveredNode s.rows.size) (FreshAdd s.rows.size) s.rows nodes.zipIdx
  | .establishConnections nodes env =>
    Along (establishNode cfg s.rows.size env) (FreshConnect cfg s.rows.size env) s nodes.zipIdx
  | .refreshStaleCacheForQuery .. => True

instance (rows : CacheMap) (key : CacheKey) (n : ℕ) : Decidable (Unused rows key n) :=
  inferInstanceAs (Decidable (∀ x ∈ rows.entries, x.1 ≠ key → x.2.connectionId ≠ connectionId n))

instance (indexBase : ℕ) (rows : CacheMap) (x : DiscoveredNode × ℕ) :
    Decidable (FreshAdd indexBase rows x) :=
  inferInstanceAs (Decidable (_ = false → _ ∉ rows → Unused _ _ _))

instance (cfg : Config) (indexBase : ℕ) (env : ℕ → ConnectEnv) (s : LocalApiState)
    (x : DiscoveredNode × ℕ) : Decidable (FreshConnect cfg indexBase env s x) :=
  inferInstanceAs (Decidable (∀ c ∈ (s.connectOne cfg x.1.addr (env x.2)).2, Unused _ _ _))

instance (cfg : Config) (s : LocalApiState) : DecidablePred (FreshNumbers cfg s) := fun
  | .addDiscoveredNodes _ => Along.decidable _ _ _ _
  | .establishConnections _ _ => Along.decidable _ _ _ _
  | .refreshStaleCacheForQuery .. => .isTrue trivial

/-- The invariant of the rows. -/
structure Identified (rows : CacheMap) : Prop where
  keyed : Keyed rows
  distinct : Distinct ConnectionCacheEntry.connectionId rows

/-- What of a row a refresh does not change. -/
def idAddr (entry : ConnectionCacheEntry) : String × SocketAddr := (entry.connectionId, entry.addr)

section Rows

variable {rows rows' : CacheMap} {entry : ConnectionCacheEntry} {key : CacheKey} {n : ℕ}

/-- A row with a number no other row has. -/
theorem Identified.insert (h : Identified rows) (hkey : entry.addr.cacheKey = key)
    (hid : entry.connectionId = connectionId n) (hn : Unused rows key n) :
    Identified (rows.insert key entry) := by
  refine ⟨fun k e he => ?_, h.distinct.insert fun k' e hk' he => ?_⟩
  · rw [lookup_insert_eq] at he
    split_ifs at he with hk
    · rw [hk, ← Option.some.inj he, hkey]
    · exact h.keyed k e he
  · rw [hid]
    exact hn ⟨k', e⟩ (AList.mem_lookup_iff.1 he) hk'

/-- Rows whose ids and addresses are those of rows there were. -/
theorem Identified.of_labelsFrom (h : Identified rows) (hl : LabelsFrom idAddr rows rows') :
    Identified rows' := by
  refine ⟨fun k e he => ?_, fun k k' e e' he he' hid => ?_⟩
  · obtain ⟨e₀, he₀, heq⟩ := hl k e he
    exact (congrArg (fun x => x.2.cacheKey) heq).symm.trans (h.keyed k e₀ he₀)
  · obtain ⟨e₀, he₀, heq⟩ := hl k e he
    obtain ⟨e₀', he₀', heq'⟩ := hl k' e' he'
    refine h.distinct k k' e₀ e₀' he₀ he₀' ?_
    exact (congrArg Prod.fst heq).trans (hid.trans (congrArg Prod.fst heq').symm)

end Rows

/-! ### Discovery and connecting -/

section Steps

variable {cfg : Config} {s : LocalApiState} {addr : SocketAddr} {env : ConnectEnv}

/-- A discovered node keeps the ids distinct, if the number it is given is
that of no other row. -/
theorem identified_addDiscoveredNode {indexBase : ℕ} {rows : CacheMap} {x : DiscoveredNode × ℕ}
    (h : Identified rows) (hn : FreshAdd indexBase rows x) :
    Identified (addDiscoveredNode indexBase rows x) := by
  obtain ⟨node, idx⟩ := x
  unfold addDiscoveredNode
  dsimp only
  split_ifs with hhost hkey
  · exact h
  · exact h
  · exact h.insert rfl rfl (hn (by simpa using hhost) hkey)

/-- The pool section removes a row at most. -/
theorem install_rows {ι : Type} {f : ConnectionCacheEntry → ι} {s' : LocalApiState}
    {order : Iteration SocketAddr Connection} {c : Connection} {installed : Bool}
    (h : s.install cfg order addr c = (s', installed)) : LabelsFrom f s.rows s'.rows := by
  unfold install at h
  dsimp only at h
  split_ifs at h
  · obtain rfl := congrArg Prod.fst h
    exact .refl _
  all_goals
    obtain rfl := congrArg Prod.fst h
    change LabelsFrom f s.rows (s.makeWay order c).rows
    unfold makeWay
    cases s.existing? order c with
    | none => exact .refl _
    | some existing => exact .erase _ _

/-- Up to its placeholder a connect removes a row at most, and what gets to the
pool is a connection to the address. -/
theorem connectOne_rows {ι : Type} {f : ConnectionCacheEntry → ι} {s' : LocalApiState}
    {c? : Option Connection} (h : s.connectOne cfg addr env = (s', c?)) :
    LabelsFrom f s.rows s'.rows ∧ ∀ c, c? = some c → c.addr = addr := by
  unfold connectOne reserve at h
  split_ifs at h with hmay hres
  · cases h
    exact ⟨.refl _, nofun⟩
  · cases hresult : env.result with
    | error e =>
      rw [hresult] at h
      cases h
      exact ⟨.refl _, nofun⟩
    | ok metadata =>
      rw [hresult] at h
      dsimp only [connectNode] at h
      split at h
      · rename_i heq
        cases h
        have hrows := install_rows (f := f) heq
        exact ⟨hrows, fun c hc => by rw [← Option.some.inj hc]⟩
      · rename_i heq
        cases h
        have hrows := install_rows (f := f) heq
        exact ⟨hrows, nofun⟩
  · cases h
    exact ⟨.refl _, nofun⟩

/-- The row of a new connection has the id of its number. -/
theorem connectionId_placeholder (index : ℕ) (c : Connection) (nowMs : Int64) :
    (s.placeholder index c nowMs).connectionId = connectionId index := by
  unfold placeholder
  split <;> rfl

/-- The row of a new connection has the key of its address, where each row has
that of its own. -/
theorem cacheKey_placeholder (hkeyed : Keyed s.rows) (index : ℕ) (c : Connection)
    (nowMs : Int64) : (s.placeholder index c nowMs).addr.cacheKey = c.addr.cacheKey := by
  unfold placeholder
  split
  · rename_i entry h
    exact hkeyed _ entry h
  · rfl

/-- Connecting to a node keeps the ids distinct, if the number it is given is
that of no other row. -/
theorem identified_establishNode {indexBase : ℕ} {env : ℕ → ConnectEnv} {x : DiscoveredNode × ℕ}
    (h : Identified s.rows) (hn : FreshConnect cfg indexBase env s x) :
    Identified (s.establishNode cfg indexBase env x).rows := by
  obtain ⟨node, idx⟩ := x
  unfold FreshConnect at hn
  unfold establishNode establishOneConnection
  dsimp only at hn ⊢
  rcases hc : s.connectOne cfg node.addr (env idx) with ⟨s', _ | c⟩
  · exact h.of_labelsFrom (connectOne_rows hc).1
  · rw [hc] at hn
    have h' := h.of_labelsFrom (connectOne_rows hc).1
    exact h'.insert (cacheKey_placeholder h'.keyed _ _ _) (connectionId_placeholder _ _ _)
      (hn c rfl)

/-! ### Refreshing -/

/-- A connect changes rows under other keys by removing one at most. -/
theorem establishOneConnection_off {ι : Type} {f : ConnectionCacheEntry → ι} (index : ℕ) :
    LabelsFromOff f addr.cacheKey s.rows
      (s.establishOneConnection cfg index addr env).rows := by
  unfold establishOneConnection
  rcases hc : s.connectOne cfg addr env with ⟨s', _ | c⟩
  · exact (connectOne_rows hc).1.off _
  · obtain ⟨hrows, haddr⟩ := connectOne_rows (f := f) hc
    dsimp only [upsertConnectionPlaceholder]
    rw [haddr c rfl]
    exact (hrows.off _).insert_any _

variable {rows₀ : CacheMap} {target : RefreshTarget} {tenv : TargetEnv}

/-- A target stands for a row. -/
def Targets (rows : CacheMap) (target : RefreshTarget) : Prop :=
  ∃ entry, rows.lookup target.addr.cacheKey = some entry ∧
    idAddr entry = (target.connectionId, target.addr)

/-- Whatever the query comes to, the target's row has its id, or is gone. -/
theorem queryTarget_labelsFrom (c : Connection) (ht : Targets rows₀ target)
    (h : LabelsFromOff idAddr target.addr.cacheKey rows₀ s.rows) :
    LabelsFrom idAddr rows₀ (s.queryTarget target c tenv).rows := by
  unfold queryTarget
  cases tenv.query with
  | error e => exact h.erase
  | ok r => exact h.insert ht

/-- Marking a target as unavailable brings no new id: its row keeps the one it
had. -/
theorem unavailable_labelsFrom (nowMs : Int64) (ht : Targets rows₀ target)
    (h : LabelsFromOff idAddr target.addr.cacheKey rows₀ s.rows) :
    LabelsFrom idAddr rows₀ (s.unavailable cfg target nowMs).rows := by
  unfold unavailable
  dsimp only
  split_ifs
  · exact h.insert ht
  · exact h.erase

/-- **A target** leaves every row the id and the address it had when the refresh
began. -/
theorem refreshTarget_labelsFrom (ht : Targets rows₀ target)
    (h : LabelsFrom idAddr rows₀ s.rows) :
    LabelsFrom idAddr rows₀ (s.refreshTarget cfg target tenv).rows := by
  unfold refreshTarget
  split
  · exact queryTarget_labelsFrom _ ht (h.off _)
  · have hoff : LabelsFromOff idAddr target.addr.cacheKey rows₀
        (s.establishOneConnection cfg (s.rows.size + 0 + 1) target.addr tenv.connect).rows := by
      intro k e hk he
      obtain ⟨e', he', heq⟩ := establishOneConnection_off _ k e hk he
      obtain ⟨e₀, he₀, heq₀⟩ := h k e' he'
      exact ⟨e₀, he₀, heq₀.trans heq⟩
    dsimp only
    split
    · exact queryTarget_labelsFrom _ ht hoff
    · exact unavailable_labelsFrom _ ht hoff

/-- The targets stand for rows. -/
theorem targets_of_mem (hkeyed : Keyed s.rows) {order : Iteration CacheKey ConnectionCacheEntry}
    {nowMs : Int64} (h : target ∈ s.staleTargets cfg order nowMs) : Targets s.rows target := by
  obtain ⟨entry, hentry, rfl⟩ := List.mem_map.1 h
  obtain ⟨x, hx, rfl⟩ := List.mem_map.1 (List.mem_filter.1 hentry).1
  obtain ⟨y, hy, rfl⟩ := List.mem_map.1 ((order.perm s.rows).mem_iff.1 hx)
  have hlookup : s.rows.lookup y.1 = some y.2 := AList.mem_lookup_iff.2 hy
  have hkey : y.2.addr.cacheKey = y.1 := hkeyed y.1 y.2 hlookup
  exact ⟨y.2, by rw [hkey]; exact hlookup, rfl⟩

/-- **A refresh hands out nothing that stays**: every row it leaves has the id and
the address it had. -/
theorem refresh_labelsFrom (hkeyed : Keyed s.rows) (order : Iteration CacheKey ConnectionCacheEntry)
    (nowMs : Int64) (env : ℕ → TargetEnv) :
    LabelsFrom idAddr s.rows (s.refreshStaleCacheForQuery cfg order nowMs env).rows := by
  refine foldl_invariant (C := fun _ x => Targets s.rows x.1)
    (I := fun s' : LocalApiState => LabelsFrom idAddr s.rows s'.rows)
    (along_of_forall fun x hx _ => ?_) (fun s' x hs' hx => refreshTarget_labelsFrom hx hs')
    (.refl _)
  exact targets_of_mem hkeyed (List.fst_mem_of_mem_zipIdx hx)

/-! ### All operations -/

/-- **Every operation keeps the rows identified**, if it hands out no number
in use; numbers that were in use before may come again. -/
theorem identified_run {op : Op} (h : Identified s.rows) (hn : FreshNumbers cfg s op) :
    Identified (s.run cfg op).rows := by
  cases op with
  | addDiscoveredNodes nodes =>
    exact foldl_invariant hn (fun _ _ hrows hx => identified_addDiscoveredNode hrows hx) h
  | establishConnections nodes env =>
    exact foldl_invariant (I := fun s : LocalApiState => Identified s.rows) hn
      (fun _ _ hrows hx => identified_establishNode hrows hx) h
  | refreshStaleCacheForQuery order nowMs env =>
    exact h.of_labelsFrom (refresh_labelsFrom h.keyed order nowMs env)

end Steps

/-- The first rows have the numbers of their positions. -/
theorem identified_buildCache (discovered : List DiscoveredNode) :
    Identified (buildCache discovered) := by
  suffices h : ∀ (nodes : List DiscoveredNode) (n : ℕ) (rows : CacheMap), Identified rows →
      (∀ k e, rows.lookup k = some e → ∃ j < n, e.connectionId = connectionId (j + 1)) →
        Identified ((nodes.zipIdx n).foldl (fun rows x =>
          rows.insert x.1.addr.cacheKey (.discovered (connectionId (x.2 + 1)) x.1)) rows) by
    refine h discovered 0 ∅ ⟨fun k e he => ?_, distinct_empty⟩ fun k e he => ?_
    all_goals
      rw [AList.lookup_empty] at he
      cases he
  intro nodes
  induction nodes with
  | nil => exact fun n rows hrows _ => hrows
  | cons node nodes ih =>
    intro n rows hrows hids
    rw [List.zipIdx_cons, List.foldl_cons]
    refine ih (n + 1) _ (hrows.insert rfl rfl fun x hx hkey heq => ?_) fun k e he => ?_
    · obtain ⟨j, hj, hid⟩ := hids x.1 x.2 (AList.mem_lookup_iff.2 hx)
      have := connectionId_injective (hid.symm.trans heq)
      omega
    · rw [lookup_insert_eq] at he
      split_ifs at he with hk
      · exact ⟨n, Nat.lt_succ_self n, by rw [← Option.some.inj he]; rfl⟩
      · obtain ⟨j, hj, hid⟩ := hids k e he
        exact ⟨j, Nat.lt_succ_of_lt hj, hid⟩

/-- **Connection ids identify rows** in every state that is reached by operations
none of which hands out a number in use. -/
theorem connectionIds_distinct {cfg : Config} {discovered : List DiscoveredNode}
    {s : LocalApiState}
    (h : ((sequential cfg discovered).restrict (FreshNumbers cfg)).Reachable s) :
    Distinct ConnectionCacheEntry.connectionId s.rows := by
  have hinv := h.invariant (I := fun s : LocalApiState => Identified s.rows) ?_ ?_
  · exact hinv.distinct
  · rintro s rfl
    exact identified_buildCache discovered
  · rintro s op s' hs ⟨hstep, hn⟩
    rw [← Option.some.inj hstep]
    exact identified_run hs hn

/-! ### Two nodes -/

/-- Room for eight connections. -/
def smallConfig : Config where
  maxConnections := 8
  cacheTtlMs := 1000
  protocol := "udp"
  printed _ := ""

/-- The node with this number. -/
def nodeAt (hostname : String) (ip : UInt32) : DiscoveredNode where
  hostname
  addr := .v4 ip 7070
  tsMs := 0

/-- Every connect is answered by a host of this name. -/
def answered (hostname : String) : ConnectEnv where
  result := .ok { hostname, driverVersion := none, gres := [] }
  order := .list _ _
  nowMs := 0

/-- Two nodes that are discovered together, and then connected to, keep apart. -/
theorem connectionIds_distinct_two :
    Distinct ConnectionCacheEntry.connectionId
      (LocalApiState.run smallConfig { rows := buildCache [nodeAt "a" 1, nodeAt "b" 2] }
        (.establishConnections [nodeAt "a" 1, nodeAt "b" 2]
          fun idx => answered (if idx = 0 then "a" else "b"))).rows := by
  have hinit : ((sequential smallConfig [nodeAt "a" 1, nodeAt "b" 2]).restrict
      (FreshNumbers smallConfig)).Reachable { rows := buildCache [nodeAt "a" 1, nodeAt "b" 2] } :=
    .of_init rfl
  exact connectionIds_distinct (hinit.step ⟨rfl, by decide +kernel⟩)

/-- **Two rows with one id**: a node is discovered and connected to, and then
another is discovered. -/
theorem duplicate_ids : ¬ ∀ s, (sequential smallConfig [nodeAt "a" 1]).Reachable s →
    Distinct ConnectionCacheEntry.connectionId s.rows := by
  intro h
  let s₁ := LocalApiState.run smallConfig { rows := buildCache [nodeAt "a" 1] }
    (.establishConnections [nodeAt "a" 1] fun _ => answered "a")
  let s₂ := s₁.run smallConfig (.addDiscoveredNodes [nodeAt "b" 2])
  have hreach : (sequential smallConfig [nodeAt "a" 1]).Reachable s₂ :=
    ((Reachable.of_init rfl).step (t := s₁) rfl).step (t := s₂) rfl
  have ha : (s₂.rows.lookup (nodeAt "a" 1).addr.cacheKey).map ConnectionCacheEntry.connectionId =
      some (connectionId 2) := by decide +kernel
  have hb : (s₂.rows.lookup (nodeAt "b" 2).addr.cacheKey).map ConnectionCacheEntry.connectionId =
      some (connectionId 2) := by decide +kernel
  obtain ⟨a, ha, hida⟩ := Option.map_eq_some_iff.1 ha
  obtain ⟨b, hb, hidb⟩ := Option.map_eq_some_iff.1 hb
  exact absurd (h s₂ hreach _ _ a b ha hb (hida.trans hidb.symm)) (by decide)

end LocalApiState
end Backend
end Clustat
