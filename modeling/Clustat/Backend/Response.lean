/-
# The nodes of a response

`build_query_response` of `crates/client-backend/src/adapter.rs`: the rows that match the filter
are viewed one by one, in the order of the hash map, each view loses the processes of other users,
and the views are sorted by connection id.  The view of a row with a snapshot shows the snapshot;
that of any other row shows what an older server may have sent, which is read as a JSON object
with an archive inside it, as one with a number of resources, or as comma-separated values.

So a response lists the matching rows and no others, and where connection ids are distinct the
order of the hash map leaves no trace (`query_response_complete`).  A filter that is not parsed,
as `NodeFilter::parse` panics, has no response.
-/

import Clustat.Backend.Adapter
import Clustat.Backend.Discovery
import Clustat.Common.Payload
import Mathlib.Data.UInt

namespace Clustat
namespace Backend

open Keyed

/-- What a response is made with: `serde_json`, `rkyv` for a snapshot, what `getent passwd` prints
for a uid if it succeeds, and the clock, when an archive in a row is decoded and at the end. -/
structure ResponseEnv where
  serde : SerdeValue
  snapshot : Codec ServerGresSnapshot
  getent : UInt32 → Option Bytes
  decodedAt : ConnectionCacheEntry → Int64
  nowMs : Int64

/-! ### Snapshots -/

/-- `clamp_u64_to_u32`. -/
def clampU64ToU32 (value : UInt64) : UInt32 := UInt32.ofNat (min value.toNat (2 ^ 32 - 1))

/-- `resolve_username_for_uid`: what is in front of the first colon. -/
def resolveUsernameForUid (getent : UInt32 → Option Bytes) (uid : UInt32) : Option String := do
  let line ← fromUtf8 (← getent uid)
  let name := trim (.ofList (line.toList.takeWhile (· ≠ ':')))
  if name = "" then none else some name

/-- `username_for_uid`, less its cache of what has been resolved. -/
def usernameForUid (getent : UInt32 → Option Bytes) (uid : UInt32) : String :=
  if uid = 2 ^ 32 - 1 then "?"
  else (resolveUsernameForUid getent uid).getD (.ofList (Nat.toDigits 10 uid.toNat))

/-- `process_views_from_snapshot`, of one process. -/
def processView (getent : UInt32 → Option Bytes) (process : GresProcessInfo) : ProcessView where
  uid := process.uid
  username := usernameForUid getent process.uid
  pid := process.pid
  command := process.command
  usedMemoryMb := clampU64ToU32 process.usedMemoryMb

/-- `gres_views_from_snapshot`, of one resource. -/
def gresView (getent : UInt32 → Option Bytes) (gres : GresInfo) : GresView where
  index := gres.index
  name := gres.name
  temperatureC := gres.temperatureC
  util := min gres.utilization.gresPercent 100
  memUsedMb := clampU64ToU32 gres.memory.usedMb
  memTotalMb := clampU64ToU32 gres.memory.totalMb
  processes := some (gres.processes.map (processView getent))

/-- `gres_views_from_snapshot`. -/
def gresViewsFromSnapshot (getent : UInt32 → Option Bytes) (snapshot : ServerGresSnapshot) :
    List GresView :=
  snapshot.gres.map (gresView getent)

/-- `node_view_from_snapshot`. -/
def nodeViewFromSnapshot (getent : UInt32 → Option Bytes) (connectionId : String)
    (addr : SocketAddr) (timestampMs : Int64) (snapshot : ServerGresSnapshot)
    (delayUs : Option UInt64) : NodeView where
  connectionId
  hostname := snapshot.hostname
  addr := addr.printed
  timestampMs
  driverVersion := snapshot.driverVersion
  num := gresNum snapshot.gres
  stale := false
  error := none
  delayUs
  gres := gresViewsFromSnapshot getent snapshot

/-! ### What an older server has sent -/

/-- The value of a base64 digit; a filler is 64. -/
def base64Value (byte : UInt8) : Option UInt8 :=
  if 0x41 ≤ byte ∧ byte ≤ 0x5A then some (byte - 0x41)
  else if 0x61 ≤ byte ∧ byte ≤ 0x7A then some (byte - 0x61 + 26)
  else if 0x30 ≤ byte ∧ byte ≤ 0x39 then some (byte - 0x30 + 52)
  else if byte = 0x2B then some 62
  else if byte = 0x2F then some 63
  else if byte = 0x3D then some 64
  else none

/-- `push_base64_chunk`. -/
def pushBase64Chunk (out : Bytes) (a b c d : UInt8) : Option Bytes :=
  if a = 64 ∨ b = 64 then none
  else
    let out := out ++ [a <<< 2 ||| b >>> 4]
    let out := if c ≠ 64 then out ++ [b <<< 4 ||| c >>> 2] else out
    if d ≠ 64 then
      if c = 64 then none else some (out ++ [c <<< 6 ||| d])
    else some out

/-- The loop of `decode_base64`: `chunk` are the values since the last four. -/
def base64Loop : Bytes → List UInt8 → Bytes → Option Bytes
  | out, [], [] => some out
  | _, _ :: _, [] => none
  | out, chunk, byte :: bytes =>
    match base64Value byte with
    | none => none
    | some value =>
      match chunk with
      | [a, b, c] =>
        match pushBase64Chunk out a b c value with
        | none => none
        | some out => base64Loop out [] bytes
      | chunk => base64Loop out (chunk ++ [value]) bytes

/-- `decode_base64`. -/
def decodeBase64 (raw : String) : Option Bytes :=
  base64Loop [] [] ((utf8 raw).filter (· ∉ [0x20, 0x09, 0x0A, 0x0C, 0x0D]))

/-- `payload_bytes_from_server_json`. -/
def payloadBytesFromServerJson (value : Json) : Option Bytes :=
  match (value.get? "payload_b64").bind Json.str? with
  | some raw => decodeBase64 raw
  | none => (value.get? "payload").bind (Json.vec Json.u8)

/-- `parse_payload_view`. -/
def parsePayloadView (env : ResponseEnv) (nowMs : Int64) (raw : Bytes) :
    Option (Int64 × List GresView) := do
  let value ← env.serde.value (← fromUtf8 raw)
  let payload ← payloadBytesFromServerJson value
  match decodeRkyvPayload env.snapshot payload with
  | .ok snapshot => some (nowMs, gresViewsFromSnapshot env.getent snapshot)
  | .error _ => none

/-- A resource of which no more is known. -/
def plainGresView (index util : UInt8) (memUsedMb memTotalMb : UInt32) : GresView where
  index
  name := "GPU"
  temperatureC := none
  util
  memUsedMb
  memTotalMb
  processes := none

/-- `parse_round1_server_json`. -/
def parseRound1ServerJson (env : ResponseEnv) (s : String) : Option (List GresView) := do
  let value ← env.serde.value s
  let gresNum ← (← value.get? "gres_num").u64
  let util ← (← value.get? "avg_utilization").u64
  some ((List.range (min gresNum.toNat 255)).map fun idx =>
    plainGresView (.ofNat idx) (.ofNat (min util.toNat 100)) 0 0)

/-- `u8::from_str`. -/
def parseU8 (s : List Char) : Option UInt8 :=
  ((parseU32 s).filter (· < 256)).map UInt8.ofNat

/-- `parse_round1_csv`, of one item. -/
def parseRound1Item (item : List Char) : Option GresView :=
  match item.splitOn ',' with
  | [index, util, memUsedMb, memTotalMb] => do
    some (plainGresView (← parseU8 index) (← parseU8 util) (.ofNat (← parseU32 memUsedMb))
      (.ofNat (← parseU32 memTotalMb)))
  | _ => none

/-- `parse_round1_csv`. -/
def parseRound1Csv (s : String) : List GresView :=
  (s.toList.splitOn ';').filterMap parseRound1Item

/-- `parse_legacy_gres_views`. -/
def parseLegacyGresViews (env : ResponseEnv) (raw : Bytes) : List GresView :=
  let s := fromUtf8Lossy raw
  (parseRound1ServerJson env s).getD (parseRound1Csv s)

/-! ### Rows -/

/-- `ConnectionCacheEntry::matches_filter`. -/
def ConnectionCacheEntry.matchesFilter (entry : ConnectionCacheEntry) (filter : NodeFilter) :
    Bool :=
  filter.matchesTarget entry.hostname entry.addr entry.connectionId

/-- `node_view_from_entry`. -/
def nodeViewFromEntry (env : ResponseEnv) (entry : ConnectionCacheEntry) : NodeView :=
  match entry.lastSnapshot with
  | some snapshot =>
    nodeViewFromSnapshot env.getent entry.connectionId entry.addr entry.recordTimestamp snapshot
      entry.lastQueryLatencyUs
  | none =>
    let (timestampMs, gres) := (parsePayloadView env (env.decodedAt entry) entry.serverGres).getD
      (entry.recordTimestamp, parseLegacyGresViews env entry.serverGres)
    { connectionId := entry.connectionId
      hostname := entry.hostname
      addr := entry.addr.printed
      timestampMs
      driverVersion := none
      num := entry.num
      stale := entry.lastSnapshot.isNone
      error := entry.lastError
      delayUs := entry.lastQueryLatencyUs
      gres }

/-- `build_query_response`, behind `NodeFilter::parse`; `order` is that of the hash map. -/
def filteredResponse (env : ResponseEnv) (order : Iteration CacheKey ConnectionCacheEntry)
    (rows : CacheMap) (filter : NodeFilter) (user : Option String) : QueryResponse :=
  let entries := ((order.entries rows).map Prod.snd).filter (·.matchesFilter filter)
  .ofViews env.nowMs user (entries.map (nodeViewFromEntry env))

/-- `build_query_response`. -/
def buildQueryResponse (env : ResponseEnv) (order : Iteration CacheKey ConnectionCacheEntry)
    (rows : CacheMap) (filter user : Option String) : Option QueryResponse := do
  let filter ← NodeFilter.parse filter
  return filteredResponse env order rows filter user

/-! ### What a response shows -/

/-- The view of a resource for a user: its processes are those of the user, or all for nobody. -/
structure ShowsGres (env : ResponseEnv) (user : Option String) (gres : GresInfo)
    (view : GresView) : Prop where
  index : view.index = gres.index
  name : view.name = gres.name
  temperatureC : view.temperatureC = gres.temperatureC
  util : view.util = min gres.utilization.gresPercent 100
  memUsedMb : view.memUsedMb = clampU64ToU32 gres.memory.usedMb
  memTotalMb : view.memTotalMb = clampU64ToU32 gres.memory.totalMb
  processes : view.processes =
    some ((gres.processes.map (processView env.getent)).filter (keepsProcess user))

/-- A node that shows a snapshot. -/
structure ShowsSnapshot (env : ResponseEnv) (user : Option String) (entry : ConnectionCacheEntry)
    (snapshot : ServerGresSnapshot) (node : NodeView) : Prop where
  hostname : node.hostname = snapshot.hostname
  timestampMs : node.timestampMs = entry.recordTimestamp
  driverVersion : node.driverVersion = snapshot.driverVersion
  num : node.num = gresNum snapshot.gres
  stale : node.stale = false
  error : node.error = none
  delayUs : node.delayUs = entry.lastQueryLatencyUs
  gres : List.Forall₂ (ShowsGres env user) snapshot.gres node.gres

/-- A node that shows a row for a user. -/
structure Shows (env : ResponseEnv) (user : Option String) (entry : ConnectionCacheEntry)
    (node : NodeView) : Prop where
  connectionId : node.connectionId = entry.connectionId
  addr : node.addr = entry.addr.printed
  snapshot : ∀ snapshot, entry.lastSnapshot = some snapshot →
    ShowsSnapshot env user entry snapshot node
  stale : entry.lastSnapshot = none →
    node.hostname = entry.hostname ∧ node.stale = true ∧ node.error = entry.lastError
  gres : node.gres = (nodeViewFromEntry env entry).gres.map (GresView.keepProcesses user)

section Response

variable {env : ResponseEnv} {entry : ConnectionCacheEntry} (user : Option String)

/-- The view of a device, with the processes of one user kept, shows the
device. -/
theorem showsGres_keepProcesses (gres : GresInfo) :
    ShowsGres env user gres ((gresView env.getent gres).keepProcesses user) :=
  ⟨rfl, rfl, rfl, rfl, rfl, rfl, rfl⟩

/-- The view of a row that has a snapshot is that of the snapshot, under the
id and the address of the row. -/
theorem nodeViewFromEntry_of_some {snapshot : ServerGresSnapshot}
    (h : entry.lastSnapshot = some snapshot) :
    nodeViewFromEntry env entry = nodeViewFromSnapshot env.getent entry.connectionId entry.addr
      entry.recordTimestamp snapshot entry.lastQueryLatencyUs := by
  rw [nodeViewFromEntry, h]

/-- The view of a row has the connection id of the row. -/
theorem connectionId_nodeViewFromEntry :
    (nodeViewFromEntry env entry).connectionId = entry.connectionId := by
  unfold nodeViewFromEntry
  split <;> rfl

/-- **A view shows its row**, after `apply_user_filter` as before: it takes
processes away, and changes nothing that a view shows otherwise. -/
theorem shows_applyUserFilter :
    Shows env user entry (applyUserFilter user (nodeViewFromEntry env entry)) := by
  rw [applyUserFilter_eq]
  refine ⟨connectionId_nodeViewFromEntry, ?_, fun snapshot hsnapshot => ?_, fun hnone => ?_, rfl⟩
  · unfold nodeViewFromEntry
    split <;> rfl
  · rw [nodeViewFromEntry_of_some hsnapshot]
    refine ⟨rfl, rfl, rfl, rfl, rfl, rfl, rfl, ?_⟩
    dsimp only [nodeViewFromSnapshot, gresViewsFromSnapshot]
    rw [List.map_map, List.forall₂_map_right_iff, List.forall₂_same]
    exact fun gres _ => showsGres_keepProcesses user gres
  · unfold nodeViewFromEntry
    rw [hnone]
    exact ⟨rfl, rfl, rfl⟩

/-- The views of a response are those of its rows, in the order of their connection ids. -/
theorem nodes_filteredResponse (order : Iteration CacheKey ConnectionCacheEntry)
    (rows : CacheMap) (filter : NodeFilter) :
    (filteredResponse env order rows filter user).nodes =
      ((((order.entries rows).map Prod.snd).filter (·.matchesFilter filter)).mergeSort
        fun a b => a.connectionId ≤ b.connectionId).map
          fun entry => applyUserFilter user (nodeViewFromEntry env entry) := by
  rw [List.map_mergeSort (s := fun a b : NodeView => decide (a.connectionId ≤ b.connectionId))]
  · rw [filteredResponse, QueryResponse.ofViews, List.map_map]
    rfl
  · intro a _ b _
    simp only [connectionId_applyUserFilter, connectionId_nodeViewFromEntry]

/-- Any order of the hash map lists the same rows. -/
theorem listing_perm (order : Iteration CacheKey ConnectionCacheEntry) (rows : CacheMap) :
    ((order.entries rows).map Prod.snd).Perm rows.values := by
  have hperm := (order.perm rows).map Prod.snd
  rwa [List.map_map] at hperm

/-- The nodes of a response show the rows that match, each once. -/
theorem exists_shown (order : Iteration CacheKey ConnectionCacheEntry) (rows : CacheMap)
    (filter : NodeFilter) :
    ∃ entries : List ConnectionCacheEntry,
      entries.Perm (rows.values.filter (·.matchesFilter filter)) ∧
        List.Forall₂ (Shows env user) entries
          (filteredResponse env order rows filter user).nodes := by
  rw [nodes_filteredResponse]
  refine ⟨_, ?_, List.forall₂_map_right_iff.2
    (List.forall₂_same.2 fun entry _ => shows_applyUserFilter user)⟩
  exact (List.mergeSort_perm _ _).trans ((listing_perm order rows).filter _)

/-- With a filter that parses, the response is that of the filter. -/
theorem buildQueryResponse_of_parse {filter : Option String} {f : NodeFilter}
    (h : NodeFilter.parse filter = some f) (order : Iteration CacheKey ConnectionCacheEntry)
    (rows : CacheMap) :
    buildQueryResponse env order rows filter user = some (filteredResponse env order rows f user) := by
  rw [buildQueryResponse, h]
  rfl

/-- **Query responses are complete**: there is one for every filter that is parsed, which is each
but those with a range whose numerals are too long, and it lists the rows that match the filter,
each once, in the order of their connection ids, and counts them; a node shows its row, less the
processes of other users.  Where connection ids are distinct, the nodes are the same in any order
of the hash map. -/
theorem query_response_complete (env : ResponseEnv)
    (order : Iteration CacheKey ConnectionCacheEntry) (rows : CacheMap)
    (filter user : Option String) :
    (NodeFilter.parse filter = none ↔ ∃ item ∈ filterItems filter, LongRange item) ∧
    ∀ f, NodeFilter.parse filter = some f → ∃ resp,
      buildQueryResponse env order rows filter user = some resp ∧
      (∃ entries : List ConnectionCacheEntry,
        entries.Perm (rows.values.filter (·.matchesFilter f)) ∧
          List.Forall₂ (Shows env user) entries resp.nodes) ∧
      resp.nodes.Pairwise (·.connectionId ≤ ·.connectionId) ∧
      resp.queryMeta.nodeCount = UInt64.ofNat resp.nodes.length ∧
      (resp.queryMeta.status = "empty" ↔ resp.nodes = []) ∧
      (rows.Distinct ConnectionCacheEntry.connectionId → ∀ order',
        (buildQueryResponse env order' rows filter user).map QueryResponse.nodes =
          some resp.nodes) := by
  refine ⟨parse_eq_none_iff, fun f hf =>
    ⟨_, buildQueryResponse_of_parse user hf order rows, exists_shown user order rows f, ?_, rfl, ?_,
      fun hdistinct order' => ?_⟩⟩
  · exact pairwise_mergeSort NodeView.connectionId _
  · rw [filteredResponse, QueryResponse.ofViews, ← List.isEmpty_iff]
    dsimp only
    split_ifs with hempty
    · exact iff_of_true rfl hempty
    · exact iff_of_false (by decide) hempty
  · rw [buildQueryResponse_of_parse user hf, Option.map_some, nodes_filteredResponse,
      nodes_filteredResponse]
    refine congrArg _ (congrArg _ (mergeSort_eq_of_perm ?_ ?_))
    · exact ((listing_perm order' rows).trans (listing_perm order rows).symm).filter _
    · refine (List.filter_sublist.map _).nodup ?_
      exact ((listing_perm order' rows).map _).nodup_iff.2 (nodup_values hdistinct)

end Response

/-! ### Two nodes -/

/-- Nothing is decoded, `getent` does not run, and the clock stands still. -/
def quietEnv : ResponseEnv where
  serde := { parse := fun _ => none, message := fun _ _ => "", fits := fun _ => true }
  snapshot := .table []
  getent _ := none
  decodedAt _ := 0
  nowMs := 0

/-- Rows of two nodes. -/
def twoRows : CacheMap :=
  let snapshot (hostname : String) (uid : UInt32) : ServerGresSnapshot :=
    { hostname, driverVersion := none
      gres := [{ index := 0, name := "NVIDIA A100", temperatureC := none, uuid := none
                 memory := { usedMb := 1024, totalMb := 81920 }
                 utilization := { gresPercent := 75, memoryPercent := 10 }
                 processes := [{ pid := 42, uid, command := none, usedMemoryMb := 512 }] }] }
  upsertSnapshot
    (upsertSnapshot ∅ "conn-002" (.v4 0x7F000001 39401) (snapshot "node-b" 1001) none 0)
    "conn-001" (.v4 0x7F000001 39400) (snapshot "node-a" 1000) (some 321) 0

/-- Of two nodes, in either order of the hash map, a user sees both, the first with a process. -/
theorem query_response_complete_two : ∃ resp,
    buildQueryResponse quietEnv (.list _ _) twoRows none (some "1000") = some resp ∧
    (resp.nodes.map fun node => (node.hostname, node.gres.map GresView.processes)) =
      [("node-a", [some [⟨1000, "1000", 42, none, 512⟩]]), ("node-b", [some []])] ∧
    ∀ order', (buildQueryResponse quietEnv order' twoRows none (some "1000")).map
      QueryResponse.nodes = some resp.nodes := by
  obtain ⟨resp, hresp, -, -, -, -, horders⟩ := (query_response_complete quietEnv (.list _ _)
    twoRows none (some "1000")).2 ⟨[]⟩ rfl
  refine ⟨resp, hresp, ?_, horders fun k k' v v' hv hv' heq => ?_⟩
  · obtain rfl : filteredResponse quietEnv (.list _ _) twoRows ⟨[]⟩ (some "1000") = resp :=
      Option.some.inj hresp
    have hsorted : ((Iteration.list _ _).entries twoRows).map Prod.snd |>.Pairwise
        fun a b => decide (a.connectionId ≤ b.connectionId) = true := by decide +kernel
    rw [nodes_filteredResponse, List.mergeSort_of_pairwise (hsorted.filter _)]
    decide +kernel
  have hdistinct : ∀ x ∈ twoRows.entries, ∀ y ∈ twoRows.entries,
      x.2.connectionId = y.2.connectionId → x.1 = y.1 := by decide +kernel
  exact hdistinct ⟨k, v⟩ (AList.mem_lookup_iff.1 hv) ⟨k', v'⟩ (AList.mem_lookup_iff.1 hv') heq

end Backend
end Clustat
