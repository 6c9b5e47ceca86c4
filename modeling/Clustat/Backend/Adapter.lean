/-
# What the backend answers a query with

`crates/client-backend/src/adapter.rs`: the request and the response of the local API, with
what `serde` makes of their attributes, and `apply_user_filter`.  The CLI declares the
structures of the response once more, in `crates/client-cli/src/backend.rs`, with the same
fields of the same types; they are here once, and what the CLI reads of them is in
`Clustat.Cli.Backend`.

The response for a user is the response for everybody with each list of processes cut down
(`ofViews_user`): neither the rows nor their order depend on the user.
-/

import Mathlib.Data.List.Sort
import Clustat.Common.Json

namespace Clustat
namespace Backend

/-- `ProcessView`. -/
structure ProcessView where
  uid : UInt32
  username : String
  pid : UInt32
  command : Option String
  usedMemoryMb : UInt32
  deriving DecidableEq, Repr

/-- `GresView`. -/
structure GresView where
  index : UInt8
  name : String
  temperatureC : Option UInt32
  util : UInt8
  memUsedMb : UInt32
  memTotalMb : UInt32
  processes : Option (List ProcessView)
  deriving DecidableEq, Repr

/-- `NodeView`. -/
structure NodeView where
  connectionId : String
  hostname : String
  addr : String
  timestampMs : Int64
  driverVersion : Option String
  num : UInt8
  stale : Bool
  error : Option String
  delayUs : Option UInt64
  gres : List GresView
  deriving DecidableEq, Repr

/-- `QueryMeta`. -/
structure QueryMeta where
  status : String
  timestampMs : Int64
  nodeCount : UInt64
  errors : List String
  deriving DecidableEq, Repr

/-- `QueryResponse`. -/
structure QueryResponse where
  queryMeta : QueryMeta
  nodes : List NodeView
  deriving DecidableEq, Repr

/-- `QueryRequest`. -/
structure QueryRequest where
  filter : Option String
  user : Option String
  deriving DecidableEq, Repr

/-! ### Users -/

/-- A process stays in the response for a user. -/
def keepsProcess (user : Option String) (process : ProcessView) : Bool :=
  match user.filter (· ≠ "") with
  | none => true
  | some user => process.username == user

/-- `apply_user_filter`. -/
def applyUserFilter (user : Option String) (node : NodeView) : NodeView :=
  match user.filter (· ≠ "") with
  | none => node
  | some user =>
    { node with
      gres := node.gres.map fun gres =>
        { gres with
          processes := gres.processes.map fun processes =>
            processes.filter fun process => process.username == user } }

/-- The node views of a response after `apply_user_filter`. -/
def QueryResponse.applyUserFilter (user : Option String) (resp : QueryResponse) :
    QueryResponse :=
  { resp with nodes := resp.nodes.map (Backend.applyUserFilter user) }

/-- The end of `build_query_response`, from the views of the entries that match. -/
def QueryResponse.ofViews (nowMs : Int64) (user : Option String) (views : List NodeView) :
    QueryResponse :=
  let nodes := (views.map (Backend.applyUserFilter user)).mergeSort fun a b =>
    a.connectionId ≤ b.connectionId
  { queryMeta :=
      { status := if nodes.isEmpty then "empty" else "ok"
        timestampMs := nowMs
        nodeCount := UInt64.ofNat nodes.length
        errors := [] }
    nodes }

/-- What `apply_user_filter` makes of a resource. -/
def GresView.keepProcesses (user : Option String) (gres : GresView) : GresView :=
  { gres with processes := gres.processes.map fun ps => ps.filter (keepsProcess user) }

/-- A node after `apply_user_filter` has the same rows, and of their processes those that
stay. -/
theorem applyUserFilter_eq (user : Option String) (node : NodeView) :
    applyUserFilter user node =
      { node with gres := node.gres.map (GresView.keepProcesses user) } := by
  cases huser : user.filter (· ≠ "") with
  | some u =>
    have hkeep : keepsProcess user = fun p => p.username == u := by
      funext p
      rw [keepsProcess, huser]
    have hgres : GresView.keepProcesses user = fun gres =>
        { gres with processes := gres.processes.map fun ps => ps.filter (·.username == u) } := by
      funext gres
      rw [GresView.keepProcesses, hkeep]
    simp only [applyUserFilter, huser, hgres]
  | none =>
    have hall : ∀ ps : List ProcessView, ps.filter (keepsProcess user) = ps := fun ps =>
      List.filter_eq_self.2 fun p _ => by rw [keepsProcess, huser]
    have hid : GresView.keepProcesses user = id := by
      funext gres
      simp only [GresView.keepProcesses, hall, Option.map_id', id]
    simp only [applyUserFilter, huser, hid, List.map_id]

/-- The user filter leaves the connection id alone. -/
theorem connectionId_applyUserFilter (user : Option String) (node : NodeView) :
    (applyUserFilter user node).connectionId = node.connectionId := by
  rw [applyUserFilter_eq]

/-- **The response for a user** is what `apply_user_filter` leaves of the
response for everybody: it is applied to each node on its own. -/
theorem ofViews_user (nowMs : Int64) (user : Option String) (views : List NodeView) :
    QueryResponse.ofViews nowMs user views =
      (QueryResponse.ofViews nowMs none views).applyUserFilter user := by
  have hnone : views.map (applyUserFilter none) = views := List.map_id views
  have hsort : ((views.mergeSort fun a b => a.connectionId ≤ b.connectionId).map
      (applyUserFilter user)) = (views.map (applyUserFilter user)).mergeSort fun a b =>
        a.connectionId ≤ b.connectionId :=
    List.map_mergeSort fun a _ b _ => by simp only [connectionId_applyUserFilter]
  simp only [QueryResponse.ofViews, QueryResponse.applyUserFilter, hnone, ← hsort,
    List.length_map, List.isEmpty_iff, List.map_eq_nil_iff]

/-! ### Texts -/

/-- How a process is written. -/
def ProcessView.toJson (p : ProcessView) : Json :=
  .obj ([("uid", .posInt p.uid.toUInt64), ("username", .str p.username),
    ("pid", .posInt p.pid.toUInt64)] ++ Json.unlessNone "command" .str p.command ++
    [("used_memory_mb", .posInt p.usedMemoryMb.toUInt64)])

/-- How a list of processes is written. -/
def ProcessView.listToJson (ps : List ProcessView) : Json := .arr (ps.map ProcessView.toJson)

/-- How a resource is written. -/
def GresView.toJson (g : GresView) : Json :=
  .obj ([("index", .posInt g.index.toUInt64), ("name", .str g.name)] ++
    Json.unlessNone "temperature_c" (fun t => .posInt t.toUInt64) g.temperatureC ++
    [("util", .posInt g.util.toUInt64), ("mem_used_mb", .posInt g.memUsedMb.toUInt64),
      ("mem_total_mb", .posInt g.memTotalMb.toUInt64)] ++
    Json.unlessNone "processes" ProcessView.listToJson g.processes)

/-- How a node is written. -/
def NodeView.toJson (n : NodeView) : Json :=
  .obj ([("connection_id", .str n.connectionId), ("hostname", .str n.hostname),
    ("addr", .str n.addr), ("timestamp_ms", Json.ofInt64 n.timestampMs)] ++
    Json.unlessNone "driver_version" .str n.driverVersion ++
    [("num", .posInt n.num.toUInt64), ("stale", .bool n.stale)] ++
    Json.unlessNone "error" .str n.error ++ Json.unlessNone "delay_us" .posInt n.delayUs ++
    [("gres", .arr (n.gres.map GresView.toJson))])

/-- How the metadata of a response are written. -/
def QueryMeta.toJson (m : QueryMeta) : Json :=
  .obj [("status", .str m.status), ("timestamp_ms", Json.ofInt64 m.timestampMs),
    ("node_count", .posInt m.nodeCount), ("errors", .arr (m.errors.map .str))]

/-- How a response is written. -/
def QueryResponse.toJson (r : QueryResponse) : Json :=
  .obj [("meta", r.queryMeta.toJson), ("nodes", .arr (r.nodes.map NodeView.toJson))]

/-- How a request is read. -/
def QueryRequest.fromJson (v : Json) : Option QueryRequest :=
  if v.holds 2 then do
    let filter ← v.optional 0 "filter" Json.str?
    let user ← v.optional 1 "user" Json.str?
    some { filter, user }
  else none

/-- `parse_query_request`. -/
def parseQueryRequest (serde : SerdeJson) (s : String) : Except String QueryRequest :=
  if s = "" then .ok { filter := none, user := none }
  else
    match serde.fromStr "QueryRequest" QueryRequest.fromJson s with
    | .ok req => .ok req
    | .error e => .error ("invalid QUERY payload: " ++ e)

section Inline

open Json

/-- The text of a process is one line. -/
theorem ProcessView.inline_toJson (p : ProcessView) : p.toJson.Inline := by
  refine inline_obj ?_
  simp only [List.forall_mem_append, List.forall_mem_cons, inline_posInt, inline_str]
  exact ⟨⟨by simp, inline_unlessNone _ inline_str _⟩, by simp⟩

/-- The text of a device is one line. -/
theorem GresView.inline_toJson (g : GresView) : g.toJson.Inline := by
  refine inline_obj ?_
  simp only [List.forall_mem_append, List.forall_mem_cons, inline_posInt, inline_str]
  exact ⟨⟨⟨by simp, inline_unlessNone _ (fun t => inline_posInt _) _⟩, by simp⟩,
    inline_unlessNone _ (inline_vec ProcessView.inline_toJson) _⟩

/-- The text of a node is one line. -/
theorem NodeView.inline_toJson (n : NodeView) : n.toJson.Inline := by
  refine inline_obj ?_
  simp only [List.forall_mem_append, List.forall_mem_cons, inline_posInt, inline_str,
    inline_ofInt64, inline_bool]
  exact ⟨⟨⟨⟨⟨by simp, inline_unlessNone _ inline_str _⟩, by simp⟩,
    inline_unlessNone _ inline_str _⟩, inline_unlessNone _ inline_posInt _⟩,
    inline_vec GresView.inline_toJson _, by simp⟩

/-- The text of the part about the query itself is one line. -/
theorem QueryMeta.inline_toJson (m : QueryMeta) : m.toJson.Inline := by
  refine inline_obj ?_
  simp only [List.forall_mem_cons, inline_posInt, inline_str, inline_ofInt64]
  exact ⟨trivial, trivial, trivial, inline_vec inline_str _, by simp⟩

/-- **A response is written on one line**: the strings in it are escaped, and
nothing else could have a line feed. -/
theorem QueryResponse.inline_toJson (r : QueryResponse) : r.toJson.Inline := by
  refine inline_obj ?_
  simp only [List.forall_mem_cons]
  exact ⟨r.queryMeta.inline_toJson, inline_vec NodeView.inline_toJson _, by simp⟩

end Inline

end Backend
end Clustat
