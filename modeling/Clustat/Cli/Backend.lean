/-
# The CLI and the local API

`crates/client-cli/src/backend.rs`: the CLI sends a line with its filter and its user, and
reads a line with the response.  It declares the structures of the response with defaults of
its own: it does without more fields than the backend leaves out, and takes for a field that
the backend leaves out what it was (`readQueryResponse_toJson`).
-/

import Clustat.Backend.Commands
import Clustat.Cli.Render

namespace Clustat
namespace Cli

open Backend Json

/-! ### The schema of the CLI -/

/-- How a `ProcessView` is read. -/
def readProcessView (v : Json) : Option ProcessView :=
  if v.holds 5 then do
    let uid ← v.defaulted 0 "uid" 0 u32
    let username ← v.defaulted 1 "username" "" str?
    let pid ← v.required 2 "pid" u32
    let command ← v.defaulted 3 "command" none (option str?)
    let usedMemoryMb ← v.defaulted 4 "used_memory_mb" 0 u32
    some { uid, username, pid, command, usedMemoryMb }
  else none

/-- How a `GresView` is read. -/
def readGresView (v : Json) : Option GresView :=
  if v.holds 7 then do
    let index ← v.required 0 "index" u8
    let name ← v.defaulted 1 "name" "" str?
    let temperatureC ← v.defaulted 2 "temperature_c" none (option u32)
    let util ← v.required 3 "util" u8
    let memUsedMb ← v.required 4 "mem_used_mb" u32
    let memTotalMb ← v.required 5 "mem_total_mb" u32
    let processes ← v.defaulted 6 "processes" none (option (vec readProcessView))
    some { index, name, temperatureC, util, memUsedMb, memTotalMb, processes }
  else none

/-- How a `NodeView` is read. -/
def readNodeView (v : Json) : Option NodeView :=
  if v.holds 10 then do
    let connectionId ← v.defaulted 0 "connection_id" "" str?
    let hostname ← v.required 1 "hostname" str?
    let addr ← v.defaulted 2 "addr" "" str?
    let timestampMs ← v.defaulted 3 "timestamp_ms" 0 i64
    let driverVersion ← v.defaulted 4 "driver_version" none (option str?)
    let num ← v.defaulted 5 "num" 0 u8
    let stale ← v.defaulted 6 "stale" false bool?
    let error ← v.defaulted 7 "error" none (option str?)
    let delayUs ← v.defaulted 8 "delay_us" none (option u64)
    let gres ← v.required 9 "gres" (vec readGresView)
    some { connectionId, hostname, addr, timestampMs, driverVersion, num, stale, error, delayUs,
           gres }
  else none

/-- How a `QueryMeta` is read. -/
def readQueryMeta (v : Json) : Option QueryMeta :=
  if v.holds 4 then do
    let status ← v.required 0 "status" str?
    let timestampMs ← v.required 1 "timestamp_ms" i64
    let nodeCount ← v.required 2 "node_count" u64
    let errors ← v.defaulted 3 "errors" [] (vec str?)
    some { status, timestampMs, nodeCount, errors }
  else none

/-- `QueryMeta::default`. -/
def defaultQueryMeta : QueryMeta where
  status := "unknown"
  timestampMs := 0
  nodeCount := 0
  errors := []

/-- How a `QueryResponse` is read. -/
def readQueryResponse (v : Json) : Option Backend.QueryResponse :=
  if v.holds 2 then do
    let queryMeta ← v.defaulted 0 "meta" defaultQueryMeta readQueryMeta
    let nodes ← v.required 1 "nodes" (vec readNodeView)
    some { queryMeta, nodes }
  else none

/-- A process is read back from the JSON it is written as. -/
theorem readProcessView_toJson (p : ProcessView) : readProcessView p.toJson = some p := by
  have hcommand : p.toJson.defaulted 3 "command" none (option str?) = some p.command :=
    defaulted_of_values str (by simp [ProcessView.toJson, values]) str?_str nofun
  rw [readProcessView, hcommand]
  simp [ProcessView.toJson, holds, required, defaulted, values, str?]

/-- A device is read back from the JSON it is written as, with its processes
or without. -/
theorem readGresView_toJson (g : GresView) : readGresView g.toJson = some g := by
  have htemperature : g.toJson.defaulted 2 "temperature_c" none (option u32) =
      some g.temperatureC :=
    defaulted_of_values (fun t => .posInt t.toUInt64) (by simp [GresView.toJson, values])
      u32_posInt nofun
  have hprocesses : g.toJson.defaulted 6 "processes" none (option (vec readProcessView)) =
      some g.processes :=
    defaulted_of_values ProcessView.listToJson (by simp [GresView.toJson, values])
      (vec_arr readProcessView_toJson) nofun
  rw [readGresView, htemperature, hprocesses]
  simp [GresView.toJson, holds, required, defaulted, values, str?]

/-- A node is read back from the JSON it is written as. -/
theorem readNodeView_toJson (n : NodeView) : readNodeView n.toJson = some n := by
  have hdriver : n.toJson.defaulted 4 "driver_version" none (option str?) =
      some n.driverVersion :=
    defaulted_of_values str (by simp [NodeView.toJson, values]) str?_str nofun
  have herror : n.toJson.defaulted 7 "error" none (option str?) = some n.error :=
    defaulted_of_values str (by simp [NodeView.toJson, values]) str?_str nofun
  have hdelay : n.toJson.defaulted 8 "delay_us" none (option u64) = some n.delayUs :=
    defaulted_of_values posInt (by simp [NodeView.toJson, values]) u64_posInt nofun
  rw [readNodeView, hdriver, herror, hdelay]
  simp [NodeView.toJson, holds, required, defaulted, values, str?, bool?,
    vec_arr readGresView_toJson]

/-- The part about the query is read back from the JSON it is written as. -/
theorem readQueryMeta_toJson (m : QueryMeta) : readQueryMeta m.toJson = some m := by
  have herrors : vec str? (.arr (m.errors.map .str)) = some m.errors := vec_arr str?_str _
  simp [readQueryMeta, QueryMeta.toJson, holds, required, defaulted, values, str?, u64, herrors]

/-- **The CLI reads what the backend has written**, in every field, with what
is left out where it is `None` read as `None`. -/
theorem readQueryResponse_toJson (r : Backend.QueryResponse) :
    readQueryResponse r.toJson = some r := by
  simp [readQueryResponse, Backend.QueryResponse.toJson, holds, required, defaulted, values,
    readQueryMeta_toJson, vec_arr readNodeView_toJson]

/-! ### The exchange -/

/-- `CliOptions`, as far as a query is about them. -/
structure CliOptions where
  nodeFilter : Option String
  userFilter : Option String
  deriving DecidableEq, Repr

/-- The fields of a request. -/
def CliOptions.fields (opts : CliOptions) : List (String × Json) :=
  [("filter", ofOption str opts.nodeFilter), ("user", ofOption str opts.userFilter)]

/-- `build_query_command`. -/
def buildQueryCommand (opts : CliOptions) : String :=
  "QUERY " ++ (Json.obj opts.fields).text ++ "\n"

/-- `decode_response`. -/
def decodeResponse (serde : SerdeJson) (raw : String) : Except String Backend.QueryResponse :=
  match serde.fromStr "QueryResponse" readQueryResponse raw with
  | .ok resp => .ok resp
  | .error e => .error ("invalid backend response: " ++ e)

/-- `query_stream`, from the reply on: a line is read, or what there is of one when the
backend has closed the connection. -/
def readReply (serde : SerdeJson) (reply : Bytes) : Except String Backend.QueryResponse :=
  match fromUtf8 ((lines reply).headD []) with
  | none => .error "read QUERY response failed: stream did not contain valid UTF-8"
  | some line => decodeResponse serde (trim line)

section Exchange

variable {serde : SerdeJson}

/-- The request that a command stands for. -/
def CliOptions.request (opts : CliOptions) : Backend.QueryRequest where
  filter := opts.nodeFilter
  user := opts.userFilter

/-- The backend reads the request that the CLI has in mind from the fields the
CLI writes. -/
theorem fromJson_fields (opts : CliOptions) :
    Backend.QueryRequest.fromJson (.obj opts.fields) = some opts.request := by
  have hoption : ∀ o, option str? (ofOption str o) = some o := option_ofOption str?_str nofun
  simp [Backend.QueryRequest.fromJson, CliOptions.fields, holds, Json.optional, defaulted, values,
    hoption, CliOptions.request]

/-- The query of the CLI is one line. -/
theorem inline_fields (opts : CliOptions) : (Json.obj opts.fields).Inline := by
  refine inline_obj ?_
  simp only [CliOptions.fields, List.forall_mem_cons]
  exact ⟨inline_ofOption inline_str _, inline_ofOption inline_str _, by simp⟩

/-- The backend reads the filter and the user that the CLI has written. -/
theorem parseQueryRequest_fields {opts : CliOptions} (hreq : serde.Decodes (.obj opts.fields)) :
    parseQueryRequest serde (Json.obj opts.fields).text = .ok opts.request := by
  rw [parseQueryRequest, if_neg (text_obj_ne_empty _),
    SerdeJson.fromStr_text hreq _ (fromJson_fields opts)]

/-- The reply is one line. -/
theorem lines_reply (resp : Backend.QueryResponse) (rest : Bytes) :
    lines (utf8 resp.reply ++ rest) = utf8 resp.reply :: lines rest := by
  refine lines_utf8 ?_ rest
  rw [text, String.toList_ofList]
  exact resp.inline_toJson

/-- The CLI reads the response that the backend has written. -/
theorem readReply_reply {resp : Backend.QueryResponse} (hresp : serde.Decodes resp.toJson)
    (rest : Bytes) : readReply serde (utf8 resp.reply ++ rest) = .ok resp := by
  have hfeed : ∀ c ∈ ['\n'], isWhitespace c = true := List.forall_mem_singleton.2 rfl
  have hreply : resp.reply = .ofList ([] ++ resp.toJson.toText ++ ['\n']) := by
    apply String.toList_injective
    simp [Backend.QueryResponse.reply, text]
  have htrim : trim resp.reply = resp.toJson.text := by
    rw [hreply]
    exact trim_obj (List.forall_mem_nil _) hfeed _
  rw [readReply, lines_reply, List.headD_cons, fromUtf8_utf8]
  simp only [htrim, decodeResponse, SerdeJson.fromStr_text hresp _ (readQueryResponse_toJson resp)]

/-- **The CLI and the backend speak the same protocol.**  The line of a query is one command,
with the filter and the user it was built from; the reply to it is one line, and read as the
response it was written from. -/
theorem query_exchange {σ : Type} (service : Service σ) (s : σ) (opts : CliOptions)
    (hreq : serde.Decodes (.obj opts.fields)) (rest : Bytes) :
    (lines (utf8 (buildQueryCommand opts) ++ rest) =
        utf8 (buildQueryCommand opts) :: lines rest) ∧
      parseQueryRequest serde (Json.obj opts.fields).text =
        .ok { filter := opts.nodeFilter, user := opts.userFilter } ∧
      handleClient serde service s (utf8 (buildQueryCommand opts) ++ rest) =
        (match service.query s opts.nodeFilter opts.userFilter with
        | .error e => ([], .error e)
        | .ok (resp, s) =>
          let (responses, result) := handleClient serde service s rest
          (resp.reply :: responses, result)) ∧
      ∀ resp : Backend.QueryResponse, serde.Decodes resp.toJson →
        lines (utf8 resp.reply) = [utf8 resp.reply] ∧
          readReply serde (utf8 resp.reply) = .ok resp := by
  refine ⟨lines_queryLine (inline_fields opts) rest, parseQueryRequest_fields hreq, ?_,
    fun resp hresp => ?_⟩
  · have hclient := handleClient_query serde service s (inline_fields opts) rest
    rw [parseQueryRequest_fields hreq] at hclient
    exact hclient
  · have hlines := lines_reply resp []
    have hread := readReply_reply hresp []
    rw [List.append_nil] at hlines hread
    exact ⟨hlines, hread⟩

/-- A query with a line feed and a quote in it. -/
def aliceQuery : CliOptions where
  nodeFilter := some "node-\n\"a"
  userFilter := some "alice"

/-- The next response, five seconds later. -/
def aliceLater : Backend.QueryResponse where
  queryMeta := { aliceResponse.queryMeta with timestampMs := 5000 }
  nodes := aliceResponse.nodes.map fun node => { node with timestampMs := 5000 }

/-- The two responses. -/
def aliceAnswer (again : Bool) : Backend.QueryResponse :=
  if again then aliceLater else aliceResponse

/-- A backend that gives the first response once. -/
def aliceService : Service Bool where
  list _ := ""
  query again _ _ := .ok (aliceAnswer again, true)

/-- A reader of the texts of this query and of these responses. -/
def aliceReader : SerdeJson where
  parse s :=
    if s = (Json.obj aliceQuery.fields).text then some (.obj aliceQuery.fields)
    else if s = aliceResponse.toJson.text then some aliceResponse.toJson
    else if s = aliceLater.toJson.text then some aliceLater.toJson
    else none
  message type _ := "invalid " ++ type

/-- What the reader makes of a text: it knows the query, the two responses,
and nothing else. -/
theorem parse_aliceReader (s : String) : aliceReader.parse s =
    if s = (Json.obj aliceQuery.fields).text then some (.obj aliceQuery.fields)
    else if s = aliceResponse.toJson.text then some aliceResponse.toJson
    else if s = aliceLater.toJson.text then some aliceLater.toJson
    else none := rfl

/-- It reads the query from its text. -/
theorem decodes_aliceQuery : aliceReader.Decodes (.obj aliceQuery.fields) := by
  rw [SerdeJson.Decodes, parse_aliceReader, if_pos rfl]

/-- It reads both responses from their texts. -/
theorem decodes_aliceAnswer (again : Bool) : aliceReader.Decodes (aliceAnswer again).toJson := by
  have hfirst : aliceResponse.toJson.text ≠ (Json.obj aliceQuery.fields).text := by decide +kernel
  have hsecond : aliceLater.toJson.text ≠ (Json.obj aliceQuery.fields).text := by decide +kernel
  have hother : aliceLater.toJson.text ≠ aliceResponse.toJson.text := by decide +kernel
  rw [SerdeJson.Decodes, parse_aliceReader]
  cases again with
  | false => exact (if_neg hfirst).trans (if_pos rfl)
  | true => exact (if_neg hsecond).trans ((if_neg hother).trans (if_pos rfl))

/-- Two queries one after the other, and the two answers. -/
theorem query_exchange_alice :
    handleClient aliceReader aliceService false
        (utf8 (buildQueryCommand aliceQuery) ++ utf8 (buildQueryCommand aliceQuery)) =
          ([aliceResponse.reply, aliceLater.reply], .ok true) ∧
      ∀ again, readReply aliceReader (utf8 (aliceAnswer again).reply) =
        .ok (aliceAnswer again) := by
  obtain ⟨-, -, hfirst, hreply⟩ := query_exchange aliceService false aliceQuery
    decodes_aliceQuery (utf8 (buildQueryCommand aliceQuery))
  obtain ⟨-, -, hsecond, -⟩ := query_exchange aliceService true aliceQuery decodes_aliceQuery []
  rw [List.append_nil] at hsecond
  have hlater : handleClient aliceReader aliceService true (utf8 (buildQueryCommand aliceQuery)) =
      ([aliceLater.reply], .ok true) := hsecond
  refine ⟨?_, fun again => (hreply _ (decodes_aliceAnswer again)).2⟩
  rw [hfirst]
  change (match handleClient aliceReader aliceService true (utf8 (buildQueryCommand aliceQuery)) with
    | (responses, result) => (aliceResponse.reply :: responses, result)) = _
  rw [hlater]

end Exchange

end Cli
end Clustat
