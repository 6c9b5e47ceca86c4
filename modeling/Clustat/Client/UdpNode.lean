/-
# A query over UDP, from end to end

`query_connected` of `crates/client-backend/src/udp_client.rs` with its two requests and
its two calls of `recv_frame`, `server_loop` of `crates/server/src/udp_transport.rs` at
the other end, and the network between them, which delivers every datagram that is sent in
time, at least once, and in any order (`Copies`).  Replies to earlier requests of the node
may still be on their way.

While an entry of the cache is current, the copies of a request are all answered by the
same datagrams: the payload capacity of a peer is kept from its first use
(`Link.serve`).  So a call of `recv_frame` gets its reply as soon as all has been
delivered, and the query comes to the entry without the commands of the processes, if the
server can send the replies (`udp_query_delivers_iff`): with a capacity above the longest
payload of UDP it cannot send a long one, and the query waits in vain.
-/

import Clustat.Client.RecvFrame
import Clustat.Client.Roundtrip
import Clustat.Udp.SingleChunk
import Mathlib.Data.Prod.Lex

namespace Clustat
namespace Client

open Udp

/-! ### The client's side -/

/-- `send_empty_query`: the datagram it makes. -/
def sendEmptyQuery (crc : Crc32) (requestId : UInt64) : Except ClientError (List Bytes) :=
  match encodeUdpSingleChunkFromParts crc .queryRequest requestId [] with
  | .error _ => .error .decode
  | .ok datagram => .ok [datagram]

/-- `send_frame`: the datagrams it makes. -/
def sendFrame (crc : Crc32) (frame : Bytes) (maxPayload : ℕ) : Except ClientError (List Bytes) :=
  if frame.length ≤ maxPayload then
    match encodeUdpSingleChunk crc frame with
    | .error _ => .error .decode
    | .ok datagram => .ok [datagram]
  else
    match encodeUdpChunks crc frame maxPayload with
    | .error _ => .error .decode
    | .ok chunks => .ok chunks

/-- `recv_query_runtime`, once `recv_frame` has returned a frame. -/
def recvQueryRuntime (w : Wire) (frame : Bytes) : Except ClientError RuntimeSnapshot :=
  match parseRuntimePayloadFrame w frame with
  | .ok runtime => .ok runtime
  | .error e =>
    match parseQueryReply w frame { hostname := "", driverVersion := none, gres := [] } with
    | .ok _ => .error (.transport e)
    | .error e' => .error e'

/-- A query and its two ends: the ids `next_id` gives it, the `connection_idle_timeout`
and the `max_payload` of the node, the client as the server sees it, the server's
settings, and the MTU of the route to the client if the server can tell. -/
structure UdpQuery (Addr : Type*) where
  requestId : UInt64
  refreshId : UInt64
  timeout : ℕ
  maxPayload : ℕ
  peer : Addr
  idleTimeout : ℕ
  ipv4 : Bool
  configuredMtu : UInt16
  routeMtu : Option ℕ

/-- What the server makes of the MTU. -/
def UdpQuery.capacity {Addr : Type*} (q : UdpQuery Addr) : ℕ :=
  effectiveUdpPayloadCapacity q.ipv4 q.configuredMtu q.routeMtu

/-- Where `query_connected` is. -/
inductive UdpPhase
  /-- Before `send_empty_query`. -/
  | idle
  /-- In the `recv_frame` of `recv_query_runtime`. -/
  | querying (call : Call)
  /-- In that of `refresh_metadata`. -/
  | refreshing (runtime : RuntimeSnapshot) (call : Call)
  | done (result : Except ClientError ServerGresSnapshot)

/-- A call after one more turn. -/
def Call.push (c : Call) (t : Turn) : Call := { c with turns := c.turns ++ [t] }

/-- The call of `recv_frame` that runs. -/
def UdpPhase.call? : UdpPhase → Option Call
  | .querying call | .refreshing _ call => some call
  | .idle | .done _ => none

/-- The two ends, and the datagrams that are on their way. -/
structure UdpState (Addr : Type*) where
  server : Server.LoopState Addr
  toServer : List Bytes := []
  toClient : List Bytes
  metadata : HostMetadata
  phase : UdpPhase := .idle

section System

variable {Addr : Type*} [DecidableEq Addr] (w : Wire) (crc : Crc32) (q : UdpQuery Addr)

/-- The datagrams of a request are sent, up to one that cannot be; then the query goes on
in this phase. -/
def UdpState.send (s : UdpState Addr) (datagrams : List Bytes) (phase : UdpPhase) :
    UdpState Addr × List Bytes :=
  let sent := sendAll q.ipv4 datagrams
  ({ s with phase := if sent = datagrams then phase else .done (.error .io) }, sent)

/-- The first lines of `query_connected`, up to `recv_frame`; with what they send. -/
def UdpState.query (s : UdpState Addr) (start : ℕ) : UdpState Addr × List Bytes :=
  match sendEmptyQuery crc q.requestId with
  | .error e => ({ s with phase := .done (.error e) }, [])
  | .ok datagrams => s.send q datagrams (.querying ⟨q.requestId, q.timeout, start, []⟩)

/-- `query_connected` after the `recv_frame` of the query, up to that of the refresh. -/
def UdpState.afterQuery (s : UdpState Addr) (frame : Bytes) (start : ℕ) :
    UdpState Addr × List Bytes :=
  match recvQueryRuntime w frame with
  | .error e => ({ s with phase := .done (.error e) }, [])
  | .ok runtime =>
    if runtime.metadataHash ≠ 0 ∧ runtime.metadataHash ≠ s.metadata.metadataHash then
      match buildHandshakeRequestFrame w q.refreshId with
      | .error e => ({ s with phase := .done (.error (.transport e)) }, [])
      | .ok frame =>
        match sendFrame crc frame q.maxPayload with
        | .error e => ({ s with phase := .done (.error e) }, [])
        | .ok datagrams =>
          s.send q datagrams (.refreshing runtime ⟨q.refreshId, q.timeout, start, []⟩)
    else ({ s with phase := .done (.ok (runtime.toSnapshot s.metadata)) }, [])

/-- The rest of `query_connected`. -/
def UdpState.afterRefresh (s : UdpState Addr) (runtime : RuntimeSnapshot) (frame : Bytes) :
    UdpState Addr :=
  match parseHandshakeReply w frame with
  | .error e => { s with phase := .done (.error e) }
  | .ok metadata => { s with metadata, phase := .done (.ok (runtime.toSnapshot metadata)) }

/-- A turn of the loop of `recv_frame`, and what follows if it is the last. -/
def UdpState.turn (s : UdpState Addr) (t : Turn) (start : ℕ) : UdpState Addr × List Bytes :=
  match s.phase with
  | .querying call =>
    match ((call.push t).loop crc).result with
    | none => ({ s with phase := .querying (call.push t) }, [])
    | some (.error e) => ({ s with phase := .done (.error e.kind) }, [])
    | some (.ok frame) => s.afterQuery w crc q frame start
  | .refreshing runtime call =>
    match ((call.push t).loop crc).result with
    | none => ({ s with phase := .refreshing runtime (call.push t) }, [])
    | some (.error e) => ({ s with phase := .done (.error e.kind) }, [])
    | some (.ok frame) => (s.afterRefresh w runtime frame, [])
  | .idle | .done _ => (s, [])

/-- What the network makes of datagrams that are sent: each arrives once or several
times. -/
def Copies (sent copies : List Bytes) : Prop := ∀ datagram, datagram ∈ copies ↔ datagram ∈ sent

/-- Where nothing was sent nothing arrives. -/
theorem copies_nil {copies : List Bytes} (h : Copies [] copies) : copies = [] :=
  List.eq_nil_iff_forall_not_mem.2 fun datagram hd => List.not_mem_nil ((h datagram).1 hd)

/-- What happens. -/
inductive UdpAct
  /-- The client sends its query. -/
  | query (start : ℕ) (copies : List Bytes)
  /-- The server receives a datagram. -/
  | serve (datagram : Bytes) (now : ℕ) (copies : List Bytes)
  /-- The client receives one. -/
  | turn (datagram : Bytes) (t : Turn) (start : ℕ) (copies : List Bytes)

/-- One step, while the cache has one answer: any datagram on its way arrives, at the
client before the deadline of its call. -/
inductive UdpStep (latest : Server.Latest) : UdpState Addr → UdpAct → UdpState Addr → Prop
  | query {s : UdpState Addr} {copies : List Bytes} (start : ℕ) (hphase : s.phase = .idle)
      (hcopies : Copies (s.query crc q start).2 copies) :
    UdpStep latest s (.query start copies)
      { (s.query crc q start).1 with toServer := s.toServer ++ copies }
  | serve {s : UdpState Addr} {datagram : Bytes} {copies : List Bytes}
      {out : Server.LoopState Addr × List Bytes} (now : ℕ) (hd : datagram ∈ s.toServer)
      (hout : Server.serverLoopStep w crc latest q.ipv4 q.idleTimeout now q.capacity s.server
        q.peer datagram = out)
      (hcopies : Copies out.2 copies) :
    UdpStep latest s (.serve datagram now copies)
      { s with
        server := out.1
        toServer := s.toServer.erase datagram
        toClient := s.toClient ++ copies }
  | turn {s : UdpState Addr} {call : Call} {datagram : Bytes} {t : Turn} {copies : List Bytes}
      (start : ℕ) (hcall : s.phase.call? = some call) (hd : datagram ∈ s.toClient)
      (hreceived : t.received = .datagram datagram)
      (hclock : t.Clocked call.start call.timeout)
      (htime : t.InTime (call.start + call.timeout))
      (hcopies : Copies (s.turn w crc q t start).2 copies) :
    UdpStep latest s (.turn datagram t start copies)
      { (s.turn w crc q t start).1 with
        toServer := s.toServer ++ copies
        toClient := s.toClient.erase datagram }

/-- The query has not begun; what is on its way are replies to other requests; and the
payload capacity of the client is not below the least, if the server has one for it. -/
structure UdpState.Ready (s : UdpState Addr) : Prop where
  phase : s.phase = .idle
  toServer : s.toServer = []
  toClient : ∃ R : Replies crc, R.reply q.requestId = none ∧ R.reply q.refreshId = none ∧
    ∀ datagram ∈ s.toClient, R.Carries datagram
  payloadCaps : ∀ cap, s.server.payloadCaps q.peer = some cap → UDP_MIN_PAYLOAD ≤ cap

/-- The query, from its beginning on. -/
def udpExchange (latest : Server.Latest) : Lts (UdpState Addr) UdpAct where
  init s := s.Ready crc q
  step := UdpStep w crc q latest

end System

section Turn

variable {Addr : Type*} {w : Wire} {crc : Crc32} {q : UdpQuery Addr} {s : UdpState Addr}
  {call : Call} {runtime : RuntimeSnapshot} {t : Turn} {start : ℕ} {frame : Bytes}

/-- A turn that takes nothing leaves the query to the next one. -/
theorem UdpState.turn_querying_none (hphase : s.phase = .querying call)
    (hmore : ((call.push t).loop crc).result = none) :
    s.turn w crc q t start = ({ s with phase := .querying (call.push t) }, []) := by
  unfold UdpState.turn
  rw [hphase]
  dsimp only
  rw [hmore]

/-- The turn that takes the reply to the query. -/
theorem UdpState.turn_querying_ok (hphase : s.phase = .querying call)
    (hreply : ((call.push t).loop crc).result = some (.ok frame)) :
    s.turn w crc q t start = s.afterQuery w crc q frame start := by
  unfold UdpState.turn
  rw [hphase]
  dsimp only
  rw [hreply]

/-- A turn that takes nothing leaves the refresh to the next one. -/
theorem UdpState.turn_refreshing_none (hphase : s.phase = .refreshing runtime call)
    (hmore : ((call.push t).loop crc).result = none) :
    s.turn w crc q t start = ({ s with phase := .refreshing runtime (call.push t) }, []) := by
  unfold UdpState.turn
  rw [hphase]
  dsimp only
  rw [hmore]

/-- The turn that takes the reply to the refresh. -/
theorem UdpState.turn_refreshing_ok (hphase : s.phase = .refreshing runtime call)
    (hreply : ((call.push t).loop crc).result = some (.ok frame)) :
    s.turn w crc q t start = (s.afterRefresh w runtime frame, []) := by
  unfold UdpState.turn
  rw [hphase]
  dsimp only
  rw [hreply]

end Turn

/-! ### A call that receives in time -/

section Call

variable {crc : Crc32} {R R' : Replies crc}

/-- **One more datagram in time**: the call has its reply if that was the last of it, and
else goes on waiting. -/
theorem Call.loop_push {c : Call} (hg : ∀ t ∈ c.turns, t.Genuine R c.start)
    (hnone : (c.loop crc).result = none) {t : Turn} (ht : t.Genuine R c.start)
    (htime : t.InTime (c.start + c.timeout)) {datagram : Bytes}
    (hd : t.received = .datagram datagram) :
    ((c.push t).loop crc).received = (c.loop crc).received ++ [datagram] ∧
      ((c.push t).loop crc).result =
        R.outcome c.requestId ((c.loop crc).received ++ [datagram]) := by
  have hpush : (c.push t).loop crc =
      (c.loop crc).turn crc c.requestId c.timeout (c.start + c.timeout) t := by
    rw [Call.loop, Call.loop, recvFrame, recvFrame, Call.push, List.foldl_append]
    rfl
  have hprogress : Progress R c.requestId c.timeout c.start (c.loop crc) := progress_recvFrame hg
  cases hprogress with
  | running ds hresult hw =>
    obtain ⟨d, rfl⟩ := (ht.2 _ hd).exists_delivery
    obtain ⟨hreceived, hout, -⟩ := hw.receive d ht.1
    rw [hpush, hw.turn hnone htime, hd]
    exact ⟨hreceived, hreceived ▸ hout⟩
  | failed e hresult =>
    rw [hnone] at hresult
    cases hresult
  | ended frame hresult =>
    rw [hnone] at hresult
    cases hresult

/-- What the network carries it also carries when there are more replies. -/
theorem Replies.Carries.mono (hext : ∀ id s, R.reply id = some s → R'.reply id = some s)
    {datagram : Bytes} (h : R.Carries datagram) : R'.Carries datagram := by
  obtain ⟨id, s, hs, hd⟩ := h
  exact ⟨id, s, hext id s hs, hd⟩

/-- A genuine turn stays so when there are more replies. -/
theorem Turn.Genuine.mono (hext : ∀ id s, R.reply id = some s → R'.reply id = some s) {start : ℕ}
    {t : Turn} (h : t.Genuine R start) : t.Genuine R' start :=
  ⟨h.1, fun datagram hd => (h.2 datagram hd).mono hext⟩

end Call

/-! ### Requests in one datagram -/

section Datagram

variable (crc : Crc32)

/-- A short frame in one datagram is taken out of it, and UDP can carry the datagram. -/
theorem decode_encodeUdpSingleChunk {frame : Bytes} {hp : FrameHeader × Bytes}
    (hd : decodeFrame frame = .ok hp) (hlen : frame.length ≤ UDP_MIN_PAYLOAD) (ipv4 : Bool) :
    ∃ datagram, encodeUdpSingleChunk crc frame = .ok datagram ∧
      decodeUdpSingleChunkRef crc datagram = .ok (some frame) ∧
        sendAll ipv4 [datagram] = [datagram] := by
  obtain ⟨header, payload⟩ := hp
  have h16 : frame.length ≤ U16_MAX := hlen.trans (by decide)
  refine ⟨_, encodeUdpSingleChunk_of_decodeFrame hd h16, decodeUdpSingleChunkRef_single hd h16,
    sendAll_of_forall fun d hmem => ?_⟩
  have hmax : UDP_CHUNK_HEADER_LEN + UDP_MIN_PAYLOAD ≤ maxUdpPayload ipv4 := by
    cases ipv4 <;> decide
  rw [List.mem_singleton.1 hmem, List.length_append, UdpChunkHeader.length_encode]
  exact (Nat.add_le_add_left hlen _).trans hmax

/-- The datagram of a query. -/
theorem exists_sendEmptyQuery (requestId : UInt64) (ipv4 : Bool) : ∃ datagram,
    sendEmptyQuery crc requestId = .ok [datagram] ∧
      decodeUdpSingleChunkRef crc datagram = .ok (some (emptyQuery requestId)) ∧
        sendAll ipv4 [datagram] = [datagram] := by
  have hlen : (emptyQuery requestId).length ≤ UDP_MIN_PAYLOAD := by
    rw [emptyQuery, length_encodeFrame]
    decide
  obtain ⟨datagram, hencode, hdecode⟩ :=
    decode_encodeUdpSingleChunk crc (decodeFrame_emptyQuery requestId) hlen ipv4
  refine ⟨datagram, ?_, hdecode⟩
  rw [sendEmptyQuery, encodeUdpSingleChunkFromParts_eq (by decide), ← emptyQuery, hencode]

/-- The datagram of a short frame. -/
theorem exists_sendFrame {frame : Bytes} {hp : FrameHeader × Bytes}
    (hd : decodeFrame frame = .ok hp) {maxPayload : ℕ} (hlen : frame.length ≤ UDP_MIN_PAYLOAD)
    (hmin : UDP_MIN_PAYLOAD ≤ maxPayload) (ipv4 : Bool) : ∃ datagram,
      sendFrame crc frame maxPayload = .ok [datagram] ∧
        decodeUdpSingleChunkRef crc datagram = .ok (some frame) ∧
          sendAll ipv4 [datagram] = [datagram] := by
  obtain ⟨datagram, hencode, hdecode⟩ := decode_encodeUdpSingleChunk crc hd hlen ipv4
  exact ⟨datagram, by rw [sendFrame, if_pos (hlen.trans hmin), hencode], hdecode⟩

end Datagram

/-! ### Requests that are answered alike -/

/-- A request in one datagram, and the reply to it. -/
structure UdpRequest where
  requestId : UInt64
  datagram : Bytes
  reply : Bytes

section Answer

variable {Addr : Type*} {w : Wire} {crc : Crc32} {snapshot : ServerGresSnapshot} {r : UdpRequest}

/-- It is the reply while the entry is current. -/
structure UdpRequest.Served (w : Wire) (crc : Crc32) (snapshot : ServerGresSnapshot)
    (r : UdpRequest) : Prop where
  request : ∃ request, decodeUdpSingleChunkRef crc r.datagram = .ok (some request) ∧
    Server.handleFrame w (current snapshot) request = .ok r.reply
  reply : ∃ t payload, r.reply = Server.encodeTransportFrame t r.requestId payload ∧
    payload.length ≤ MAX_PAYLOAD_LEN

/-- The reply, if it has been given, is this one, in datagrams of this capacity, which UDP
can carry. -/
def UdpRequest.CutBy (r : UdpRequest) (R : Replies crc) (ipv4 : Bool) (cap : ℕ) : Prop :=
  ∀ s, R.reply r.requestId = some s → s.frame = r.reply ∧ Server.Sendable ipv4 cap r.reply ∧
    Server.sendResponse crc ipv4 cap (.ok r.reply) = s.datagrams

variable {st : Server.LoopState Addr} {peer : Addr} {ipv4 : Bool}
  {idleTimeout now capacity cap : ℕ}

/-- **A turn of the server**: it remembers the capacity, and sends the reply,
on the fast path or not. -/
theorem UdpRequest.Served.serverLoopStep_eq [DecidableEq Addr] (hr : r.Served w crc snapshot) :
    Server.serverLoopStep w crc (current snapshot) ipv4 idleTimeout now capacity st peer
        r.datagram =
      ({ st with
          payloadCaps := Function.update st.payloadCaps peer
            (some (Server.payloadCap st peer capacity)) },
        Server.sendResponse crc ipv4 (Server.payloadCap st peer capacity) (.ok r.reply)) := by
  obtain ⟨request, hdecode, hhandle⟩ := hr.request
  have hasks : Server.asksCapacity w (current snapshot) request = true := by
    unfold Server.asksCapacity
    rw [hhandle]
    cases Server.decodeTransportFrame request <;> rfl
  have hanswer : Server.answer w crc (current snapshot) ipv4 (Server.payloadCap st peer capacity)
      request =
        Server.sendResponse crc ipv4 (Server.payloadCap st peer capacity) (.ok r.reply) := by
    rw [← hhandle]
    exact Server.answer_eq_of_entry request
  unfold Server.serverLoopStep Server.receiveFrame
  rw [hdecode]
  dsimp only
  rw [isDisconnect_of_handleFrame hhandle, hasks, hanswer]
  rfl

/-- The datagrams of the reply are those of a frame that answers the request, if UDP can
carry them. -/
theorem UdpRequest.Served.exists_sent (hr : r.Served w crc snapshot)
    (hmin : UDP_MIN_PAYLOAD ≤ cap) (hsend : Server.Sendable ipv4 cap r.reply) :
    ∃ s : Sent crc, s.requestId = r.requestId ∧ s.frame = r.reply ∧
      Server.sendResponse crc ipv4 cap (.ok r.reply) = s.datagrams := by
  obtain ⟨t, payload, hreply, hlen⟩ := hr.reply
  rw [hreply] at hsend
  obtain ⟨s, hframe, hsent⟩ : ∃ s : Sent crc,
      s.frame = Server.encodeTransportFrame t r.requestId payload ∧
        Server.sendResponse crc ipv4 cap _ = s.datagrams := Server.exists_sent hmin hlen hsend
  have hheader := s.frameHeader_eq (hframe ▸ Server.decodeFrame_encodeTransportFrame hlen)
  rw [hreply]
  exact ⟨s, congrArg FrameHeader.requestId hheader, hframe, hsent⟩

/-- Nothing is sent if UDP cannot carry them. -/
theorem UdpRequest.Served.sendResponse_eq_nil (hr : r.Served w crc snapshot)
    (hmin : UDP_MIN_PAYLOAD ≤ cap) (hsend : ¬Server.Sendable ipv4 cap r.reply) :
    Server.sendResponse crc ipv4 cap (.ok r.reply) = [] := by
  obtain ⟨t, payload, hreply, hlen⟩ := hr.reply
  rw [hreply] at hsend ⊢
  exact Server.sendResponse_of_not_sendable hmin hlen hsend

/-- **A request that is served again** is answered as before, with the same
datagrams, since the entry and the capacity are. -/
theorem UdpRequest.Served.exists_answer (hr : r.Served w crc snapshot) {R : Replies crc}
    (hcut : r.CutBy R ipv4 cap) (hmin : UDP_MIN_PAYLOAD ≤ cap)
    (hsend : Server.Sendable ipv4 cap r.reply) :
    ∃ (R' : Replies crc) (s : Sent crc), R'.reply r.requestId = some s ∧ s.frame = r.reply ∧
      Server.sendResponse crc ipv4 cap (.ok r.reply) = s.datagrams ∧
      (∀ id, id ≠ r.requestId → R'.reply id = R.reply id) ∧
        ∀ id s, R.reply id = some s → R'.reply id = some s := by
  cases hs : R.reply r.requestId with
  | some s =>
    obtain ⟨hframe, -, hsent⟩ := hcut s hs
    exact ⟨R, s, hs, hframe, hsent, fun _ _ => rfl, fun _ _ h => h⟩
  | none =>
    obtain ⟨s, hid, hframe, hsent⟩ := hr.exists_sent hmin hsend
    rw [← hid] at hs ⊢
    refine ⟨R.answer s, s, Function.update_self .., hframe, hsent,
      fun id hne => Function.update_of_ne hne _ _, fun id s' h => ?_⟩
    have hne : id ≠ s.requestId := by
      rintro rfl
      rw [hs] at h
      cases h
    exact (Function.update_of_ne hne _ _).trans h

end Answer

/-- The two requests of a query. -/
structure UdpRequests {Addr : Type*} (w : Wire) (crc : Crc32) (snapshot : ServerGresSnapshot)
    (q : UdpQuery Addr) where
  query : UdpRequest
  refresh : UdpRequest
  requestId_query : query.requestId = q.requestId
  requestId_refresh : refresh.requestId = q.refreshId
  send_query : sendEmptyQuery crc q.requestId = .ok [query.datagram]
  send_refresh : ∃ frame, buildHandshakeRequestFrame w q.refreshId = .ok frame ∧
    sendFrame crc frame q.maxPayload = .ok [refresh.datagram]
  sendAll_query : sendAll q.ipv4 [query.datagram] = [query.datagram]
  sendAll_refresh : sendAll q.ipv4 [refresh.datagram] = [refresh.datagram]
  reply_query : ∃ runtime, encodeRuntimePayload w (.fromSnapshot snapshot) = .ok runtime ∧
    query.reply.length = FRAME_HEADER_LEN + runtime.length
  reply_refresh : ∃ metadata, encodeMetadataPayload w (.fromSnapshot snapshot) = .ok metadata ∧
    refresh.reply.length = FRAME_HEADER_LEN + metadata.length
  served_query : query.Served w crc snapshot
  served_refresh : refresh.Served w crc snapshot
  parse_query : parseRuntimePayloadFrame w query.reply = .ok (.fromSnapshot snapshot)
  parse_refresh : parseHandshakeReply w refresh.reply = .ok (.fromSnapshot snapshot)

/-- Every query has two such. -/
theorem Deliverable.exists_requests {w : Wire} {snapshot : ServerGresSnapshot}
    {metadata : HostMetadata} (h : Deliverable w snapshot metadata) (crc : Crc32) {Addr : Type*}
    {q : UdpQuery Addr} (hmax : UDP_MIN_PAYLOAD ≤ q.maxPayload) :
    Nonempty (UdpRequests w crc snapshot q) := by
  obtain ⟨runtime, hruntime⟩ := h.exists_runtime
  obtain ⟨archive, harchive⟩ := h.exists_metadata
  obtain ⟨query, hquery, hdecode, hcarried⟩ := exists_sendEmptyQuery crc q.requestId q.ipv4
  obtain ⟨frame, hframe, hlen⟩ := h.exists_refresh q.refreshId
  obtain ⟨header, payload, -, hd, -⟩ := decodeFrame_of_encodeJsonFrame hframe
  obtain ⟨refresh, hrefresh, hdecode', hcarried'⟩ := exists_sendFrame crc hd hlen hmax q.ipv4
  exact ⟨{
    query := ⟨q.requestId, query, Server.encodeTransportFrame .runtimePayload q.requestId runtime⟩
    refresh :=
      ⟨q.refreshId, refresh, Server.encodeTransportFrame .metadataPayload q.refreshId archive⟩
    requestId_query := rfl
    requestId_refresh := rfl
    send_query := hquery
    send_refresh := ⟨frame, hframe, hrefresh⟩
    sendAll_query := hcarried
    sendAll_refresh := hcarried'
    reply_query := ⟨runtime, hruntime, length_encodeFrame _ _⟩
    reply_refresh := ⟨archive, harchive, length_encodeFrame _ _⟩
    served_query := ⟨⟨_, hdecode, handleFrame_emptyQuery hruntime q.requestId⟩,
      _, runtime, rfl, (encodeRkyvPayload_eq_ok_iff.1 hruntime).2⟩
    served_refresh :=
      ⟨⟨_, hdecode', handleFrame_handshakeRequest h.lawful_handshakeRequest harchive hframe⟩,
        _, archive, rfl, (encodeRkyvPayload_eq_ok_iff.1 harchive).2⟩
    parse_query := h.parse_runtime hruntime
    parse_refresh := h.parse_metadata harchive }⟩

/-! ### What is on its way -/

section Link

variable {Addr : Type*} {w : Wire} {crc : Crc32} {snapshot : ServerGresSnapshot}
  {q : UdpQuery Addr} {rq : UdpRequests w crc snapshot q} {cap : ℕ} {R R' : Replies crc}
  {s s' : UdpState Addr} {r : UdpRequest} {call : Call}

/-- The server uses this capacity for the client; what is on its way to the client are
replies, and those to the two requests are of the entry. -/
structure Link (rq : UdpRequests w crc snapshot q) (cap : ℕ) (R : Replies crc)
    (s : UdpState Addr) : Prop where
  payloadCap : Server.payloadCap s.server q.peer q.capacity = cap
  carried : ∀ datagram ∈ s.toClient, R.Carries datagram
  cut : ∀ r ∈ [rq.query, rq.refresh], r.CutBy R q.ipv4 cap

/-- A call that waits for the reply to a request: the request is on its way, or what the
call has not received of the reply is, or the reply is one that cannot be sent. -/
structure Awaiting (q : UdpQuery Addr) (cap : ℕ) (R : Replies crc) (s : UdpState Addr)
    (r : UdpRequest) (call : Call) : Prop where
  requestId : call.requestId = r.requestId
  timeout : 0 < call.timeout
  genuine : ∀ t ∈ call.turns, t.Genuine R call.start
  running : (call.loop crc).result = none
  awaited : (R.reply r.requestId = none ∧
      (Server.Sendable q.ipv4 cap r.reply → r.datagram ∈ s.toServer)) ∨
    ∃ sent, R.reply r.requestId = some sent ∧
      ∀ datagram ∈ sent.datagrams, datagram ∈ s.toClient ∨ datagram ∈ (call.loop crc).received

/-- Less on its way to the client. -/
theorem Link.of_subset (h : Link rq cap R s) (hserver : s'.server = s.server)
    (hclient : s'.toClient ⊆ s.toClient) : Link rq cap R s' where
  payloadCap := hserver ▸ h.payloadCap
  carried datagram hd := h.carried datagram (hclient hd)
  cut := h.cut

/-- The two requests are told apart by their ids. -/
theorem UdpRequests.eq_of_requestId (rq : UdpRequests w crc snapshot q)
    (hids : q.requestId ≠ q.refreshId) {r r' : UdpRequest} (hr : r ∈ [rq.query, rq.refresh])
    (hr' : r' ∈ [rq.query, rq.refresh]) (hid : r'.requestId = r.requestId) : r' = r := by
  rcases List.mem_pair.1 hr with rfl | rfl <;> rcases List.mem_pair.1 hr' with rfl | rfl
  · rfl
  · rw [rq.requestId_query, rq.requestId_refresh] at hid
    exact absurd hid.symm hids
  · rw [rq.requestId_query, rq.requestId_refresh] at hid
    exact absurd hid hids
  · rfl

/-- **The server answers one of the requests**, maybe again, if UDP can carry
the reply; what is under way are datagrams of the two replies still. -/
theorem Link.serve [DecidableEq Addr] (h : Link rq cap R s) (s' : UdpState Addr)
    (hids : q.requestId ≠ q.refreshId) (hmin : UDP_MIN_PAYLOAD ≤ cap)
    (hr : r ∈ [rq.query, rq.refresh]) {now : ℕ} {out : Server.LoopState Addr × List Bytes}
    (hout : Server.serverLoopStep w crc (current snapshot) q.ipv4 q.idleTimeout now q.capacity
      s.server q.peer r.datagram = out) {copies : List Bytes} (hcopies : Copies out.2 copies)
    (hserver : s'.server = out.1) (hclient : s'.toClient = s.toClient ++ copies) :
    ∃ R' : Replies crc, Link rq cap R' s' ∧
      ((∃ sent, R'.reply r.requestId = some sent ∧
          ∀ datagram ∈ sent.datagrams, datagram ∈ s'.toClient) ∨
        R'.reply r.requestId = R.reply r.requestId ∧ (Server.Sendable q.ipv4 cap r.reply →
          r.datagram ∈ s.toServer → r.datagram ∈ s'.toServer)) ∧
      (∀ id, id ≠ r.requestId → R'.reply id = R.reply id) ∧
        ∀ id s, R.reply id = some s → R'.reply id = some s := by
  have hserved : r.Served w crc snapshot := by
    rcases List.mem_pair.1 hr with rfl | rfl
    · exact rq.served_query
    · exact rq.served_refresh
  rw [hserved.serverLoopStep_eq, h.payloadCap] at hout
  subst hout
  have hcap : Server.payloadCap s'.server q.peer q.capacity = cap := by
    rw [hserver, Server.payloadCap]
    dsimp only
    rw [Function.update_self]
    rfl
  by_cases hsend : Server.Sendable q.ipv4 cap r.reply
  · obtain ⟨R', sent, hreply, hframe, hsent, hother, hext⟩ :=
      hserved.exists_answer (h.cut r hr) hmin hsend
    have hmem : ∀ datagram ∈ sent.datagrams, datagram ∈ copies := fun datagram hd =>
      (hcopies datagram).2 (hsent ▸ hd)
    refine ⟨R', ⟨hcap, fun datagram hd => ?_, fun r' hr' s₁ hs₁ => ?_⟩, .inl ⟨sent, hreply,
      fun datagram hd => hclient ▸ List.mem_append_right _ (hmem datagram hd)⟩, hother, hext⟩
    · rw [hclient] at hd
      rcases List.mem_append.1 hd with hd | hd
      · exact (h.carried datagram hd).mono hext
      · exact ⟨_, sent, hreply, hsent ▸ (hcopies datagram).1 hd⟩
    · by_cases hid : r'.requestId = r.requestId
      · obtain rfl := rq.eq_of_requestId hids hr hr' hid
        obtain rfl := Option.some.inj (hreply.symm.trans hs₁)
        exact ⟨hframe, hsend, hsent⟩
      · exact h.cut r' hr' s₁ (hother _ hid ▸ hs₁)
  · -- the error of the socket is logged, and that is all
    dsimp only at hcopies
    rw [hserved.sendResponse_eq_nil hmin hsend] at hcopies
    refine ⟨R, ⟨hcap, fun datagram hd => h.carried datagram ?_, h.cut⟩,
      .inr ⟨rfl, fun h => absurd h hsend⟩, fun _ _ => rfl, fun _ _ h => h⟩
    rw [hclient, copies_nil hcopies, List.append_nil] at hd
    exact hd

/-- A call that has just begun, its request having been sent. -/
theorem Awaiting.begin (hnone : R.reply r.requestId = none) (hsent : r.datagram ∈ s.toServer)
    {timeout start : ℕ} (htimeout : 0 < timeout) :
    Awaiting q cap R s r ⟨r.requestId, timeout, start, []⟩ where
  requestId := rfl
  timeout := htimeout
  genuine := List.forall_mem_nil _
  running := rfl
  awaited := .inl ⟨hnone, fun _ => hsent⟩

/-- A turn of the server, for this request or another. -/
theorem Awaiting.serve (h : Awaiting q cap R s r call)
    (hext : ∀ id s, R.reply id = some s → R'.reply id = some s)
    (hserved : (∃ sent, R'.reply r.requestId = some sent ∧
        ∀ datagram ∈ sent.datagrams, datagram ∈ s'.toClient) ∨
      R'.reply r.requestId = R.reply r.requestId ∧ (Server.Sendable q.ipv4 cap r.reply →
        r.datagram ∈ s.toServer → r.datagram ∈ s'.toServer))
    (hclient : s.toClient ⊆ s'.toClient) : Awaiting q cap R' s' r call where
  requestId := h.requestId
  timeout := h.timeout
  genuine t ht := (h.genuine t ht).mono hext
  running := h.running
  awaited := by
    rcases hserved with ⟨sent, hreply, hall⟩ | ⟨heq, hserver⟩
    · exact .inr ⟨sent, hreply, fun datagram hd => .inl (hall datagram hd)⟩
    · rw [heq]
      refine h.awaited.imp (And.imp_right fun hsent hsend => hserver hsend (hsent hsend))
        fun ⟨sent, hreply, hall⟩ =>
          ⟨sent, hreply, fun datagram hd => (hall datagram hd).imp_left fun hd => hclient hd⟩

/-- **As long as a call waits for a reply that can be sent, there is something to wait
for.** -/
theorem Awaiting.exists_mem (h : Awaiting q cap R s r call)
    (hsend : Server.Sendable q.ipv4 cap r.reply) : s.toServer ≠ [] ∨ s.toClient ≠ [] := by
  rcases h.awaited with ⟨-, hmem⟩ | ⟨sent, hreply, hall⟩
  · exact .inl (List.ne_nil_of_mem (hmem hsend))
  · refine .inr fun hnil => ?_
    have hresult := ((recvFrame_result h.genuine call.requestId call.timeout).2 sent.frame).2
      ⟨sent, h.requestId ▸ hreply, rfl, fun datagram hd => ?_⟩
    · have hrunning : (recvFrame crc call.requestId call.timeout call.start call.turns).result =
          none := h.running
      rw [hrunning] at hresult
      cases hresult
    · refine (hall datagram hd).resolve_left fun hmem => ?_
      rw [hnil] at hmem
      cases hmem

/-- **A turn of the call**: it has its reply, or goes on waiting, with one
more datagram received; the clock is before the deadline in both cases. -/
theorem Awaiting.turn (h : Awaiting q cap R s r call) (hlink : Link rq cap R s)
    (hr : r ∈ [rq.query, rq.refresh]) {t : Turn} {datagram : Bytes} (hd : datagram ∈ s.toClient)
    (hreceived : t.received = .datagram datagram)
    (hclock : t.Clocked call.start call.timeout)
    (htime : t.InTime (call.start + call.timeout)) :
    ((call.push t).loop crc).result = some (.ok r.reply) ∧
        Server.Sendable q.ipv4 cap r.reply ∨
      ((call.push t).loop crc).result = none ∧
        ∀ s' : UdpState Addr, s'.toServer = s.toServer →
          s'.toClient = s.toClient.erase datagram → Awaiting q cap R s' r (call.push t) := by
  have hgenuine : t.Genuine R call.start :=
    ⟨hclock.le_arrived, fun datagram' hd' => by
      rw [hreceived] at hd'
      exact Received.datagram.inj hd' ▸ hlink.carried datagram hd⟩
  obtain ⟨hpush, hresult⟩ := Call.loop_push h.genuine h.running hgenuine htime hreceived
  cases hout : R.outcome call.requestId ((call.loop crc).received ++ [datagram]) with
  | some result =>
    cases result with
    | error e => exact absurd hout Replies.outcome_ne_error
    | ok frame =>
      obtain ⟨sent, hreply, rfl, -⟩ := Replies.outcome_eq_ok_iff.1 hout
      obtain ⟨hframe, hsend, -⟩ := hlink.cut r hr sent (h.requestId ▸ hreply)
      exact .inl ⟨by rw [hresult, hout, hframe], hsend⟩
  | none =>
    refine .inr ⟨hresult.trans hout, fun s' hserver hclient => ?_⟩
    refine ⟨h.requestId, h.timeout, ?_, hresult.trans hout, ?_⟩
    · intro u hu
      rcases List.mem_append.1 hu with hu | hu
      · exact h.genuine u hu
      · obtain rfl := List.mem_singleton.1 hu
        exact hgenuine
    · rw [hserver, hclient, hpush]
      refine h.awaited.imp_right fun ⟨sent, hreply, hall⟩ =>
        ⟨sent, hreply, fun datagram' hd' => ?_⟩
      by_cases heq : datagram' = datagram
      · subst heq
        exact .inr (List.mem_append_right _ (List.mem_singleton_self _))
      · exact (hall datagram' hd').imp (fun hmem => (List.mem_erase_of_ne heq).2 hmem)
          fun hmem => List.mem_append_left _ hmem

end Link

/-! ### The query goes on -/

/-- How far the query is from its end. -/
def UdpPhase.rank : UdpPhase → ℕ
  | .idle => 3
  | .querying _ => 2
  | .refreshing _ _ => 1
  | .done _ => 0

/-- The variant: what is left to do, then what the server has still to receive, then what
the client has. -/
def UdpState.left {Addr : Type*} (s : UdpState Addr) : ℕ ×ₗ ℕ ×ₗ ℕ :=
  toLex (s.phase.rank, toLex (s.toServer.length, s.toClient.length))

section Query

variable {Addr : Type*} {w : Wire} {crc : Crc32} {snapshot : ServerGresSnapshot}
  {metadata : HostMetadata} {q : UdpQuery Addr} {rq : UdpRequests w crc snapshot q} {cap : ℕ}
  {s s' : UdpState Addr}

/-- A call that is further on has less left, whatever is on the way. -/
theorem UdpState.left_lt_of_rank (h : s'.phase.rank < s.phase.rank) : s'.left < s.left :=
  Prod.Lex.left _ _ h

/-- In one phase of the call, a request that the server has taken leaves less.
-/
theorem UdpState.left_lt_of_served (hrank : s'.phase.rank = s.phase.rank)
    (h : s'.toServer.length < s.toServer.length) : s'.left < s.left := by
  rw [left, left, hrank]
  exact Prod.Lex.right _ (Prod.Lex.left _ _ h)

/-- In one phase, with no request taken, a datagram that the client has
received leaves less. -/
theorem UdpState.left_lt_of_received (hrank : s'.phase.rank = s.phase.rank)
    (hserver : s'.toServer.length = s.toServer.length)
    (h : s'.toClient.length < s.toClient.length) : s'.left < s.left := by
  rw [left, left, hrank, hserver]
  exact Prod.Lex.right _ (Prod.Lex.right _ h)

/-- The query has come to the entry without its commands. -/
def UdpState.Delivered (snapshot : ServerGresSnapshot) (s : UdpState Addr) : Prop :=
  s.phase = .done (.ok (omitProcessCommands snapshot))

/-- The server can send the client a reply with this archive. -/
def UdpState.CanSend (q : UdpQuery Addr) (s : UdpState Addr) (archive : Bytes) : Prop :=
  UDP_CHUNK_HEADER_LEN +
      min (Server.payloadCap s.server q.peer q.capacity) (FRAME_HEADER_LEN + archive.length) ≤
    maxUdpPayload q.ipv4

/-- It can send the runtime half of the entry; and the metadata, unless the client has them. -/
structure UdpState.CanAnswer (w : Wire) (snapshot : ServerGresSnapshot) (q : UdpQuery Addr)
    (s : UdpState Addr) : Prop where
  runtime : ∀ archive, encodeRuntimePayload w (.fromSnapshot snapshot) = .ok archive →
    s.CanSend q archive
  metadata : (HostMetadata.fromSnapshot snapshot).metadataHash ≠ s.metadata.metadataHash →
    ∀ archive, encodeMetadataPayload w (.fromSnapshot snapshot) = .ok archive → s.CanSend q archive

/-- It can send the replies to the two requests, or to the first, if that is enough for a
client with these metadata. -/
structure UdpRequests.Sendable (rq : UdpRequests w crc snapshot q) (cap : ℕ)
    (metadata : HostMetadata) : Prop where
  query : Server.Sendable q.ipv4 cap rq.query.reply
  refresh : (HostMetadata.fromSnapshot snapshot).metadataHash ≠ metadata.metadataHash →
    Server.Sendable q.ipv4 cap rq.refresh.reply

/-- Whether the server can send the replies is a matter of the lengths of the archives. -/
theorem UdpRequests.sendable_iff (rq : UdpRequests w crc snapshot q) (s : UdpState Addr) :
    rq.Sendable (Server.payloadCap s.server q.peer q.capacity) s.metadata ↔
      s.CanAnswer w snapshot q := by
  obtain ⟨runtime, hruntime, hquery⟩ := rq.reply_query
  obtain ⟨archive, harchive, hrefresh⟩ := rq.reply_refresh
  have hsendable (r : UdpRequest) (payload : Bytes)
      (h : r.reply.length = FRAME_HEADER_LEN + payload.length) :
      Server.Sendable q.ipv4 (Server.payloadCap s.server q.peer q.capacity) r.reply ↔
        s.CanSend q payload := by
    rw [Server.Sendable, UdpState.CanSend, h]
  constructor
  · intro h
    refine ⟨fun payload he => ?_, fun hneeds payload he => ?_⟩
    · obtain rfl := Except.ok.inj (hruntime.symm.trans he)
      exact (hsendable rq.query runtime hquery).1 h.query
    · obtain rfl := Except.ok.inj (harchive.symm.trans he)
      exact (hsendable rq.refresh archive hrefresh).1 (h.refresh hneeds)
  · intro h
    exact ⟨(hsendable rq.query runtime hquery).2 (h.runtime runtime hruntime), fun hneeds =>
      (hsendable rq.refresh archive hrefresh).2 (h.metadata hneeds archive harchive)⟩

/-- The capacity for the client is not below the least. -/
theorem UdpState.Ready.le_payloadCap (h : s.Ready crc q) :
    UDP_MIN_PAYLOAD ≤ Server.payloadCap s.server q.peer q.capacity := by
  unfold Server.payloadCap
  cases hcap : s.server.payloadCaps q.peer with
  | some cap => exact h.payloadCaps cap hcap
  | none => exact min_le_effectiveUdpPayloadCapacity ..

/-- Where a query can be while the entry is current; what has been received the server could
send. -/
inductive Underway (rq : UdpRequests w crc snapshot q) (cap : ℕ) (metadata : HostMetadata)
    (s : UdpState Addr) : Prop
  | idle (hready : s.Ready crc q) (hmetadata : s.metadata = metadata)
    (hcap : Server.payloadCap s.server q.peer q.capacity = cap)
  | querying (call : Call) (R : Replies crc) (hphase : s.phase = .querying call)
    (hmetadata : s.metadata = metadata) (hlink : Link rq cap R s)
    (hsent : ∀ datagram ∈ s.toServer, datagram = rq.query.datagram)
    (hnone : R.reply q.refreshId = none) (hcall : Awaiting q cap R s rq.query call)
  | refreshing (call : Call) (R : Replies crc)
    (hphase : s.phase = .refreshing (.fromSnapshot snapshot) call) (hlink : Link rq cap R s)
    (hsent : ∀ datagram ∈ s.toServer,
      datagram = rq.query.datagram ∨ datagram = rq.refresh.datagram)
    (hcall : Awaiting q cap R s rq.refresh call)
    (hquery : Server.Sendable q.ipv4 cap rq.query.reply)
    (hneeds : (HostMetadata.fromSnapshot snapshot).metadataHash ≠ metadata.metadataHash)
  | delivered (h : s.Delivered snapshot) (hsendable : rq.Sendable cap metadata)

/-- A request whose datagram UDP can carry is sent. -/
theorem UdpState.send_eq {datagram : Bytes} (h : sendAll q.ipv4 [datagram] = [datagram])
    (phase : UdpPhase) : s.send q [datagram] phase = ({ s with phase }, [datagram]) := by
  rw [UdpState.send, h, if_pos rfl]

/-- **The query is sent**, and its copies are under way: the call begins, and
waits for the first reply. -/
theorem UdpState.Ready.query (h : s.Ready crc q) (hmetadata : s.metadata = metadata)
    (hcap : Server.payloadCap s.server q.peer q.capacity = cap) (htimeout : 0 < q.timeout)
    {start : ℕ} {copies : List Bytes} (hcopies : Copies (s.query crc q start).2 copies) :
    Underway rq cap metadata
      { (s.query crc q start).1 with toServer := s.toServer ++ copies } := by
  obtain ⟨R, hquery, hrefresh, hcarried⟩ := h.toClient
  rw [UdpState.query, rq.send_query] at hcopies ⊢
  dsimp only at hcopies ⊢
  rw [UdpState.send_eq rq.sendAll_query] at hcopies ⊢
  have hmem : rq.query.datagram ∈ s.toServer ++ copies :=
    List.mem_append_right _ ((hcopies _).2 (List.mem_singleton_self _))
  have hlink : Link rq cap R s := by
    refine ⟨hcap, hcarried, fun r hr s₁ hs₁ => ?_⟩
    rcases List.mem_pair.1 hr with rfl | rfl
    · rw [rq.requestId_query, hquery] at hs₁
      cases hs₁
    · rw [rq.requestId_refresh, hrefresh] at hs₁
      cases hs₁
  refine .querying _ R rfl hmetadata (hlink.of_subset rfl (List.Subset.refl _)) ?_ hrefresh
    (rq.requestId_query ▸ .begin (rq.requestId_query ▸ hquery) hmem htimeout)
  intro datagram hd
  rw [h.toServer, List.nil_append] at hd
  exact List.mem_singleton.1 ((hcopies datagram).1 hd)

/-- **The reply to the query has been received**: the client has the metadata of the entry,
or asks for them. -/
theorem Deliverable.afterQuery (h : Deliverable w snapshot metadata)
    (hmetadata : s.metadata = metadata) (htimeout : 0 < q.timeout) {R : Replies crc}
    (hlink : Link rq cap R s) (hsent : ∀ datagram ∈ s.toServer, datagram = rq.query.datagram)
    (hnone : R.reply q.refreshId = none) (hquery : Server.Sendable q.ipv4 cap rq.query.reply)
    {start : ℕ} {copies : List Bytes} {client : List Bytes} (hclient : client ⊆ s.toClient)
    (hcopies : Copies (s.afterQuery w crc q rq.query.reply start).2 copies) :
    let s' := { (s.afterQuery w crc q rq.query.reply start).1 with
      toServer := s.toServer ++ copies, toClient := client }
    Underway rq cap metadata s' ∧ s'.phase.rank < 2 := by
  subst hmetadata
  obtain ⟨frame, hframe, hrefresh⟩ := rq.send_refresh
  have hruntime : recvQueryRuntime w rq.query.reply = .ok (.fromSnapshot snapshot) := by
    rw [recvQueryRuntime, rq.parse_query]
  rcases h.refreshes_or_eq (.fromSnapshot snapshot) rfl with hneeds | ⟨hfresh, heq⟩
  · have hafter : s.afterQuery w crc q rq.query.reply start =
        ({ s with
            phase := .refreshing (.fromSnapshot snapshot) ⟨q.refreshId, q.timeout, start, []⟩ },
          [rq.refresh.datagram]) := by
      unfold UdpState.afterQuery
      rw [hruntime]
      dsimp only
      rw [if_pos hneeds, hframe]
      dsimp only
      rw [hrefresh]
      exact UdpState.send_eq rq.sendAll_refresh _
    rw [hafter] at hcopies ⊢
    refine ⟨.refreshing _ R rfl (hlink.of_subset rfl hclient) (fun datagram hd => ?_)
      (rq.requestId_refresh ▸ .begin (rq.requestId_refresh ▸ hnone)
        (List.mem_append_right _ ((hcopies _).2 (List.mem_singleton_self _))) htimeout) hquery
      hneeds.2, Nat.one_lt_two⟩
    rcases List.mem_append.1 hd with hd | hd
    · exact .inl (hsent datagram hd)
    · exact .inr (List.mem_singleton.1 ((hcopies datagram).1 hd))
  · have hafter : s.afterQuery w crc q rq.query.reply start =
        ({ s with phase := .done (.ok (omitProcessCommands snapshot)) }, []) := by
      unfold UdpState.afterQuery
      rw [hruntime]
      dsimp only
      rw [if_neg hfresh, heq, h.toSnapshot_eq]
    rw [hafter]
    exact ⟨.delivered rfl ⟨hquery, fun hne => absurd ⟨h.nonzero, hne⟩ hfresh⟩, Nat.zero_lt_two⟩

/-- **The reply to the refresh has been received**, and the query is done with
the entry, less the commands of its processes. -/
theorem Deliverable.afterRefresh (h : Deliverable w snapshot metadata)
    (rq : UdpRequests w crc snapshot q) :
    s.afterRefresh w (.fromSnapshot snapshot) rq.refresh.reply =
      { s with
        metadata := .fromSnapshot snapshot
        phase := .done (.ok (omitProcessCommands snapshot)) } := by
  rw [UdpState.afterRefresh, rq.parse_refresh]
  dsimp only
  rw [h.toSnapshot_eq]

/-- **A turn of the server** while the query is underway: a request less is to
be served, and the call has not moved. -/
theorem Underway.serve [DecidableEq Addr] (h : Underway rq cap metadata s)
    (hids : q.requestId ≠ q.refreshId) (hmin : UDP_MIN_PAYLOAD ≤ cap) {datagram : Bytes}
    (hd : datagram ∈ s.toServer) {now : ℕ} {out : Server.LoopState Addr × List Bytes}
    (hout : Server.serverLoopStep w crc (current snapshot) q.ipv4 q.idleTimeout now q.capacity
      s.server q.peer datagram = out) {copies : List Bytes} (hcopies : Copies out.2 copies) :
    Underway rq cap metadata
      { s with
        server := out.1
        toServer := s.toServer.erase datagram
        toClient := s.toClient ++ copies } := by
  let s' : UdpState Addr :=
    { s with
      server := out.1
      toServer := s.toServer.erase datagram
      toClient := s.toClient ++ copies }
  cases h with
  | idle hready =>
    rw [hready.toServer] at hd
    cases hd
  | querying call R hphase hmetadata hlink hsent hnone hcall =>
    obtain rfl := hsent datagram hd
    obtain ⟨R', hlink', hserved, hother, hext⟩ :=
      hlink.serve s' hids hmin (List.mem_cons_self ..) hout hcopies rfl rfl
    refine .querying call R' hphase hmetadata hlink'
      (fun datagram hd => hsent datagram (List.mem_of_mem_erase hd)) ?_
      (hcall.serve hext hserved (List.subset_append_left ..))
    rw [hother _ (rq.requestId_query ▸ hids.symm), hnone]
  | refreshing call R hphase hlink hsent hcall hquery hneeds =>
    have hsent' : ∀ datagram' ∈ s.toServer.erase datagram,
        datagram' = rq.query.datagram ∨ datagram' = rq.refresh.datagram :=
      fun datagram' hd' => hsent datagram' (List.mem_of_mem_erase hd')
    by_cases heq : datagram = rq.refresh.datagram
    · subst heq
      obtain ⟨R', hlink', hserved, -, hext⟩ :=
        hlink.serve s' hids hmin (List.mem_pair.2 (.inr rfl)) hout hcopies rfl rfl
      exact .refreshing call R' hphase hlink' hsent'
        (hcall.serve hext hserved (List.subset_append_left ..)) hquery hneeds
    · -- a copy of the query, which has been answered
      obtain rfl := (hsent datagram hd).resolve_right heq
      obtain ⟨R', hlink', -, hother, hext⟩ :=
        hlink.serve s' hids hmin (List.mem_cons_self ..) hout hcopies rfl rfl
      refine .refreshing call R' hphase hlink' hsent' (hcall.serve hext (.inr ⟨hother _ ?_,
        fun _ hmem => (List.mem_erase_of_ne (Ne.symm heq)).2 hmem⟩) (List.subset_append_left ..))
        hquery hneeds
      rw [rq.requestId_query, rq.requestId_refresh]
      exact hids.symm
  | delivered h hsendable => exact .delivered h hsendable

/-- **A turn of the client** while the query is underway: a datagram less is
to be received, or the query is in its next phase. -/
theorem Underway.turn (h : Underway rq cap metadata s) (hdeliverable : Deliverable w snapshot metadata)
    (htimeout : 0 < q.timeout) {call : Call} (hcall : s.phase.call? = some call) {t : Turn}
    {datagram : Bytes} (hd : datagram ∈ s.toClient) (hreceived : t.received = .datagram datagram)
    (hclock : t.Clocked call.start call.timeout)
    (htime : t.InTime (call.start + call.timeout)) {start : ℕ} {copies : List Bytes}
    (hcopies : Copies (s.turn w crc q t start).2 copies) :
    let s' := { (s.turn w crc q t start).1 with
      toServer := s.toServer ++ copies, toClient := s.toClient.erase datagram }
    Underway rq cap metadata s' ∧ s'.left < s.left := by
  have hsub : s.toClient.erase datagram ⊆ s.toClient := List.erase_subset
  have hlength : (s.toClient.erase datagram).length < s.toClient.length := by
    rw [List.length_erase_of_mem hd]
    exact Nat.sub_lt (List.length_pos_of_mem hd) Nat.one_pos
  cases h with
  | idle hready =>
    rw [hready.phase] at hcall
    cases hcall
  | querying call' R hphase hmetadata hlink hsent hnone hawaiting =>
    rw [hphase] at hcall
    obtain rfl := Option.some.inj hcall
    rcases hawaiting.turn hlink (List.mem_cons_self ..) hd hreceived hclock htime with
      ⟨hreply, hsend⟩ | ⟨hmore, hnext⟩
    · rw [UdpState.turn_querying_ok hphase hreply] at hcopies ⊢
      obtain ⟨hunderway, hrank⟩ :=
        hdeliverable.afterQuery hmetadata htimeout hlink hsent hnone hsend hsub hcopies
      exact ⟨hunderway, UdpState.left_lt_of_rank (by rw [hphase]; exact hrank)⟩
    · rw [UdpState.turn_querying_none hphase hmore] at hcopies ⊢
      obtain rfl := copies_nil hcopies
      refine ⟨.querying _ R rfl hmetadata (hlink.of_subset rfl hsub)
        (by rw [List.append_nil]; exact hsent) hnone (hnext _ (List.append_nil _) rfl), ?_⟩
      exact UdpState.left_lt_of_received (hphase ▸ rfl) (congrArg _ (List.append_nil _)) hlength
  | refreshing call' R hphase hlink hsent hawaiting hquery hneeds =>
    rw [hphase] at hcall
    obtain rfl := Option.some.inj hcall
    rcases hawaiting.turn hlink (List.mem_pair.2 (.inr rfl)) hd hreceived hclock htime with
      ⟨hreply, hsend⟩ | ⟨hmore, hnext⟩
    · rw [UdpState.turn_refreshing_ok hphase hreply, hdeliverable.afterRefresh rq]
      exact ⟨.delivered rfl ⟨hquery, fun _ => hsend⟩,
        UdpState.left_lt_of_rank (by rw [hphase]; exact Nat.one_pos)⟩
    · rw [UdpState.turn_refreshing_none hphase hmore] at hcopies ⊢
      obtain rfl := copies_nil hcopies
      refine ⟨.refreshing _ R rfl (hlink.of_subset rfl hsub)
        (by rw [List.append_nil]; exact hsent) (hnext _ (List.append_nil _) rfl) hquery hneeds,
        ?_⟩
      exact UdpState.left_lt_of_received (hphase ▸ rfl) (congrArg _ (List.append_nil _)) hlength
  | delivered h _ =>
    rw [UdpState.Delivered] at h
    rw [h] at hcall
    cases hcall

variable [DecidableEq Addr]

/-- **The query never stops**, if the server can send the replies: it can begin, or
something is on its way. -/
theorem Underway.exists_step (h : Underway rq cap metadata s) (hsendable : rq.Sendable cap metadata)
    (hs : ¬s.Delivered snapshot) :
    ∃ a s', (udpExchange w crc q (current snapshot)).step s a s' := by
  have hserve (hne : s.toServer ≠ []) : ∃ a s', UdpStep w crc q (current snapshot) s a s' := by
    obtain ⟨datagram, hd⟩ := List.exists_mem_of_ne_nil _ hne
    exact ⟨_, _, .serve 0 hd rfl fun _ => Iff.rfl⟩
  have hturn {call : Call} (hcall : s.phase.call? = some call) (htimeout : 0 < call.timeout)
      (hne : s.toClient ≠ []) : ∃ a s', UdpStep w crc q (current snapshot) s a s' := by
    obtain ⟨datagram, hd⟩ := List.exists_mem_of_ne_nil _ hne
    have htime : call.start < call.start + call.timeout := Nat.lt_add_of_pos_right htimeout
    let t : Turn := ⟨call.start, call.start, call.start, .datagram datagram, call.start⟩
    have hclock : t.Clocked call.start call.timeout :=
      ⟨le_rfl, le_rfl, le_rfl, le_rfl, Nat.le_add_right ..⟩
    exact ⟨_, _, .turn (t := t) 0 hcall hd rfl hclock ⟨htime, htime⟩ fun _ => Iff.rfl⟩
  cases h with
  | idle hready => exact ⟨_, _, .query 0 hready.phase fun _ => Iff.rfl⟩
  | querying call R hphase _ _ _ _ hcall =>
    exact (hcall.exists_mem hsendable.query).elim hserve (hturn (hphase ▸ rfl) hcall.timeout)
  | refreshing call R hphase _ _ hcall _ hneeds =>
    exact (hcall.exists_mem (hsendable.refresh hneeds)).elim hserve
      (hturn (hphase ▸ rfl) hcall.timeout)
  | delivered h => exact absurd h hs

/-- **Every step brings the query closer to its end**: it keeps the query
underway, or ends it as it should, and less is left in any case. -/
theorem underway_step (hdeliverable : Deliverable w snapshot metadata)
    (hids : q.requestId ≠ q.refreshId) (htimeout : 0 < q.timeout) (hmin : UDP_MIN_PAYLOAD ≤ cap)
    (h : Underway rq cap metadata s) {a : UdpAct}
    (hs : (udpExchange w crc q (current snapshot)).step s a s') :
    Underway rq cap metadata s' ∧ s'.left < s.left := by
  cases hs with
  | query start hphase hcopies =>
    cases h with
    | idle hready hmetadata hcap =>
      refine ⟨hready.query hmetadata hcap htimeout hcopies, UdpState.left_lt_of_rank ?_⟩
      rw [UdpState.query, rq.send_query]
      dsimp only
      rw [UdpState.send_eq rq.sendAll_query, hphase]
      exact Nat.lt_succ_self 2
    | querying _ _ h | refreshing _ _ h | delivered h =>
      have hne := hphase.symm.trans h
      cases hne
  | serve now hd hout hcopies =>
    refine ⟨h.serve hids hmin hd hout hcopies, UdpState.left_lt_of_served rfl ?_⟩
    rw [List.length_erase_of_mem hd]
    exact Nat.sub_lt (List.length_pos_of_mem hd) Nat.one_pos
  | turn start hcall hd hreceived hclock htime hcopies =>
    exact h.turn hdeliverable htimeout hcall hd hreceived hclock htime hcopies

/-- **When a query over UDP delivers the entry.**  While an entry of the cache is current,
over a network that delivers every datagram that is sent in time, at least once and in any
order, every run of a query comes to the entry without the commands of the processes,
exactly if the server can send the replies. -/
theorem udp_query_delivers_iff (hdeliverable : Deliverable w snapshot s.metadata)
    (hids : q.requestId ≠ q.refreshId) (htimeout : 0 < q.timeout)
    (hmax : UDP_MIN_PAYLOAD ≤ q.maxPayload) (hs : s.Ready crc q) :
    (udpExchange w crc q (current snapshot)).Inevitable (UdpState.Delivered snapshot) s ↔
      s.CanAnswer w snapshot q := by
  obtain ⟨rq⟩ := hdeliverable.exists_requests crc hmax
  have hmin := hs.le_payloadCap
  have hunderway : Underway rq _ s.metadata s := .idle hs rfl rfl
  rw [← rq.sendable_iff s]
  constructor
  · intro hall
    obtain ⟨as, s', hrun, hdelivered⟩ := hall.exists_run
    have hend : Underway rq _ s.metadata s' := hrun.invariant
      (fun _ _ _ h hstep => (underway_step hdeliverable hids htimeout hmin h hstep).1) hunderway
    cases hend with
    | idle hready => cases hready.phase.symm.trans hdelivered
    | querying _ _ hphase | refreshing _ _ hphase => cases hphase.symm.trans hdelivered
    | delivered _ hsendable => exact hsendable
  · intro hsendable
    exact Lts.inevitable_of_variant UdpState.left (I := Underway rq _ s.metadata)
      (fun _ h hP => h.exists_step hsendable hP)
      (fun _ _ _ h _ hstep => underway_step hdeliverable hids htimeout hmin h hstep) hunderway

end Query

end Client
end Clustat
