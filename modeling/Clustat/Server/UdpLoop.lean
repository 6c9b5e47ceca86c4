/-
# The UDP server loop

`server_loop` of `crates/server/src/udp_transport.rs`.  One turn of the loop
takes a datagram, puts it to the others of its peer until a frame is complete,
and answers the frame: a handshake or an empty query by the handler that builds
the datagram at once, everything else, and what does not fit in one datagram,
by `handle_frame` and one of the two encoders.

Whichever of these ways a reply takes, it is the reply of `handle_frame`
(`answer_eq`), and the peer can put it together again from its datagrams in
any order, if UDP can carry them (`serverLoopStep_answers_iff`): over IPv4 the
capacity may be up to 61 bytes too large for that, and then nothing is sent of
a reply that fills it.  `handleQueryStream` is what the TCP server writes for
the same frame (`crates/server/src/main.rs`).

All handlers of a turn are given the same answer of the cache, `latest`.
-/

import Clustat.Server.Transport
import Clustat.Udp.Delivery

namespace Clustat
namespace Server

open Udp

/-- The maps `server_loop` keeps, by peer. -/
structure LoopState (Addr : Type*) where
  reassemblers : Addr → Option UdpFrameReassembler
  payloadCaps : Addr → Option ℕ

section Loop

variable {Addr : Type*} [DecidableEq Addr] (w : Wire) (crc : Crc32) (latest : Latest)

/-- The receiving half of a turn at instant `now`: the frame a datagram
completes, if any. -/
def receiveFrame (idleTimeout now : ℕ) (st : LoopState Addr) (peer : Addr) (datagram : Bytes) :
    LoopState Addr × Option Bytes :=
  match decodeUdpSingleChunkRef crc datagram with
  | .error _ => (st, none)
  | .ok (some frame) => (st, some frame)
  | .ok none =>
    let current := (st.reassemblers peer).getD (.new now idleTimeout)
    let current := if current.isExpired now then .new now idleTimeout else current
    let out := current.insert crc datagram
    let frame := match out.2 with
      | .ok frame => frame
      | .error _ => none
    ({ st with reassemblers := Function.update st.reassemblers peer (some out.1) }, frame)

/-- The datagrams that the encoders make of a reply frame. -/
def responseDatagrams (maxPayload : ℕ) (response : Bytes) : List Bytes :=
  if response.length ≤ maxPayload then
    match encodeUdpSingleChunk crc response with
    | .error _ => []
    | .ok chunk => [chunk]
  else
    match encodeUdpChunks crc response maxPayload with
    | .error _ => []
    | .ok chunks => chunks

/-- The end of a turn: the datagrams of a reply frame, up to one that cannot be sent. -/
def sendResponse (ipv4 : Bool) (maxPayload : ℕ) (response : Except TransportError Bytes) :
    List Bytes :=
  match response with
  | .error _ => []
  | .ok response => sendAll ipv4 (responseDatagrams crc maxPayload response)

/-- What a fast path sends, when `fallThrough` is the rest of the turn.  If its datagram
cannot be sent, the turn is over nevertheless. -/
def sendFast (ipv4 : Bool) (fallThrough : List Bytes)
    (reply : Except TransportError (Option Bytes)) : List Bytes :=
  match reply with
  | .ok (some datagram) => sendAll ipv4 [datagram]
  | .ok none => fallThrough
  | .error _ => []

/-- The datagrams sent for a frame that is not a `Disconnect`. -/
def answer (ipv4 : Bool) (maxPayload : ℕ) (frame : Bytes) : List Bytes :=
  let rest := sendResponse crc ipv4 maxPayload (handleFrame w latest frame)
  match decodeTransportFrame frame with
  | .error _ => rest
  | .ok (header, payload) =>
    if header.frameType = .handshakeRequest then
      sendFast ipv4 rest
        (handleUdpMetadataDatagram w crc latest header.requestId payload maxPayload)
    else if header.frameType = .queryRequest ∧ payload = [] then
      sendFast ipv4 rest (handleEmptyQueryUdpDatagram w crc latest header.requestId maxPayload)
    else rest

/-- Whether the frame is a `Disconnect`. -/
def isDisconnect (frame : Bytes) : Bool :=
  match decodeTransportFrame frame with
  | .error _ => false
  | .ok (header, _) => header.frameType == .disconnect

/-- The payload capacity for a peer, remembered from its first use; `capacity`
is what `effective_udp_payload_capacity` says now. -/
def payloadCap (st : LoopState Addr) (peer : Addr) (capacity : ℕ) : ℕ :=
  (st.payloadCaps peer).getD capacity

/-- Whether a turn asks for the capacity: on a fast path, or for a reply. -/
def asksCapacity (frame : Bytes) : Bool :=
  match decodeTransportFrame frame, handleFrame w latest frame with
  | .ok (header, payload), .error _ =>
    header.frameType == .handshakeRequest || header.frameType == .queryRequest && payload == []
  | .error _, .error _ => false
  | _, .ok _ => true

/-- One turn of `server_loop`: the new state and the datagrams sent to the peer, whose
address is one of IPv4 or of IPv6. -/
def serverLoopStep (ipv4 : Bool) (idleTimeout now capacity : ℕ) (st : LoopState Addr)
    (peer : Addr) (datagram : Bytes) : LoopState Addr × List Bytes :=
  match receiveFrame crc idleTimeout now st peer datagram with
  | (st, none) => (st, [])
  | (st, some frame) =>
    if isDisconnect frame then
      ({ st with reassemblers := Function.update st.reassemblers peer none }, [])
    else
      let cap := payloadCap st peer capacity
      let caps := if asksCapacity w latest frame then
        Function.update st.payloadCaps peer (some cap) else st.payloadCaps
      ({ st with payloadCaps := caps }, answer w crc latest ipv4 cap frame)

/-- What `handle_query_stream` writes for a frame it has read. -/
def handleQueryStream (frame : Bytes) : Bytes :=
  if isDisconnect frame then []
  else
    match handleFrame w latest frame with
    | .error _ => []
    | .ok response => response

end Loop

/-! ### All ways lead to the reply of `handle_frame` -/

section Answer

variable {w : Wire} {crc : Crc32} {latest : Latest}

/-- An encoded frame decodes to what it was encoded from, if its payload is
not too long. -/
theorem decodeFrame_encodeTransportFrame {t : FrameType} {requestId : UInt64} {payload : Bytes}
    (hlen : payload.length ≤ MAX_PAYLOAD_LEN) :
    decodeFrame (encodeTransportFrame t requestId payload) =
      .ok (FrameHeader.new t requestId (UInt32.ofNat payload.length), payload) := by
  have h32 : payload.length < 2 ^ 32 := lt_of_le_of_lt hlen (by decide)
  exact decodeFrame_encodeFrame (h := FrameHeader.new t requestId
    (UInt32.ofNat payload.length)) rfl h32

/-- **A fast path sends what the slow path would**: the same datagram where
the reply fits one, and the slow path itself where it does not. -/
theorem sendFast_eq {ipv4 : Bool} {maxPayload : ℕ} {requestId : UInt64}
    {parts : Except TransportError (FrameType × Bytes)}
    (hlen : ∀ t payload, parts = .ok (t, payload) → payload.length ≤ MAX_PAYLOAD_LEN) :
    sendFast ipv4 (sendResponse crc ipv4 maxPayload (replyFrame requestId parts))
        (replyDatagram crc requestId maxPayload parts) =
      sendResponse crc ipv4 maxPayload (replyFrame requestId parts) := by
  cases parts with
  | error e => rfl
  | ok tp =>
    obtain ⟨t, payload⟩ := tp
    simp only [replyDatagram, replyFrame]
    split_ifs with hbig
    · rfl
    · have hfit : FRAME_HEADER_LEN + payload.length ≤ maxPayload := Nat.not_lt.1 hbig
      have hsize : (encodeTransportFrame t requestId payload).length ≤ maxPayload := by
        rw [encodeTransportFrame, length_encodeFrame]
        exact hfit
      have hmade : responseDatagrams crc maxPayload (encodeTransportFrame t requestId payload) =
          match encodeUdpSingleChunk crc (encodeTransportFrame t requestId payload) with
          | .error _ => []
          | .ok chunk => [chunk] := if_pos hsize
      rcases Nat.lt_or_ge U16_MAX (FRAME_HEADER_LEN + payload.length) with hlong | hshort
      · -- both encoders refuse the frame
        have hlong' : U16_MAX < (encodeTransportFrame t requestId payload).length := by
          rwa [encodeTransportFrame, length_encodeFrame]
        obtain ⟨e, he⟩ : ∃ e, encodeUdpSingleChunkFromParts crc t requestId payload = .error e :=
          encodeUdpSingleChunkFromParts_of_long hlong t requestId
        simp only [sendResponse, hmade, he, encodeUdpSingleChunk_of_long hlong', sendFast]
        rfl
      · have hframe : encodeFrame (FrameHeader.new t requestId 0) payload =
            encodeTransportFrame t requestId payload := rfl
        have hd : decodeFrame (encodeTransportFrame t requestId payload) = .ok (_, payload) :=
          decodeFrame_encodeTransportFrame (hlen t payload rfl)
        have hsize' : (encodeTransportFrame t requestId payload).length ≤ U16_MAX := by
          rw [encodeTransportFrame, length_encodeFrame]
          exact hshort
        have henc : encodeUdpSingleChunk crc (encodeTransportFrame t requestId payload) = _ :=
          encodeUdpSingleChunk_of_decodeFrame hd hsize'
        rw [encodeUdpSingleChunkFromParts_eq hshort, hframe, henc]
        simp only [sendFast, sendResponse, hmade, henc]

/-- The answer to a request is the reply of `handle_frame`, when no reply is too long for
a payload. -/
theorem answer_eq_of_length {ipv4 : Bool} {maxPayload : ℕ} (frame : Bytes)
    (hmetadata : ∀ requestId t payload, metadataParts w latest requestId = .ok (t, payload) →
      payload.length ≤ MAX_PAYLOAD_LEN)
    (hruntime : ∀ requestId t payload, runtimeParts w latest requestId = .ok (t, payload) →
      payload.length ≤ MAX_PAYLOAD_LEN) :
    answer w crc latest ipv4 maxPayload frame =
      sendResponse crc ipv4 maxPayload (handleFrame w latest frame) := by
  unfold answer
  cases hd : decodeTransportFrame frame with
  | error e => rfl
  | ok hp =>
    obtain ⟨header, payload⟩ := hp
    dsimp only
    split_ifs with hhand hquery
    · have hframe : handleFrame w latest frame =
          handleHandshake w latest header.requestId payload := by
        simp only [handleFrame, hd, handleDecodedFrame, hhand]
      rw [hframe, handleHandshake, handleUdpMetadataDatagram]
      cases parseHandshake w payload with
      | error e => rfl
      | ok u => exact sendFast_eq (hmetadata _)
    · have hframe : handleFrame w latest frame =
          replyFrame header.requestId (runtimeParts w latest header.requestId) := by
        simp only [handleFrame, hd, handleDecodedFrame, hquery.1, handleQuery, if_pos hquery.2]
      rw [hframe, handleEmptyQueryUdpDatagram]
      exact sendFast_eq (hruntime _)
    · rfl

/-- **The answer to a request** is the reply of `handle_frame`, sent by the
slow path, whichever path it has taken. -/
theorem answer_eq (hw : w.ShortResponses) {ipv4 : Bool} {maxPayload : ℕ} (frame : Bytes) :
    answer w crc latest ipv4 maxPayload frame =
      sendResponse crc ipv4 maxPayload (handleFrame w latest frame) :=
  answer_eq_of_length frame (fun _ _ _ => length_of_metadataParts hw)
    fun _ _ _ => length_of_runtimeParts hw

/-- So is the answer made of an entry of the cache. -/
theorem answer_eq_of_entry {entry : ServerGresSnapshot} {ipv4 : Bool} {maxPayload : ℕ}
    (frame : Bytes) :
    answer w crc (.ok entry) ipv4 maxPayload frame =
      sendResponse crc ipv4 maxPayload (handleFrame w (.ok entry) frame) :=
  answer_eq_of_length frame (fun _ _ _ => length_of_entryParts)
    fun _ _ _ => length_of_entryParts

/-- A reply of `handle_frame` is a frame with a short payload. -/
theorem exists_of_handleFrame (hw : w.ShortResponses) {frame reply : Bytes}
    (h : handleFrame w latest frame = .ok reply) :
    ∃ t requestId payload, reply = encodeTransportFrame t requestId payload ∧
      payload.length ≤ MAX_PAYLOAD_LEN := by
  have hreply : ∀ {requestId parts},
      (∀ t payload, parts = .ok (t, payload) → payload.length ≤ MAX_PAYLOAD_LEN) →
      replyFrame requestId parts = .ok reply → ∃ t requestId payload,
        reply = encodeTransportFrame t requestId payload ∧ payload.length ≤ MAX_PAYLOAD_LEN := by
    intro requestId parts hlen hr
    cases parts with
    | error e => cases hr
    | ok tp => exact ⟨_, _, _, (Except.ok.inj hr).symm, hlen _ _ rfl⟩
  obtain ⟨requestId, hr | hr⟩ := handleFrame_cases h
  · exact hreply (fun _ _ hp => length_of_metadataParts hw hp) hr
  · exact hreply (fun _ _ hp => length_of_runtimeParts hw hp) hr

/-- UDP can carry the datagrams of a frame that are made with this capacity. -/
def Sendable (ipv4 : Bool) (maxPayload : ℕ) (frame : Bytes) : Prop :=
  UDP_CHUNK_HEADER_LEN + min maxPayload frame.length ≤ maxUdpPayload ipv4

instance (ipv4 : Bool) (maxPayload : ℕ) (frame : Bytes) :
    Decidable (Sendable ipv4 maxPayload frame) :=
  inferInstanceAs (Decidable (_ ≤ _))

/-- **The datagrams of a reply** are those `encode_udp_chunks` makes of it,
whichever encoder is used, and UDP carries each of them. -/
theorem exists_sent {ipv4 : Bool} {maxPayload : ℕ} (hmin : UDP_MIN_PAYLOAD ≤ maxPayload)
    {t : FrameType} {requestId : UInt64} {payload : Bytes}
    (hlen : payload.length ≤ MAX_PAYLOAD_LEN)
    (hsend : Sendable ipv4 maxPayload (encodeTransportFrame t requestId payload)) :
    ∃ s : Sent crc, s.frame = encodeTransportFrame t requestId payload ∧
      sendResponse crc ipv4 maxPayload (.ok (encodeTransportFrame t requestId payload)) =
        s.datagrams := by
  have hd : decodeFrame (encodeTransportFrame t requestId payload) = .ok (_, payload) :=
    decodeFrame_encodeTransportFrame hlen
  have hsize : (encodeTransportFrame t requestId payload).length =
      FRAME_HEADER_LEN + payload.length := by rw [encodeTransportFrame, length_encodeFrame]
  have hmax : maxUdpPayload ipv4 ≤ UDP_CHUNK_HEADER_LEN + U16_MAX := by
    cases ipv4 <;> decide
  unfold Sendable at hsend
  unfold sendResponse responseDatagrams
  dsimp only
  split_ifs with hfit
  · rw [Nat.min_eq_right hfit] at hsend
    have h16 : (encodeTransportFrame t requestId payload).length ≤ U16_MAX := by omega
    refine ⟨.single crc hd udpMinPayload_le le_rfl h16, rfl, ?_⟩
    rw [encodeUdpSingleChunk_of_decodeFrame hd h16]
    refine sendAll_of_forall fun d hmem => ?_
    rwa [List.mem_singleton.1 hmem, List.length_append, UdpChunkHeader.length_encode]
  · rw [Nat.min_eq_left (Nat.le_of_not_le hfit)] at hsend
    have hpos : 0 < maxPayload := lt_of_lt_of_le (by decide) hmin
    have h32 : (encodeTransportFrame t requestId payload).length < 2 ^ 32 := by
      rw [hsize, FRAME_HEADER_LEN]
      rw [MAX_PAYLOAD_LEN] at hlen
      omega
    have hcount : Chunks.divCeil (encodeTransportFrame t requestId payload).length maxPayload ≤
        U16_MAX := by
      rw [hsize, Chunks.divCeil, FRAME_HEADER_LEN, U16_MAX]
      rw [MAX_PAYLOAD_LEN] at hlen
      rw [UDP_MIN_PAYLOAD] at hmin
      exact Nat.div_le_of_le_mul (by omega)
    let s : Sent crc := .ofFrame crc hd hmin (by omega) h32 hcount
    have henc : encodeUdpChunks crc (encodeTransportFrame t requestId payload) maxPayload =
        .ok s.datagrams := s.encoded
    refine ⟨s, rfl, ?_⟩
    rw [henc]
    exact sendAll_of_forall fun d hmem => (length_le_of_mem_chunkDatagrams hmem).trans hsend

/-- **A reply that UDP cannot carry**: its first datagram cannot be sent, and the others
are not tried. -/
theorem sendResponse_of_not_sendable {ipv4 : Bool} {maxPayload : ℕ}
    (hmin : UDP_MIN_PAYLOAD ≤ maxPayload) {t : FrameType} {requestId : UInt64} {payload : Bytes}
    (hlen : payload.length ≤ MAX_PAYLOAD_LEN)
    (hsend : ¬Sendable ipv4 maxPayload (encodeTransportFrame t requestId payload)) :
    sendResponse crc ipv4 maxPayload (.ok (encodeTransportFrame t requestId payload)) = [] := by
  have hd : decodeFrame (encodeTransportFrame t requestId payload) = .ok (_, payload) :=
    decodeFrame_encodeTransportFrame hlen
  rw [Sendable, Nat.not_le] at hsend
  unfold sendResponse responseDatagrams
  dsimp only
  split_ifs with hfit
  · rw [Nat.min_eq_right hfit] at hsend
    cases henc : encodeUdpSingleChunk crc (encodeTransportFrame t requestId payload) with
    | error e => rfl
    | ok d =>
      refine sendAll_cons_of_lt ?_
      rcases Nat.lt_or_ge U16_MAX (encodeTransportFrame t requestId payload).length with h16 | h16
      · rw [encodeUdpSingleChunk_of_long h16] at henc
        cases henc
      · rw [encodeUdpSingleChunk_of_decodeFrame hd h16] at henc
        rwa [← Except.ok.inj henc, List.length_append, UdpChunkHeader.length_encode]
  · rw [Nat.min_eq_left (Nat.le_of_not_le hfit)] at hsend
    cases henc : encodeUdpChunks crc (encodeTransportFrame t requestId payload) maxPayload with
    | error e => rfl
    | ok ds =>
      obtain ⟨-, -, -, h, p, -, rfl⟩ := encodeUdpChunks_eq_ok_iff.1 henc
      have hpos : 0 < maxPayload := lt_of_lt_of_le (by decide) hmin
      obtain ⟨d, ds, hcons, hlength⟩ := @exists_cons_chunkDatagrams crc h _ _
        (encodeTransportFrame t requestId payload).length hpos (Nat.not_le.1 hfit)
      dsimp only
      rw [hcons]
      exact sendAll_cons_of_lt (hlength ▸ hsend)

/-- What a peer that is answered by these datagrams relies on: they are put together by a
fresh receiver, in any order, to the reply of the handler; and there are none exactly if
the handler fails. -/
def AnswersAs (crc : Crc32) (sent : List Bytes) (handled : Except TransportError Bytes) : Prop :=
  (∀ reply, handled = .ok reply →
    ∀ (t timeout : ℕ) (order : List (Fin sent.length)), order.Perm (List.finRange _) →
      (UdpFrameReassembler.new t timeout).answers crc (order.map sent.get) =
        List.replicate (order.length - 1) (.ok none) ++ [.ok (some reply)]) ∧
  (sent = [] ↔ ∃ e, handled = .error e)

/-- **When the datagrams of a reply answer as the handler**: if there is no reply, or UDP can
carry its datagrams. -/
theorem sendResponse_answers_iff (hw : w.ShortResponses) {ipv4 : Bool} {maxPayload : ℕ}
    (hmin : UDP_MIN_PAYLOAD ≤ maxPayload) (frame : Bytes) :
    AnswersAs crc (sendResponse crc ipv4 maxPayload (handleFrame w latest frame))
        (handleFrame w latest frame) ↔
      ∀ reply, handleFrame w latest frame = .ok reply → Sendable ipv4 maxPayload reply := by
  cases hf : handleFrame w latest frame with
  | error e => exact iff_of_true ⟨nofun, fun _ => ⟨e, rfl⟩, fun _ => rfl⟩ nofun
  | ok reply =>
    obtain ⟨t, requestId, p, rfl, hlen⟩ := exists_of_handleFrame hw hf
    by_cases hsend : Sendable ipv4 maxPayload (encodeTransportFrame t requestId p)
    · refine iff_of_true ?_ fun reply hr => Except.ok.inj hr ▸ hsend
      obtain ⟨s, hframe, hdatagrams⟩ := @exists_sent crc _ _ hmin t requestId p hlen hsend
      rw [hdatagrams]
      refine ⟨fun reply hr now timeout order hperm => ?_, fun hnil => ?_, nofun⟩
      · rw [← Except.ok.inj hr, ← hframe]
        exact s.answers_of_perm now timeout hperm
      · have hpos := s.total_pos
        rw [← s.length_datagrams, hnil] at hpos
        exact absurd hpos (lt_irrefl 0)
    · refine iff_of_false (fun h => ?_) fun h => hsend (h _ rfl)
      obtain ⟨e, he⟩ := h.2.1 (sendResponse_of_not_sendable hmin hlen hsend)
      cases he

/-- What is a frame is one for the transport too. -/
theorem decodeTransportFrame_of_decodeFrame {frame : Bytes} {hp : FrameHeader × Bytes}
    (hd : decodeFrame frame = .ok hp) : decodeTransportFrame frame = .ok hp := by
  rw [decodeTransportFrame, hd]

end Answer

/-- What a turn sends for a handshake or a query is what its reply comes to. -/
theorem serverLoopStep_sent {Addr : Type*} [DecidableEq Addr] {w : Wire} (hw : w.ShortResponses)
    {crc : Crc32} {latest : Latest} {ipv4 : Bool} {idleTimeout now capacity : ℕ}
    {st : LoopState Addr} {peer : Addr} {datagram frame : Bytes}
    (hrecv : (receiveFrame crc idleTimeout now st peer datagram).2 = some frame)
    (hdisc : isDisconnect frame = false) :
    (serverLoopStep w crc latest ipv4 idleTimeout now capacity st peer datagram).2 =
      sendResponse crc ipv4 (payloadCap st peer capacity) (handleFrame w latest frame) := by
  have hcap : payloadCap (receiveFrame crc idleTimeout now st peer datagram).1 peer capacity =
      payloadCap st peer capacity := by
    unfold receiveFrame
    split <;> rfl
  unfold serverLoopStep
  cases hr : receiveFrame crc idleTimeout now st peer datagram with
  | mk st' frame? =>
    rw [hr] at hrecv hcap
    obtain rfl : frame? = some frame := hrecv
    simp only [hdisc, Bool.false_eq_true, if_false, hcap]
    exact answer_eq hw frame

/-- **When the UDP server answers as the generic handler.**  When a turn of the loop has
received a handshake or a query, the TCP server writes the reply of `handle_frame`, the
datagrams that the turn sends are put together by a fresh receiver, in whatever order they
arrive, to exactly that reply, and there are none exactly when `handle_frame` fails: all
this if and only if there is no reply, or UDP can carry a datagram of the capacity or the
whole reply, with its header. -/
theorem serverLoopStep_answers_iff {Addr : Type*} [DecidableEq Addr] {w : Wire}
    (hw : w.ShortResponses) (crc : Crc32) (latest : Latest) (ipv4 : Bool)
    (idleTimeout now capacity : ℕ) (st : LoopState Addr) (peer : Addr) (datagram : Bytes)
    {frame : Bytes} {header : FrameHeader} {payload : Bytes}
    (hrecv : (receiveFrame crc idleTimeout now st peer datagram).2 = some frame)
    (hd : decodeFrame frame = .ok (header, payload))
    (ht : header.frameType = .handshakeRequest ∨ header.frameType = .queryRequest)
    (hmin : UDP_MIN_PAYLOAD ≤ payloadCap st peer capacity) :
    let sent := (serverLoopStep w crc latest ipv4 idleTimeout now capacity st peer datagram).2
    ((∀ reply, handleFrame w latest frame = .ok reply →
        handleQueryStream w latest frame = reply) ∧
      AnswersAs crc sent (handleFrame w latest frame)) ↔
    ∀ reply, handleFrame w latest frame = .ok reply →
      UDP_CHUNK_HEADER_LEN + min (payloadCap st peer capacity) reply.length ≤
        maxUdpPayload ipv4 := by
  have hdisc : isDisconnect frame = false := by
    rw [isDisconnect, decodeTransportFrame_of_decodeFrame hd]
    dsimp only
    rcases ht with ht | ht <;> rw [ht] <;> rfl
  have hstream : ∀ reply, handleFrame w latest frame = .ok reply →
      handleQueryStream w latest frame = reply := by
    intro reply hf
    rw [handleQueryStream, hdisc, hf]
    rfl
  dsimp only
  rw [and_iff_right hstream, serverLoopStep_sent hw hrecv hdisc]
  exact sendResponse_answers_iff hw hmin frame

/-- The serialisers of a server whose runtime archives have this length; a query with a
payload is one with id 9. -/
def fixedWire (len : ℕ) : Wire where
  handshakeRequest := .table []
  queryRequest := .table [({ version := PROTOCOL_VERSION, requestId := 9 }, zeros)]
  queryResponse := .table []
  metadata := .table []
  runtime := .ofSize fun _ => len

/-- The responses of this wire are short: its only long payload is that of the
runtime. -/
theorem shortResponses_fixedWire (len : ℕ) : (fixedWire len).ShortResponses := by
  intro r b h
  have hmem : (r, b) ∈ ([] : List (QueryResponse × Bytes)) := Codec.mem_of_table h
  cases hmem

/-- What the server has collected. -/
def noGresSnapshot : ServerGresSnapshot where
  hostname := "node"
  driverVersion := none
  gres := []

/-- The reply to a query. -/
def fixedReply (requestId : UInt64) (len : ℕ) : Bytes :=
  encodeTransportFrame .runtimePayload requestId (List.replicate len 0)

/-- The query without a payload is answered with `len` bytes of runtime. -/
theorem handleFrame_fixedWire {len : ℕ} (hlen : len ≤ MAX_PAYLOAD_LEN) :
    handleFrame (fixedWire len) (.ok noGresSnapshot) (emptyQuery 7) =
      .ok (fixedReply 7 len) := by
  have hbytes : encodeRuntimePayload (fixedWire len) (RuntimeSnapshot.fromSnapshot noGresSnapshot) =
      .ok (List.replicate len 0) :=
    encodeRkyvPayload_eq_ok_iff.2 ⟨rfl, by rwa [List.length_replicate]⟩
  rw [handleFrame, decodeTransportFrame_of_decodeFrame (decodeFrame_emptyQuery 7)]
  simp only [handleDecodedFrame, FrameHeader.new, handleQuery, if_true, runtimeParts, replyParts,
    hbytes, replyFrame, fixedReply]

/-- The reply has its header and `len` bytes. -/
theorem length_fixedReply (requestId : UInt64) (len : ℕ) :
    (fixedReply requestId len).length = FRAME_HEADER_LEN + len := by
  rw [fixedReply, encodeTransportFrame, length_encodeFrame, List.length_replicate]

/-- The empty query 7, in a datagram. -/
def queryDatagram : Bytes :=
  (singleHeader .queryRequest 7 18 (Crc32.ieee.hash (emptyQuery 7))).encode ++ emptyQuery 7

/-- A server that has not been asked for anything. -/
def newLoop : LoopState Unit := ⟨fun _ => none, fun _ => none⟩

/-- The datagram of the query is taken for it at once. -/
theorem receiveFrame_queryDatagram :
    (receiveFrame Crc32.ieee 0 0 newLoop () queryDatagram).2 = some (emptyQuery 7) := by
  decide +kernel

/-- A reply of two datagrams, put together from the last to the first. -/
theorem serverLoopStep_answers_iff_reverse :
    let sent := (serverLoopStep (fixedWire 300) Crc32.ieee (.ok noGresSnapshot) true 0 0 256
      newLoop () queryDatagram).2
    (UdpFrameReassembler.new 0 0).answers Crc32.ieee sent.reverse =
      [.ok none, .ok (some (fixedReply 7 300))] := by
  intro sent
  have hreply := handleFrame_fixedWire (show 300 ≤ MAX_PAYLOAD_LEN by decide)
  have hanswers := (serverLoopStep_answers_iff (shortResponses_fixedWire 300) Crc32.ieee
    (.ok noGresSnapshot) true 0 0 256 newLoop () queryDatagram receiveFrame_queryDatagram
    (decodeFrame_emptyQuery 7) (.inr rfl) (by decide)).2 fun reply hr => by
      obtain rfl := Except.ok.inj (hreply.symm.trans hr)
      rw [length_fixedReply]
      decide
  have hsent : sent = sendResponse Crc32.ieee true 256 (.ok (fixedReply 7 300)) := by
    rw [← hreply]
    exact serverLoopStep_sent (shortResponses_fixedWire 300) receiveFrame_queryDatagram
      (by decide +kernel)
  have hlength : sent.length = 2 := by
    rw [hsent]
    decide +kernel
  have h := hanswers.2.1 _ hreply 0 0 (List.finRange _).reverse (List.reverse_perm _)
  rw [List.length_reverse, List.length_finRange, List.map_reverse, List.map_get_finRange] at h
  exact h.trans (by rw [hlength]; rfl)

/-- **A reply that is not sent**: with the capacity 65476, that of the loopback device, a
reply of 65476 bytes over IPv4. -/
theorem full_datagram_not_sent : ¬∀ (w : Wire) (latest : Latest) (ipv4 : Bool)
    (idleTimeout now capacity : ℕ) (st : LoopState Unit) (datagram frame : Bytes)
    (header : FrameHeader) (payload : Bytes), w.ShortResponses →
      (receiveFrame Crc32.ieee idleTimeout now st () datagram).2 = some frame →
      decodeFrame frame = .ok (header, payload) →
      (header.frameType = .handshakeRequest ∨ header.frameType = .queryRequest) →
      UDP_MIN_PAYLOAD ≤ payloadCap st () capacity → payloadCap st () capacity ≤ U16_MAX →
        AnswersAs Crc32.ieee
          (serverLoopStep w Crc32.ieee latest ipv4 idleTimeout now capacity st () datagram).2
          (handleFrame w latest frame) := by
  intro hall
  have hw := shortResponses_fixedWire 65458
  have hlen : 65458 ≤ MAX_PAYLOAD_LEN := by decide
  have hanswers := hall (fixedWire 65458) (.ok noGresSnapshot) true 0 0 65476 newLoop
    queryDatagram _ _ _ hw receiveFrame_queryDatagram (decodeFrame_emptyQuery 7) (.inr rfl)
    (by decide) (by decide)
  have hsendable : ¬Sendable true 65476 (fixedReply 7 65458) := by
    rw [Sendable, length_fixedReply]
    decide
  have hsent : (serverLoopStep (fixedWire 65458) Crc32.ieee (.ok noGresSnapshot) true 0 0 65476
      newLoop () queryDatagram).2 = [] := by
    rw [serverLoopStep_sent hw receiveFrame_queryDatagram (by decide +kernel),
      handleFrame_fixedWire hlen]
    exact sendResponse_of_not_sendable (by decide) (by rwa [List.length_replicate]) hsendable
  obtain ⟨e, he⟩ := hanswers.2.1 hsent
  cases (handleFrame_fixedWire hlen).symm.trans he

/-- The JSON of the empty query's error response, with request id 7. -/
def errorText : Bytes :=
  HostMetadata.asBytes
    "\x7b\"version\":1,\"request_id\":7,\"status\":\"Error\",\"error\":\"Internal\"\x7d"

/-- A server that has only ever failed to collect. -/
def failingWire : Wire where
  handshakeRequest := .table [(.current, HostMetadata.asBytes "\x7b\"version\":1\x7d")]
  queryRequest := .table []
  queryResponse := .table [(.ofError 7 .internal, errorText)]
  metadata := .table []
  runtime := .table []

/-- The responses of the failing wire are short. -/
theorem shortResponses_failingWire : failingWire.ShortResponses := by
  intro r b h
  obtain ⟨-, rfl⟩ := Prod.mk.inj (List.mem_singleton.1 (Codec.mem_of_table h))
  decide +kernel
end Server
end Clustat
