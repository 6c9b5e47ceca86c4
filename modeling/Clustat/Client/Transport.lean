/-
# The client's side of the frames

`crates/client-backend/src/transport.rs`: how requests are framed and replies
taken apart, and `parse_handshake_reply` and `parse_query_reply`, which the TCP
and the UDP client (`tcp_client.rs`, `udp_client.rs`) have one copy of each.
-/

import Clustat.Server.Transport

namespace Clustat
namespace Client

/-- `TransportError` of the client; where the source keeps the text of an error,
this keeps the error. -/
inductive TransportError
  | frame (e : FrameDecodeError)
  | unexpectedFrameType (expected got : FrameType)
  | json (message : String)
  | payload (e : PayloadDecodeError)
  | payloadTooLarge (len : ℕ)
  | queryError (code : Option ErrorCode)
  deriving DecidableEq, Repr

/-- `encode_bytes_frame`. -/
def encodeBytesFrame (frameType : FrameType) (requestId : UInt64) (payload : Bytes) :
    Except TransportError Bytes :=
  if 2 ^ 32 ≤ payload.length then .error (.payloadTooLarge payload.length)
  else .ok (encodeFrame (FrameHeader.new frameType requestId (UInt32.ofNat payload.length)) payload)

/-- `encode_json_frame`. -/
def encodeJsonFrame {α : Type} (c : Codec α) (frameType : FrameType) (requestId : UInt64)
    (value : α) : Except TransportError Bytes :=
  match c.toBytes value with
  | .error message => .error (.json message)
  | .ok payload => encodeBytesFrame frameType requestId payload

/-- `build_handshake_request_frame`. -/
def buildHandshakeRequestFrame (w : Wire) (requestId : UInt64) : Except TransportError Bytes :=
  encodeJsonFrame w.handshakeRequest .handshakeRequest requestId .current

/-- `build_query_request_frame`. -/
def buildQueryRequestFrame (w : Wire) (requestId : UInt64) : Except TransportError Bytes :=
  encodeJsonFrame w.queryRequest .queryRequest requestId
    { version := PROTOCOL_VERSION, requestId }

/-- `split_frame`. -/
def splitFrame (frame : Bytes) (expected : FrameType) :
    Except TransportError (FrameHeader × Bytes) :=
  match decodeFrame frame with
  | .error e => .error (.frame e)
  | .ok (header, payload) =>
    if header.frameType ≠ expected then .error (.unexpectedFrameType expected header.frameType)
    else .ok (header, payload)

/-- The two payload parsers: an archive in a frame of its own type. -/
def parsePayloadFrame {α : Type} (decode : Bytes → Except PayloadDecodeError α)
    (expected : FrameType) (frame : Bytes) : Except TransportError α :=
  match splitFrame frame expected with
  | .error e => .error e
  | .ok (_, payload) =>
    match decode payload with
    | .error e => .error (.payload e)
    | .ok value => .ok value

/-- `parse_metadata_payload_frame`. -/
def parseMetadataPayloadFrame (w : Wire) (frame : Bytes) : Except TransportError HostMetadata :=
  parsePayloadFrame (decodeMetadataPayload w) .metadataPayload frame

/-- `parse_runtime_payload_frame`. -/
def parseRuntimePayloadFrame (w : Wire) (frame : Bytes) : Except TransportError RuntimeSnapshot :=
  parsePayloadFrame (decodeRuntimePayload w) .runtimePayload frame

/-- `parse_query_response_error_frame`. -/
def parseQueryResponseErrorFrame (w : Wire) (frame : Bytes) :
    Except TransportError (Option ErrorCode) :=
  match splitFrame frame .queryResponse with
  | .error e => .error e
  | .ok (_, payload) =>
    match w.queryResponse.fromBytes payload with
    | .error message => .error (.json message)
    | .ok resp =>
      if resp.version ≠ PROTOCOL_VERSION then .error (.queryError (some .protocolVersionMismatch))
      else
        match resp.status with
        | .ok => .ok none
        | .error => .ok resp.error

/-- What a server told the client instead of an answer. -/
inductive ServerMessage
  | code (code : ErrorCode)
  | emptyQueryResponse (insteadOf : FrameType)
  | peerDisconnected (reason : Bytes)
  deriving DecidableEq, Repr

/-- `TcpClientError` and `UdpClientError`. -/
inductive ClientError
  | io
  | server (message : ServerMessage)
  | decode
  | transport (e : TransportError)
  deriving DecidableEq, Repr

/-- What both reply parsers do with a `QueryResponse`. -/
def queryResponseError (w : Wire) (insteadOf : FrameType) (frame : Bytes) : ClientError :=
  match parseQueryResponseErrorFrame w frame with
  | .error e => .transport e
  | .ok (some code) => .server (.code code)
  | .ok none => .server (.emptyQueryResponse insteadOf)

/-- `parse_handshake_reply`. -/
def parseHandshakeReply (w : Wire) (frame : Bytes) : Except ClientError HostMetadata :=
  match parseMetadataPayloadFrame w frame with
  | .ok metadata => .ok metadata
  | .error (.unexpectedFrameType .metadataPayload .queryResponse) =>
    .error (queryResponseError w .metadataPayload frame)
  | .error e => .error (.transport e)

/-- `parse_disconnect_reason_frame`, before the text is cleaned up. -/
def parseDisconnectReasonFrame (frame : Bytes) : Except TransportError Bytes :=
  match splitFrame frame .disconnect with
  | .error e => .error e
  | .ok (_, payload) => .ok payload

/-- `parse_query_reply`. -/
def parseQueryReply (w : Wire) (frame : Bytes) (metadata : HostMetadata) :
    Except ClientError ServerGresSnapshot :=
  match parseRuntimePayloadFrame w frame with
  | .ok runtime => .ok (runtime.toSnapshot metadata)
  | .error (.unexpectedFrameType .runtimePayload .queryResponse) =>
    .error (queryResponseError w .runtimePayload frame)
  | .error (.unexpectedFrameType .runtimePayload .disconnect) =>
    match parseDisconnectReasonFrame frame with
    | .ok reason => .error (.server (.peerDisconnected reason))
    | .error _ => .error (.server (.peerDisconnected []))
  | .error e => .error (.transport e)

/-! ### What a reply of the server is parsed to -/

section Parse

variable {α : Type} {c : Codec α} {decode : Bytes → Except PayloadDecodeError α}
  {t expected : FrameType} {requestId : UInt64} {payload : Bytes}

/-- A reply of the expected type parses to the value it was made of. -/
theorem parsePayloadFrame_of_encode (hc : c.Lawful) {value : α}
    (he : encodeRkyvPayload c value = .ok payload) :
    parsePayloadFrame (decodeRkyvPayload c) t (Server.encodeTransportFrame t requestId payload) =
      .ok value := by
  have hlen := (encodeRkyvPayload_eq_ok_iff.1 he).2
  have hd : decodeFrame (Server.encodeTransportFrame t requestId payload) =
      .ok (FrameHeader.new t requestId (UInt32.ofNat payload.length), payload) :=
    decodeFrame_encodeFrame (h := FrameHeader.new t requestId (UInt32.ofNat payload.length)) rfl
      (lt_of_le_of_lt hlen (by decide))
  rw [parsePayloadFrame, splitFrame, hd]
  simp only [FrameHeader.new, ne_eq, not_true_eq_false, if_false, decodeRkyvPayload_encode hc he]

/-- A reply of another type does not parse. -/
theorem parsePayloadFrame_of_ne (ht : t ≠ expected) {value : α} :
    parsePayloadFrame decode expected (Server.encodeTransportFrame t requestId payload) ≠
      .ok value := by
  intro h
  unfold parsePayloadFrame splitFrame at h
  cases hd : decodeFrame (Server.encodeTransportFrame t requestId payload) with
  | error e => rw [hd] at h; cases h
  | ok hp =>
    obtain ⟨header, p⟩ := hp
    -- whatever the payload is, the frame starts with the header it was given
    have hheader : header.frameType = t := by
      have henc := (decodeFrame_eq_ok_iff.1 hd).2.2
      have hdec := FrameHeader.decode_encode_append (h := { FrameHeader.new t requestId
        (UInt32.ofNat payload.length) with payloadLen := UInt32.ofNat payload.length }) rfl payload
      have hdec' := FrameHeader.decode_encode_append (decodeFrame_eq_ok_iff.1 hd).1 p
      rw [Server.encodeTransportFrame, encodeFrame] at henc
      rw [← henc, hdec] at hdec'
      exact congrArg FrameHeader.frameType (Except.ok.inj hdec').symm
    simp only [hd, hheader, ne_eq, ht, not_false_eq_true, if_true] at h
    cases h

end Parse

/-- Only a runtime snapshot makes a query succeed. -/
theorem parseQueryReply_eq_error {w : Wire} {frame : Bytes} {e : TransportError}
    (he : parseRuntimePayloadFrame w frame = .error e) (metadata : HostMetadata) :
    ∃ e', parseQueryReply w frame metadata = .error e' := by
  unfold parseQueryReply
  rw [he]
  split
  · rename_i h
    cases h
  · exact ⟨_, rfl⟩
  · split <;> exact ⟨_, rfl⟩
  · exact ⟨_, rfl⟩

/-- A short value is written. -/
theorem encodeJsonFrame_of_toBytes {α : Type} {c : Codec α} {value : α} {payload : Bytes}
    (hb : c.toBytes value = .ok payload) (hlen : payload.length < 2 ^ 32) (t : FrameType)
    (requestId : UInt64) : encodeJsonFrame c t requestId value =
      .ok (encodeFrame (.new t requestId (UInt32.ofNat payload.length)) payload) := by
  unfold encodeJsonFrame
  rw [hb]
  exact if_neg (Nat.not_le.2 hlen)

/-- What the client writes is a frame. -/
theorem decodeFrame_of_encodeJsonFrame {α : Type} {c : Codec α} {t : FrameType}
    {requestId : UInt64} {value : α} {frame : Bytes}
    (h : encodeJsonFrame c t requestId value = .ok frame) :
    ∃ header payload, c.toBytes value = .ok payload ∧
      decodeFrame frame = .ok (header, payload) ∧ header.frameType = t ∧
        header.requestId = requestId := by
  unfold encodeJsonFrame at h
  cases hb : c.toBytes value with
  | error message =>
    rw [hb] at h
    cases h
  | ok payload =>
    simp only [hb, encodeBytesFrame] at h
    split_ifs at h with hlen
    obtain rfl := Except.ok.inj h
    exact ⟨_, payload, rfl, decodeFrame_encodeFrame (h := FrameHeader.new t requestId _) rfl
      (Nat.lt_of_not_le hlen), rfl, rfl⟩

end Client
end Clustat
