/-
# The request handlers of the server

`TransportContext` of `crates/server/src/transport.rs`.  A handler asks the
cache for the latest entry and answers with the metadata or the runtime half of
it, or with an error response.  There are two for each kind of request: one
that returns the reply frame, and one that builds the reply datagram at once
and gives up (`Ok(None)`) when the frame would not fit in it.

The handlers here take what `get_latest_or_refresh` returned as an argument:
`latest` is the snapshot of the entry, or the error code of the collector.
-/

import Clustat.Common.Payload
import Clustat.Udp.Encode

namespace Clustat
namespace Server

open Udp

/-- `TransportError` of the server; where the source keeps the text of an error,
this keeps the error. -/
inductive TransportError
  | frameDecode (e : FrameDecodeError)
  | unexpectedFrameType (frameType : FrameType)
  | protocol (code : ErrorCode)
  | json (message : String)
  | payload (e : PayloadEncodeError)
  | udp (e : UdpChunkError)
  deriving DecidableEq, Repr

/-- `decode_transport_frame`. -/
def decodeTransportFrame (frame : Bytes) : Except TransportError (FrameHeader × Bytes) :=
  match decodeFrame frame with
  | .error e => .error (.frameDecode e)
  | .ok decoded => .ok decoded

/-- `encode_transport_frame`. -/
def encodeTransportFrame (frameType : FrameType) (requestId : UInt64) (payload : Bytes) : Bytes :=
  encodeFrame (FrameHeader.new frameType requestId (UInt32.ofNat payload.length)) payload

/-- What the cache answers a handler. -/
abbrev Latest := Except ErrorCode ServerGresSnapshot

/-- What all handlers make of it: the type and the payload of the reply. -/
def replyParts (w : Wire) (latest : Latest) (frameType : FrameType)
    (encode : ServerGresSnapshot → Except PayloadEncodeError Bytes) (requestId : UInt64) :
    Except TransportError (FrameType × Bytes) :=
  match latest with
  | .ok snapshot =>
    match encode snapshot with
    | .error e => .error (.payload e)
    | .ok payload => .ok (frameType, payload)
  | .error code =>
    match w.queryResponse.toBytes (.ofError requestId code) with
    | .error message => .error (.json message)
    | .ok payload => .ok (.queryResponse, payload)

/-- The reply to a handshake. -/
def metadataParts (w : Wire) (latest : Latest) (requestId : UInt64) :
    Except TransportError (FrameType × Bytes) :=
  replyParts w latest .metadataPayload
    (fun snapshot => encodeMetadataPayload w (HostMetadata.fromSnapshot snapshot)) requestId

/-- The reply to a query. -/
def runtimeParts (w : Wire) (latest : Latest) (requestId : UInt64) :
    Except TransportError (FrameType × Bytes) :=
  replyParts w latest .runtimePayload
    (fun snapshot => encodeRuntimePayload w (RuntimeSnapshot.fromSnapshot snapshot)) requestId

/-- A reply as a frame. -/
def replyFrame (requestId : UInt64) (parts : Except TransportError (FrameType × Bytes)) :
    Except TransportError Bytes :=
  match parts with
  | .error e => .error e
  | .ok (frameType, payload) => .ok (encodeTransportFrame frameType requestId payload)

/-- A reply as a datagram, if its frame fits. -/
def replyDatagram (crc : Crc32) (requestId : UInt64) (maxPayload : ℕ)
    (parts : Except TransportError (FrameType × Bytes)) : Except TransportError (Option Bytes) :=
  match parts with
  | .error e => .error e
  | .ok (frameType, payload) =>
    if maxPayload < FRAME_HEADER_LEN + payload.length then .ok none
    else
      match encodeUdpSingleChunkFromParts crc frameType requestId payload with
      | .error e => .error (.udp e)
      | .ok datagram => .ok (some datagram)

/-- The first lines of both handshake handlers. -/
def parseHandshake (w : Wire) (payload : Bytes) : Except TransportError Unit :=
  match w.handshakeRequest.fromBytes payload with
  | .error message => .error (.json message)
  | .ok request =>
    match request.validate with
    | .error code => .error (.protocol code)
    | .ok () => .ok ()

/-- `TransportContext::handle_handshake`. -/
def handleHandshake (w : Wire) (latest : Latest) (requestId : UInt64) (payload : Bytes) :
    Except TransportError Bytes :=
  match parseHandshake w payload with
  | .error e => .error e
  | .ok () => replyFrame requestId (metadataParts w latest requestId)

/-- `TransportContext::handle_udp_metadata_datagram`. -/
def handleUdpMetadataDatagram (w : Wire) (crc : Crc32) (latest : Latest) (requestId : UInt64)
    (payload : Bytes) (maxPayload : ℕ) : Except TransportError (Option Bytes) :=
  match parseHandshake w payload with
  | .error e => .error e
  | .ok () => replyDatagram crc requestId maxPayload (metadataParts w latest requestId)

/-- `TransportContext::handle_query`: a query with a payload brings its own
request id. -/
def handleQuery (w : Wire) (latest : Latest) (requestId : UInt64) (payload : Bytes) :
    Except TransportError Bytes :=
  if payload = [] then replyFrame requestId (runtimeParts w latest requestId)
  else
    match w.queryRequest.fromBytes payload with
    | .error message => .error (.json message)
    | .ok request =>
      match validateProtocolVersion request.version with
      | .error code => .error (.protocol code)
      | .ok () => replyFrame request.requestId (runtimeParts w latest request.requestId)

/-- `TransportContext::handle_empty_query_udp_datagram`. -/
def handleEmptyQueryUdpDatagram (w : Wire) (crc : Crc32) (latest : Latest) (requestId : UInt64)
    (maxPayload : ℕ) : Except TransportError (Option Bytes) :=
  replyDatagram crc requestId maxPayload (runtimeParts w latest requestId)

/-- `TransportContext::handle_decoded_frame`. -/
def handleDecodedFrame (w : Wire) (latest : Latest) (header : FrameHeader) (payload : Bytes) :
    Except TransportError Bytes :=
  match header.frameType with
  | .handshakeRequest => handleHandshake w latest header.requestId payload
  | .queryRequest => handleQuery w latest header.requestId payload
  | frameType => .error (.unexpectedFrameType frameType)

/-- `TransportContext::handle_frame`. -/
def handleFrame (w : Wire) (latest : Latest) (frame : Bytes) : Except TransportError Bytes :=
  match decodeTransportFrame frame with
  | .error e => .error e
  | .ok (header, payload) => handleDecodedFrame w latest header payload

section Replies

variable {w : Wire} {latest : Latest} {requestId : UInt64} {t : FrameType} {payload : Bytes}

/-- An archive is short enough for a payload. -/
theorem length_of_entryParts {α : Type} {c : Codec α} {value : ServerGresSnapshot → α}
    {okType : FrameType} {entry : ServerGresSnapshot}
    (h : replyParts w (.ok entry) okType (fun s => encodeRkyvPayload c (value s)) requestId =
      .ok (t, payload)) : payload.length ≤ MAX_PAYLOAD_LEN := by
  unfold replyParts at h
  dsimp only at h
  cases he : encodeRkyvPayload c (value entry) with
  | error e =>
    rw [he] at h
    cases h
  | ok b =>
    rw [he] at h
    obtain ⟨-, rfl⟩ := Prod.mk.inj (Except.ok.inj h)
    exact (encodeRkyvPayload_eq_ok_iff.1 he).2

/-- A reply that is not an archive is an error response, so every reply is short
enough for a payload. -/
theorem length_of_replyParts (hw : w.ShortResponses) {α : Type} {c : Codec α}
    {value : ServerGresSnapshot → α} {okType : FrameType}
    (h : replyParts w latest okType (fun s => encodeRkyvPayload c (value s)) requestId =
      .ok (t, payload)) : payload.length ≤ MAX_PAYLOAD_LEN := by
  cases latest with
  | ok entry => exact length_of_entryParts h
  | error code =>
    unfold replyParts at h
    dsimp only at h
    cases he : w.queryResponse.toBytes (.ofError requestId code) with
    | error e =>
      rw [he] at h
      cases h
    | ok b =>
      rw [he] at h
      obtain ⟨-, rfl⟩ := Prod.mk.inj (Except.ok.inj h)
      exact (hw _ _ he).trans (by decide)

/-- The payload of a metadata reply fits a frame, if the responses of the wire
are short. -/
theorem length_of_metadataParts (hw : w.ShortResponses)
    (h : metadataParts w latest requestId = .ok (t, payload)) :
    payload.length ≤ MAX_PAYLOAD_LEN :=
  length_of_replyParts hw h

/-- The payload of a runtime reply fits a frame, if the responses of the wire
are short. -/
theorem length_of_runtimeParts (hw : w.ShortResponses)
    (h : runtimeParts w latest requestId = .ok (t, payload)) :
    payload.length ≤ MAX_PAYLOAD_LEN :=
  length_of_replyParts hw h

/-- A reply of `handle_frame` is that of one of the two handlers. -/
theorem handleFrame_cases {frame reply : Bytes} (h : handleFrame w latest frame = .ok reply) :
    ∃ requestId, replyFrame requestId (metadataParts w latest requestId) = .ok reply ∨
      replyFrame requestId (runtimeParts w latest requestId) = .ok reply := by
  unfold handleFrame at h
  cases hd : decodeTransportFrame frame with
  | error e => rw [hd] at h; cases h
  | ok hp =>
    obtain ⟨header, payload⟩ := hp
    simp only [hd, handleDecodedFrame] at h
    split at h
    · unfold handleHandshake at h
      cases hparse : parseHandshake w payload with
      | error e => rw [hparse] at h; cases h
      | ok u =>
        rw [hparse] at h
        exact ⟨_, .inl h⟩
    · unfold handleQuery at h
      split_ifs at h with hnil
      · exact ⟨_, .inr h⟩
      · cases hreq : w.queryRequest.fromBytes payload with
        | error e => simp only [hreq] at h; cases h
        | ok request =>
          simp only [hreq] at h
          cases hver : validateProtocolVersion request.version with
          | error e => simp only [hver] at h; cases h
          | ok u =>
            simp only [hver] at h
            exact ⟨_, .inr h⟩
    · cases h

end Replies

end Server
end Clustat
