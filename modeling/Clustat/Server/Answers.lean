/-
# Which requests are answered

`handle_query` and `handle_handshake` of `crates/server/src/transport.rs` answer with an archive
of one half of the latest snapshot, and with an error response if the collector has failed.
An error of `encode_rkyv_payload` they hand on with `?`: there is no reply, the TCP loop closes
the connection (`handle_client_stream`) and the UDP loop sends nothing.

`encode_rkyv_payload` refuses archives of more than `u16::MAX` bytes, although frames have a
length of 32 bits and chunks are there for long frames.  So a request is answered exactly if
the collector has failed or the half it asks for is short (`handleFrame_answers_iff`): a node
that answers while idle is silent when it has 4093 processes.
-/

import Clustat.Common.Json
import Clustat.Server.UdpLoop

namespace Clustat

/-- What the archiver does: it writes a value in a number of bytes that depends on the value,
and fails only if the bytes are more than its relative pointers reach. -/
def Codec.Archives {α : Type} (c : Codec α) (size : α → ℕ) : Prop :=
  ∀ v, (∃ b, c.toBytes v = .ok b ∧ b.length = size v) ∨
    (∃ message, c.toBytes v = .error message) ∧ 2 ^ 31 ≤ size v

/-- The codec that writes so many bytes archives to this size. -/
theorem Codec.archives_ofSize {α : Type} (size : α → ℕ) : (Codec.ofSize size).Archives size :=
  fun _ => .inl ⟨_, rfl, List.length_replicate⟩

/-- An error response is written, and is short enough for a payload. -/
def Wire.WritesErrors (w : Wire) : Prop :=
  ∀ requestId code, ∃ b, w.queryResponse.toBytes (.ofError requestId code) = .ok b ∧
    b.length ≤ MAX_PAYLOAD_LEN

namespace Server

open Udp (emptyQuery decodeFrame_emptyQuery)

/-- A handshake of the current version, an empty query, or a query of the current version with
an id of its own, and the id for the reply. -/
inductive ValidRequest (w : Wire) (header : FrameHeader) : Bytes → UInt64 → Prop
  | handshake {payload : Bytes} (htype : header.frameType = .handshakeRequest)
    (hjson : w.handshakeRequest.fromBytes payload = .ok { version := PROTOCOL_VERSION }) :
    ValidRequest w header payload header.requestId
  | emptyQuery (htype : header.frameType = .queryRequest) :
    ValidRequest w header [] header.requestId
  | query {payload : Bytes} {requestId : UInt64} (htype : header.frameType = .queryRequest)
    (hne : payload ≠ [])
    (hjson : w.queryRequest.fromBytes payload = .ok { version := PROTOCOL_VERSION, requestId }) :
    ValidRequest w header payload requestId

/-- The reply is a frame of the type with this id and payload. -/
def IsReply (reply : Bytes) (t : FrameType) (requestId : UInt64) (payload : Bytes) : Prop :=
  decodeFrame reply = .ok (FrameHeader.new t requestId (UInt32.ofNat payload.length), payload)

/-- The reply bears the id and answers a request of the type: with the half of the snapshot it
asks for, or with the error code of the collector. -/
inductive Answers (w : Wire) (requestId : UInt64) (reply : Bytes) : FrameType → Latest → Prop
  | metadata {s : ServerGresSnapshot} {payload : Bytes}
    (harchive : w.metadata.toBytes (HostMetadata.fromSnapshot s) = .ok payload)
    (hreply : IsReply reply .metadataPayload requestId payload) :
    Answers w requestId reply .handshakeRequest (.ok s)
  | runtime {s : ServerGresSnapshot} {payload : Bytes}
    (harchive : w.runtime.toBytes (RuntimeSnapshot.fromSnapshot s) = .ok payload)
    (hreply : IsReply reply .runtimePayload requestId payload) :
    Answers w requestId reply .queryRequest (.ok s)
  | error {t : FrameType} {code : ErrorCode} {payload : Bytes}
    (hjson : w.queryResponse.toBytes (.ofError requestId code) = .ok payload)
    (hreply : IsReply reply .queryResponse requestId payload) :
    Answers w requestId reply t (.error code)

/-- The size of the half of a snapshot that requests of a type ask for. -/
def halfSize (metadataSize : HostMetadata → ℕ) (runtimeSize : RuntimeSnapshot → ℕ)
    (t : FrameType) (s : ServerGresSnapshot) : ℕ :=
  if t = .handshakeRequest then metadataSize (HostMetadata.fromSnapshot s)
  else runtimeSize (RuntimeSnapshot.fromSnapshot s)

section Handlers

variable {w : Wire} {latest : Latest} {requestId : UInt64}

/-- An encoded frame with a payload that is not too long is a reply: it
decodes to its type, its request id and its payload. -/
theorem isReply_encodeTransportFrame {t : FrameType} {payload : Bytes}
    (hlen : payload.length ≤ MAX_PAYLOAD_LEN) :
    IsReply (encodeTransportFrame t requestId payload) t requestId payload :=
  decodeFrame_encodeTransportFrame hlen

/-- **Which half is answered**: every collector error is, and every snapshot whose archive
fits.  `hanswers` says that the archive is the answer to requests of the type. -/
theorem half_answers_iff {α : Type} {c : Codec α} {size : α → ℕ} (hc : c.Archives size)
    (hw : w.WritesErrors) {value : ServerGresSnapshot → α} {okType t : FrameType}
    (hanswers : ∀ reply s b, c.toBytes (value s) = .ok b → IsReply reply okType requestId b →
      Answers w requestId reply t (.ok s)) :
    (∃ reply, replyFrame requestId (replyParts w latest okType
        (fun s => encodeRkyvPayload c (value s)) requestId) = .ok reply ∧
      Answers w requestId reply t latest) ↔
    ∀ s, latest = .ok s → size (value s) ≤ MAX_PAYLOAD_LEN := by
  cases latest with
  | error code =>
    obtain ⟨b, hb, hlen⟩ := hw requestId code
    refine iff_of_true ⟨_, ?_, .error hb (isReply_encodeTransportFrame hlen)⟩ nofun
    simp only [replyParts, hb, replyFrame]
  | ok s =>
    have hsize : (∀ s', (.ok s : Latest) = .ok s' → size (value s') ≤ MAX_PAYLOAD_LEN) ↔
        size (value s) ≤ MAX_PAYLOAD_LEN :=
      ⟨fun h => h s rfl, fun h _ hs => Except.ok.inj hs ▸ h⟩
    rw [hsize]
    obtain ⟨b, hb, hlen⟩ | ⟨⟨message, hb⟩, hbig⟩ := hc (value s)
    · by_cases hfit : b.length ≤ MAX_PAYLOAD_LEN
      · refine iff_of_true ⟨_, ?_, hanswers _ s b hb (isReply_encodeTransportFrame hfit)⟩
          (hlen ▸ hfit)
        simp only [replyParts, encodeRkyvPayload_eq_ok_iff.2 ⟨hb, hfit⟩, replyFrame]
      · refine iff_of_false ?_ (hlen ▸ hfit)
        simp [replyParts, encodeRkyvPayload, hb, Nat.not_le.1 hfit, replyFrame]
    · refine iff_of_false ?_ (Nat.not_le.2 (lt_of_lt_of_le (by decide) hbig))
      simp [replyParts, encodeRkyvPayload, hb, replyFrame]

/-- A valid request reaches its handler, with its id. -/
theorem handleFrame_of_valid (latest : Latest) {frame payload : Bytes} {header : FrameHeader}
    (hframe : decodeFrame frame = .ok (header, payload))
    (hvalid : ValidRequest w header payload requestId) :
    (header.frameType = .handshakeRequest ∧
      handleFrame w latest frame = replyFrame requestId (metadataParts w latest requestId)) ∨
    (header.frameType = .queryRequest ∧
      handleFrame w latest frame = replyFrame requestId (runtimeParts w latest requestId)) := by
  have hdecode : decodeTransportFrame frame = .ok (header, payload) := by
    rw [decodeTransportFrame, hframe]
  cases hvalid with
  | handshake htype hjson =>
    refine .inl ⟨htype, ?_⟩
    simp only [handleFrame, hdecode, handleDecodedFrame, htype, handleHandshake, parseHandshake,
      hjson, HandshakeRequest.validate, validateProtocolVersion, if_true]
  | emptyQuery htype =>
    refine .inr ⟨htype, ?_⟩
    simp only [handleFrame, hdecode, handleDecodedFrame, htype, handleQuery, if_true]
  | query htype hne hjson =>
    refine .inr ⟨htype, ?_⟩
    simp only [handleFrame, hdecode, handleDecodedFrame, htype, handleQuery, if_neg hne, hjson,
      validateProtocolVersion, if_true]

/-- **When a valid request is answered**: if the collector has failed, or the half of the
snapshot it asks for fits in a payload.  Otherwise `handle_frame` returns an error. -/
theorem handleFrame_answers_iff {metadataSize : HostMetadata → ℕ}
    {runtimeSize : RuntimeSnapshot → ℕ} (hmetadata : w.metadata.Archives metadataSize)
    (hruntime : w.runtime.Archives runtimeSize) (hw : w.WritesErrors) {frame payload : Bytes}
    {header : FrameHeader} (hframe : decodeFrame frame = .ok (header, payload))
    (hvalid : ValidRequest w header payload requestId) :
    (∃ reply, handleFrame w latest frame = .ok reply ∧
      Answers w requestId reply header.frameType latest) ↔
    ∀ s, latest = .ok s →
      halfSize metadataSize runtimeSize header.frameType s ≤ MAX_PAYLOAD_LEN := by
  obtain ⟨htype, hhandle⟩ | ⟨htype, hhandle⟩ := handleFrame_of_valid latest hframe hvalid
  all_goals rw [hhandle, htype]
  · have hsize : ∀ s, halfSize metadataSize runtimeSize .handshakeRequest s =
        metadataSize (HostMetadata.fromSnapshot s) := fun _ => if_pos rfl
    simp only [hsize]
    exact half_answers_iff hmetadata hw fun _ _ _ => .metadata
  · have hsize : ∀ s, halfSize metadataSize runtimeSize .queryRequest s =
        runtimeSize (RuntimeSnapshot.fromSnapshot s) := fun _ => if_neg nofun
    simp only [hsize]
    exact half_answers_iff hruntime hw fun _ _ _ => .runtime

end Handlers

/-! ### A busy node -/

/-- The name of an error code in JSON. -/
def errorName : ErrorCode → String
  | .nvmlUnavailable => "NvmlUnavailable"
  | .configInvalid => "ConfigInvalid"
  | .portExhausted => "PortExhausted"
  | .multicastFailed => "MulticastFailed"
  | .transportInitFailed => "TransportInitFailed"
  | .heartbeatTimeout => "HeartbeatTimeout"
  | .connectionClosed => "ConnectionClosed"
  | .queryTimeout => "QueryTimeout"
  | .invalidFilter => "InvalidFilter"
  | .protocolVersionMismatch => "ProtocolVersionMismatch"
  | .internal => "Internal"

/-- The JSON of a `QueryResponse`. -/
def responseJson (r : QueryResponse) : Json :=
  .obj [("version", .posInt r.version.toUInt64), ("request_id", .posInt r.requestId),
    ("status", .str (if r.status = .ok then "Ok" else "Error")),
    ("error", .ofOption (fun code => .str (errorName code)) r.error)]

/-- JSON takes at most four bytes a character. -/
theorem length_toVec_le (v : Json) : v.toVec.length ≤ 4 * v.toText.length := by
  have hchar : ∀ c : Char, (String.utf8EncodeChar c).length ≤ 4 := fun c => by
    rw [String.length_utf8EncodeChar]
    exact c.utf8Size_le_four
  rw [Json.toVec]
  induction v.toText with
  | nil => exact Nat.zero_le _
  | cons c cs ih =>
    rw [List.flatMap_cons, List.length_append, List.length_cons]
    have := hchar c
    omega

/-- An error reply is never too long, since its message is one of a few texts.
-/
theorem length_responseJson_le (requestId : UInt64) (code : ErrorCode) :
    (responseJson (.ofError requestId code)).toVec.length ≤ MAX_PAYLOAD_LEN := by
  have hid : (Nat.toDigits 10 requestId.toNat).length ≤ 20 :=
    (Nat.length_toDigits_le_iff (by decide) (by decide)).2
      (lt_trans requestId.toNat_lt (by decide))
  have hname : (Json.quote (errorName code)).length ≤ 25 := by
    cases code <;> decide
  have hquote : (Json.quote "version").length = 9 ∧ (Json.quote "request_id").length = 12 ∧
      (Json.quote "status").length = 8 ∧ (Json.quote "Error").length = 7 ∧
      (Json.quote "error").length = 7 ∧ (Nat.toDigits 10 PROTOCOL_VERSION.toNat).length = 1 := by
    decide
  have htext : (responseJson (.ofError requestId code)).toText.length ≤ 200 := by
    simp [responseJson, QueryResponse.ofError, Json.toText, Json.fieldTexts, Json.ofOption]
    omega
  refine (length_toVec_le _).trans ?_
  unfold MAX_PAYLOAD_LEN
  omega

/-- The bytes of a text in an archive that are not in its record, where up to eight are. -/
def textSize (s : String) : ℕ :=
  let n := (HostMetadata.asBytes s).length
  if n ≤ 8 then 0 else n

/-- The archive of metadata: the texts, the records of the resources, that of the host. -/
def metadataSize (m : HostMetadata) : ℕ :=
  let texts := textSize m.hostname + textSize (m.driverVersion.getD "") +
    (m.gres.map fun g => textSize g.name + textSize (g.uuid.getD "")).sum
  if m.gres = [] then (texts + 3) / 4 * 4 + 28 else (texts + 7) / 8 * 8 + 32 * m.gres.length + 28

/-- The archive of a runtime snapshot: 16 bytes for each process, 40 for each resource, and 16
for the snapshot. -/
def runtimeSize (r : RuntimeSnapshot) : ℕ :=
  (r.gres.map fun g => 16 * g.processes.length + 40).sum + 16

/-- The serialisers of a server that is asked with an empty query. -/
def sizedWire : Wire where
  handshakeRequest := .table [(.current, HostMetadata.asBytes "\x7b\"version\":1\x7d")]
  queryRequest := .table []
  queryResponse :=
    { toBytes r := .ok (responseJson r).toVec
      fromBytes _ := .error "not read" }
  metadata := .ofSize metadataSize
  runtime := .ofSize runtimeSize

/-- A node with so many processes on its only resource. -/
def busySnapshot (processes : ℕ) : ServerGresSnapshot where
  hostname := "node1"
  driverVersion := none
  gres :=
    [{ index := 0, name := "A100", temperatureC := none, uuid := none
       memory := { usedMb := 1, totalMb := 81920 }
       utilization := { gresPercent := 0, memoryPercent := 0 }
       processes := List.replicate processes ⟨1, 1000, none, 1⟩ }]

/-- The size of a snapshot with `n` processes, 16 bytes for each. -/
theorem runtimeSize_busySnapshot (n : ℕ) :
    runtimeSize (RuntimeSnapshot.fromSnapshot (busySnapshot n)) = 16 * n + 56 := by
  simp [runtimeSize, RuntimeSnapshot.fromSnapshot, busySnapshot, GresInfo.runtimeInfo]

/-- With 4092 processes an empty query is answered. -/
theorem handleFrame_answers_iff_busy :
    ∃ reply, handleFrame sizedWire (.ok (busySnapshot 4092)) (emptyQuery 7) = .ok reply ∧
      Answers sizedWire 7 reply .queryRequest (.ok (busySnapshot 4092)) := by
  refine (handleFrame_answers_iff (Codec.archives_ofSize metadataSize)
    (Codec.archives_ofSize runtimeSize) (fun _ _ => ⟨_, rfl, length_responseJson_le _ _⟩)
    (decodeFrame_emptyQuery 7) (.emptyQuery rfl)).2 ?_
  rintro _ ⟨⟩
  exact (runtimeSize_busySnapshot 4092).trans_le (by decide)

/-- A snapshot whose archive is too long gets no reply. -/
theorem handleFrame_sizedWire_of_large {s : ServerGresSnapshot}
    (hlarge : MAX_PAYLOAD_LEN < runtimeSize (RuntimeSnapshot.fromSnapshot s)) :
    handleFrame sizedWire (.ok s) (emptyQuery 7) =
      .error (.payload (.payloadTooLarge (runtimeSize (RuntimeSnapshot.fromSnapshot s))
        MAX_PAYLOAD_LEN)) := by
  obtain ⟨htype, -⟩ | ⟨-, hhandle⟩ := handleFrame_of_valid (w := sizedWire) (.ok s)
    (decodeFrame_emptyQuery 7) (.emptyQuery rfl)
  · cases htype
  · have hbytes (r : RuntimeSnapshot) :
        sizedWire.runtime.toBytes r = .ok (List.replicate (runtimeSize r) 0) := rfl
    rw [hhandle, runtimeParts, replyParts, encodeRuntimePayload, encodeRkyvPayload, hbytes]
    simp only [List.length_replicate, if_pos hlarge, replyFrame]

/-- With one more it is not. -/
theorem busySnapshot_not_answered :
    decodeFrame (emptyQuery 7) = .ok (FrameHeader.new .queryRequest 7 0, []) ∧
      ValidRequest sizedWire (FrameHeader.new .queryRequest 7 0) [] 7 ∧
      handleFrame sizedWire (.ok (busySnapshot 4093)) (emptyQuery 7) =
        .error (.payload (.payloadTooLarge 65544 65535)) := by
  have hsize : runtimeSize (RuntimeSnapshot.fromSnapshot (busySnapshot 4093)) = 65544 :=
    runtimeSize_busySnapshot 4093
  have hlarge : MAX_PAYLOAD_LEN < runtimeSize (RuntimeSnapshot.fromSnapshot (busySnapshot 4093)) :=
    hsize ▸ by decide
  refine ⟨decodeFrame_emptyQuery 7, .emptyQuery rfl, ?_⟩
  rw [handleFrame_sizedWire_of_large hlarge, hsize]
  rfl

end Server
end Clustat
