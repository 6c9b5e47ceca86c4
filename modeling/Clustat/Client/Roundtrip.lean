/-
# One request and its reply

What the requests of `query_connected` (`crates/client-backend/src/tcp_client.rs`,
`udp_client.rs`) come to while one entry of the server's cache is current: the TCP
client sends its query as JSON (`build_query_request_frame`), the UDP client as a frame
without payload, and both refresh the metadata with `build_handshake_request_frame`.
`handle_frame` answers each of them with an archive of the entry
(`handleFrame_queryRequest`, `handleFrame_emptyQuery`, `handleFrame_handshakeRequest`),
and the client reads its half of the entry back.  Whether it refreshes its metadata or
not, what it shows then is the entry without the commands of the processes
(`Deliverable.toSnapshot_eq`).
-/

import Clustat.Client.Transport
import Clustat.Server.UdpLoop

namespace Clustat
namespace Client

open RuntimeSnapshot

/-- What a query relies on: the indices of the entry's resources are distinct; what the
serialisers write they read back, the two requests (a JSON object of one or two small
numbers) and the two halves of the entry can be written; and the hash of the entry's
metadata is not zero, nor that of other metadata the client holds. -/
structure Deliverable (w : Wire) (snapshot : ServerGresSnapshot) (metadata : HostMetadata) :
    Prop where
  distinct : snapshot.DistinctIndices
  lawful_handshakeRequest : w.handshakeRequest.Lawful
  lawful_queryRequest : w.queryRequest.Lawful
  lawful_metadata : w.metadata.Lawful
  lawful_runtime : w.runtime.Lawful
  exists_handshakeRequest : ∃ b, w.handshakeRequest.toBytes .current = .ok b ∧ b.length ≤ 128
  exists_queryRequest : ∃ b,
    w.queryRequest.toBytes { version := PROTOCOL_VERSION, requestId := 2 } = .ok b ∧ b.length ≤ 128
  exists_metadata : ∃ b, encodeMetadataPayload w (.fromSnapshot snapshot) = .ok b
  exists_runtime : ∃ b, encodeRuntimePayload w (.fromSnapshot snapshot) = .ok b
  nonzero : (HostMetadata.fromSnapshot snapshot).metadataHash ≠ 0
  noCollision : (HostMetadata.fromSnapshot snapshot).metadataHash = metadata.metadataHash →
    HostMetadata.fromSnapshot snapshot = metadata

/-- What the cache answers a handler while the entry is current. -/
def current (snapshot : ServerGresSnapshot) : Server.Latest := .ok (omitProcessCommands snapshot)

section Handle

variable {w : Wire} {snapshot : ServerGresSnapshot} {payload request : Bytes} {requestId : UInt64}

/-- The reply to a query. -/
theorem replyFrame_runtimeParts (he : encodeRuntimePayload w (.fromSnapshot snapshot) = .ok payload)
    (requestId : UInt64) :
    Server.replyFrame requestId (Server.runtimeParts w (current snapshot) requestId) =
      .ok (Server.encodeTransportFrame .runtimePayload requestId payload) := by
  unfold Server.runtimeParts Server.replyParts current
  simp only [runtime_omitProcessCommands, he]
  rfl

/-- The reply to a handshake. -/
theorem replyFrame_metadataParts
    (he : encodeMetadataPayload w (.fromSnapshot snapshot) = .ok payload) (requestId : UInt64) :
    Server.replyFrame requestId (Server.metadataParts w (current snapshot) requestId) =
      .ok (Server.encodeTransportFrame .metadataPayload requestId payload) := by
  unfold Server.metadataParts Server.replyParts current
  simp only [metadata_omitProcessCommands, he]
  rfl

/-- **A query of the UDP client is answered** with the runtime half of the
entry, under the request id of the query. -/
theorem handleFrame_emptyQuery (he : encodeRuntimePayload w (.fromSnapshot snapshot) = .ok payload)
    (requestId : UInt64) :
    Server.handleFrame w (current snapshot) (Udp.emptyQuery requestId) =
      .ok (Server.encodeTransportFrame .runtimePayload requestId payload) := by
  rw [Server.handleFrame,
    Server.decodeTransportFrame_of_decodeFrame (Udp.decodeFrame_emptyQuery requestId)]
  exact replyFrame_runtimeParts he requestId

/-- **So is one of the TCP client**, whose query has a payload with the
version and the request id. -/
theorem handleFrame_queryRequest (hw : w.queryRequest.Lawful)
    (he : encodeRuntimePayload w (.fromSnapshot snapshot) = .ok payload)
    (hrequest : buildQueryRequestFrame w requestId = .ok request) :
    Server.handleFrame w (current snapshot) request =
      .ok (Server.encodeTransportFrame .runtimePayload requestId payload) := by
  obtain ⟨header, p, hbytes, hd, htype, -⟩ := decodeFrame_of_encodeJsonFrame hrequest
  obtain ⟨hne, hfrom⟩ := hw _ _ hbytes
  rw [Server.handleFrame, Server.decodeTransportFrame_of_decodeFrame hd]
  simp only [Server.handleDecodedFrame, htype, Server.handleQuery, if_neg hne, hfrom]
  exact replyFrame_runtimeParts he requestId

/-- **A refresh is answered** with the metadata of the entry, by either client
and under its request id. -/
theorem handleFrame_handshakeRequest (hw : w.handshakeRequest.Lawful)
    (he : encodeMetadataPayload w (.fromSnapshot snapshot) = .ok payload)
    (hrequest : buildHandshakeRequestFrame w requestId = .ok request) :
    Server.handleFrame w (current snapshot) request =
      .ok (Server.encodeTransportFrame .metadataPayload requestId payload) := by
  obtain ⟨header, p, hbytes, hd, htype, hid⟩ := decodeFrame_of_encodeJsonFrame hrequest
  rw [Server.handleFrame, Server.decodeTransportFrame_of_decodeFrame hd]
  simp only [Server.handleDecodedFrame, htype, Server.handleHandshake, Server.parseHandshake,
    (hw _ _ hbytes).2, hid]
  exact replyFrame_metadataParts he requestId

/-- No request is a `Disconnect`. -/
theorem isDisconnect_of_handleFrame {latest : Server.Latest} {reply : Bytes}
    (h : Server.handleFrame w latest request = .ok reply) :
    Server.isDisconnect request = false := by
  unfold Server.handleFrame at h
  unfold Server.isDisconnect
  cases hd : Server.decodeTransportFrame request with
  | error e => rfl
  | ok hp =>
    obtain ⟨header, p⟩ := hp
    by_cases ht : header.frameType = .disconnect
    · simp only [hd, Server.handleDecodedFrame, ht] at h
      cases h
    · exact beq_false_of_ne ht

end Handle

namespace Deliverable

variable {w : Wire} {snapshot : ServerGresSnapshot} {metadata : HostMetadata}
  (h : Deliverable w snapshot metadata)

include h

/-- The reply to a query is read back. -/
theorem parse_runtime {payload : Bytes} {requestId : UInt64}
    (he : encodeRuntimePayload w (.fromSnapshot snapshot) = .ok payload) :
    parseRuntimePayloadFrame w (Server.encodeTransportFrame .runtimePayload requestId payload) =
      .ok (.fromSnapshot snapshot) :=
  parsePayloadFrame_of_encode h.lawful_runtime he

/-- The reply to a refresh is read back. -/
theorem parse_metadata {payload : Bytes} {requestId : UInt64}
    (he : encodeMetadataPayload w (.fromSnapshot snapshot) = .ok payload) :
    parseHandshakeReply w (Server.encodeTransportFrame .metadataPayload requestId payload) =
      .ok (.fromSnapshot snapshot) := by
  have hparse : parseMetadataPayloadFrame w
      (Server.encodeTransportFrame .metadataPayload requestId payload) =
        .ok (.fromSnapshot snapshot) := parsePayloadFrame_of_encode h.lawful_metadata he
  rw [parseHandshakeReply, hparse]

/-- The refresh can be written, and is short. -/
theorem exists_refresh (requestId : UInt64) : ∃ frame,
    buildHandshakeRequestFrame w requestId = .ok frame ∧ frame.length ≤ Udp.UDP_MIN_PAYLOAD := by
  obtain ⟨b, hb, hlen⟩ := h.exists_handshakeRequest
  refine ⟨_, encodeJsonFrame_of_toBytes hb (by omega) .handshakeRequest requestId, ?_⟩
  rw [length_encodeFrame, FRAME_HEADER_LEN, Udp.UDP_MIN_PAYLOAD]
  omega

/-- So can the query of the TCP client. -/
theorem exists_query : ∃ frame, buildQueryRequestFrame w 2 = .ok frame := by
  obtain ⟨b, hb, hlen⟩ := h.exists_queryRequest
  exact ⟨_, encodeJsonFrame_of_toBytes hb (by omega) .queryRequest 2⟩

/-- **What the client shows** with the metadata of the entry is the entry,
without the commands of its processes. -/
theorem toSnapshot_eq :
    (RuntimeSnapshot.fromSnapshot snapshot).toSnapshot (.fromSnapshot snapshot) =
      omitProcessCommands snapshot := toSnapshot_fromSnapshot h.distinct

/-- **The client refreshes its metadata or has those of the entry**: equal
hashes are of equal metadata, and the hash of the entry is not zero. -/
theorem refreshes_or_eq (runtime : RuntimeSnapshot)
    (hruntime : runtime = .fromSnapshot snapshot) :
    (runtime.metadataHash ≠ 0 ∧ runtime.metadataHash ≠ metadata.metadataHash) ∨
      ¬(runtime.metadataHash ≠ 0 ∧ runtime.metadataHash ≠ metadata.metadataHash) ∧
        metadata = .fromSnapshot snapshot := by
  subst hruntime
  by_cases heq : (HostMetadata.fromSnapshot snapshot).metadataHash = metadata.metadataHash
  · exact .inr ⟨fun hne => hne.2 heq, (h.noCollision heq).symm⟩
  · exact .inl ⟨h.nonzero, heq⟩

end Deliverable

end Client
end Clustat
