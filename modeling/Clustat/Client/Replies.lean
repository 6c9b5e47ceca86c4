/-
# The two clients read a reply alike

`tcp_client.rs` and `udp_client.rs` of `crates/client-backend/src` each have an error type of
their own and their own copies of `parse_handshake_reply` and `parse_query_reply`, and they come to
these in different ways.  The TCP client takes a runtime snapshot out of the frame itself and hands
every other frame to its parser, with the metadata it holds.  The UDP client does so in
`recv_query_runtime`, where its parser gets empty metadata, and a second error of its own is left
for a frame that parses the second time.

Here both are written out with their texts.  Each parser is the one of `Transport.lean` up to the
texts (`TcpClient.parseQueryReply_eq`, `UdpClient.parseQueryReply_eq`), so that the two clients
make the same of every reply (`replies_agree`).
-/

import Clustat.Client.Transport
import Clustat.Common.Text

namespace Clustat
namespace Client

/-- `TcpClientError`. -/
inductive TcpClientError
  | io (message : String)
  | server (message : String)
  | decode (message : String)
  | transport (e : TransportError)
  deriving DecidableEq, Repr

/-- `UdpClientError`. -/
inductive UdpClientError
  | io (message : String)
  | server (message : String)
  | decode (message : String)
  | transport (e : TransportError)
  deriving DecidableEq, Repr

/-- The kinds of both. -/
inductive ErrorKind
  | io | server | decode | transport
  deriving DecidableEq, Repr

def TcpClientError.kind : TcpClientError → ErrorKind
  | .io _ => .io
  | .server _ => .server
  | .decode _ => .decode
  | .transport _ => .transport

def UdpClientError.kind : UdpClientError → ErrorKind
  | .io _ => .io
  | .server _ => .server
  | .decode _ => .decode
  | .transport _ => .transport

/-- `Display` for `TcpClientError`; `debug` is the derived `Debug` of a `TransportError`. -/
def TcpClientError.display (debug : TransportError → String) : TcpClientError → String
  | .io message => "I/O error: " ++ message
  | .server message => "server error: " ++ message
  | .decode message => "decode error: " ++ message
  | .transport err => "transport error: " ++ debug err

/-- `Display` for `UdpClientError`. -/
def UdpClientError.display (debug : TransportError → String) : UdpClientError → String
  | .io message => "I/O error: " ++ message
  | .server message => "server error: " ++ message
  | .decode message => "decode error: " ++ message
  | .transport err => "transport error: " ++ debug err

/-- `parse_disconnect_reason_frame`. -/
def disconnectReason (frame : Bytes) : Except TransportError String :=
  match parseDisconnectReasonFrame frame with
  | .error e => .error e
  | .ok payload => .ok (trim (fromUtf8Lossy payload))

/-- `unwrap_or_default`. -/
def unwrapOrDefault : Except TransportError String → String
  | .ok text => text
  | .error _ => ""

/-! ### The TCP client -/

namespace TcpClient

/-- `parse_handshake_reply`. -/
def parseHandshakeReply (w : Wire) (frame : Bytes) : Except TcpClientError HostMetadata :=
  match parseMetadataPayloadFrame w frame with
  | .ok metadata => .ok metadata
  | .error (.unexpectedFrameType .metadataPayload .queryResponse) =>
    match parseQueryResponseErrorFrame w frame with
    | .error e => .error (.transport e)
    | .ok (some code) => .error (.server code.display)
    | .ok none =>
      .error (.server "server returned empty QueryResponse instead of MetadataPayload")
  | .error err => .error (.transport err)

/-- `parse_query_reply`. -/
def parseQueryReply (w : Wire) (frame : Bytes) (metadata : HostMetadata) :
    Except TcpClientError ServerGresSnapshot :=
  match parseRuntimePayloadFrame w frame with
  | .ok runtime => .ok (runtime.toSnapshot metadata)
  | .error (.unexpectedFrameType .runtimePayload .queryResponse) =>
    match parseQueryResponseErrorFrame w frame with
    | .error e => .error (.transport e)
    | .ok (some code) => .error (.server code.display)
    | .ok none =>
      .error (.server "server returned empty QueryResponse instead of RuntimePayload")
  | .error (.unexpectedFrameType .runtimePayload .disconnect) =>
    let reason := unwrapOrDefault (disconnectReason frame)
    if reason.isEmpty then .error (.server "peer disconnected")
    else .error (.server ("peer disconnected: " ++ reason))
  | .error err => .error (.transport err)

/-- `query_connected`, once `read_frame` has returned a frame; `refreshed` is what
`refresh_metadata` would come to. -/
def queryReply (w : Wire) (queryResp : Bytes) (metadata : HostMetadata)
    (refreshed : Except TcpClientError HostMetadata) : Except TcpClientError ServerGresSnapshot :=
  match parseRuntimePayloadFrame w queryResp with
  | .error _ => parseQueryReply w queryResp metadata
  | .ok runtime =>
    if runtime.metadataHash ≠ 0 ∧ runtime.metadataHash ≠ metadata.metadataHash then
      match refreshed with
      | .error e => .error e
      | .ok metadata => .ok (runtime.toSnapshot metadata)
    else .ok (runtime.toSnapshot metadata)

end TcpClient

/-! ### The UDP client -/

namespace UdpClient

/-- `parse_handshake_reply`. -/
def parseHandshakeReply (w : Wire) (frame : Bytes) : Except UdpClientError HostMetadata :=
  match parseMetadataPayloadFrame w frame with
  | .ok metadata => .ok metadata
  | .error (.unexpectedFrameType .metadataPayload .queryResponse) =>
    match parseQueryResponseErrorFrame w frame with
    | .error e => .error (.transport e)
    | .ok (some code) => .error (.server code.display)
    | .ok none =>
      .error (.server "server returned empty QueryResponse instead of MetadataPayload")
  | .error err => .error (.transport err)

/-- `parse_query_reply`. -/
def parseQueryReply (w : Wire) (frame : Bytes) (metadata : HostMetadata) :
    Except UdpClientError ServerGresSnapshot :=
  match parseRuntimePayloadFrame w frame with
  | .ok runtime => .ok (runtime.toSnapshot metadata)
  | .error (.unexpectedFrameType .runtimePayload .queryResponse) =>
    match parseQueryResponseErrorFrame w frame with
    | .error e => .error (.transport e)
    | .ok (some code) => .error (.server code.display)
    | .ok none =>
      .error (.server "server returned empty QueryResponse instead of RuntimePayload")
  | .error (.unexpectedFrameType .runtimePayload .disconnect) =>
    let reason := unwrapOrDefault (disconnectReason frame)
    if reason.isEmpty then .error (.server "peer disconnected")
    else .error (.server ("peer disconnected: " ++ reason))
  | .error err => .error (.transport err)

/-- `recv_query_runtime`, once `recv_frame` has returned a frame. -/
def recvQueryRuntime (w : Wire) (frame : Bytes) : Except UdpClientError RuntimeSnapshot :=
  match parseRuntimePayloadFrame w frame with
  | .ok runtime => .ok runtime
  | .error err =>
    match parseQueryReply w frame { hostname := "", driverVersion := none, gres := [] } with
    | .ok _ => .error (.transport err)
    | .error e => .error e

/-- `query_connected`, once `recv_frame` has returned a frame; `refreshed` is what
`refresh_metadata` would come to. -/
def queryReply (w : Wire) (frame : Bytes) (metadata : HostMetadata)
    (refreshed : Except UdpClientError HostMetadata) : Except UdpClientError ServerGresSnapshot :=
  match recvQueryRuntime w frame with
  | .error e => .error e
  | .ok runtime =>
    if runtime.metadataHash ≠ 0 ∧ runtime.metadataHash ≠ metadata.metadataHash then
      match refreshed with
      | .error e => .error e
      | .ok refreshed => .ok (runtime.toSnapshot refreshed)
    else .ok (runtime.toSnapshot metadata)

end UdpClient

/-! ### What both make of a reply -/

/-- What the server told the client, as both write it. -/
def ServerMessage.text : ServerMessage → String
  | .code error => error.display
  | .emptyQueryResponse insteadOf =>
    "server returned empty QueryResponse instead of " ++ insteadOf.debug
  | .peerDisconnected reason =>
    let reason := trim (fromUtf8Lossy reason)
    if reason.isEmpty then "peer disconnected" else "peer disconnected: " ++ reason

/-- An error as the TCP client has it; `other` is a text that no reply parser writes. -/
def ClientError.toTcp (other : String) : ClientError → TcpClientError
  | .io => .io other
  | .server message => .server message.text
  | .decode => .decode other
  | .transport e => .transport e

/-- And as the UDP client has it. -/
def ClientError.toUdp (other : String) : ClientError → UdpClientError
  | .io => .io other
  | .server message => .server message.text
  | .decode => .decode other
  | .transport e => .transport e

/-- Both have succeeded with the same value, or both have failed, with errors of the same kind and
the same text. -/
inductive SameReply {α : Type} (debug : TransportError → String) :
    Except TcpClientError α → Except UdpClientError α → Prop
  | ok (value : α) : SameReply debug (.ok value) (.ok value)
  | error {e : TcpClientError} {e' : UdpClientError} (hkind : e.kind = e'.kind)
      (htext : e.display debug = e'.display debug) : SameReply debug (.error e) (.error e')

section Agree

variable {w : Wire} {frame : Bytes} {metadata : HostMetadata} {debug : TransportError → String}

/-- One reply, with its error named for the one transport and for the other.
-/
theorem sameReply_mapError {α : Type} (other : String) (reply : Except ClientError α) :
    SameReply debug (reply.mapError (ClientError.toTcp other))
      (reply.mapError (ClientError.toUdp other)) := by
  cases reply with
  | ok value => exact .ok value
  | error e => cases e <;> exact .error rfl rfl

/-- Any other error of a handshake reply is passed on. -/
theorem parseHandshakeReply_of_error {err : TransportError}
    (h : parseMetadataPayloadFrame w frame = .error err)
    (hother : err ≠ .unexpectedFrameType .metadataPayload .queryResponse) :
    Client.parseHandshakeReply w frame = .error (.transport err) := by
  unfold Client.parseHandshakeReply
  rw [h]
  split
  · rename_i heq
    cases heq
  · rename_i heq
    exact absurd (Except.error.inj heq) hother
  · rename_i heq
    rw [Except.error.inj heq]

/-- Any other error of a query reply is passed on. -/
theorem parseQueryReply_of_error {err : TransportError}
    (h : parseRuntimePayloadFrame w frame = .error err)
    (hresponse : err ≠ .unexpectedFrameType .runtimePayload .queryResponse)
    (hdisconnect : err ≠ .unexpectedFrameType .runtimePayload .disconnect) :
    Client.parseQueryReply w frame metadata = .error (.transport err) := by
  unfold Client.parseQueryReply
  rw [h]
  split
  · rename_i heq
    cases heq
  · rename_i heq
    exact absurd (Except.error.inj heq) hresponse
  · rename_i heq
    exact absurd (Except.error.inj heq) hdisconnect
  · rename_i heq
    rw [Except.error.inj heq]

/-- A `QueryResponse` in the place of a reply. -/
theorem TcpClient.queryResponse_eq {α : Type} (other : String) (insteadOf : FrameType) :
    (match parseQueryResponseErrorFrame w frame with
      | .error e => .error (.transport e)
      | .ok (some code) => .error (.server code.display)
      | .ok none =>
        .error (.server ("server returned empty QueryResponse instead of " ++ insteadOf.debug)) :
      Except TcpClientError α) =
    .error ((queryResponseError w insteadOf frame).toTcp other) := by
  unfold queryResponseError
  rcases parseQueryResponseErrorFrame w frame with e | _ | code <;> rfl

/-- The parser of handshake replies is the shared one. -/
theorem TcpClient.parseHandshakeReply_eq (other : String) :
    TcpClient.parseHandshakeReply w frame =
      (Client.parseHandshakeReply w frame).mapError (ClientError.toTcp other) := by
  unfold TcpClient.parseHandshakeReply
  split
  · rename_i hreply
    rw [Client.parseHandshakeReply, hreply]
    rfl
  · rename_i hreply
    rw [Client.parseHandshakeReply, hreply]
    exact TcpClient.queryResponse_eq other .metadataPayload
  · rename_i hother hreply
    rw [parseHandshakeReply_of_error hreply hother]
    rfl

/-- The parser of query replies is the shared one. -/
theorem TcpClient.parseQueryReply_eq (other : String) :
    TcpClient.parseQueryReply w frame metadata =
      (Client.parseQueryReply w frame metadata).mapError (ClientError.toTcp other) := by
  unfold TcpClient.parseQueryReply
  split
  · rename_i hreply
    rw [Client.parseQueryReply, hreply]
    rfl
  · rename_i hreply
    rw [Client.parseQueryReply, hreply]
    exact TcpClient.queryResponse_eq other .runtimePayload
  · rename_i hreply
    rw [Client.parseQueryReply, hreply]
    unfold disconnectReason
    cases parseDisconnectReasonFrame frame with
    | error e => rfl
    | ok payload =>
      dsimp only [unwrapOrDefault, Except.mapError, ClientError.toTcp, ServerMessage.text]
      split_ifs <;> rfl
  · rename_i hresponse hdisconnect hreply
    rw [parseQueryReply_of_error hreply hresponse hdisconnect]
    rfl

/-- A `QueryResponse` in the place of a reply. -/
theorem UdpClient.queryResponse_eq {α : Type} (other : String) (insteadOf : FrameType) :
    (match parseQueryResponseErrorFrame w frame with
      | .error e => .error (.transport e)
      | .ok (some code) => .error (.server code.display)
      | .ok none =>
        .error (.server ("server returned empty QueryResponse instead of " ++ insteadOf.debug)) :
      Except UdpClientError α) =
    .error ((queryResponseError w insteadOf frame).toUdp other) := by
  unfold queryResponseError
  rcases parseQueryResponseErrorFrame w frame with e | _ | code <;> rfl

/-- The parser of handshake replies is the shared one. -/
theorem UdpClient.parseHandshakeReply_eq (other : String) :
    UdpClient.parseHandshakeReply w frame =
      (Client.parseHandshakeReply w frame).mapError (ClientError.toUdp other) := by
  unfold UdpClient.parseHandshakeReply
  split
  · rename_i hreply
    rw [Client.parseHandshakeReply, hreply]
    rfl
  · rename_i hreply
    rw [Client.parseHandshakeReply, hreply]
    exact UdpClient.queryResponse_eq other .metadataPayload
  · rename_i hother hreply
    rw [parseHandshakeReply_of_error hreply hother]
    rfl

/-- The parser of query replies is the shared one. -/
theorem UdpClient.parseQueryReply_eq (other : String) :
    UdpClient.parseQueryReply w frame metadata =
      (Client.parseQueryReply w frame metadata).mapError (ClientError.toUdp other) := by
  unfold UdpClient.parseQueryReply
  split
  · rename_i hreply
    rw [Client.parseQueryReply, hreply]
    rfl
  · rename_i hreply
    rw [Client.parseQueryReply, hreply]
    exact UdpClient.queryResponse_eq other .runtimePayload
  · rename_i hreply
    rw [Client.parseQueryReply, hreply]
    unfold disconnectReason
    cases parseDisconnectReasonFrame frame with
    | error e => rfl
    | ok payload =>
      dsimp only [unwrapOrDefault, Except.mapError, ClientError.toUdp, ServerMessage.text]
      split_ifs <;> rfl
  · rename_i hresponse hdisconnect hreply
    rw [parseQueryReply_of_error hreply hresponse hdisconnect]
    rfl

/-- A frame that is no runtime snapshot is parsed to an error, whatever the metadata. -/
theorem exists_parseQueryReply_eq_error {err : TransportError}
    (h : parseRuntimePayloadFrame w frame = .error err) :
    ∃ e, ∀ metadata, Client.parseQueryReply w frame metadata = .error e := by
  obtain ⟨e, he⟩ := parseQueryReply_eq_error h { hostname := "", driverVersion := none, gres := [] }
  refine ⟨e, fun metadata => ?_⟩
  rw [← he]
  unfold Client.parseQueryReply
  rw [h]
  split
  · rename_i heq
    cases heq
  all_goals rfl

/-- **Both clients make the same of every reply**: of the complete reply to a query whose hash, if
it is a runtime snapshot, is 0 or that of the metadata, and of every reply to a handshake. -/
theorem replies_agree (w : Wire) (debug : TransportError → String) (frame : Bytes)
    (metadata : HostMetadata) (tcpRefreshed : Except TcpClientError HostMetadata)
    (udpRefreshed : Except UdpClientError HostMetadata)
    (hhash : ∀ runtime, parseRuntimePayloadFrame w frame = .ok runtime →
      runtime.metadataHash = 0 ∨ runtime.metadataHash = metadata.metadataHash) :
    SameReply debug (TcpClient.queryReply w frame metadata tcpRefreshed)
      (UdpClient.queryReply w frame metadata udpRefreshed) ∧
    ∀ reply, SameReply debug (TcpClient.parseHandshakeReply w reply)
      (UdpClient.parseHandshakeReply w reply) := by
  constructor
  · cases hreply : parseRuntimePayloadFrame w frame with
    | ok runtime =>
      have hkeep : ¬(runtime.metadataHash ≠ 0 ∧ runtime.metadataHash ≠ metadata.metadataHash) :=
        fun hne => (hhash runtime hreply).elim hne.1 hne.2
      rw [TcpClient.queryReply, UdpClient.queryReply, UdpClient.recvQueryRuntime, hreply]
      dsimp only
      rw [if_neg hkeep, if_neg hkeep]
      exact .ok _
    | error err =>
      obtain ⟨e, he⟩ := exists_parseQueryReply_eq_error hreply
      rw [TcpClient.queryReply, UdpClient.queryReply, UdpClient.recvQueryRuntime, hreply]
      dsimp only
      rw [TcpClient.parseQueryReply_eq "", UdpClient.parseQueryReply_eq "", he, he]
      exact sameReply_mapError "" (.error e : Except ClientError ServerGresSnapshot)
  · intro reply
    rw [TcpClient.parseHandshakeReply_eq "", UdpClient.parseHandshakeReply_eq ""]
    exact sameReply_mapError "" _

end Agree

/-- Nothing can be decoded. -/
def emptyWire : Wire where
  handshakeRequest := .table []
  queryRequest := .table []
  queryResponse := .table []
  metadata := .table []
  runtime := .table []

/-- A server that leaves, and says so with white space around it and a byte that is no text. -/
def byeFrame : Bytes := encodeFrame (.new .disconnect 2 0) (utf8 " bye" ++ [0xFF, 0x20])

/-- What is known of the host. -/
def byeMetadata : HostMetadata where
  hostname := "a"
  driverVersion := none
  gres := []

/-- Both clients say why the server has left. -/
theorem replies_agree_bye :
    TcpClient.queryReply emptyWire byeFrame byeMetadata (.error (.io "")) =
      .error (.server "peer disconnected: bye\uFFFD") ∧
    SameReply (fun _ => "") (TcpClient.queryReply emptyWire byeFrame byeMetadata (.error (.io "")))
      (UdpClient.queryReply emptyWire byeFrame byeMetadata (.error (.io ""))) ∧
    ∀ reply, SameReply (fun _ => "") (TcpClient.parseHandshakeReply emptyWire reply)
      (UdpClient.parseHandshakeReply emptyWire reply) := by
  refine ⟨by decide +kernel, replies_agree emptyWire (fun _ => "") byeFrame byeMetadata _ _ ?_⟩
  have hframe : parseRuntimePayloadFrame emptyWire byeFrame =
      .error (.unexpectedFrameType .runtimePayload .disconnect) := by decide +kernel
  intro runtime h
  rw [hframe] at h
  cases h

end Client
end Clustat
