/-
# A TCP connection and the threads that query it

`query_connected` of `crates/client-backend/src/tcp_client.rs`, called by any number
of threads on one `ConnectedTcpNode`, and `handle_query_stream` of
`crates/server/src/main.rs` at the other end.  A call has the lock of the stream while
it writes its request and reads a frame, and takes that for the reply: every query has
the request id 2 and every refresh of the metadata the id 3, and `read_frame` looks at
neither.  A call that fails has left the lock before its caller closes the connection
(`refresh_stale_cache_for_query` of `local_api.rs`), and may leave a part of its reply,
or all of it, on the stream.

The server reads a frame, has it handled, which may take the time of a collection, and
writes the reply; each of these is a step of its own, and so is each byte it writes.

Each byte on the stream goes with the request it is of or answers (`TcpByte`), which
neither side can see.  As long as a thread that takes the lock finds the connection
closed or the stream settled, every call that succeeds has read the reply to its own
request (`tcp_calls_attributed`).
-/

import Clustat.Client.Query
import Clustat.Common.Stream
import Clustat.Lib.Lts
import Clustat.Server.UdpLoop

namespace Clustat
namespace Client

/-- A byte on the stream, and the request it belongs to; that of a reply to bytes of
several requests belongs to none. -/
structure TcpByte where
  byte : UInt8
  request : Option ℕ
  deriving DecidableEq

/-- Bytes of one request, or of the reply to it. -/
def tagged (request : Option ℕ) (bytes : Bytes) : List TcpByte :=
  bytes.map fun byte => { byte, request }

/-- What is seen of them. -/
def untagged (bytes : List TcpByte) : Bytes := bytes.map TcpByte.byte

/-- The request that all of them belong to. -/
def commonRequest : List TcpByte → Option ℕ
  | [] => none
  | b :: bs => if bs.all fun b' => b'.request = b.request then b.request else none

/-- A call that has succeeded: the numbers of its requests, what it took for the
replies to them, and the snapshot it returned. -/
structure TcpCall where
  query : ℕ
  reply : List TcpByte
  refresh : Option (ℕ × List TcpByte) := none
  snapshot : ServerGresSnapshot
  deriving DecidableEq

/-- Where a thread is. -/
inductive TcpPc
  /-- Not in a call. -/
  | idle
  /-- `query_connected`, before the lock of the stream. -/
  | locking
  /-- Before `write_all` of the query. -/
  | sending
  /-- In `read_frame`, with the bytes read so far. -/
  | reading (query : ℕ) (got : List TcpByte)
  /-- In `refresh_metadata`, before `write_all`. -/
  | refreshing (query : ℕ) (reply : List TcpByte) (runtime : RuntimeSnapshot)
  /-- In its `read_frame`. -/
  | rereading (query : ℕ) (reply : List TcpByte) (runtime : RuntimeSnapshot) (refresh : ℕ)
      (got : List TcpByte)
  /-- After a call that has failed, before `close_connected`. -/
  | closing
  deriving DecidableEq

/-- Where the server is. -/
inductive TcpServerPc
  /-- In `read_tcp_frame`. -/
  | waiting
  /-- In `handle_frame`, with the frame it has read. -/
  | handling (frame : List TcpByte)
  /-- In `write_all`, with what is left of the reply. -/
  | writing (b : TcpByte) (bs : List TcpByte)
  /-- `handle_query_stream` has returned. -/
  | done
  deriving DecidableEq

/-- The server with these bytes to write. -/
def TcpServerPc.write : List TcpByte → TcpServerPc
  | [] => .waiting
  | b :: bs => .writing b bs

/-- A server that has bytes to write, or none, is done with handling. -/
theorem TcpServerPc.write_ne_handling (rest frame : List TcpByte) :
    TcpServerPc.write rest ≠ .handling frame := by
  intro h
  cases rest with
  | nil | cons => cases h

/-- A server that is writing `b` had it to write first, and `bs` behind it. -/
theorem TcpServerPc.write_eq_writing {rest bs : List TcpByte} {b : TcpByte} :
    TcpServerPc.write rest = .writing b bs ↔ rest = b :: bs := by
  constructor
  · intro h
    cases rest with
    | nil => cases h
    | cons => cases h; rfl
  · rintro rfl
    rfl

/-- The connection: the lock of the stream, whether it is shut down, and the metadata;
the threads and the server; and the bytes on the stream that have not been read.  The
calls that have succeeded are kept to speak about. -/
structure TcpState (τ : Type*) where
  io : Option τ := none
  closed : Bool := false
  metadata : HostMetadata
  pcs : τ → TcpPc := fun _ => .idle
  server : TcpServerPc := .waiting
  nextRequest : ℕ := 0
  toServer : List TcpByte := []
  toClient : List TcpByte := []
  returned : List TcpCall := []

/-- What the server does. -/
inductive TcpServerAct
  /-- It reads a frame. -/
  | read
  /-- It has handled the frame; this is what the cache has answered. -/
  | handle (latest : Server.Latest)
  /-- It writes a byte of the reply. -/
  | write
  /-- It goes: a read or a write fails, or the process ends. -/
  | hangUp

/-- What happens. -/
inductive TcpAct (τ : Type*)
  /-- A thread calls `query`. -/
  | query (t : τ)
  /-- It takes the lock. -/
  | lock (t : τ)
  /-- It writes its request, or fails after some bytes. -/
  | write (t : τ) (failsAfter : Option ℕ)
  /-- It reads a byte. -/
  | read (t : τ)
  /-- It has read a frame, and goes on. -/
  | receive (t : τ)
  /-- Its read times out, or fails otherwise. -/
  | timeout (t : τ)
  /-- It closes the connection. -/
  | close (t : τ)
  /-- A step of the server. -/
  | serve (a : TcpServerAct)

section System

variable {τ : Type*} [DecidableEq τ]

/-- A thread goes on. -/
def TcpState.goto (s : TcpState τ) (t : τ) (pc : TcpPc) : TcpState τ :=
  { s with pcs := Function.update s.pcs t pc }

/-- A call returns an error. -/
def TcpState.fail (s : TcpState τ) (t : τ) : TcpState τ :=
  { s with io := none, pcs := Function.update s.pcs t .closing }

/-- A call returns a snapshot. -/
def TcpState.finish (s : TcpState τ) (t : τ) (call : TcpCall) : TcpState τ :=
  { s with io := none, pcs := Function.update s.pcs t .idle, returned := call :: s.returned }

/-- `write_all` of a request; none is written to a stream that has been shut down. -/
def TcpState.writeAll (s : TcpState τ) (t : τ) (frame : Bytes) (failsAfter : Option ℕ)
    (next : ℕ → TcpPc) : TcpState τ :=
  if s.closed then s.fail t
  else
    match failsAfter with
    | none =>
      { s with
        nextRequest := s.nextRequest + 1
        toServer := s.toServer ++ tagged (some s.nextRequest) frame
        pcs := Function.update s.pcs t (next s.nextRequest) }
    | some n =>
      { s with
        io := none
        nextRequest := s.nextRequest + 1
        toServer := s.toServer ++ tagged (some s.nextRequest) (frame.take n)
        pcs := Function.update s.pcs t .closing }

/-- `query_connected` after its `read_frame`. -/
def TcpState.afterQuery (w : Wire) (s : TcpState τ) (t : τ) (query : ℕ) (reply : List TcpByte) :
    TcpState τ :=
  match parseRuntimePayloadFrame w (untagged reply) with
  | .error _ =>
    match parseQueryReply w (untagged reply) s.metadata with
    | .error _ => s.fail t
    | .ok snapshot => s.finish t { query, reply, snapshot }
  | .ok runtime =>
    if runtime.metadataHash ≠ 0 ∧ runtime.metadataHash ≠ s.metadata.metadataHash then
      s.goto t (.refreshing query reply runtime)
    else s.finish t { query, reply, snapshot := runtime.toSnapshot s.metadata }

/-- `query_connected` after `read_frame` of the metadata. -/
def TcpState.afterRefresh (w : Wire) (s : TcpState τ) (t : τ) (query : ℕ)
    (reply : List TcpByte) (runtime : RuntimeSnapshot) (refresh : ℕ) (got : List TcpByte) :
    TcpState τ :=
  match parseHandshakeReply w (untagged got) with
  | .error _ => s.fail t
  | .ok metadata =>
    { s with metadata }.finish t
      { query, reply, refresh := some (refresh, got), snapshot := runtime.toSnapshot metadata }

/-- `handle_query_stream`. -/
def TcpState.handleQueryStream (w : Wire) (s : TcpState τ) : TcpServerAct → Option (TcpState τ)
  | .read =>
    match s.server with
    | .waiting =>
      match readFrame (untagged s.toServer) with
      | .more => none
      | .invalid _ => some { s with server := .done }
      | .whole len =>
        let frame := s.toServer.take len
        let server := if Server.isDisconnect (untagged frame) then .done else .handling frame
        some { s with toServer := s.toServer.drop len, server }
    | _ => none
  | .handle latest =>
    match s.server with
    | .handling frame =>
      match Server.handleFrame w latest (untagged frame) with
      | .error _ => some { s with server := .done }
      | .ok response => some { s with server := .write (tagged (commonRequest frame) response) }
    | _ => none
  | .write =>
    match s.server with
    | .writing b bs => some { s with toClient := s.toClient ++ [b], server := .write bs }
    | _ => none
  | .hangUp => some { s with server := .done }

/-- One step. -/
def TcpState.step (w : Wire) (s : TcpState τ) : TcpAct τ → Option (TcpState τ)
  | .query t =>
    match s.pcs t with
    | .idle => some (s.goto t .locking)
    | _ => none
  | .lock t =>
    match s.pcs t, s.io with
    | .locking, none => some { s.goto t .sending with io := some t }
    | _, _ => none
  | .write t failsAfter =>
    match s.pcs t with
    | .sending =>
      match buildQueryRequestFrame w 2 with
      | .error _ => some (s.fail t)
      | .ok frame => some (s.writeAll t frame failsAfter fun n => .reading n [])
    | .refreshing query reply runtime =>
      match buildHandshakeRequestFrame w 3 with
      | .error _ => some (s.fail t)
      | .ok frame =>
        some (s.writeAll t frame failsAfter fun n => .rereading query reply runtime n [])
    | _ => none
  | .read t =>
    match s.toClient, s.pcs t with
    | b :: bs, .reading query got =>
      match readFrame (untagged got) with
      | .more => some { s.goto t (.reading query (got ++ [b])) with toClient := bs }
      | _ => none
    | b :: bs, .rereading query reply runtime refresh got =>
      match readFrame (untagged got) with
      | .more =>
        some { s.goto t (.rereading query reply runtime refresh (got ++ [b])) with toClient := bs }
      | _ => none
    | _, _ => none
  | .receive t =>
    match s.pcs t with
    | .reading query got =>
      match readFrame (untagged got) with
      | .more => none
      | .invalid _ => some (s.fail t)
      | .whole _ => some (s.afterQuery w t query got)
    | .rereading query reply runtime refresh got =>
      match readFrame (untagged got) with
      | .more => none
      | .invalid _ => some (s.fail t)
      | .whole _ => some (s.afterRefresh w t query reply runtime refresh got)
    | _ => none
  | .timeout t =>
    match s.pcs t with
    | .reading .. | .rereading .. => some (s.fail t)
    | _ => none
  | .close t =>
    match s.pcs t, s.io with
    | .closing, none => some { s.goto t .idle with closed := true }
    | _, _ => none
  | .serve a => s.handleQueryStream w a

/-- A new connection, with the metadata of its handshake. -/
def tcpSystem (τ : Type*) [DecidableEq τ] (w : Wire) (metadata : HostMetadata) :
    Lts (TcpState τ) (TcpAct τ) :=
  Lts.ofFn { metadata } (TcpState.step w)

/-- What a step does, with what it has found. -/
inductive TcpMove (w : Wire) (s : TcpState τ) : TcpAct τ → TcpState τ → Prop
  | query {t : τ} (hpc : s.pcs t = .idle) : TcpMove w s (.query t) (s.goto t .locking)
  | lock {t : τ} (hpc : s.pcs t = .locking) (hio : s.io = none) :
    TcpMove w s (.lock t) { s.goto t .sending with io := some t }
  | notSent {t : τ} {failsAfter : Option ℕ} {e : TransportError} (hpc : s.pcs t = .sending)
      (hframe : buildQueryRequestFrame w 2 = .error e) :
    TcpMove w s (.write t failsAfter) (s.fail t)
  | send {t : τ} {failsAfter : Option ℕ} {frame : Bytes} (hpc : s.pcs t = .sending)
      (hframe : buildQueryRequestFrame w 2 = .ok frame) :
    TcpMove w s (.write t failsAfter) (s.writeAll t frame failsAfter fun n => .reading n [])
  | notResent {t : τ} {failsAfter : Option ℕ} {e : TransportError} {query : ℕ}
      {reply : List TcpByte} {runtime : RuntimeSnapshot}
      (hpc : s.pcs t = .refreshing query reply runtime)
      (hframe : buildHandshakeRequestFrame w 3 = .error e) :
    TcpMove w s (.write t failsAfter) (s.fail t)
  | resend {t : τ} {failsAfter : Option ℕ} {frame : Bytes} {query : ℕ} {reply : List TcpByte}
      {runtime : RuntimeSnapshot} (hpc : s.pcs t = .refreshing query reply runtime)
      (hframe : buildHandshakeRequestFrame w 3 = .ok frame) :
    TcpMove w s (.write t failsAfter)
      (s.writeAll t frame failsAfter fun n => .rereading query reply runtime n [])
  | read {t : τ} {b : TcpByte} {bs : List TcpByte} {query : ℕ} {got : List TcpByte}
      (hpc : s.pcs t = .reading query got) (hclient : s.toClient = b :: bs)
      (hmore : readFrame (untagged got) = .more) :
    TcpMove w s (.read t) { s.goto t (.reading query (got ++ [b])) with toClient := bs }
  | reread {t : τ} {b : TcpByte} {bs : List TcpByte} {query : ℕ} {reply : List TcpByte}
      {runtime : RuntimeSnapshot} {refresh : ℕ} {got : List TcpByte}
      (hpc : s.pcs t = .rereading query reply runtime refresh got) (hclient : s.toClient = b :: bs)
      (hmore : readFrame (untagged got) = .more) :
    TcpMove w s (.read t)
      { s.goto t (.rereading query reply runtime refresh (got ++ [b])) with toClient := bs }
  | notReceived {t : τ} {query : ℕ} {got : List TcpByte} {e : FrameHeaderError}
      (hpc : s.pcs t = .reading query got) (hread : readFrame (untagged got) = .invalid e) :
    TcpMove w s (.receive t) (s.fail t)
  | receive {t : τ} {query len : ℕ} {got : List TcpByte} (hpc : s.pcs t = .reading query got)
      (hread : readFrame (untagged got) = .whole len) :
    TcpMove w s (.receive t) (s.afterQuery w t query got)
  | notRefreshed {t : τ} {query : ℕ} {reply : List TcpByte} {runtime : RuntimeSnapshot}
      {refresh : ℕ} {got : List TcpByte} {e : FrameHeaderError}
      (hpc : s.pcs t = .rereading query reply runtime refresh got)
      (hread : readFrame (untagged got) = .invalid e) :
    TcpMove w s (.receive t) (s.fail t)
  | refresh {t : τ} {query : ℕ} {reply : List TcpByte} {runtime : RuntimeSnapshot}
      {refresh len : ℕ} {got : List TcpByte}
      (hpc : s.pcs t = .rereading query reply runtime refresh got)
      (hread : readFrame (untagged got) = .whole len) :
    TcpMove w s (.receive t) (s.afterRefresh w t query reply runtime refresh got)
  | timeout {t : τ} {query : ℕ} {got : List TcpByte} (hpc : s.pcs t = .reading query got) :
    TcpMove w s (.timeout t) (s.fail t)
  | retimeout {t : τ} {query : ℕ} {reply : List TcpByte} {runtime : RuntimeSnapshot}
      {refresh : ℕ} {got : List TcpByte}
      (hpc : s.pcs t = .rereading query reply runtime refresh got) :
    TcpMove w s (.timeout t) (s.fail t)
  | close {t : τ} (hpc : s.pcs t = .closing) (hio : s.io = none) :
    TcpMove w s (.close t) { s.goto t .idle with closed := true }
  | serve {a : TcpServerAct} {s' : TcpState τ} (hserve : s.handleQueryStream w a = some s') :
    TcpMove w s (.serve a) s'

/-- **What a step can do**, with what it has found on the stream and in the
threads: the inversion of `TcpState.step`, from which both invariants are
proved. -/
theorem TcpState.move_of_step {w : Wire} {a : TcpAct τ} {s s' : TcpState τ}
    (hs : s.step w a = some s') : TcpMove w s a s' := by
  cases a with
  | query t =>
    simp only [TcpState.step] at hs
    split at hs
    · rename_i hpc
      cases hs
      exact .query hpc
    · cases hs
  | lock t =>
    simp only [TcpState.step] at hs
    split at hs
    · rename_i hpc hio
      cases hs
      exact .lock hpc hio
    · cases hs
  | write t failsAfter =>
    simp only [TcpState.step] at hs
    split at hs
    · rename_i hpc
      split at hs
      · rename_i hframe
        cases hs
        exact .notSent hpc hframe
      · rename_i hframe
        cases hs
        exact .send hpc hframe
    · rename_i hpc
      split at hs
      · rename_i hframe
        cases hs
        exact .notResent hpc hframe
      · rename_i hframe
        cases hs
        exact .resend hpc hframe
    · cases hs
  | read t =>
    simp only [TcpState.step] at hs
    split at hs
    · rename_i hclient hpc
      split at hs
      · rename_i hmore
        cases hs
        exact .read hpc hclient hmore
      · cases hs
    · rename_i hclient hpc
      split at hs
      · rename_i hmore
        cases hs
        exact .reread hpc hclient hmore
      · cases hs
    · cases hs
  | receive t =>
    simp only [TcpState.step] at hs
    split at hs
    · rename_i hpc
      split at hs
      · cases hs
      · rename_i hread
        cases hs
        exact .notReceived hpc hread
      · rename_i hread
        cases hs
        exact .receive hpc hread
    · rename_i hpc
      split at hs
      · cases hs
      · rename_i hread
        cases hs
        exact .notRefreshed hpc hread
      · rename_i hread
        cases hs
        exact .refresh hpc hread
    · cases hs
  | timeout t =>
    simp only [TcpState.step] at hs
    split at hs
    · rename_i hpc
      cases hs
      exact .timeout hpc
    · rename_i hpc
      cases hs
      exact .retimeout hpc
    · cases hs
  | close t =>
    simp only [TcpState.step] at hs
    split at hs
    · rename_i hpc hio
      cases hs
      exact .close hpc hio
    · cases hs
  | serve a => exact .serve hs

end System

section Server

variable {τ : Type*}

/-- What the server does, with what it has found. -/
inductive TcpServed (w : Wire) (s : TcpState τ) : TcpServerAct → TcpState τ → Prop
  | invalid {e : FrameHeaderError} (hserver : s.server = .waiting)
      (hread : readFrame (untagged s.toServer) = .invalid e) :
    TcpServed w s .read { s with server := .done }
  | disconnect {len : ℕ} (hserver : s.server = .waiting)
      (hread : readFrame (untagged s.toServer) = .whole len)
      (hdisc : Server.isDisconnect (untagged (s.toServer.take len)) = true) :
    TcpServed w s .read { s with toServer := s.toServer.drop len, server := .done }
  | read {len : ℕ} (hserver : s.server = .waiting)
      (hread : readFrame (untagged s.toServer) = .whole len)
      (hdisc : Server.isDisconnect (untagged (s.toServer.take len)) = false) :
    TcpServed w s .read
      { s with toServer := s.toServer.drop len, server := .handling (s.toServer.take len) }
  | failed {latest : Server.Latest} {frame : List TcpByte} {e : Server.TransportError}
      (hserver : s.server = .handling frame)
      (hhandle : Server.handleFrame w latest (untagged frame) = .error e) :
    TcpServed w s (.handle latest) { s with server := .done }
  | handle {latest : Server.Latest} {frame : List TcpByte} {response : Bytes}
      (hserver : s.server = .handling frame)
      (hhandle : Server.handleFrame w latest (untagged frame) = .ok response) :
    TcpServed w s (.handle latest)
      { s with server := .write (tagged (commonRequest frame) response) }
  | write {b : TcpByte} {bs : List TcpByte} (hserver : s.server = .writing b bs) :
    TcpServed w s .write { s with toClient := s.toClient ++ [b], server := .write bs }
  | hangUp : TcpServed w s .hangUp { s with server := .done }

/-- **What the server can do**: read a frame, refuse it or leave on it, handle
it, fail on it, write a byte, or hang up at any time. -/
theorem TcpState.served_of_handleQueryStream {w : Wire} {a : TcpServerAct} {s s' : TcpState τ}
    (hs : s.handleQueryStream w a = some s') : TcpServed w s a s' := by
  cases a with
  | read =>
    simp only [TcpState.handleQueryStream] at hs
    split at hs
    · rename_i hserver
      split at hs
      · cases hs
      · rename_i hread
        cases hs
        exact .invalid hserver hread
      · rename_i len hread
        cases hdisc : Server.isDisconnect (untagged (s.toServer.take len)) with
        | true =>
          rw [hdisc, if_pos rfl] at hs
          cases hs
          exact .disconnect hserver hread hdisc
        | false =>
          rw [hdisc, if_neg Bool.false_ne_true] at hs
          cases hs
          exact .read hserver hread hdisc
    · cases hs
  | handle latest =>
    simp only [TcpState.handleQueryStream] at hs
    split at hs
    · rename_i hserver
      split at hs
      · rename_i hhandle
        cases hs
        exact .failed hserver hhandle
      · rename_i hhandle
        cases hs
        exact .handle hserver hhandle
    · cases hs
  | write =>
    simp only [TcpState.handleQueryStream] at hs
    split at hs
    · rename_i hserver
      cases hs
      exact .write hserver
    · cases hs
  | hangUp =>
    cases hs
    exact .hangUp

end Server

/-! ### Whose reply a call has read -/

/-- All the bytes belong to the request. -/
def OwnBytes (request : ℕ) (bytes : List TcpByte) : Prop := ∀ b ∈ bytes, b.request = some request

/-- What the call took for the replies to its requests are the replies to them. -/
structure TcpCall.Own (call : TcpCall) : Prop where
  reply : OwnBytes call.query call.reply
  refresh : ∀ request got, call.refresh = some (request, got) → OwnBytes request got

/-- The snapshot is what they say. -/
def TcpCall.Built (w : Wire) (call : TcpCall) : Prop :=
  ∃ runtime metadata, parseRuntimePayloadFrame w (untagged call.reply) = .ok runtime ∧
    call.snapshot = runtime.toSnapshot metadata ∧
      ∀ request got, call.refresh = some (request, got) →
        parseHandshakeReply w (untagged got) = .ok metadata

/-! ### A stream on which nothing is left -/

/-- The tags are taken off again. -/
theorem untagged_tagged (request : Option ℕ) (bytes : Bytes) :
    untagged (tagged request bytes) = bytes := by
  simp [untagged, tagged, Function.comp_def]

/-- Tagging does not change the number of bytes. -/
theorem length_tagged (request : Option ℕ) (bytes : Bytes) :
    (tagged request bytes).length = bytes.length := List.length_map _

/-- The tagged bytes are those of the request. -/
theorem ownBytes_tagged (request : ℕ) (bytes : Bytes) :
    OwnBytes request (tagged (some request) bytes) := by
  intro b hb
  obtain ⟨byte, -, rfl⟩ := List.mem_map.1 hb
  rfl

/-- Their common request is the one they are tagged with, if there are any. -/
theorem commonRequest_tagged {request : Option ℕ} {bytes : Bytes} (h : bytes ≠ []) :
    commonRequest (tagged request bytes) = request := by
  cases bytes with
  | nil => exact absurd rfl h
  | cons byte bytes => simp [tagged, commonRequest]

/-- Nothing is left on the stream: no reply to be read, and the server is gone, or waits for
a request of which it has nothing yet. -/
def TcpState.Quiet {τ : Type*} (s : TcpState τ) : Prop :=
  s.toClient = [] ∧ (s.server = .done ∨ s.server = .waiting ∧ s.toServer = [])

/-- A thread that takes the lock finds the connection closed, or nothing left on the
stream: every earlier request has been answered in full, or never will be, and all of the
answers has been read. -/
def Settled {τ : Type*} (s : TcpState τ) : TcpAct τ → Prop
  | .lock _ => s.closed = true ∨ s.Quiet
  | _ => True

instance {τ : Type*} (s : TcpState τ) : DecidablePred (Settled s)
  | .lock _ =>
    inferInstanceAs (Decidable (s.closed = true ∨
      s.toClient = [] ∧ (s.server = .done ∨ s.server = .waiting ∧ s.toServer = [])))
  | .query _ | .write _ _ | .read _ | .receive _ | .timeout _ | .close _ | .serve _ =>
    .isTrue trivial

/-- The exchange of a thread that has sent a request and read these bytes: the request is
on the stream, or the server handles it, or has written a part of the reply, or is gone. -/
inductive TcpState.Exchange {τ : Type*} (s : TcpState τ) (request : ℕ) (got : List TcpByte) : Prop
  | asked {frame : Bytes} {header : FrameHeader} {payload : Bytes}
      (hframe : decodeFrame frame = .ok (header, payload)) (hserver : s.server = .waiting)
      (hasked : s.toServer = tagged (some request) frame) (hclient : s.toClient = [])
      (hgot : got = [])
  | handled {frame : Bytes} {header : FrameHeader} {payload : Bytes}
      (hframe : decodeFrame frame = .ok (header, payload))
      (hserver : s.server = .handling (tagged (some request) frame)) (hasked : s.toServer = [])
      (hclient : s.toClient = []) (hgot : got = [])
  | answered {reply : Bytes} {header : FrameHeader} {payload : Bytes} (rest : List TcpByte)
      (hreply : decodeFrame reply = .ok (header, payload)) (hserver : s.server = .write rest)
      (hasked : s.toServer = []) (hclient : got ++ s.toClient ++ rest = tagged (some request) reply)
  | gone {reply : Bytes} {header : FrameHeader} {payload : Bytes}
      (hreply : decodeFrame reply = .ok (header, payload)) (hserver : s.server = .done)
      (hclient : got ++ s.toClient <+: tagged (some request) reply)

/-- What is known of the thread in the lock. -/
def TcpState.InCall {τ : Type*} (w : Wire) (s : TcpState τ) : TcpPc → Prop
  | .sending => s.closed = true ∨ s.Quiet
  | .reading query got => s.Exchange query got
  | .refreshing query reply runtime =>
    (s.closed = true ∨ s.Quiet) ∧ OwnBytes query reply ∧
      parseRuntimePayloadFrame w (untagged reply) = .ok runtime
  | .rereading query reply runtime refresh got =>
    s.Exchange refresh got ∧ OwnBytes query reply ∧
      parseRuntimePayloadFrame w (untagged reply) = .ok runtime
  | _ => False

/-- A thread that has not got the lock. -/
def TcpPc.outside : TcpPc → Bool
  | .idle | .locking | .closing => true
  | _ => false

/-- The invariant: one thread at most is in the lock, with nothing on the stream but
its own exchange; and the calls that have succeeded have read their own replies. -/
structure Orderly {τ : Type*} (w : Wire) (s : TcpState τ) : Prop where
  holder : ∀ t, s.io = some t → s.InCall w (s.pcs t)
  others : ∀ t, s.io ≠ some t → (s.pcs t).outside = true
  returned : ∀ c ∈ s.returned, c.Own ∧ c.Built w

section Exchange

variable {τ : Type*} {w : Wire} {s s' : TcpState τ} {request : ℕ} {got : List TcpByte}

/-- A whole frame, of a part of a reply, is all of the reply. -/
theorem whole_of_prefix {len : ℕ} {reply : Bytes} {hp : FrameHeader × Bytes}
    (hreply : decodeFrame reply = .ok hp) (hpre : got <+: tagged (some request) reply)
    (hr : readFrame (untagged got) = .whole len) : got = tagged (some request) reply := by
  have hbytes : untagged got <+: reply := by
    have hmap := hpre.map TcpByte.byte
    rwa [show (tagged (some request) reply).map TcpByte.byte = reply from
      untagged_tagged _ _] at hmap
  have heq : untagged got = reply := eq_of_readFrame_whole hreply hbytes hr
  refine hpre.eq_of_length_le ?_
  rw [length_tagged, ← heq, untagged, List.length_map]

/-- **A reply that has been read in full** is all there was: its bytes are
those of the request, and the stream is quiet behind it. -/
theorem TcpState.Exchange.whole (h : s.Exchange request got) {len : ℕ}
    (hr : readFrame (untagged got) = .whole len) : OwnBytes request got ∧ s.Quiet := by
  cases h with
  | asked _ _ _ _ hgot | handled _ _ _ _ hgot =>
    subst hgot
    cases hr
  | @answered reply _ _ rest hreply hserver hasked hclient =>
    rw [List.append_assoc] at hclient
    have hgot : got = tagged (some request) reply :=
      whole_of_prefix hreply (hclient ▸ List.prefix_append _ _) hr
    rw [hgot, List.append_right_eq_self, List.append_eq_nil_iff] at hclient
    obtain ⟨hclient, rfl⟩ := hclient
    exact ⟨hgot ▸ ownBytes_tagged request reply, hclient, .inr ⟨hserver, hasked⟩⟩
  | @gone reply _ _ hreply hserver hclient =>
    have hgot : got = tagged (some request) reply :=
      whole_of_prefix hreply ((List.prefix_append _ _).trans hclient) hr
    have hall := hclient.length_le
    rw [List.length_append, ← hgot] at hall
    exact ⟨hgot ▸ ownBytes_tagged request reply, List.length_eq_zero_iff.1 (by omega),
      .inl hserver⟩

/-- A byte more. -/
theorem TcpState.Exchange.read (h : s.Exchange request got) {b : TcpByte} {bs : List TcpByte}
    (hclient : s.toClient = b :: bs) (hserver : s'.server = s.server)
    (hasked : s'.toServer = s.toServer) (hbs : s'.toClient = bs) :
    s'.Exchange request (got ++ [b]) := by
  have hgot : got ++ [b] ++ s'.toClient = got ++ s.toClient := by
    rw [hbs, hclient, List.append_assoc, List.singleton_append]
  cases h with
  | asked _ _ _ hnil | handled _ _ _ hnil =>
    rw [hclient] at hnil
    cases hnil
  | answered rest hreply hs ha hp =>
    exact .answered rest hreply (hserver.trans hs) (hasked.trans ha) (hgot ▸ hp)
  | gone hreply hs hp => exact .gone hreply (hserver.trans hs) (hgot ▸ hp)

/-- The exchange is one of the stream, whatever else changes. -/
theorem TcpState.Exchange.of_eq (h : s.Exchange request got) (hserver : s'.server = s.server)
    (hasked : s'.toServer = s.toServer) (hclient : s'.toClient = s.toClient) :
    s'.Exchange request got := by
  cases h with
  | asked hframe hs ha hc hgot =>
    exact .asked hframe (hserver.trans hs) (hasked.trans ha) (hclient.trans hc) hgot
  | handled hframe hs ha hc hgot =>
    exact .handled hframe (hserver.trans hs) (hasked.trans ha) (hclient.trans hc) hgot
  | answered rest hreply hs ha hp =>
    exact .answered rest hreply (hserver.trans hs) (hasked.trans ha) (hclient ▸ hp)
  | gone hreply hs hp => exact .gone hreply (hserver.trans hs) (hclient ▸ hp)

/-- The server goes: what it has not written it never will. -/
theorem TcpState.Exchange.hangUp (h : s.Exchange request got) (hserver : s'.server = .done)
    (hclient : s'.toClient = s.toClient) : s'.Exchange request got := by
  cases h with
  | asked hframe _ _ hc hgot | handled hframe _ _ hc hgot =>
    refine .gone hframe hserver ?_
    rw [hgot, hclient, hc]
    exact List.nil_prefix
  | answered rest hreply _ _ hp =>
    exact .gone hreply hserver (hclient ▸ hp ▸ List.prefix_append _ _)
  | gone hreply _ hp => exact .gone hreply hserver (hclient ▸ hp)

/-- On a stream on which nothing is left, the server can only go. -/
theorem TcpState.Quiet.serve (h : s.Quiet) {a : TcpServerAct}
    (hs : s.handleQueryStream w a = some s') : s'.Quiet := by
  obtain ⟨hclient, hserver⟩ := h
  have hpc : s.server = .done ∨ s.server = .waiting := hserver.imp_right And.left
  cases TcpState.served_of_handleQueryStream hs with
  | invalid | hangUp => exact ⟨hclient, .inl rfl⟩
  | disconnect => exact ⟨hclient, .inl rfl⟩
  | read hwaiting hread =>
    rcases hserver with hdone | ⟨-, hnil⟩
    · cases hwaiting.symm.trans hdone
    · rw [hnil] at hread
      cases hread
  | failed h | handle h | write h => rcases hpc with hpc | hpc <;> cases h.symm.trans hpc

/-- **The server answers** the request of the exchange, and nothing else, step
by step: it reads the request, handles it, and writes the reply byte by byte.
-/
theorem TcpState.Exchange.serve (hw : w.ShortResponses) (h : s.Exchange request got)
    {a : TcpServerAct} (hs : s.handleQueryStream w a = some s') : s'.Exchange request got := by
  cases TcpState.served_of_handleQueryStream hs with
  | invalid | disconnect | failed | hangUp => exact h.hangUp rfl rfl
  | read hwaiting hread =>
    cases h with
    | @asked frame _ _ hframe _ hasked hclient hgot =>
      have hwhole : readFrame (frame ++ []) = .whole frame.length := readFrame_append hframe
      rw [hasked, untagged_tagged, ← List.append_nil frame, hwhole] at hread
      cases hread
      rw [← length_tagged (some request) frame, hasked, List.take_length, List.drop_length]
      exact .handled hframe rfl rfl hclient hgot
    | handled _ hserver => cases hwaiting.symm.trans hserver
    | answered rest _ hserver hasked =>
      rw [hasked] at hread
      cases hread
    | gone _ hserver => cases hwaiting.symm.trans hserver
  | @handle latest frame response hhandling hhandle =>
    cases h with
    | asked _ hserver => cases hhandling.symm.trans hserver
    | @handled frame' _ _ hframe hserver hasked hclient hgot =>
      cases hhandling.symm.trans hserver
      obtain ⟨t, id, p, rfl, hlen⟩ := Server.exists_of_handleFrame hw hhandle
      have hd : decodeFrame (Server.encodeTransportFrame t id p) = .ok _ :=
        Server.decodeFrame_encodeTransportFrame hlen
      have hne : frame' ≠ [] := by
        rintro rfl
        cases hframe
      rw [commonRequest_tagged hne]
      refine .answered (tagged (some request) (Server.encodeTransportFrame t id p)) hd rfl hasked ?_
      rw [hgot, hclient]
      rfl
    | answered rest _ hserver =>
      exact absurd (hserver.symm.trans hhandling) (TcpServerPc.write_ne_handling rest _)
    | gone _ hserver => cases hhandling.symm.trans hserver
  | @write b bs hwriting =>
    cases h with
    | asked _ hserver | handled _ hserver | gone _ hserver => cases hwriting.symm.trans hserver
    | answered rest hreply hserver hasked hclient =>
      obtain rfl := TcpServerPc.write_eq_writing.1 (hserver.symm.trans hwriting)
      refine .answered bs hreply rfl hasked ?_
      rw [← hclient]
      simp only [List.append_assoc, List.singleton_append]

/-- What a step of the server leaves alone. -/
theorem TcpState.handleQueryStream_frame {a : TcpServerAct}
    (hs : s.handleQueryStream w a = some s') :
    s'.io = s.io ∧ s'.closed = s.closed ∧ s'.metadata = s.metadata ∧ s'.pcs = s.pcs ∧
      s'.returned = s.returned := by
  cases TcpState.served_of_handleQueryStream hs <;> exact ⟨rfl, rfl, rfl, rfl, rfl⟩

end Exchange

section Orderly

variable {τ : Type*} {w : Wire} {s s' : TcpState τ} {t : τ}

/-- What is known of the thread in the lock stays known while nothing is put back on the
stream. -/
theorem TcpState.InCall.mono {pc : TcpPc} (h : s.InCall w pc)
    (hquiet : s.closed = true ∨ s.Quiet → s'.closed = true ∨ s'.Quiet)
    (hexchange : ∀ request got, s.Exchange request got → s'.Exchange request got) :
    s'.InCall w pc := by
  cases pc with
  | sending => exact hquiet h
  | reading query got => exact hexchange _ _ h
  | refreshing query reply runtime => exact ⟨hquiet h.1, h.2⟩
  | rereading query reply runtime refresh got => exact ⟨hexchange _ _ h.1, h.2⟩
  | idle | locking | closing => exact h

/-- A thread about which something is known has the lock. -/
theorem TcpState.InCall.not_outside : ∀ {pc : TcpPc}, s.InCall w pc → pc.outside = false
  | .sending, _ | .reading _ _, _ | .refreshing _ _ _, _ | .rereading _ _ _ _ _, _ => rfl

/-- A thread that is past the lock has it. -/
theorem Orderly.holds (h : Orderly w s) (ht : (s.pcs t).outside = false) : s.io = some t := by
  by_contra hio
  rw [h.others t hio] at ht
  cases ht

/-- What is known of it. -/
theorem Orderly.inCall (h : Orderly w s) {pc : TcpPc} (hpc : s.pcs t = pc)
    (ht : pc.outside = false) : s.io = some t ∧ s.InCall w pc := by
  have hio : s.io = some t := h.holds (hpc ▸ ht)
  exact ⟨hio, hpc ▸ h.holder t hio⟩

/-- **A step beside the lock**: no thread takes or leaves it, and the thread
in it, if there is one, stays where it is. -/
theorem Orderly.beside (h : Orderly w s) (hio : s'.io = s.io) (hreturned : s'.returned = s.returned)
    (hin : ∀ pc, s.InCall w pc → s'.InCall w pc)
    (hpcs : ∀ t, s'.pcs t = s.pcs t ∨ (s.pcs t).outside = true ∧ (s'.pcs t).outside = true) :
    Orderly w s' where
  holder t ht := by
    have hs := h.holder t (hio ▸ ht)
    rcases hpcs t with heq | ⟨hout, -⟩
    · exact heq ▸ hin _ hs
    · rw [hs.not_outside] at hout
      cases hout
  others t ht := by
    rcases hpcs t with heq | ⟨-, hout⟩
    · exact heq ▸ h.others t (hio ▸ ht)
    · exact hout
  returned := hreturned ▸ h.returned

variable [DecidableEq τ] {pc : TcpPc}

/-- A thread that goes on outside of the lock. -/
theorem outside_update {pcs : τ → TcpPc} (ht : (pcs t).outside = true) (hpc : pc.outside = true)
    (t' : τ) : Function.update pcs t pc t' = pcs t' ∨
      (pcs t').outside = true ∧ (Function.update pcs t pc t').outside = true := by
  by_cases heq : t' = t
  · rw [heq, Function.update_self]
    exact .inr ⟨ht, hpc⟩
  · exact .inl (Function.update_of_ne heq _ _)

/-- **A step in the lock**: the thread that has it, or takes it, goes on in
its call. -/
theorem Orderly.within (h : Orderly w s) (ht : s.io = some t ∨ s.io = none)
    (hio : s'.io = some t) (hreturned : s'.returned = s.returned)
    (hpcs : s'.pcs = Function.update s.pcs t pc) (hin : s'.InCall w pc) : Orderly w s' where
  holder t' ht' := by
    obtain rfl := Option.some.inj (hio.symm.trans ht')
    rwa [hpcs, Function.update_self]
  others t' ht' := by
    have hne : t' ≠ t := fun heq => ht' (heq ▸ hio)
    rw [hpcs, Function.update_of_ne hne]
    refine h.others t' ?_
    rcases ht with hs | hs
    · exact fun hs' => hne (Option.some.inj (hs'.symm.trans hs))
    · exact fun hs' => nomatch hs.symm.trans hs'
  returned := hreturned ▸ h.returned

/-- **A step out of the lock**: the thread gives it up, and what it has
returned is its own. -/
theorem Orderly.leave (h : Orderly w s) (ht : s.io = some t) (pc : TcpPc) (hpc : pc.outside = true)
    (hio : s'.io = none) (hpcs : s'.pcs = Function.update s.pcs t pc)
    (hreturned : ∀ c ∈ s'.returned, c.Own ∧ c.Built w) : Orderly w s' where
  holder t' ht' := nomatch hio.symm.trans ht'
  others t' _ := by
    rw [hpcs]
    by_cases heq : t' = t
    · rwa [heq, Function.update_self]
    · rw [Function.update_of_ne heq]
      exact h.others t' fun hs => heq (Option.some.inj (hs.symm.trans ht))
  returned := hreturned

/-- A call that fails. -/
theorem Orderly.fail (h : Orderly w s) (ht : s.io = some t) : Orderly w (s.fail t) :=
  h.leave ht .closing rfl rfl rfl h.returned

/-- A call that returns what it has read of its own replies. -/
theorem Orderly.finish (h : Orderly w s) (ht : s.io = some t) {call : TcpCall}
    (hown : call.Own) (hbuilt : call.Built w) : Orderly w (s.finish t call) :=
  h.leave ht .idle rfl rfl rfl
    (List.forall_mem_cons.2 ⟨⟨hown, hbuilt⟩, h.returned⟩)

/-- **A request is sent** on a stream on which nothing is left, in full or up
to a failure, and its exchange begins. -/
theorem Orderly.writeAll (h : Orderly w s) (ht : s.io = some t)
    (hquiet : s.closed = true ∨ s.Quiet) {frame payload : Bytes} {header : FrameHeader}
    (hframe : decodeFrame frame = .ok (header, payload)) {failsAfter : Option ℕ}
    {next : ℕ → TcpPc}
    (hnext : ∀ s' : TcpState τ, s'.Exchange s.nextRequest [] → s'.InCall w (next s.nextRequest)) :
    Orderly w (s.writeAll t frame failsAfter next) := by
  unfold TcpState.writeAll
  split_ifs with hclosed
  · exact h.fail ht
  cases failsAfter with
  | some n => exact h.leave ht .closing rfl rfl rfl h.returned
  | none =>
    obtain ⟨hclient, hserver⟩ := hquiet.resolve_left hclosed
    refine h.within (.inl ht) ht rfl rfl (hnext _ ?_)
    rcases hserver with hdone | ⟨hwaiting, hnil⟩
    · refine .gone hframe hdone ?_
      dsimp only
      rw [hclient]
      exact List.nil_prefix
    · exact .asked hframe hwaiting (by rw [hnil, List.nil_append]) hclient rfl

/-- The reply to a query has been read. -/
theorem Orderly.afterQuery (h : Orderly w s) (ht : s.io = some t) {query len : ℕ}
    {reply : List TcpByte} (hexchange : s.Exchange query reply)
    (hread : readFrame (untagged reply) = .whole len) :
    Orderly w (s.afterQuery w t query reply) := by
  obtain ⟨hown, hquiet⟩ := hexchange.whole hread
  unfold TcpState.afterQuery
  cases hparse : parseRuntimePayloadFrame w (untagged reply) with
  | error e =>
    obtain ⟨e', he'⟩ := parseQueryReply_eq_error hparse s.metadata
    rw [he']
    exact h.fail ht
  | ok runtime =>
    dsimp only
    split_ifs
    · exact h.within (.inl ht) ht rfl rfl
        ⟨.inr hquiet, hown, hparse⟩
    · exact h.finish ht ⟨hown, nofun⟩ ⟨runtime, s.metadata, hparse, rfl, nofun⟩

/-- The reply to a refresh of the metadata has been read. -/
theorem Orderly.afterRefresh (h : Orderly w s) (ht : s.io = some t) {query refresh len : ℕ}
    {reply got : List TcpByte} {runtime : RuntimeSnapshot} (hown : OwnBytes query reply)
    (hparse : parseRuntimePayloadFrame w (untagged reply) = .ok runtime)
    (hexchange : s.Exchange refresh got) (hread : readFrame (untagged got) = .whole len) :
    Orderly w (s.afterRefresh w t query reply runtime refresh got) := by
  obtain ⟨hown', -⟩ := hexchange.whole hread
  unfold TcpState.afterRefresh
  cases hparse' : parseHandshakeReply w (untagged got) with
  | error e => exact h.fail ht
  | ok metadata =>
    refine h.leave ht .idle rfl rfl rfl
      (List.forall_mem_cons.2 ⟨⟨⟨hown, ?_⟩, runtime, metadata, hparse, rfl, ?_⟩, h.returned⟩)
    · intro request got' heq
      obtain ⟨rfl, rfl⟩ := Prod.mk.inj (Option.some.inj heq)
      exact hown'
    · intro request got' heq
      obtain ⟨rfl, rfl⟩ := Prod.mk.inj (Option.some.inj heq)
      exact hparse'

/-- **Every step keeps the invariant**, as long as a thread that takes the lock finds the
connection closed or nothing left on the stream. -/
theorem orderly_step (hw : w.ShortResponses) {a : TcpAct τ} (h : Orderly w s)
    (hs : s.step w a = some s') (hsettled : Settled s a) : Orderly w s' := by
  cases TcpState.move_of_step hs with
  | query hpc =>
    exact h.beside rfl rfl (fun _ hin => hin.mono id fun _ _ hx => hx.of_eq rfl rfl rfl)
      (outside_update (hpc ▸ rfl) rfl)
  | lock hpc hio => exact h.within (.inr hio) rfl rfl rfl hsettled
  | notSent hpc hframe => exact h.fail (h.inCall hpc rfl).1
  | send hpc hframe =>
    obtain ⟨ht, hin⟩ := h.inCall hpc rfl
    obtain ⟨header, payload, -, hd, -⟩ := decodeFrame_of_encodeJsonFrame hframe
    exact h.writeAll ht hin hd fun _ hx => hx
  | notResent hpc hframe => exact h.fail (h.inCall hpc rfl).1
  | resend hpc hframe =>
    obtain ⟨ht, hquiet, hown, hparse⟩ := h.inCall hpc rfl
    obtain ⟨header, payload, -, hd, -⟩ := decodeFrame_of_encodeJsonFrame hframe
    exact h.writeAll ht hquiet hd fun _ hx => ⟨hx, hown, hparse⟩
  | read hpc hclient hmore =>
    obtain ⟨ht, hexchange⟩ := h.inCall hpc rfl
    exact h.within (.inl ht) ht rfl rfl (hexchange.read hclient rfl rfl rfl)
  | reread hpc hclient hmore =>
    obtain ⟨ht, hexchange, hread⟩ := h.inCall hpc rfl
    exact h.within (.inl ht) ht rfl rfl ⟨hexchange.read hclient rfl rfl rfl, hread⟩
  | notReceived hpc hread => exact h.fail (h.inCall hpc rfl).1
  | receive hpc hread =>
    obtain ⟨ht, hexchange⟩ := h.inCall hpc rfl
    exact h.afterQuery ht hexchange hread
  | notRefreshed hpc hread => exact h.fail (h.inCall hpc rfl).1
  | refresh hpc hread =>
    obtain ⟨ht, hexchange, hown, hparse⟩ := h.inCall hpc rfl
    exact h.afterRefresh ht hown hparse hexchange hread
  | timeout hpc => exact h.fail (h.inCall hpc rfl).1
  | retimeout hpc => exact h.fail (h.inCall hpc rfl).1
  | close hpc hio =>
    exact h.beside rfl rfl
      (fun _ hin => hin.mono (fun _ => .inl rfl) fun _ _ hx => hx.of_eq rfl rfl rfl)
      (outside_update (hpc ▸ rfl) rfl)
  | serve hserve =>
    obtain ⟨hio, hclosed, -, hpcs, hreturned⟩ := TcpState.handleQueryStream_frame hserve
    exact h.beside hio hreturned
      (fun _ hin => hin.mono (Or.imp hclosed.trans fun hquiet => hquiet.serve hserve)
        fun _ _ hx => hx.serve hw hserve)
      fun t' => .inl (congrFun hpcs t')

/-- **Every call that succeeds has read the reply to its own request**, and the snapshot
it returns is made of that, in every run in which a thread that takes the lock of the
stream finds the connection closed or nothing left on the stream. -/
theorem tcp_calls_attributed {metadata : HostMetadata} (hw : w.ShortResponses)
    (h : ((tcpSystem τ w metadata).restrict Settled).Reachable s) :
    ∀ c ∈ s.returned, c.Own ∧ c.Built w := by
  have horderly : Orderly w s := by
    refine h.invariant ?_ fun s a s' hs hstep => orderly_step hw hs hstep.1 hstep.2
    rintro s rfl
    exact ⟨nofun, fun _ _ => rfl, List.forall_mem_nil _⟩
  exact horderly.returned

end Orderly

/-! ### Two runs -/

/-- A query is one byte, and so is each archive. -/
def shortWire : Wire :=
  { twoSnapshotWire with
    queryRequest := .table [({ version := PROTOCOL_VERSION, requestId := 2 }, [1])] }

/-- The responses of this wire are short enough for a frame. -/
theorem shortResponses_shortWire : shortWire.ShortResponses := by
  intro r b h
  exact absurd (Codec.mem_of_table h : (r, b) ∈ []) List.not_mem_nil

/-- The server reads a frame, has it handled, and writes a frame with one byte of payload. -/
def serveReply (latest : Server.Latest) : List (TcpAct Bool) :=
  [.serve .read, .serve (.handle latest)] ++
    List.replicate (FRAME_HEADER_LEN + 1) (.serve .write)

/-- The thread reads it. -/
def readReply (t : Bool) : List (TcpAct Bool) :=
  List.replicate (FRAME_HEADER_LEN + 1) (.read t) ++ [.receive t]

/-- Two calls, one after the other; the second refreshes the metadata. -/
def settledRun : List (TcpAct Bool) :=
  [.query false, .query true, .lock false, .write false none] ++
    serveReply (.ok (oneGres "a" 1)) ++ readReply false ++ [.lock true, .write true none] ++
    serveReply (.ok (oneGres "b" 2)) ++ readReply true ++ [.write true none] ++
    serveReply (.ok (oneGres "b" 2)) ++ readReply true

/-- The first call times out while its request is handled, and the second takes the lock
before the connection is closed. -/
def lateRun : List (TcpAct Bool) :=
  [.query false, .query true, .lock false, .write false none, .serve .read, .timeout false,
    .lock true, .write true none, .serve (.handle (.ok (oneGres "a" 1)))] ++
    List.replicate (FRAME_HEADER_LEN + 1) (.serve .write) ++ readReply true

/-- What the calls have returned after these steps. -/
def settledReturned : Option (List TcpCall) :=
  (Lts.exec (fun s a => if Settled s a then TcpState.step shortWire s a else none)
    { metadata := HostMetadata.fromSnapshot (oneGres "a" 1) } settledRun).map TcpState.returned

/-- The two calls have read their own replies, three in all. -/
theorem tcp_calls_attributed_settled : ∃ calls, settledReturned = some calls ∧
    calls.map TcpCall.snapshot = [oneGres "b" 2, oneGres "a" 1] ∧
    ∀ c ∈ calls, c.Own ∧ c.Built shortWire := by
  have hshown : settledReturned.map (List.map TcpCall.snapshot) =
      some [oneGres "b" 2, oneGres "a" 1] := by
    decide +kernel
  obtain ⟨calls, hcalls, hsnapshots⟩ := Option.map_eq_some_iff.1 hshown
  refine ⟨calls, hcalls, hsnapshots, ?_⟩
  obtain ⟨s, hs, rfl⟩ := Option.map_eq_some_iff.1 hcalls
  have hrun : ((tcpSystem Bool shortWire (HostMetadata.fromSnapshot (oneGres "a" 1))).restrict
      Settled).Run _ settledRun s := Lts.run_restrict_of_exec hs
  exact tcp_calls_attributed shortResponses_shortWire ⟨_, settledRun, rfl, hrun⟩

/-- The second call returns what the server has answered to the first, which had timed
out; its own request has not even been read. -/
theorem late_reply_taken : ¬ ∀ s,
    (tcpSystem Bool shortWire (HostMetadata.fromSnapshot (oneGres "a" 1))).Reachable s →
      ∀ c ∈ s.returned, c.Own := by
  intro h
  have hexec : (Lts.exec (TcpState.step shortWire)
      { metadata := HostMetadata.fromSnapshot (oneGres "a" 1) } lateRun).map TcpState.returned =
        some [{ query := 1
                reply := tagged (some 0) (Server.encodeTransportFrame .runtimePayload 2 [1])
                snapshot := oneGres "a" 1 }] := by
    decide +kernel
  obtain ⟨s, hs, hreturned⟩ := Option.map_eq_some_iff.1 hexec
  have hown := (h s ⟨_, lateRun, rfl, Lts.run_of_exec hs⟩ _
    (hreturned ▸ List.mem_singleton_self _)).reply
  have hfirst := hown { byte := 0x47, request := some 0 } (by decide +kernel)
  exact absurd (Option.some.inj hfirst) (by decide)

end Client
end Clustat
