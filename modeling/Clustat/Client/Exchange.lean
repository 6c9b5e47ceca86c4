/-
# Both transports deliver the entry

A query over TCP on a connection without faults: the thread that calls
`query_connected` (`crates/client-backend/src/tcp_client.rs`) and
`handle_query_stream` (`crates/server/src/main.rs`) take their steps in any order, the
stream hands over one byte after the other, and the entry of the cache stays current.
Every run of the call comes to the entry without the commands of the processes
(`tcp_query_delivers`).  With the same for UDP (`udp_query_delivers_iff`), both transports
deliver the entry exactly if UDP can carry the replies (`query_delivers_iff`): a server on
the loopback device cannot send a long one (`loopback_not_delivered`).
-/

import Clustat.Client.TcpNode
import Clustat.Client.UdpNode

namespace Clustat
namespace Client

open Udp

/-! ### A call without faults -/

section Call

variable {τ : Type*} [DecidableEq τ]

/-- A step of the thread's call or of the server that does not fail, while the entry is
current. -/
def Faultless (snapshot : ServerGresSnapshot) (t : τ) : TcpAct τ → Prop
  | .lock t' | .read t' | .receive t' => t' = t
  | .write t' failsAfter => t' = t ∧ failsAfter = none
  | .serve (.handle latest) => latest = current snapshot
  | .serve .read | .serve .write => True
  | .query _ | .timeout _ | .close _ | .serve .hangUp => False

/-- The thread has called `query_connected`, and both ends are there, with nothing on the
stream. -/
structure TcpState.Ready (s : TcpState τ) (t : τ) : Prop where
  locking : s.pcs t = .locking
  io : s.io = none
  opened : s.closed = false
  server : s.server = .waiting
  toServer : s.toServer = []
  toClient : s.toClient = []

/-- The call of the thread, from its beginning on. -/
def tcpExchange (w : Wire) (snapshot : ServerGresSnapshot) (t : τ) :
    Lts (TcpState τ) (TcpAct τ) where
  init s := s.Ready t
  step s a s' := s.step w a = some s' ∧ Faultless snapshot t a

/-- The call has returned the entry without its commands. -/
def TcpState.Delivered (snapshot : ServerGresSnapshot) (calls : List TcpCall) (s : TcpState τ) :
    Prop :=
  ∃ call, s.returned = call :: calls ∧ call.snapshot = omitProcessCommands snapshot

end Call

/-! ### A request on the stream -/

/-- A frame that is answered by another one while the entry is current. -/
structure TcpRequest (w : Wire) (snapshot : ServerGresSnapshot) where
  frame : Bytes
  reply : Bytes
  isFrame : ∃ hp, decodeFrame frame = .ok hp
  isFrame_reply : ∃ hp, decodeFrame reply = .ok hp
  handled : Server.handleFrame w (current snapshot) frame = .ok reply

section Answering

variable {τ : Type*} {w : Wire} {snapshot : ServerGresSnapshot} {r : TcpRequest w snapshot}
  {s s' : TcpState τ} {t : τ} {got : List TcpByte}

/-- A request is on the stream, or the server handles it, or what has not been read of the
reply is on the stream or still to be written. -/
inductive TcpState.Answering (s : TcpState τ) (r : TcpRequest w snapshot) (got : List TcpByte) :
    Prop
  | asked (hserver : s.server = .waiting) (hasked : untagged s.toServer = r.frame)
      (hclient : s.toClient = []) (hgot : got = [])
  | handled {frame : List TcpByte} (hserver : s.server = .handling frame)
      (hframe : untagged frame = r.frame) (hasked : s.toServer = []) (hclient : s.toClient = [])
      (hgot : got = [])
  | answered (rest : List TcpByte) (hserver : s.server = .write rest) (hasked : s.toServer = [])
      (hclient : untagged (got ++ s.toClient ++ rest) = r.reply)

/-- The bytes of two parts of a stream are those of the first and those of the
second. -/
theorem untagged_append (bytes bytes' : List TcpByte) :
    untagged (bytes ++ bytes') = untagged bytes ++ untagged bytes' := List.map_append

/-- A request is not empty. -/
theorem TcpRequest.ne_nil (r : TcpRequest w snapshot) {frame : List TcpByte}
    (h : untagged frame = r.frame) : frame ≠ [] := by
  rintro rfl
  obtain ⟨hp, hd⟩ := r.isFrame
  rw [← h] at hd
  cases hd

/-- How far the server is from the end of a reply: it handles the request, or has some bytes
to write. -/
def TcpServerPc.left : TcpServerPc → ℕ ×ₗ ℕ
  | .handling _ => toLex (1, 0)
  | .writing _ bs => toLex (0, bs.length + 1)
  | .waiting | .done => toLex (0, 0)

/-- A server that writes has the bytes left that it has not written. -/
theorem TcpServerPc.left_write (rest : List TcpByte) :
    (TcpServerPc.write rest).left = toLex (0, rest.length) := by
  cases rest <;> rfl

/-- The server finds the request on the stream, and nothing else. -/
theorem TcpState.Answering.readFrame_toServer (h : s.Answering r got) :
    s.toServer = [] ∨ untagged s.toServer = r.frame ∧ s.toClient = [] ∧ got = [] ∧
      readFrame (untagged s.toServer) = .whole s.toServer.length := by
  cases h with
  | handled _ _ hasked | answered _ _ hasked => exact .inl hasked
  | asked _ hasked hclient hgot =>
    obtain ⟨hp, hd⟩ := r.isFrame
    have hwhole : readFrame (r.frame ++ []) = .whole r.frame.length := readFrame_append hd
    rw [List.append_nil, ← hasked, untagged, List.length_map] at hwhole
    exact .inr ⟨hasked, hclient, hgot, hwhole⟩

/-- **The server goes on with the reply**: it reads the request, handles it, or writes a
byte. -/
theorem TcpState.Answering.serve (h : s.Answering r got) {a : TcpServerAct}
    (hs : s.handleQueryStream w a = some s') (ha : Faultless snapshot t (.serve a)) :
    s'.Answering r got ∧ (s'.toServer.length < s.toServer.length ∨
      s'.toServer = s.toServer ∧ s'.server.left < s.server.left) := by
  cases TcpState.served_of_handleQueryStream hs with
  | hangUp => exact ha.elim
  | invalid hwaiting hread =>
    rcases h.readFrame_toServer with hnil | ⟨-, -, -, hwhole⟩
    · rw [hnil] at hread
      cases hread
    · cases hwhole.symm.trans hread
  | disconnect hwaiting hread hdisc =>
    rcases h.readFrame_toServer with hnil | ⟨hasked, -, -, hwhole⟩
    · rw [hnil] at hread
      cases hread
    · cases hwhole.symm.trans hread
      rw [List.take_length, hasked, isDisconnect_of_handleFrame r.handled] at hdisc
      cases hdisc
  | read hwaiting hread hdisc =>
    rcases h.readFrame_toServer with hnil | ⟨hasked, hclient, hgot, hwhole⟩
    · rw [hnil] at hread
      cases hread
    · cases hwhole.symm.trans hread
      rw [List.take_length, List.drop_length]
      exact ⟨.handled rfl hasked rfl hclient hgot, .inl (List.length_pos_iff.2 (r.ne_nil hasked))⟩
  | failed hhandling hhandle =>
    obtain rfl : _ = current snapshot := ha
    cases h with
    | asked hserver => cases hhandling.symm.trans hserver
    | handled hserver hframe =>
      cases hhandling.symm.trans hserver
      rw [hframe, r.handled] at hhandle
      cases hhandle
    | answered rest hserver =>
      exact absurd (hserver.symm.trans hhandling) (TcpServerPc.write_ne_handling rest _)
  | @handle _ frame response hhandling hhandle =>
    obtain rfl : _ = current snapshot := ha
    cases h with
    | asked hserver => cases hhandling.symm.trans hserver
    | handled hserver hframe hasked hclient hgot =>
      cases hhandling.symm.trans hserver
      rw [hframe, r.handled] at hhandle
      cases hhandle
      refine ⟨.answered (tagged (commonRequest frame) r.reply) rfl hasked ?_, .inr ⟨rfl, ?_⟩⟩
      · rw [hgot, hclient]
        exact untagged_tagged _ _
      · dsimp only
        rw [TcpServerPc.left_write, hhandling]
        exact Prod.Lex.left _ _ Nat.one_pos
    | answered rest hserver =>
      exact absurd (hserver.symm.trans hhandling) (TcpServerPc.write_ne_handling rest _)
  | @write b bs hwriting =>
    cases h with
    | asked hserver | handled hserver => cases hwriting.symm.trans hserver
    | answered rest hserver hasked hclient =>
      obtain rfl := TcpServerPc.write_eq_writing.1 (hserver.symm.trans hwriting)
      refine ⟨.answered bs rfl hasked ?_, .inr ⟨rfl, ?_⟩⟩
      · rw [← hclient]
        simp only [List.append_assoc, List.singleton_append]
      · dsimp only
        rw [TcpServerPc.left_write, hwriting]
        exact Prod.Lex.right _ (Nat.lt_succ_self _)

/-- The server has something to do: a request to read or to handle, or a byte to write. -/
def TcpState.Busy (s : TcpState τ) : Prop :=
  s.toServer ≠ [] ∨ s.server ≠ .waiting

/-- **How far the reply has been read**: there is more to come, or it is whole. -/
theorem TcpState.Answering.readFrame_cases (h : s.Answering r got) :
    (readFrame (untagged got) = .more ∧ (s.Busy ∨ s.toClient ≠ [])) ∨
      (∃ len, readFrame (untagged got) = .whole len) ∧ untagged got = r.reply ∧
        s.server = .waiting ∧ s.toServer = [] ∧ s.toClient = [] := by
  cases h with
  | asked _ hasked _ hgot => exact .inl ⟨hgot ▸ rfl, .inl (.inl (r.ne_nil hasked))⟩
  | handled hserver _ _ _ hgot =>
    refine .inl ⟨hgot ▸ rfl, .inl (.inr fun hwaiting => ?_)⟩
    cases hserver.symm.trans hwaiting
  | answered rest hserver hasked hclient =>
    obtain ⟨hp, hd⟩ := r.isFrame_reply
    rw [List.append_assoc, untagged_append] at hclient
    have hprefix : untagged got <+: r.reply := hclient ▸ List.prefix_append _ _
    rw [readFrame_of_part hd hprefix]
    have hlength := congrArg List.length hclient
    simp only [List.length_append, untagged, List.length_map] at hlength
    rw [untagged, List.length_map]
    split_ifs with hshort
    · refine .inl ⟨rfl, ?_⟩
      cases rest with
      | cons b bs =>
        refine .inl (.inr fun hwaiting => ?_)
        cases hserver.symm.trans hwaiting
      | nil =>
        refine .inr fun hnil => ?_
        rw [hnil, List.length_nil, Nat.add_zero] at hlength
        exact absurd hshort (by omega)
    · have hnil : s.toClient = [] := List.length_eq_zero_iff.1 (by omega)
      obtain rfl : rest = [] := List.length_eq_zero_iff.1 (by omega)
      rw [hnil] at hclient
      exact .inr ⟨⟨_, rfl⟩, (List.append_nil _).symm.trans hclient, hserver, hasked, hnil⟩

/-- A byte more. -/
theorem TcpState.Answering.read (h : s.Answering r got) {b : TcpByte} {bs : List TcpByte}
    (hclient : s.toClient = b :: bs) (hserver : s'.server = s.server)
    (hasked : s'.toServer = s.toServer) (hbs : s'.toClient = bs) :
    s'.Answering r (got ++ [b]) := by
  cases h with
  | asked _ _ hnil | handled _ _ _ hnil =>
    rw [hclient] at hnil
    cases hnil
  | answered rest hs ha hreply =>
    refine .answered rest (hserver.trans hs) (hasked.trans ha) ?_
    rw [hbs, List.append_assoc got, List.singleton_append, ← hclient]
    exact hreply

/-- A busy server can take a step. -/
theorem TcpState.Answering.exists_serve (h : s.Answering r got) (hbusy : s.Busy) (t : τ) :
    ∃ a, (s.handleQueryStream w a).isSome ∧ Faultless snapshot t (.serve a) := by
  have hread := h.readFrame_toServer
  cases h with
  | asked hserver hasked =>
    have hwhole := (hread.resolve_left (r.ne_nil hasked)).2.2.2
    refine ⟨.read, ?_, trivial⟩
    simp only [handleQueryStream, hserver, hwhole]
    rfl
  | handled hserver hframe =>
    refine ⟨.handle (current snapshot), ?_, rfl⟩
    simp only [handleQueryStream, hserver, hframe, r.handled]
    rfl
  | answered rest hserver hasked =>
    cases rest with
    | nil =>
      rcases hbusy with hne | hne
      · exact absurd hasked hne
      · exact absurd hserver hne
    | cons b bs =>
      have hwriting : s.server = .writing b bs := hserver
      refine ⟨.write, ?_, trivial⟩
      simp only [handleQueryStream, hwriting]
      rfl

end Answering

/-- The two requests of a query over TCP. -/
structure TcpRequests (w : Wire) (snapshot : ServerGresSnapshot) where
  query : TcpRequest w snapshot
  refresh : TcpRequest w snapshot
  build_query : buildQueryRequestFrame w 2 = .ok query.frame
  build_refresh : buildHandshakeRequestFrame w 3 = .ok refresh.frame
  parse_query : parseRuntimePayloadFrame w query.reply = .ok (.fromSnapshot snapshot)
  parse_refresh : parseHandshakeReply w refresh.reply = .ok (.fromSnapshot snapshot)

/-- Every query has two such. -/
theorem Deliverable.exists_tcpRequests {w : Wire} {snapshot : ServerGresSnapshot}
    {metadata : HostMetadata} (h : Deliverable w snapshot metadata) :
    Nonempty (TcpRequests w snapshot) := by
  obtain ⟨runtime, hruntime⟩ := h.exists_runtime
  obtain ⟨archive, harchive⟩ := h.exists_metadata
  obtain ⟨query, hquery⟩ := h.exists_query
  obtain ⟨refresh, hrefresh, -⟩ := h.exists_refresh 3
  obtain ⟨header, payload, -, hd, -⟩ := decodeFrame_of_encodeJsonFrame hquery
  obtain ⟨header', payload', -, hd', -⟩ := decodeFrame_of_encodeJsonFrame hrefresh
  exact ⟨{
    query :=
      { frame := query
        reply := Server.encodeTransportFrame .runtimePayload 2 runtime
        isFrame := ⟨_, hd⟩
        isFrame_reply := ⟨_, Server.decodeFrame_encodeTransportFrame
          (encodeRkyvPayload_eq_ok_iff.1 hruntime).2⟩
        handled := handleFrame_queryRequest h.lawful_queryRequest hruntime hquery }
    refresh :=
      { frame := refresh
        reply := Server.encodeTransportFrame .metadataPayload 3 archive
        isFrame := ⟨_, hd'⟩
        isFrame_reply := ⟨_, Server.decodeFrame_encodeTransportFrame
          (encodeRkyvPayload_eq_ok_iff.1 harchive).2⟩
        handled := handleFrame_handshakeRequest h.lawful_handshakeRequest harchive hrefresh }
    build_query := hquery
    build_refresh := hrefresh
    parse_query := h.parse_runtime hruntime
    parse_refresh := h.parse_metadata harchive }⟩

/-! ### The call goes on -/

/-- How far a call is from its end. -/
def TcpPc.rank : TcpPc → ℕ
  | .locking => 5
  | .sending => 4
  | .reading .. => 3
  | .refreshing .. => 2
  | .rereading .. => 1
  | .idle | .closing => 0

section Ongoing

variable {τ : Type*} {w : Wire} {snapshot : ServerGresSnapshot} {metadata : HostMetadata}
  {calls : List TcpCall} {rq : TcpRequests w snapshot} {s s' : TcpState τ} {t : τ}

/-- The variant: what is left to do, then what the server has still to read, then what it
has to write, then what the client has to read. -/
def TcpState.left (t : τ) (s : TcpState τ) : ℕ ×ₗ ℕ ×ₗ (ℕ ×ₗ ℕ) ×ₗ ℕ :=
  toLex ((s.pcs t).rank, toLex (s.toServer.length, toLex (s.server.left, s.toClient.length)))

/-- A thread that is further on in its call has less left, whatever is on the
stream. -/
theorem TcpState.left_lt_of_rank (h : (s'.pcs t).rank < (s.pcs t).rank) : s'.left t < s.left t :=
  Prod.Lex.left _ _ h

/-- What the server has done is less to be done. -/
theorem TcpState.left_lt_of_served (hpcs : s'.pcs = s.pcs)
    (h : s'.toServer.length < s.toServer.length ∨
      s'.toServer = s.toServer ∧ s'.server.left < s.server.left) : s'.left t < s.left t := by
  rw [left, left, hpcs]
  refine Prod.Lex.right _ ?_
  rcases h with hlt | ⟨heq, hlt⟩
  · exact Prod.Lex.left _ _ hlt
  · rw [heq]
    exact Prod.Lex.right _ (Prod.Lex.left _ _ hlt)

/-- The server waits, and nothing is on the stream. -/
structure TcpState.Silent (s : TcpState τ) : Prop where
  server : s.server = .waiting
  toServer : s.toServer = []
  toClient : s.toClient = []

/-- What is on the stream, by where the call is. -/
def TcpState.Stage (rq : TcpRequests w snapshot) (s : TcpState τ) : TcpPc → Prop
  | .locking => s.io = none ∧ s.Silent
  | .sending => s.Silent
  | .reading _ got => s.Answering rq.query got
  | .refreshing _ _ runtime => runtime = .fromSnapshot snapshot ∧ s.Silent
  | .rereading _ _ runtime _ got =>
    runtime = .fromSnapshot snapshot ∧ s.Answering rq.refresh got
  | .idle | .closing => False

/-- A call that has not returned yet. -/
structure Ongoing (rq : TcpRequests w snapshot) (t : τ) (metadata : HostMetadata)
    (calls : List TcpCall) (s : TcpState τ) : Prop where
  opened : s.closed = false
  metadata : s.metadata = metadata
  returned : s.returned = calls
  stage : s.Stage rq (s.pcs t)

/-- Where a call can be while the entry is current. -/
def TcpUnderway (rq : TcpRequests w snapshot) (t : τ) (metadata : HostMetadata)
    (calls : List TcpCall) (s : TcpState τ) : Prop :=
  Ongoing rq t metadata calls s ∨ s.Delivered snapshot calls

/-- Without a request the server has nothing to do. -/
theorem TcpState.Silent.not_served (h : s.Silent) {a : TcpServerAct}
    (hs : s.handleQueryStream w a = some s') (ha : Faultless snapshot t (.serve a)) : False := by
  cases TcpState.served_of_handleQueryStream hs with
  | hangUp => exact ha
  | invalid _ hread | disconnect _ hread | read _ hread =>
    rw [h.toServer] at hread
    cases hread
  | failed hserver | handle hserver | write hserver => cases hserver.symm.trans h.server

/-- **The server takes a step** only while a call waits: it reads the request,
handles it or writes a byte of the answer, and so much less is left to do. -/
theorem Ongoing.serve (h : Ongoing rq t metadata calls s) {a : TcpServerAct}
    (hs : s.handleQueryStream w a = some s') (ha : Faultless snapshot t (.serve a)) :
    Ongoing rq t metadata calls s' ∧ s'.left t < s.left t := by
  obtain ⟨-, hclosed, hmetadata, hpcs, hreturned⟩ := TcpState.handleQueryStream_frame hs
  have hgoes (hstage : s'.Stage rq (s.pcs t))
      (hlt : s'.toServer.length < s.toServer.length ∨
        s'.toServer = s.toServer ∧ s'.server.left < s.server.left) :
      Ongoing rq t metadata calls s' ∧ s'.left t < s.left t :=
    ⟨⟨hclosed.trans h.opened, hmetadata.trans h.metadata, hreturned.trans h.returned,
      by rwa [hpcs]⟩, TcpState.left_lt_of_served hpcs hlt⟩
  have hstage := h.stage
  cases hpc : s.pcs t with
  | locking =>
    rw [hpc] at hstage
    exact (hstage.2.not_served hs ha).elim
  | sending =>
    rw [hpc] at hstage
    exact (hstage.not_served hs ha).elim
  | reading query got =>
    rw [hpc] at hstage hgoes
    obtain ⟨hanswering, hlt⟩ := hstage.serve hs ha
    exact hgoes hanswering hlt
  | refreshing query reply runtime =>
    rw [hpc] at hstage
    exact (hstage.2.not_served hs ha).elim
  | rereading query reply runtime refresh got =>
    rw [hpc] at hstage hgoes
    obtain ⟨hanswering, hlt⟩ := hstage.2.serve hs ha
    exact hgoes ⟨hstage.1, hanswering⟩ hlt
  | idle | closing =>
    rw [hpc] at hstage
    exact hstage.elim

variable [DecidableEq τ]

/-- A thread is where it has gone to. -/
@[simp] theorem TcpState.pcs_goto (s : TcpState τ) (t : τ) (pc : TcpPc) :
    (s.goto t pc).pcs t = pc := Function.update_self ..

/-- A thread that has finished a call is idle. -/
@[simp] theorem TcpState.pcs_finish (s : TcpState τ) (t : τ) (call : TcpCall) :
    (s.finish t call).pcs t = .idle := Function.update_self ..

/-- The thread goes on in its call. -/
theorem Ongoing.goto (h : Ongoing rq t metadata calls s) {pc : TcpPc}
    (hpcs : s'.pcs = Function.update s.pcs t pc) (hopened : s'.closed = s.closed)
    (hmetadata : s'.metadata = s.metadata) (hreturned : s'.returned = s.returned)
    (hstage : s'.Stage rq pc) : Ongoing rq t metadata calls s' where
  opened := hopened.trans h.opened
  metadata := hmetadata.trans h.metadata
  returned := hreturned.trans h.returned
  stage := by rwa [hpcs, Function.update_self]

/-- **A request is written** on a stream on which nothing is left, so that the
next stage of the call starts with this request alone. -/
theorem Ongoing.writeAll (h : Ongoing rq t metadata calls s) (hsilent : s.Silent)
    (r : TcpRequest w snapshot) (next : ℕ → TcpPc)
    (hnext : ∀ s' : TcpState τ, s'.Answering r [] → s'.Stage rq (next s.nextRequest)) :
    Ongoing rq t metadata calls (s.writeAll t r.frame none next) ∧
      (s.writeAll t r.frame none next).pcs t = next s.nextRequest := by
  rw [TcpState.writeAll, if_neg (by rw [h.opened]; exact Bool.false_ne_true)]
  refine ⟨h.goto rfl rfl rfl rfl (hnext _ (.asked hsilent.server ?_ hsilent.toClient rfl)),
    Function.update_self ..⟩
  dsimp only
  rw [hsilent.toServer, List.nil_append, untagged_tagged]

/-- **The reply to the query has been read**: the client has the metadata of the entry, or
asks for them. -/
theorem Ongoing.afterQuery (h : Ongoing rq t metadata calls s)
    (hdeliverable : Deliverable w snapshot metadata) (hsilent : s.Silent)
    {reply : List TcpByte} (hreply : untagged reply = rq.query.reply) (query : ℕ) :
    let s' := s.afterQuery w t query reply
    TcpUnderway rq t metadata calls s' ∧ (s'.pcs t).rank < 3 := by
  unfold TcpState.afterQuery
  rw [hreply, rq.parse_query]
  dsimp only
  rw [h.metadata]
  rcases hdeliverable.refreshes_or_eq (.fromSnapshot snapshot) rfl with hneeds | ⟨hfresh, heq⟩
  · rw [if_pos hneeds]
    refine ⟨.inl (h.goto rfl rfl rfl rfl ⟨rfl, hsilent.server, hsilent.toServer,
      hsilent.toClient⟩), ?_⟩
    rw [TcpState.pcs_goto]
    exact Nat.lt_succ_self 2
  · rw [if_neg hfresh, heq, hdeliverable.toSnapshot_eq]
    refine ⟨.inr ⟨_, congrArg _ h.returned, rfl⟩, ?_⟩
    rw [TcpState.pcs_finish]
    exact Nat.zero_lt_succ 2

/-- **The reply to the refresh has been read**, and the call is finished with
the snapshot that the metadata of the entry make. -/
theorem Ongoing.afterRefresh (h : Ongoing rq t metadata calls s)
    (hdeliverable : Deliverable w snapshot metadata) {reply got : List TcpByte}
    (hgot : untagged got = rq.refresh.reply) (query refresh : ℕ) :
    let s' := s.afterRefresh w t query reply (.fromSnapshot snapshot) refresh got
    s'.Delivered snapshot calls ∧ (s'.pcs t).rank < 1 := by
  unfold TcpState.afterRefresh
  rw [hgot, rq.parse_refresh]
  dsimp only
  rw [hdeliverable.toSnapshot_eq]
  refine ⟨⟨_, congrArg _ h.returned, rfl⟩, ?_⟩
  rw [TcpState.pcs_finish]
  exact Nat.one_pos

/-- A byte that is read is one less to be read. -/
theorem TcpState.left_lt_of_read {pc : TcpPc} (hpcs : s'.pcs = Function.update s.pcs t pc)
    (hrank : pc.rank = (s.pcs t).rank) (hasked : s'.toServer = s.toServer)
    (hserver : s'.server = s.server) {b : TcpByte} (hclient : s.toClient = b :: s'.toClient) :
    s'.left t < s.left t := by
  rw [left, left, hpcs, Function.update_self, hrank, hasked, hserver, hclient]
  exact Prod.Lex.right _ (Prod.Lex.right _ (Prod.Lex.right _ (Nat.lt_succ_self _)))

/-- While a request is on the stream, the server has to answer it, or the call to read a
byte, or to go on with the reply. -/
theorem TcpState.Answering.exists_step {r : TcpRequest w snapshot} {got : List TcpByte}
    (h : s.Answering r got)
    (hread : ∀ b bs, s.toClient = b :: bs → readFrame (untagged got) = .more →
      (s.step w (.read t)).isSome)
    (hreceive : ∀ len, readFrame (untagged got) = .whole len → (s.step w (.receive t)).isSome) :
    ∃ a, (s.step w a).isSome ∧ Faultless snapshot t a := by
  rcases h.readFrame_cases with ⟨hmore, hbusy | hclient⟩ | ⟨⟨len, hwhole⟩, -⟩
  · obtain ⟨a, hserve, ha⟩ := h.exists_serve hbusy t
    exact ⟨.serve a, hserve, ha⟩
  · obtain ⟨b, bs, hbs⟩ := List.exists_cons_of_ne_nil hclient
    exact ⟨.read t, hread b bs hbs hmore, rfl⟩
  · exact ⟨.receive t, hreceive len hwhole, rfl⟩

/-- **The call never stops**: until it has returned, its thread or the server
has a step to take. -/
theorem Ongoing.exists_step (h : Ongoing rq t metadata calls s) :
    ∃ a, (s.step w a).isSome ∧ Faultless snapshot t a := by
  have hstage := h.stage
  cases hpc : s.pcs t with
  | locking =>
    rw [hpc] at hstage
    refine ⟨.lock t, ?_, rfl⟩
    simp only [TcpState.step, hpc, hstage.1]
    rfl
  | sending =>
    refine ⟨.write t none, ?_, rfl, rfl⟩
    simp only [TcpState.step, hpc, rq.build_query]
    rfl
  | reading query got =>
    rw [hpc] at hstage
    refine hstage.exists_step (fun b bs hbs hmore => ?_) fun len hwhole => ?_
    · simp only [TcpState.step, hbs, hpc, hmore]
      rfl
    · simp only [TcpState.step, hpc, hwhole]
      rfl
  | refreshing query reply runtime =>
    refine ⟨.write t none, ?_, rfl, rfl⟩
    simp only [TcpState.step, hpc, rq.build_refresh]
    rfl
  | rereading query reply runtime refresh got =>
    rw [hpc] at hstage
    refine hstage.2.exists_step (fun b bs hbs hmore => ?_) fun len hwhole => ?_
    · simp only [TcpState.step, hbs, hpc, hmore]
      rfl
    · simp only [TcpState.step, hpc, hwhole]
      rfl
  | idle | closing =>
    rw [hpc] at hstage
    exact hstage.elim

/-- **Every step brings the call closer to its end**: it keeps the call
ongoing, or ends it as it should, and less is left in any case. -/
theorem ongoing_step (hdeliverable : Deliverable w snapshot metadata)
    (h : Ongoing rq t metadata calls s) {a : TcpAct τ} (hs : s.step w a = some s')
    (ha : Faultless snapshot t a) :
    TcpUnderway rq t metadata calls s' ∧
      s'.left t < s.left t := by
  have hstage := h.stage
  -- The stage of the call is that of the thread which takes the step.
  cases TcpState.move_of_step hs with
  | query | timeout | retimeout | close => exact ha.elim
  | lock hpc hio =>
    obtain rfl := ha
    rw [hpc] at hstage
    refine ⟨.inl (h.goto rfl rfl rfl rfl
      ⟨hstage.2.server, hstage.2.toServer, hstage.2.toClient⟩), TcpState.left_lt_of_rank ?_⟩
    change ((s.goto _ .sending).pcs _).rank < _
    rw [TcpState.pcs_goto, hpc]
    exact Nat.lt_succ_self 4
  | notSent hpc hframe => cases rq.build_query.symm.trans hframe
  | send hpc hframe =>
    obtain ⟨rfl, rfl⟩ := ha
    cases rq.build_query.symm.trans hframe
    rw [hpc] at hstage
    obtain ⟨hnext, hpc'⟩ :=
      h.writeAll hstage rq.query (fun n => .reading n []) fun _ hx => hx
    refine ⟨.inl hnext, TcpState.left_lt_of_rank ?_⟩
    rw [hpc, hpc']
    exact Nat.lt_succ_self 3
  | notResent hpc hframe => cases rq.build_refresh.symm.trans hframe
  | @resend _ _ _ query reply runtime hpc hframe =>
    obtain ⟨rfl, rfl⟩ := ha
    cases rq.build_refresh.symm.trans hframe
    rw [hpc] at hstage
    obtain ⟨hnext, hpc'⟩ := h.writeAll hstage.2 rq.refresh
      (fun n => .rereading query reply runtime n []) fun _ hx => ⟨hstage.1, hx⟩
    refine ⟨.inl hnext, TcpState.left_lt_of_rank ?_⟩
    rw [hpc, hpc']
    exact Nat.lt_succ_self 1
  | read hpc hclient hmore =>
    obtain rfl := ha
    rw [hpc] at hstage
    exact ⟨.inl (h.goto rfl rfl rfl rfl (hstage.read hclient rfl rfl rfl)),
      TcpState.left_lt_of_read rfl (hpc ▸ rfl) rfl rfl hclient⟩
  | reread hpc hclient hmore =>
    obtain rfl := ha
    rw [hpc] at hstage
    exact ⟨.inl (h.goto rfl rfl rfl rfl ⟨hstage.1, hstage.2.read hclient rfl rfl rfl⟩),
      TcpState.left_lt_of_read rfl (hpc ▸ rfl) rfl rfl hclient⟩
  | notReceived hpc hread =>
    obtain rfl := ha
    rw [hpc] at hstage
    rcases hstage.readFrame_cases with ⟨hmore, -⟩ | ⟨⟨len, hwhole⟩, -⟩
    · cases hmore.symm.trans hread
    · cases hwhole.symm.trans hread
  | @receive _ query _ _ hpc hread =>
    obtain rfl := ha
    rw [hpc] at hstage
    rcases hstage.readFrame_cases with ⟨hmore, -⟩ | ⟨-, hreply, hserver, hasked, hclient⟩
    · cases hmore.symm.trans hread
    · obtain ⟨hunderway, hrank⟩ :=
        h.afterQuery hdeliverable ⟨hserver, hasked, hclient⟩ hreply query
      exact ⟨hunderway, TcpState.left_lt_of_rank (by rw [hpc]; exact hrank)⟩
  | notRefreshed hpc hread =>
    obtain rfl := ha
    rw [hpc] at hstage
    rcases hstage.2.readFrame_cases with ⟨hmore, -⟩ | ⟨⟨len, hwhole⟩, -⟩
    · cases hmore.symm.trans hread
    · cases hwhole.symm.trans hread
  | @refresh _ query _ _ refresh _ _ hpc hread =>
    obtain rfl := ha
    rw [hpc] at hstage
    obtain ⟨rfl, hanswering⟩ := hstage
    rcases hanswering.readFrame_cases with ⟨hmore, -⟩ | ⟨-, hgot, -⟩
    · cases hmore.symm.trans hread
    · obtain ⟨hdelivered, hrank⟩ := h.afterRefresh hdeliverable hgot query refresh
      exact ⟨.inr hdelivered, TcpState.left_lt_of_rank (by rw [hpc]; exact hrank)⟩
  | serve hserve =>
    obtain ⟨hongoing, hlt⟩ := h.serve hserve ha
    exact ⟨.inl hongoing, hlt⟩

/-- **A query over TCP delivers the entry.**  While an entry of the cache is current, every
run of a call without faults, on a stream on which nothing is left, comes to the entry
without the commands of the processes. -/
theorem tcp_query_delivers (hdeliverable : Deliverable w snapshot s.metadata) (hs : s.Ready t) :
    (tcpExchange w snapshot t).Inevitable (TcpState.Delivered snapshot s.returned) s := by
  obtain ⟨rq⟩ := hdeliverable.exists_tcpRequests
  have hongoing : Ongoing rq t s.metadata s.returned s := by
    refine ⟨hs.opened, rfl, rfl, ?_⟩
    rw [hs.locking]
    exact ⟨hs.io, hs.server, hs.toServer, hs.toClient⟩
  refine Lts.inevitable_of_variant (TcpState.left t)
    (I := TcpUnderway rq t s.metadata s.returned) (fun s h hP => ?_) (fun s a s' h hP hstep => ?_)
    (.inl hongoing)
  · obtain ⟨a, hsome, ha⟩ := (h.resolve_right hP).exists_step
    obtain ⟨s', hs'⟩ := Option.isSome_iff_exists.1 hsome
    exact ⟨a, s', hs', ha⟩
  · exact ongoing_step hdeliverable (h.resolve_right hP) hstep.1 hstep.2

end Ongoing

/-! ### Both transports -/

/-- **When both transports deliver the entry.**  While an entry of the cache is current, with
distinct indices and archives that are not too long, whatever metadata the two clients
hold: a query over TCP, on a connection without faults, and a query over UDP, over a
network that repeats and reorders datagrams but loses none, both come to the entry without
the commands of the processes, on every run, exactly if UDP can carry the replies which the
second needs. -/
theorem query_delivers_iff {w : Wire} {snapshot : ServerGresSnapshot} {τ : Type*} [DecidableEq τ]
    {s : TcpState τ} {t : τ} {Addr : Type*} [DecidableEq Addr] {crc : Crc32} {q : UdpQuery Addr}
    {u : UdpState Addr} (hs : Deliverable w snapshot s.metadata)
    (hu : Deliverable w snapshot u.metadata) (hready : s.Ready t) (hready' : u.Ready crc q)
    (hids : q.requestId ≠ q.refreshId) (htimeout : 0 < q.timeout)
    (hmax : UDP_MIN_PAYLOAD ≤ q.maxPayload) :
    (tcpExchange w snapshot t).Inevitable (TcpState.Delivered snapshot s.returned) s ∧
        (udpExchange w crc q (current snapshot)).Inevitable (UdpState.Delivered snapshot) u ↔
      u.CanAnswer w snapshot q := by
  rw [and_iff_right (tcp_query_delivers hs hready)]
  exact udp_query_delivers_iff hu hids htimeout hmax hready'

/-- The serialisers of a node whose only runtime archive has this length. -/
def longWire (len : ℕ) : Wire :=
  { shortWire with
    runtime := .table [(.fromSnapshot (oneGres "a" 1), List.replicate len 0)] }

/-- The runtime part of the snapshot is encoded as so many zeros, if the
payload may be as long. -/
theorem encodeRuntimePayload_longWire {len : ℕ} (hlen : len ≤ MAX_PAYLOAD_LEN) :
    encodeRuntimePayload (longWire len) (.fromSnapshot (oneGres "a" 1)) =
      .ok (List.replicate len 0) :=
  encodeRkyvPayload_eq_ok_iff.2
    ⟨Codec.toBytes_table_cons _ _ _, by rwa [List.length_replicate]⟩

/-- What it has collected can be delivered to a client with the metadata of a node without
resources. -/
theorem deliverable_longWire {len : ℕ} (hpos : 0 < len) (hlen : len ≤ MAX_PAYLOAD_LEN) :
    Deliverable (longWire len) (oneGres "a" 1) noGres := by
  -- all serialisers but one are those of `shortWire`
  have hhandshake : shortWire.handshakeRequest.toBytes .current =
      .ok (HostMetadata.asBytes "\x7b\"version\":1\x7d") := by decide +kernel
  have hquery : shortWire.queryRequest.toBytes { version := PROTOCOL_VERSION, requestId := 2 } =
      .ok [1] := by decide +kernel
  have hmetadata : encodeMetadataPayload shortWire (.fromSnapshot (oneGres "a" 1)) = .ok [1] := by
    decide +kernel
  exact {
    distinct := by decide +kernel
    lawful_handshakeRequest := Codec.lawful_table (by decide +kernel)
    lawful_queryRequest := Codec.lawful_table (by decide +kernel)
    lawful_metadata := lawful_twoSnapshotWire.2
    lawful_runtime := Codec.lawful_table (List.forall_mem_singleton.2
      ⟨List.ne_nil_of_length_pos (by rwa [List.length_replicate]),
        List.forall_mem_singleton.2 fun _ => rfl⟩)
    exists_handshakeRequest := ⟨_, hhandshake, by decide +kernel⟩
    exists_queryRequest := ⟨_, hquery, by decide⟩
    exists_metadata := ⟨_, hmetadata⟩
    exists_runtime := ⟨_, encodeRuntimePayload_longWire hlen⟩
    nonzero := by decide +kernel
    noCollision := by decide +kernel }

/-- A query whose datagrams arrive after a late reply to the handshake. -/
def lateQuery : UdpQuery Unit where
  requestId := 7
  refreshId := 8
  timeout := 5
  maxPayload := 1200
  peer := ()
  idleTimeout := 5
  ipv4 := true
  configuredMtu := 1200
  routeMtu := none

/-- Its client and server, before. -/
def lateState : UdpState Unit where
  server := ⟨fun _ => none, fun _ => none⟩
  toClient := [lateDatagram 1]
  metadata := noGres

/-- The state in which a reply to an earlier call is still on its way is ready
for a query. -/
theorem ready_lateState {q : UdpQuery Unit} (hquery : q.requestId = 7) (hrefresh : q.refreshId = 8) :
    lateState.Ready Crc32.ieee q where
  phase := rfl
  toServer := rfl
  toClient := by
    have hnone (id : UInt64) (h1 : id ≠ 1) (h2 : id ≠ 2) : lateReplies.reply id = none := by
      simp only [lateReplies, Replies.answer, requestId_lateReply]
      rw [Function.update_of_ne h2, Function.update_of_ne h1]
    rw [hquery, hrefresh]
    refine ⟨lateReplies, hnone 7 (by decide) (by decide), hnone 8 (by decide) (by decide), ?_⟩
    intro datagram hd
    obtain rfl := List.mem_singleton.1 hd
    exact carries_lateReplies 1 reply_lateReplies.1
  payloadCaps := nofun

/-- A call on a new connection. -/
def newCall : TcpState Unit where
  metadata := noGres
  pcs _ := .locking

/-- The server has a configured MTU of 1200 bytes, and a runtime archive of two datagrams. -/
theorem query_delivers_twoDatagrams :
    (tcpExchange (longWire 1200) (oneGres "a" 1) ()).Inevitable
        (TcpState.Delivered (oneGres "a" 1) []) newCall ∧
      (udpExchange (longWire 1200) Crc32.ieee lateQuery (current (oneGres "a" 1))).Inevitable
        (UdpState.Delivered (oneGres "a" 1)) lateState := by
  have hdeliverable := deliverable_longWire (show 0 < 1200 by decide) (by decide)
  have hsend (archive : Bytes) : lateState.CanSend lateQuery archive :=
    (Nat.add_le_add_left (Nat.min_le_left _ _) _).trans (by decide)
  exact (query_delivers_iff (s := newCall) hdeliverable hdeliverable ⟨rfl, rfl, rfl, rfl, rfl, rfl⟩
    (ready_lateState rfl rfl) (by decide) (by decide) (by decide)).2
      ⟨fun archive _ => hsend archive, fun _ archive _ => hsend archive⟩

/-- The query, of a server on the loopback device. -/
def loopbackQuery : UdpQuery Unit :=
  { lateQuery with maxPayload := 65476, configuredMtu := 0, routeMtu := some 65536 }

/-- **An entry that is not delivered**: with a runtime archive of 65458 bytes, over UDP over
IPv4 on the loopback device. -/
theorem loopback_not_delivered : ¬∀ (w : Wire) (snapshot : ServerGresSnapshot) (s : TcpState Unit)
    (q : UdpQuery Unit) (u : UdpState Unit), Deliverable w snapshot s.metadata →
      Deliverable w snapshot u.metadata → s.Ready () → u.Ready Crc32.ieee q →
      q.requestId ≠ q.refreshId → 0 < q.timeout → UDP_MIN_PAYLOAD ≤ q.maxPayload →
        (tcpExchange w snapshot ()).Inevitable (TcpState.Delivered snapshot s.returned) s ∧
          (udpExchange w Crc32.ieee q (current snapshot)).Inevitable
            (UdpState.Delivered snapshot) u := by
  intro hall
  have hlen : 65458 ≤ MAX_PAYLOAD_LEN := by decide
  have hdeliverable := deliverable_longWire (show 0 < 65458 by decide) hlen
  have hready : lateState.Ready Crc32.ieee loopbackQuery := ready_lateState rfl rfl
  have hdelivered := (hall (longWire 65458) (oneGres "a" 1) newCall loopbackQuery lateState
    hdeliverable hdeliverable ⟨rfl, rfl, rfl, rfl, rfl, rfl⟩ hready (by decide) (by decide)
    (by decide)).2
  have hanswer := (udp_query_delivers_iff hdeliverable (by decide) (by decide) (by decide)
    hready).1 hdelivered
  have hsend := hanswer.runtime _ (encodeRuntimePayload_longWire hlen)
  rw [UdpState.CanSend, List.length_replicate] at hsend
  exact absurd hsend (by decide)

end Client
end Clustat
