/-
# Waiting for a reply over UDP

`recv_frame` of `crates/client-backend/src/udp_client.rs`.  A request has its own
id, but the replies to all requests of a node arrive on one socket: a call may
receive datagrams of replies that earlier calls have given up on, once, twice, in
any order, and not all of them.  The loop takes a datagram that is a frame by
itself apart at once, gives every other one to a reassembler of its own, and
passes over frames with another id.

`Replies` is what the server has answered, one frame for a request id.  As long as
every datagram is one of these, a call has the frame it waits for exactly when it
has received all its datagrams (`recvFrame_result`).  `nodeSystem` is a node with all
its requests, and `calls_attributed` says so of every call in every run.

What belongs to other requests does not get into the frame, but it moves the end of the
call: every `recv` waits for the whole read timeout of the socket again, so that one
datagram may be handed over after the deadline (`lastChance`), if there is one shortly
before it.  `recvFrame_socketTurns` is what a call comes to, by the times at which the
datagrams arrive, and `undisturbed_iff` when it comes to the same without those of other
requests.
-/

import Clustat.Client.Transport
import Clustat.Lib.Lts
import Clustat.Udp.Delivery

namespace Clustat
namespace Client

open Udp

/-- The errors of `recv_frame`, with what their texts are made of. -/
inductive RecvError
  /-- `timeout while waiting for UDP frame`. -/
  | waiting
  /-- `timeout while reassembling UDP frame`. -/
  | reassembling
  /-- `recv UDP chunk failed`. -/
  | recv (message : String)
  | chunk (e : UdpChunkError)
  | frame (e : FrameDecodeError)
  deriving DecidableEq, Repr

/-- The variant of `UdpClientError` it is. -/
def RecvError.kind : RecvError → ClientError
  | .waiting | .reassembling | .recv _ => .io
  | .chunk _ | .frame _ => .decode

/-- What `recv` of the socket comes to.  The buffer has 65535 bytes, more than a
UDP datagram can have, so that none is cut off. -/
inductive Received
  | datagram (bytes : Bytes)
  | timedOut
  | failed (message : String)
  deriving DecidableEq, Repr

/-- One turn of the loop: the clock when it is compared with the deadline, in
`is_expired`, and when `recv` is called; what is received, and the clock then. -/
structure Turn where
  now : ℕ
  checked : ℕ
  called : ℕ
  received : Received
  arrived : ℕ
  deriving DecidableEq, Repr

/-- `recv` waits as long as the read timeout of the socket says, if nothing arrives, and
not longer; and the clock does not go back. -/
def Turn.Clocked (start timeout : ℕ) (t : Turn) : Prop :=
  start ≤ t.now ∧ t.now ≤ t.checked ∧ t.checked ≤ t.called ∧ t.called ≤ t.arrived ∧
    match t.received with
    | .datagram _ => t.arrived ≤ t.called + timeout
    | .timedOut => t.called + timeout ≤ t.arrived
    | .failed _ => True

/-- What arrives in a turn arrives after the start of the call. -/
theorem Turn.Clocked.le_arrived {start timeout : ℕ} {t : Turn} (h : t.Clocked start timeout) :
    start ≤ t.arrived :=
  h.1.trans (h.2.1.trans (h.2.2.1.trans h.2.2.2.1))

/-- The state of the loop.  `received` is the datagrams so far and only kept to
speak about; `result` is there once the loop has ended. -/
structure RecvLoop where
  reassembler : Option UdpFrameReassembler := none
  received : List Bytes := []
  result : Option (Except RecvError Bytes) := none

/-- What the loop makes of a frame: the end, if the frame has the right id. -/
def acceptFrame (requestId : UInt64) (frame : Bytes) : Option (Except RecvError Bytes) :=
  match decodeFrame frame with
  | .error e => some (.error (.frame e))
  | .ok (header, _) => if header.requestId = requestId then some (.ok frame) else none

/-- The branch of `recv_frame` for a datagram. -/
def RecvLoop.receive (crc : Crc32) (requestId : UInt64) (timeout : ℕ) (st : RecvLoop)
    (arrived : ℕ) (datagram : Bytes) : RecvLoop :=
  let received := st.received ++ [datagram]
  match decodeUdpSingleChunkRef crc datagram with
  | .error e => { st with received, result := some (.error (.chunk e)) }
  | .ok (some frame) => { st with received, result := acceptFrame requestId frame }
  | .ok none =>
    let out := (st.reassembler.getD (.new arrived timeout)).insert crc datagram
    { reassembler := some out.1
      received
      result :=
        match out.2 with
        | .ok (some frame) => acceptFrame requestId frame
        | .ok none => none
        | .error e => some (.error (.chunk e)) }

/-- One turn of the loop of `recv_frame`, unless it has ended. -/
def RecvLoop.turn (crc : Crc32) (requestId : UInt64) (timeout deadline : ℕ) (st : RecvLoop)
    (t : Turn) : RecvLoop :=
  if st.result.isSome then st
  else if t.now < deadline ∧ st.reassembler.all fun r => !r.isExpired t.checked then
    match t.received with
    | .datagram datagram => st.receive crc requestId timeout t.arrived datagram
    | .timedOut => { st with result := some (.error .waiting) }
    | .failed message => { st with result := some (.error (.recv message)) }
  else { st with result := some (.error .reassembling) }

/-- `recv_frame`, called at instant `start`, after some turns. -/
def recvFrame (crc : Crc32) (requestId : UInt64) (timeout start : ℕ) (turns : List Turn) :
    RecvLoop :=
  turns.foldl (RecvLoop.turn crc requestId timeout (start + timeout)) {}

/-! ### What the server has answered -/

/-- The replies of the server: at most one for a request id, and with that id. -/
structure Replies (crc : Crc32) where
  reply : UInt64 → Option (Sent crc)
  requestId_reply : ∀ id s, reply id = some s → s.requestId = id

namespace Replies

variable {crc : Crc32} (R : Replies crc)

/-- The datagram is one of a reply. -/
def Carries (datagram : Bytes) : Prop := ∃ id s, R.reply id = some s ∧ datagram ∈ s.datagrams

/-- What a call for `requestId` that has received these datagrams should have. -/
def outcome (requestId : UInt64) (received : List Bytes) : Option (Except RecvError Bytes) :=
  match R.reply requestId with
  | none => none
  | some s => if ∀ datagram ∈ s.datagrams, datagram ∈ received then some (.ok s.frame) else none

/-- The replies as a family of frames. -/
def family (i : {id // (R.reply id).isSome}) : Sent crc := (R.reply i.1).get i.2

/-- The replies as a family, by their request ids. -/
theorem reply_family (i : {id // (R.reply id).isSome}) : R.reply i.1 = some (R.family i) :=
  (Option.some_get i.2).symm

/-- A reply has the request id it is a reply to. -/
theorem requestId_family (i : {id // (R.reply id).isSome}) : (R.family i).requestId = i.1 :=
  R.requestId_reply _ _ (R.reply_family i)

/-- Replies to different requests have different request ids, so
`reassembly_exact` applies to them. -/
theorem family_injective : Function.Injective fun i => (R.family i).requestId := fun i j h =>
  Subtype.ext (by rw [← R.requestId_family i, ← R.requestId_family j]; exact h)

variable {R}

/-- What is carried is a delivery. -/
theorem Carries.exists_delivery {datagram : Bytes} (h : R.Carries datagram) :
    ∃ d : Delivery R.family, d.datagram = datagram := by
  obtain ⟨id, s, hs, hd⟩ := h
  obtain ⟨l, hl, rfl⟩ := List.getElem_of_mem hd
  have hid : (R.reply id).isSome := by rw [hs]; rfl
  have hfam : R.family ⟨id, hid⟩ = s := Option.some.inj ((R.reply_family _).symm.trans hs)
  subst hfam
  exact ⟨⟨⟨id, hid⟩, ⟨l, hl⟩⟩, rfl⟩

/-- The header of what is carried has the request id of its reply. -/
theorem decode_delivery (d : Delivery R.family) :
    UdpChunkHeader.decode d.datagram = .ok ((R.family d.frame).headerAt d.chunk) :=
  (R.family d.frame).decode_datagram d.chunk.isLt

/-- Different deliveries are different datagrams. -/
theorem datagram_injective :
    Function.Injective (Delivery.datagram : Delivery R.family → Bytes) := by
  intro d e h
  have hhead := (decode_delivery d).symm.trans ((congrArg _ h).trans (decode_delivery e))
  have hhead := Except.ok.inj hhead
  have hid : d.frame = e.frame := R.family_injective (congrArg UdpChunkHeader.requestId hhead)
  obtain ⟨i, k⟩ := d
  obtain ⟨j, l⟩ := e
  obtain rfl : i = j := hid
  have hlt : ∀ m : Fin (R.family i).datagrams.length, (m : ℕ) < (R.family i).total := fun m =>
    (R.family i).length_datagrams ▸ m.isLt
  have hkl := congrArg (fun h => h.chunkId.toNat) hhead
  dsimp only at hkl
  rw [(R.family i).chunkId_headerAt (hlt k), (R.family i).chunkId_headerAt (hlt l)] at hkl
  rw [Fin.ext hkl]

/-- All of a reply has been received once all its chunks have been delivered. -/
theorem forall_mem_datagrams_iff {ds : List (Delivery R.family)} {i : {id // (R.reply id).isSome}} :
    (∀ d ∈ (R.family i).datagrams, d ∈ ds.map Delivery.datagram) ↔
      ∀ j, (⟨i, j⟩ : Delivery R.family) ∈ ds := by
  rw [List.forall_mem_iff_getElem]
  constructor
  · intro h j
    exact (List.mem_map_of_injective datagram_injective).1 (h j.1 j.2)
  · intro h l hl
    exact List.mem_map.2 ⟨_, h ⟨l, hl⟩, rfl⟩

/-- A call whose reply exists has it once it has all its datagrams. -/
theorem outcome_family (i : {id // (R.reply id).isSome}) (received : List Bytes) :
    R.outcome i.1 received = if ∀ d ∈ (R.family i).datagrams, d ∈ received then
      some (.ok (R.family i).frame) else none := by
  rw [outcome, R.reply_family i]

/-- A datagram belongs to one reply only. -/
theorem frame_of_mem {requestId : UInt64} {s : Sent crc} (hs : R.reply requestId = some s)
    {d : Delivery R.family} (hd : d.datagram ∈ s.datagrams) : d.frame.1 = requestId := by
  obtain ⟨l, hl, he⟩ := List.getElem_of_mem hd
  have hhead := (s.decode_datagram hl).symm.trans ((congrArg _ he).trans (decode_delivery d))
  have hid := congrArg UdpChunkHeader.requestId (Except.ok.inj hhead)
  rw [Sent.requestId_headerAt, Sent.requestId_headerAt, R.requestId_family,
    R.requestId_reply _ _ hs] at hid
  exact hid.symm

/-- A datagram of another reply is none of this one. -/
theorem mem_append_iff_of_ne {requestId : UInt64} {s : Sent crc} (hs : R.reply requestId = some s)
    {received : List Bytes} {d : Delivery R.family} (h : d.frame.1 ≠ requestId) {datagram : Bytes}
    (hd : datagram ∈ s.datagrams) : datagram ∈ received ++ [d.datagram] ↔ datagram ∈ received := by
  rw [List.mem_append, List.mem_singleton, or_iff_left]
  rintro rfl
  exact h (frame_of_mem hs hd)

/-- What a call should have depends on the datagrams of its own reply only. -/
theorem outcome_congr {requestId : UInt64} {received received' : List Bytes}
    (h : ∀ s, R.reply requestId = some s → ∀ d ∈ s.datagrams, d ∈ received ↔ d ∈ received') :
    R.outcome requestId received = R.outcome requestId received' := by
  unfold outcome
  cases hs : R.reply requestId with
  | none => rfl
  | some s => simp only [forall₂_congr (h s hs)]

/-- A datagram of another reply does not change the outcome. -/
theorem outcome_append_of_ne {requestId : UInt64} {received : List Bytes} {d : Delivery R.family}
    (h : d.frame.1 ≠ requestId) :
    R.outcome requestId (received ++ [d.datagram]) = R.outcome requestId received :=
  outcome_congr fun _ hs _ hd => mem_append_iff_of_ne hs h hd

end Replies

/-! ### One datagram -/

section Single

variable {crc : Crc32} (s : Sent crc)

/-- A frame is accepted by the call with its id. -/
theorem acceptFrame_sent (requestId : UInt64) : acceptFrame requestId s.frame =
    if s.requestId = requestId then some (.ok s.frame) else none := by
  obtain ⟨p, hd⟩ := s.decodeFrame_frame
  rw [acceptFrame, hd]
  rfl

end Single

section Call

variable {crc : Crc32} {R : Replies crc} {requestId : UInt64} {timeout start : ℕ}

/-- The deliveries that go to the reassembler. -/
def chunked (ds : List (Delivery R.family)) : List (Delivery R.family) :=
  ds.filter fun d => (R.family d.frame).total ≠ 1

/-- What a loop that is still running knows: nothing but the replies has arrived,
not all of the one it waits for, and the reassembler has what came in several
datagrams. -/
structure Waiting (R : Replies crc) (requestId : UInt64) (timeout start : ℕ) (st : RecvLoop)
    (ds : List (Delivery R.family)) : Prop where
  received : st.received = ds.map Delivery.datagram
  pending : R.outcome requestId st.received = none
  reassembler : (st.reassembler = none ∧ chunked ds = []) ∨ ∃ opened, start ≤ opened ∧
    st.reassembler = some ((UdpFrameReassembler.new opened timeout).run crc
      ((chunked ds).map Delivery.datagram))

/-- A frame in one datagram passes by the reassembler. -/
theorem chunked_append_of_single {ds : List (Delivery R.family)} {d : Delivery R.family}
    (h1 : (R.family d.frame).total = 1) : chunked (ds ++ [d]) = chunked ds := by
  simp [chunked, h1]

/-- A datagram that is one of several goes into the reassembler. -/
theorem chunked_append {ds : List (Delivery R.family)} {d : Delivery R.family}
    (h1 : (R.family d.frame).total ≠ 1) : chunked (ds ++ [d]) = chunked ds ++ [d] := by
  simp [chunked, h1]

/-- The reassembler has seen a frame of several datagrams as often as the loop. -/
theorem mem_chunked_iff {ds : List (Delivery R.family)} {d : Delivery R.family}
    (h1 : (R.family d.frame).total ≠ 1) : d ∈ chunked ds ↔ d ∈ ds := by
  simp [chunked, h1]

/-- The outcome when a frame that is one datagram has arrived. -/
theorem outcome_single {ds : List (Delivery R.family)} {d : Delivery R.family}
    (h1 : (R.family d.frame).total = 1)
    (hpending : R.outcome requestId (ds.map Delivery.datagram) = none) :
    R.outcome requestId ((ds ++ [d]).map Delivery.datagram) =
      acceptFrame requestId (R.family d.frame).frame := by
  rw [acceptFrame_sent, R.requestId_family, List.map_append, List.map_singleton]
  split_ifs with hid
  · subst hid
    rw [Replies.outcome_family, if_pos]
    rw [← List.map_singleton, ← List.map_append, Replies.forall_mem_datagrams_iff]
    intro j
    have hj : j = d.chunk := by
      have hlt : ∀ m : Fin (R.family d.frame).datagrams.length, (m : ℕ) = 0 := fun m =>
        Nat.lt_one_iff.1 (h1 ▸ (R.family d.frame).length_datagrams ▸ m.isLt)
      exact Fin.ext ((hlt j).trans (hlt d.chunk).symm)
    rw [hj]
    exact List.mem_append_right _ (List.mem_singleton_self d)
  · rw [Replies.outcome_append_of_ne hid, hpending]

/-- **One more chunk**: what the reassembler answers is the outcome, the frame
if it is now all there and nothing yet otherwise. -/
theorem outcome_chunk {ds : List (Delivery R.family)} {d : Delivery R.family} (opened timeout : ℕ)
    (h1 : (R.family d.frame).total ≠ 1)
    (hpending : R.outcome requestId (ds.map Delivery.datagram) = none) :
    ∃ frame?, (((UdpFrameReassembler.new opened timeout).run crc
        ((chunked ds).map Delivery.datagram)).insert crc d.datagram).2 = .ok frame? ∧
      R.outcome requestId ((ds ++ [d]).map Delivery.datagram) =
        frame?.bind (acceptFrame requestId) := by
  have hmem : (∀ j, (⟨d.frame, j⟩ : Delivery R.family) ∈ chunked ds ++ [d]) ↔
      ∀ j, (⟨d.frame, j⟩ : Delivery R.family) ∈ ds ++ [d] := by
    rw [← chunked_append h1]
    exact forall_congr' fun j => mem_chunked_iff h1
  by_cases hall : ∀ j, (⟨d.frame, j⟩ : Delivery R.family) ∈ ds ++ [d]
  · refine ⟨_, insert_of_delivered R.family_injective opened timeout (hmem.2 hall), ?_⟩
    rw [Option.bind_some, acceptFrame_sent, R.requestId_family]
    split_ifs with hid
    · subst hid
      rw [Replies.outcome_family, if_pos (Replies.forall_mem_datagrams_iff.2 hall)]
    · rw [List.map_append, List.map_singleton, Replies.outcome_append_of_ne hid, hpending]
  · have hmiss := not_forall.1 (mt hmem.1 hall)
    refine ⟨_, insert_of_missing R.family_injective opened timeout hmiss, ?_⟩
    rw [Option.bind_none]
    by_cases hid : d.frame.1 = requestId
    · subst hid
      rw [Replies.outcome_family, if_neg (mt Replies.forall_mem_datagrams_iff.1 hall)]
    · rw [List.map_append, List.map_singleton, Replies.outcome_append_of_ne hid, hpending]

/-- **One datagram of a reply**, whichever it is: the loop ends exactly if it now
has all of the reply it waits for. -/
theorem Waiting.receive {st : RecvLoop} {ds : List (Delivery R.family)}
    (hw : Waiting R requestId timeout start st ds) (d : Delivery R.family) {arrived : ℕ}
    (ha : start ≤ arrived) :
    let st' := st.receive crc requestId timeout arrived d.datagram
    st'.received = st.received ++ [d.datagram] ∧ st'.result = R.outcome requestId st'.received ∧
      (st'.result = none → Waiting R requestId timeout start st' (ds ++ [d])) := by
  have hreceived : st.received ++ [d.datagram] = (ds ++ [d]).map Delivery.datagram := by
    rw [hw.received, List.map_append, List.map_singleton]
  have hpending : R.outcome requestId (ds.map Delivery.datagram) = none :=
    hw.received ▸ hw.pending
  by_cases h1 : (R.family d.frame).total = 1
  · have hst : st.receive crc requestId timeout arrived d.datagram =
        { st with
          received := st.received ++ [d.datagram]
          result := acceptFrame requestId (R.family d.frame).frame } := by
      have hdec := (R.family d.frame).decode_single h1 d.chunk.isLt
      rw [RecvLoop.receive]
      simp only [Delivery.datagram, Fin.getElem_fin, hdec]
    have hout := outcome_single h1 hpending
    rw [hst]
    refine ⟨rfl, by rw [← hout, hreceived], fun hnone => ⟨hreceived, ?_, ?_⟩⟩
    · rw [hreceived, hout]
      exact hnone
    · rw [chunked_append_of_single h1]
      exact hw.reassembler
  · obtain ⟨opened, hopened, hre⟩ : ∃ opened, start ≤ opened ∧
        st.reassembler.getD (.new arrived timeout) =
          (UdpFrameReassembler.new opened timeout).run crc
            ((chunked ds).map Delivery.datagram) := by
      rcases hw.reassembler with ⟨hnone, hnil⟩ | ⟨opened, hopened, hsome⟩
      · exact ⟨arrived, ha, by rw [hnone, hnil]; rfl⟩
      · exact ⟨opened, hopened, by rw [hsome]; rfl⟩
    obtain ⟨frame?, hins, hout⟩ := outcome_chunk opened timeout h1 hpending
    have hst : st.receive crc requestId timeout arrived d.datagram =
        { reassembler := some (((UdpFrameReassembler.new opened timeout).run crc
            ((chunked ds).map Delivery.datagram)).insert crc d.datagram).1
          received := st.received ++ [d.datagram]
          result := frame?.bind (acceptFrame requestId) } := by
      have hdec : decodeUdpSingleChunkRef crc d.datagram = .ok none :=
        (R.family d.frame).decode_chunk h1 d.chunk.isLt
      rw [RecvLoop.receive]
      simp only [hdec, hre, hins]
      cases frame? <;> rfl
    rw [hst]
    refine ⟨rfl, by rw [← hout, hreceived],
      fun hnone => ⟨hreceived, ?_, .inr ⟨opened, hopened, ?_⟩⟩⟩
    · rw [hreceived, hout]
      exact hnone
    · rw [chunked_append h1, List.map_append, UdpFrameReassembler.run_append]
      rfl

/-! ### One turn -/

/-- A turn that receives nothing but a datagram of a reply, after the call began. -/
def Turn.Genuine (R : Replies crc) (start : ℕ) (t : Turn) : Prop :=
  start ≤ t.arrived ∧ ∀ datagram, t.received = .datagram datagram → R.Carries datagram

/-- Where a call is: still running, ended by the clock or the socket, or by the reply
it waited for. -/
inductive Progress (R : Replies crc) (requestId : UInt64) (timeout start : ℕ) (st : RecvLoop) : Prop
  | running (ds : List (Delivery R.family)) (hresult : st.result = none)
    (hw : Waiting R requestId timeout start st ds)
  | failed (e : RecvError) (hresult : st.result = some (.error e)) (hkind : e.kind = .io)
    (hpending : R.outcome requestId st.received = none)
  | ended (frame : Bytes) (hresult : st.result = some (.ok frame))
    (hout : R.outcome requestId st.received = some (.ok frame))

/-- An ended call stays as it is. -/
theorem RecvLoop.turn_of_isSome {st : RecvLoop} {deadline : ℕ} (h : st.result.isSome) (t : Turn) :
    st.turn crc requestId timeout deadline t = st := if_pos h

/-- Datagrams of replies never make a call fail. -/
theorem Replies.outcome_ne_error {received : List Bytes} {e : RecvError} :
    R.outcome requestId received ≠ some (.error e) := by
  unfold outcome
  cases R.reply requestId with
  | none => exact nofun
  | some s =>
    dsimp only
    split_ifs <;> exact nofun

/-- **The step lemma of the loop**: a turn keeps it running, on the datagrams
so far, or ends it with the reply or with an error of the clock or the socket.
-/
theorem Progress.turn {st : RecvLoop} (h : Progress R requestId timeout start st) {deadline : ℕ}
    {t : Turn} (ht : t.Genuine R start) :
    Progress R requestId timeout start (st.turn crc requestId timeout deadline t) := by
  cases h with
  | failed e hresult hkind hpending =>
    rw [RecvLoop.turn_of_isSome (by rw [hresult]; rfl)]
    exact .failed e hresult hkind hpending
  | ended frame hresult hout =>
    rw [RecvLoop.turn_of_isSome (by rw [hresult]; rfl)]
    exact .ended frame hresult hout
  | running ds hresult hw =>
    rw [RecvLoop.turn, hresult]
    simp only [Option.isSome_none, Bool.false_eq_true, if_false]
    split_ifs with hcond
    · cases hr : t.received with
      | timedOut => exact .failed _ rfl rfl hw.pending
      | failed message => exact .failed _ rfl rfl hw.pending
      | datagram datagram =>
        obtain ⟨d, rfl⟩ := (ht.2 _ hr).exists_delivery
        obtain ⟨-, hout, hnext⟩ := hw.receive d ht.1
        dsimp only
        cases hres : (st.receive crc requestId timeout t.arrived d.datagram).result with
        | none => exact .running _ hres (hnext hres)
        | some result =>
          rw [hres] at hout
          cases result with
          | error e => exact absurd hout.symm Replies.outcome_ne_error
          | ok frame => exact .ended frame hres hout.symm
    · exact .failed _ rfl rfl hw.pending

/-- A call that begins. -/
theorem waiting_nil : Waiting R requestId timeout start {} [] := by
  refine ⟨rfl, ?_, .inl ⟨rfl, rfl⟩⟩
  unfold Replies.outcome
  cases hs : R.reply requestId with
  | none => rfl
  | some s =>
    refine if_neg fun hall => ?_
    have hpos : 0 < s.datagrams.length := s.length_datagrams ▸ s.total_pos
    exact absurd (hall _ (List.getElem_mem hpos)) List.not_mem_nil

/-- **The run lemma of the loop**: wherever it is after some turns, it runs or
has ended as it should. -/
theorem progress_recvFrame {turns : List Turn} (h : ∀ t ∈ turns, t.Genuine R start) :
    Progress R requestId timeout start (recvFrame crc requestId timeout start turns) := by
  exact Lts.foldl_invariant (C := fun _ t => t.Genuine R start)
    (Lts.along_of_forall fun t ht _ => h t ht) (fun _ _ hst ht => hst.turn ht)
    (.running [] rfl waiting_nil)

/-- **When a call should have its reply**: as soon as all datagrams of it have
been received, and with its own frame. -/
theorem Replies.outcome_eq_ok_iff {received : List Bytes} {frame : Bytes} :
    R.outcome requestId received = some (.ok frame) ↔
      ∃ s, R.reply requestId = some s ∧ s.frame = frame ∧ ∀ d ∈ s.datagrams, d ∈ received := by
  unfold outcome
  cases R.reply requestId with
  | none => simp
  | some s =>
    dsimp only
    split_ifs with hall
    · simp only [Option.some.injEq, Except.ok.injEq, exists_eq_left']
      exact ⟨fun h => ⟨h, hall⟩, And.left⟩
    · simp only [Option.some.injEq, exists_eq_left', false_iff, not_and]
      exact fun _ => hall

/-- **What a call comes to**: no error but of the clock and the socket, and the
reply as soon as all its datagrams have been received. -/
theorem recvFrame_result {turns : List Turn} (h : ∀ t ∈ turns, t.Genuine R start)
    (requestId : UInt64) (timeout : ℕ) :
    let st := recvFrame crc requestId timeout start turns
    (∀ e, st.result = some (.error e) → e.kind ≠ .decode) ∧
      ∀ frame, st.result = some (.ok frame) ↔
        ∃ s, R.reply requestId = some s ∧ s.frame = frame ∧
          ∀ d ∈ s.datagrams, d ∈ st.received := by
  intro st
  have hp : Progress R requestId timeout start st := progress_recvFrame h
  refine ⟨fun e he hk => ?_, fun frame => ?_⟩
  · cases hp with
    | running ds hresult hw =>
      rw [hresult] at he
      cases he
    | failed e' hresult hkind hpending =>
      rw [hresult] at he
      obtain rfl := Except.error.inj (Option.some.inj he)
      exact absurd (hkind.symm.trans hk) (by decide)
    | ended frame hresult hout =>
      rw [hresult] at he
      cases he
  · rw [← Replies.outcome_eq_ok_iff]
    cases hp with
    | running ds hresult hw => rw [hresult, hw.pending]
    | failed e hresult hkind hpending => rw [hresult, hpending]; simp
    | ended frame' hresult hout => rw [hresult, hout]

/-! ### A turn in time -/

/-- The clock has not reached the deadline. -/
def Turn.InTime (deadline : ℕ) (t : Turn) : Prop := t.now < deadline ∧ t.checked < deadline

instance (deadline : ℕ) (t : Turn) : Decidable (t.InTime deadline) :=
  inferInstanceAs (Decidable (_ ∧ _))

/-- A turn in time receives: the reassembler, which is younger than the call, has
not expired either. -/
theorem Waiting.turn {st : RecvLoop} {ds : List (Delivery R.family)}
    (hw : Waiting R requestId timeout start st ds) (hresult : st.result = none) {t : Turn}
    (ht : t.InTime (start + timeout)) :
    st.turn crc requestId timeout (start + timeout) t =
      match t.received with
      | .datagram datagram => st.receive crc requestId timeout t.arrived datagram
      | .timedOut => { st with result := some (.error .waiting) }
      | .failed message => { st with result := some (.error (.recv message)) } := by
  have hfresh : (st.reassembler.all fun r => !r.isExpired t.checked) = true := by
    rcases hw.reassembler with ⟨hnone, -⟩ | ⟨opened, hopened, hsome⟩
    · rw [hnone]
      rfl
    · have hdeadline : t.checked < ((UdpFrameReassembler.new opened timeout).run crc
          ((chunked ds).map Delivery.datagram)).deadline := by
        rw [UdpFrameReassembler.deadline_run]
        exact lt_of_lt_of_le ht.2 (Nat.add_le_add_right hopened timeout)
      simpa [hsome, UdpFrameReassembler.isExpired] using hdeadline
  rw [RecvLoop.turn, hresult]
  simp only [Option.isSome_none, Bool.false_eq_true, if_false, ht.1, hfresh, true_and, if_true]

end Call

/-! ### Datagrams of other requests -/

/-- A datagram that arrives at the socket, and when. -/
structure Incoming where
  time : ℕ
  datagram : Bytes
  deriving DecidableEq

/-- The turns of a call, from this instant on, when these datagrams arrive and nothing but
`recv` takes time. -/
def socketTurns (timeout : ℕ) : ℕ → List Incoming → List Turn
  | clock, [] => [⟨clock, clock, clock, .timedOut, clock + timeout⟩]
  | clock, d :: ds =>
    if d.time ≤ clock + timeout then
      ⟨clock, clock, clock, .datagram d.datagram, max clock d.time⟩ ::
        socketTurns timeout (max clock d.time) ds
    else [⟨clock, clock, clock, .timedOut, clock + timeout⟩]

/-- The datagrams that arrive before the deadline. -/
def early (deadline : ℕ) (incoming : List Incoming) : List Incoming :=
  incoming.takeWhile fun d => d.time < deadline

/-- The datagram that `recv` hands over at the deadline or after it: the first to arrive
then, if that is within the timeout after the one before. -/
def lastChance (timeout deadline : ℕ) : ℕ → List Incoming → Option Incoming
  | _, [] => none
  | clock, d :: ds =>
    if d.time < deadline then lastChance timeout deadline (max clock d.time) ds
    else if d.time ≤ clock + timeout then some d
    else none

/-- Whether a datagram is of this request. -/
def Incoming.concerns (requestId : UInt64) (d : Incoming) : Bool :=
  match UdpChunkHeader.decode d.datagram with
  | .ok header => header.requestId == requestId
  | .error _ => false

namespace Replies

variable {crc : Crc32} (R : Replies crc)

/-- All of the reply has been received. -/
def Complete (requestId : UInt64) (received : List Bytes) : Prop :=
  ∃ s, R.reply requestId = some s ∧ ∀ d ∈ s.datagrams, d ∈ received

/-- The datagrams of other requests leave the end of a call where it is: it has its reply
before the deadline; or the datagram that is handed over later, if there is one, is there
with and without them, and is the last of the reply in both cases or in neither. -/
def Undisturbed (requestId : UInt64) (timeout start : ℕ) (incoming : List Incoming) : Prop :=
  let deadline := start + timeout
  let own := incoming.filter fun d => d.concerns requestId
  let received := (early deadline incoming).map Incoming.datagram
  timeout = 0 ∨ R.Complete requestId received ∨
    match lastChance timeout deadline start incoming, lastChance timeout deadline start own with
    | none, none => True
    | some d, some d' => R.Complete requestId (received ++ [d.datagram]) ↔
        R.Complete requestId (received ++ [d'.datagram])
    | none, some _ | some _, none => False

end Replies

section Socket

variable {crc : Crc32} {R : Replies crc} {requestId : UInt64} {timeout start clock : ℕ}
  {incoming : List Incoming}

/-- A reply of which something is missing has no outcome. -/
theorem Replies.outcome_eq_none_iff {received : List Bytes} :
    R.outcome requestId received = none ↔ ¬R.Complete requestId received := by
  unfold outcome Complete
  cases R.reply requestId with
  | none => simp
  | some s =>
    dsimp only
    split_ifs with hall
    · exact iff_of_false nofun fun h => h ⟨s, rfl, hall⟩
    · refine iff_of_true rfl ?_
      rintro ⟨s', hs, hall'⟩
      exact hall (Option.some.inj hs ▸ hall')

/-- The outcome is the reply, whenever it is complete. -/
theorem Replies.Complete.outcome_eq {received received' : List Bytes}
    (h : R.Complete requestId received) (h' : R.Complete requestId received') :
    R.outcome requestId received = R.outcome requestId received' := by
  obtain ⟨s, hs, hall⟩ := h
  obtain ⟨s', hs', hall'⟩ := h'
  obtain rfl := Option.some.inj (hs.symm.trans hs')
  exact (Replies.outcome_eq_ok_iff.2 ⟨s, hs, rfl, hall⟩).trans
    (Replies.outcome_eq_ok_iff.2 ⟨s, hs, rfl, hall'⟩).symm

/-- Two calls come to the same if both have the reply, or neither has and the errors are the
same. -/
theorem Replies.getD_outcome_eq_iff {received received' : List Bytes} {e e' : RecvError} :
    (R.outcome requestId received).getD (.error e) =
        (R.outcome requestId received').getD (.error e') ↔
      (R.Complete requestId received ↔ R.Complete requestId received') ∧
        (R.Complete requestId received ∨ e = e') := by
  have hne {xs : List Bytes} (h : R.Complete requestId xs) (e e' : RecvError) :
      (R.outcome requestId xs).getD (.error e) ≠ .error e' := by
    obtain ⟨s, hs, hall⟩ := h
    rw [Replies.outcome_eq_ok_iff.2 ⟨s, hs, rfl, hall⟩]
    exact nofun
  by_cases h : R.Complete requestId received <;> by_cases h' : R.Complete requestId received'
  · refine iff_of_true ?_ ⟨iff_of_true h h', .inl h⟩
    obtain ⟨s, hs, hall⟩ := h'
    rw [h.outcome_eq ⟨s, hs, hall⟩, Replies.outcome_eq_ok_iff.2 ⟨s, hs, rfl, hall⟩]
    rfl
  · rw [Replies.outcome_eq_none_iff.2 h']
    exact iff_of_false (hne h _ _) fun hiff => h' (hiff.1.1 h)
  · rw [Replies.outcome_eq_none_iff.2 h]
    exact iff_of_false (Ne.symm (hne h' _ _)) fun hiff => h (hiff.1.2 h')
  · rw [Replies.outcome_eq_none_iff.2 h, Replies.outcome_eq_none_iff.2 h']
    simp [h, h']

/-- A reply that is all there stays so. -/
theorem Replies.Complete.append {received : List Bytes} (h : R.Complete requestId received)
    (more : List Bytes) : R.Complete requestId (received ++ more) := by
  obtain ⟨s, hs, hall⟩ := h
  exact ⟨s, hs, fun d hd => List.mem_append_left _ (hall d hd)⟩

/-- What has been received stays received. -/
theorem Replies.outcome_append {received : List Bytes} {result : Except RecvError Bytes}
    (h : R.outcome requestId received = some result) (more : List Bytes) :
    R.outcome requestId (received ++ more) = some result := by
  cases result with
  | error e => exact absurd h Replies.outcome_ne_error
  | ok frame =>
    obtain ⟨s, hs, hframe, hall⟩ := Replies.outcome_eq_ok_iff.1 h
    exact Replies.outcome_eq_ok_iff.2
      ⟨s, hs, hframe, fun d hd => List.mem_append_left _ (hall d hd)⟩

/-- Turns after the end of a call change nothing. -/
theorem RecvLoop.foldl_turn_of_isSome {deadline : ℕ} {turns : List Turn} {st : RecvLoop}
    (h : st.result.isSome) :
    turns.foldl (RecvLoop.turn crc requestId timeout deadline) st = st := by
  induction turns with
  | nil => rfl
  | cons t turns ih => rw [List.foldl_cons, RecvLoop.turn_of_isSome h, ih]

/-- The first turn of a call is at once. -/
theorem exists_cons_socketTurns (timeout clock : ℕ) (incoming : List Incoming) :
    ∃ t ts, socketTurns timeout clock incoming = t :: ts ∧ t.now = clock := by
  cases incoming with
  | nil => exact ⟨_, _, rfl, rfl⟩
  | cons d ds =>
    rw [socketTurns]
    split_ifs <;> exact ⟨_, _, rfl, rfl⟩

/-- A call that goes on after the deadline is over with the next turn. -/
theorem foldl_socketTurns_of_le {deadline : ℕ} {st : RecvLoop} (hresult : st.result = none)
    (hclock : deadline ≤ clock) :
    ((socketTurns timeout clock incoming).foldl
        (RecvLoop.turn crc requestId timeout deadline) st).result =
      some (.error .reassembling) := by
  obtain ⟨t, ts, hcons, hnow⟩ := exists_cons_socketTurns timeout clock incoming
  have hturn : st.turn crc requestId timeout deadline t =
      { st with result := some (.error .reassembling) } := by
    rw [RecvLoop.turn, hresult, if_neg (by decide), if_neg fun h => ?_]
    exact Nat.not_lt.2 hclock (hnow ▸ h.1)
  rw [hcons, List.foldl_cons, hturn, RecvLoop.foldl_turn_of_isSome rfl]

/-- The error of a call that does not get its reply. -/
def missed (chance : Option Incoming) : RecvError :=
  match chance with
  | none => .waiting
  | some _ => .reassembling

/-- **What a call comes to**, from a turn before the deadline on, by induction
on the datagrams that are still to arrive. -/
theorem Waiting.foldl_socketTurns {st : RecvLoop} {ds : List (Delivery R.family)}
    (hw : Waiting R requestId timeout start st ds) (hresult : st.result = none)
    (hstart : start ≤ clock) (hclock : clock < start + timeout)
    (hcarried : ∀ d ∈ incoming, R.Carries d.datagram) :
    let chance := lastChance timeout (start + timeout) clock incoming
    ((socketTurns timeout clock incoming).foldl
        (RecvLoop.turn crc requestId timeout (start + timeout)) st).result =
      some ((R.outcome requestId (st.received ++
        (early (start + timeout) incoming ++ chance.toList).map Incoming.datagram)).getD
          (.error (missed chance))) := by
  induction incoming generalizing st ds clock with
  | nil =>
    rw [socketTurns, List.foldl_cons, List.foldl_nil, hw.turn hresult ⟨hclock, hclock⟩]
    simp [early, lastChance, hw.pending, missed]
  | cons d incoming ih =>
    obtain ⟨hd, hcarried⟩ := List.forall_mem_cons.1 hcarried
    obtain ⟨d', hd'⟩ := hd.exists_delivery
    have harrived : start ≤ max clock d.time := hstart.trans (le_max_left _ _)
    obtain ⟨hreceived, hout, hnext⟩ := hw.receive d' harrived
    rw [hd'] at hreceived hout hnext
    have hturn : st.turn crc requestId timeout (start + timeout)
        ⟨clock, clock, clock, .datagram d.datagram, max clock d.time⟩ =
          st.receive crc requestId timeout (max clock d.time) d.datagram :=
      hw.turn hresult ⟨hclock, hclock⟩
    rw [hreceived] at hout
    by_cases hearly : d.time < start + timeout
    · -- one more before the deadline
      rw [socketTurns, if_pos (by omega), List.foldl_cons, hturn]
      have hlater : early (start + timeout) (d :: incoming) =
          d :: early (start + timeout) incoming := List.takeWhile_cons_of_pos (by simpa using hearly)
      dsimp only
      rw [lastChance, if_pos hearly, hlater]
      cases hres : (st.receive crc requestId timeout (max clock d.time) d.datagram).result with
      | none =>
        have h := ih (hnext hres) hres harrived (max_lt hclock hearly) hcarried
        dsimp only at h
        rw [h, hreceived]
        simp only [List.cons_append, List.map_cons, List.append_assoc, List.nil_append]
      | some result =>
        rw [RecvLoop.foldl_turn_of_isSome (by rw [hres]; rfl), hres]
        have hmore := Replies.outcome_append (hout.symm.trans hres)
          ((early (start + timeout) incoming ++
            (lastChance timeout (start + timeout) (max clock d.time) incoming).toList).map
              Incoming.datagram)
        rw [List.append_assoc, List.singleton_append] at hmore
        rw [List.cons_append, List.map_cons, hmore]
        rfl
    · have hnone : early (start + timeout) (d :: incoming) = [] :=
        List.takeWhile_cons_of_neg (by simpa using hearly)
      dsimp only
      rw [socketTurns, lastChance, if_neg hearly, hnone]
      split_ifs with hwithin
      · -- the last one, after the deadline
        rw [List.foldl_cons, hturn]
        cases hres : (st.receive crc requestId timeout (max clock d.time) d.datagram).result with
        | none =>
          have hpending := hout.symm.trans hres
          rw [foldl_socketTurns_of_le hres (by omega)]
          simp [hpending, missed]
        | some result =>
          rw [RecvLoop.foldl_turn_of_isSome (by rw [hres]; rfl), hres]
          have hmore := hout.symm.trans hres
          simp [hmore]
      · rw [List.foldl_cons, List.foldl_nil, hw.turn hresult ⟨hclock, hclock⟩]
        simp [hw.pending, missed]

/-- **What a call comes to**: its reply, if the datagrams that arrive before the deadline and
the one that is handed over later are all of it. -/
theorem recvFrame_socketTurns (htimeout : 0 < timeout)
    (hcarried : ∀ d ∈ incoming, R.Carries d.datagram) :
    let chance := lastChance timeout (start + timeout) start incoming
    (recvFrame crc requestId timeout start (socketTurns timeout start incoming)).result =
      some ((R.outcome requestId ((early (start + timeout) incoming).map Incoming.datagram ++
        chance.toList.map Incoming.datagram)).getD (.error (missed chance))) := by
  have hw : Waiting R requestId timeout start {} [] := waiting_nil
  have h := hw.foldl_socketTurns rfl le_rfl (Nat.lt_add_of_pos_right htimeout) hcarried
  dsimp only at h ⊢
  rw [← List.map_append]
  exact h

/-- Of datagrams in order, those that arrive before the deadline are the first. -/
theorem early_filter {deadline : ℕ} (p : Incoming → Bool)
    (hsorted : incoming.Pairwise fun d d' => d.time ≤ d'.time) :
    early deadline (incoming.filter p) = (early deadline incoming).filter p := by
  have hfilter {l : List Incoming} (h : l.Pairwise fun d d' => d.time ≤ d'.time) :
      early deadline l = l.filter fun d => d.time < deadline := by
    induction l with
    | nil => rfl
    | cons d l ih =>
      obtain ⟨hd, hl⟩ := List.pairwise_cons.1 h
      by_cases hearly : d.time < deadline
      · rw [early, List.takeWhile_cons_of_pos (by simpa using hearly),
          List.filter_cons_of_pos (by simpa using hearly), ← ih hl, early]
      · rw [early, List.takeWhile_cons_of_neg (by simpa using hearly), eq_comm,
          List.filter_eq_nil_iff]
        intro d' hd'
        have hle : d.time ≤ d'.time := by
          rcases List.mem_cons.1 hd' with rfl | hd'
          · exact le_rfl
          · exact hd d' hd'
        simpa using (Nat.not_lt.1 hearly).trans hle
  rw [hfilter hsorted, hfilter (hsorted.filter p), List.filter_comm]

/-- A datagram of the reply concerns the request. -/
theorem Replies.concerns_of_mem {s : Sent crc} (hs : R.reply requestId = some s) {d : Incoming}
    (hd : d.datagram ∈ s.datagrams) : d.concerns requestId = true := by
  obtain ⟨l, hl, he⟩ := List.getElem_of_mem hd
  rw [Incoming.concerns, ← he, s.decode_datagram hl]
  dsimp only
  rw [Sent.requestId_headerAt, R.requestId_reply _ _ hs]
  exact beq_self_eq_true _

/-- The outcome is a matter of the datagrams of the request. -/
theorem Replies.outcome_filter (more : List Bytes) :
    R.outcome requestId
        ((incoming.filter fun d => d.concerns requestId).map Incoming.datagram ++ more) =
      R.outcome requestId (incoming.map Incoming.datagram ++ more) := by
  refine Replies.outcome_congr fun s hs datagram hdatagram => ?_
  simp only [List.mem_append, List.mem_map, List.mem_filter]
  refine or_congr_left ⟨fun ⟨d, ⟨hd, _⟩, he⟩ => ⟨d, hd, he⟩, fun ⟨d, hd, he⟩ =>
    ⟨d, ⟨hd, Replies.concerns_of_mem hs (he ▸ hdatagram)⟩, he⟩⟩

/-- **When the datagrams of other requests make no difference**: exactly if
they leave the end of the call where it is. -/
theorem undisturbed_iff (hsorted : incoming.Pairwise fun d d' => d.time ≤ d'.time)
    (hcarried : ∀ d ∈ incoming, R.Carries d.datagram) :
    (recvFrame crc requestId timeout start (socketTurns timeout start incoming)).result =
        (recvFrame crc requestId timeout start
          (socketTurns timeout start (incoming.filter fun d => d.concerns requestId))).result ↔
      R.Undisturbed requestId timeout start incoming := by
  rcases Nat.eq_zero_or_pos timeout with rfl | htimeout
  · refine iff_of_true ?_ (.inl rfl)
    have hend (l : List Incoming) : (recvFrame crc requestId 0 start (socketTurns 0 start l)).result =
        some (.error .reassembling) := foldl_socketTurns_of_le rfl le_rfl
    rw [hend, hend]
  · have hown (d : Incoming) (hd : d ∈ incoming.filter fun d => d.concerns requestId) :
        R.Carries d.datagram := hcarried d (List.mem_of_mem_filter hd)
    rw [recvFrame_socketTurns htimeout hcarried, recvFrame_socketTurns htimeout hown,
      early_filter _ hsorted, Replies.outcome_filter, Option.some.injEq,
      Replies.getD_outcome_eq_iff, Replies.Undisturbed, or_iff_right htimeout.ne']
    by_cases hcomplete :
        R.Complete requestId ((early (start + timeout) incoming).map Incoming.datagram)
    · exact iff_of_true ⟨iff_of_true (hcomplete.append _) (hcomplete.append _),
        .inl (hcomplete.append _)⟩ (.inl hcomplete)
    · rw [or_iff_right hcomplete]
      rcases lastChance timeout (start + timeout) start incoming with _ | d <;>
        rcases lastChance timeout (start + timeout) start
          (incoming.filter fun d => d.concerns requestId) with _ | d' <;>
        simp [missed, hcomplete]

end Socket

/-! ### A node and its requests -/

/-- A call of `recv_frame`, with its turns so far. -/
structure Call where
  requestId : UInt64
  timeout : ℕ
  start : ℕ
  turns : List Turn

/-- The loop of a call. -/
def Call.loop (crc : Crc32) (c : Call) : RecvLoop :=
  recvFrame crc c.requestId c.timeout c.start c.turns

/-- A `ConnectedUdpNode`, from its handshake on: the id of the next request, the ids
in use, what the server has answered, and the calls of `recv_frame`, the latest
first. -/
structure NodeState (crc : Crc32) where
  nextRequestId : UInt64 := 1
  issued : List UInt64 := []
  replies : Replies crc := ⟨fun _ => none, nofun⟩
  calls : List Call := []

/-- The server answers a request. -/
def Replies.answer {crc : Crc32} (R : Replies crc) (s : Sent crc) : Replies crc where
  reply := Function.update R.reply s.requestId (some s)
  requestId_reply id s' h := by
    by_cases hid : id = s.requestId
    · rw [hid, Function.update_self] at h
      rw [← Option.some.inj h, hid]
    · rw [Function.update_of_ne hid] at h
      exact R.requestId_reply id s' h

/-- What happens to a node. -/
inductive NodeAct (crc : Crc32)
  /-- `next_id`: a thread begins a query, a refresh or a disconnect. -/
  | nextId
  /-- Its request is sent, and `recv_frame` called with its id. -/
  | recvFrame (requestId : UInt64) (timeout start : ℕ)
  /-- The server answers a request. -/
  | answer (s : Sent crc)
  /-- A turn of the loop. -/
  | turn (t : Turn)

/-- One step.  The lock of the socket lets one call run at a time, the server
answers a request once, and the network hands over any datagram of any reply, any
number of times or never; the clock does not go back. -/
inductive NodeStep {crc : Crc32} : NodeState crc → NodeAct crc → NodeState crc → Prop
  | nextId (s : NodeState crc) : NodeStep s .nextId
      { s with nextRequestId := s.nextRequestId + 1, issued := s.nextRequestId :: s.issued }
  | recvFrame {s : NodeState crc} {requestId : UInt64} (timeout start : ℕ)
      (hid : requestId ∈ s.issued) (hfree : ∀ c ∈ s.calls.head?, (c.loop crc).result.isSome) :
    NodeStep s (.recvFrame requestId timeout start)
      { s with calls := ⟨requestId, timeout, start, []⟩ :: s.calls }
  | answer {s : NodeState crc} {reply : Sent crc} (hid : reply.requestId ∈ s.issued)
      (honce : s.replies.reply reply.requestId = none) :
    NodeStep s (.answer reply) { s with replies := s.replies.answer reply }
  | turn {s : NodeState crc} {c : Call} {cs : List Call} {t : Turn} (hcalls : s.calls = c :: cs)
      (hrunning : (c.loop crc).result = none) (hclock : t.Clocked c.start c.timeout)
      (hgenuine : ∀ datagram, t.received = .datagram datagram → s.replies.Carries datagram) :
    NodeStep s (.turn t) { s with calls := { c with turns := c.turns ++ [t] } :: cs }

/-- A new node and its server. -/
def nodeSystem (crc : Crc32) : Lts (NodeState crc) (NodeAct crc) where
  init s := s = {}
  step := NodeStep

section Node

variable {crc : Crc32} {s s' : NodeState crc} {a : NodeAct crc}

/-- A reply that has been given stays. -/
theorem Replies.Carries.answer {R : Replies crc} {reply : Sent crc} {datagram : Bytes}
    (honce : R.reply reply.requestId = none) (h : R.Carries datagram) :
    (R.answer reply).Carries datagram := by
  obtain ⟨id, r, hr, hd⟩ := h
  have hne : id ≠ reply.requestId := by
    rintro rfl
    rw [honce] at hr
    cases hr
  exact ⟨id, r, (Function.update_of_ne hne _ _).trans hr, hd⟩

/-- All that the calls have received are datagrams of replies. -/
def NodeState.Genuine (s : NodeState crc) : Prop :=
  ∀ c ∈ s.calls, ∀ t ∈ c.turns, t.Genuine s.replies c.start

/-- One step of a client keeps its calls genuine: what they receive was sent,
and while they wait. -/
theorem genuine_step (h : s.Genuine) (hs : (nodeSystem crc).step s a s') : s'.Genuine := by
  cases hs with
  | nextId => exact h
  | recvFrame timeout start hid hfree =>
    intro c hc t ht
    rcases List.mem_cons.1 hc with rfl | hc
    · cases ht
    · exact h c hc t ht
  | answer hid honce =>
    intro c hc t ht
    exact ⟨(h c hc t ht).1, fun datagram hd => ((h c hc t ht).2 datagram hd).answer honce⟩
  | @turn c cs t hcalls hrunning hclock hgenuine =>
    have hold : ∀ c' ∈ c :: cs, ∀ t ∈ c'.turns, t.Genuine s.replies c'.start := hcalls ▸ h
    intro c' hc' u hu
    rcases List.mem_cons.1 hc' with rfl | hc'
    · rcases List.mem_append.1 hu with hu | hu
      · exact hold c List.mem_cons_self u hu
      · obtain rfl := List.mem_singleton.1 hu
        exact ⟨hclock.le_arrived, hgenuine⟩
    · exact hold c' (List.mem_cons_of_mem _ hc') u hu

/-- **In every reachable state the calls are genuine**: each has received
datagrams of replies only, and not before it began. -/
theorem genuine_of_reachable (h : (nodeSystem crc).Reachable s) : s.Genuine :=
  h.invariant (fun s hs => by
    obtain rfl : s = {} := hs
    exact nofun) fun _ _ _ => genuine_step

/-- Turns after the end of a call change nothing. -/
theorem Call.result_of_prefix {c : Call} {turns : List Turn} (h : (c.loop crc).result.isSome)
    (hturns : c.turns <+: turns) :
    (recvFrame crc c.requestId c.timeout c.start turns).result = (c.loop crc).result := by
  obtain ⟨more, rfl⟩ := hturns
  rw [recvFrame, List.foldl_append]
  exact congrArg RecvLoop.result (RecvLoop.foldl_turn_of_isSome h)

end Node

/-! ### A late reply -/

/-- A reply of one datagram. -/
def lateReply (requestId : UInt64) : Sent Crc32.ieee :=
  .single _ (decodeFrame_encodeFrame (h := .new .runtimePayload requestId 1) (p := [0]) rfl
    (by decide)) (le_refl UDP_MIN_PAYLOAD) udpMinPayload_le (by rw [length_encodeFrame]; decide)

/-- The reply has the request id it was made for. -/
theorem requestId_lateReply (requestId : UInt64) : (lateReply requestId).requestId = requestId :=
  Sent.requestId_single ..

/-- The only datagram of the reply. -/
def lateDatagram (requestId : UInt64) : Bytes := (lateReply requestId).datagrams.headD []

/-- The reply to request 1 arrives, and then that to request 2. -/
def lateIncoming (t₁ t₂ : ℕ) : List Incoming := [⟨t₁, lateDatagram 1⟩, ⟨t₂, lateDatagram 2⟩]

/-- The second call of a node, after the first has timed out. -/
def lateCall (t₁ t₂ : ℕ) : Call where
  requestId := 2
  timeout := 5
  start := 10
  turns := [⟨10, 10, 10, .datagram (lateDatagram 1), t₁⟩,
    ⟨t₁, t₁, t₁, .datagram (lateDatagram 2), t₂⟩]

/-- The first call. -/
def earlyCall : Call where
  requestId := 1
  timeout := 5
  start := 0
  turns := [⟨0, 0, 0, .timedOut, 5⟩]

/-- The two replies. -/
def lateReplies : Replies Crc32.ieee :=
  ((⟨fun _ => none, nofun⟩ : Replies Crc32.ieee).answer (lateReply 1)).answer (lateReply 2)

/-- Its one datagram is on the way once it has been sent. -/
theorem carries_lateReplies (id : UInt64) (h : lateReplies.reply id = some (lateReply id)) :
    lateReplies.Carries (lateDatagram id) := ⟨id, _, h, List.mem_singleton_self _⟩

/-- There are replies to both requests. -/
theorem reply_lateReplies :
    lateReplies.reply 1 = some (lateReply 1) ∧ lateReplies.reply 2 = some (lateReply 2) := by
  simp only [lateReplies, Replies.answer, requestId_lateReply]
  exact ⟨rfl, rfl⟩

/-- One more step of a reachable client. -/
theorem NodeStep.reachable {crc : Crc32} {s s' : NodeState crc} {a : NodeAct crc}
    (hs : NodeStep s a s') (h : (nodeSystem crc).Reachable s) : (nodeSystem crc).Reachable s' :=
  h.step hs

/-- The node after both calls. -/
def lateNode (t₁ t₂ : ℕ) : NodeState Crc32.ieee where
  nextRequestId := 3
  issued := [2, 1]
  replies := lateReplies
  calls := [lateCall t₁ t₂, earlyCall]

/-- **The client with both replies**: the first comes at `t₁`, no later than
the deadline at 15, and the second one within a socket timeout of it. -/
theorem reachable_lateNode {t₁ t₂ : ℕ} (h₀ : 10 ≤ t₁) (h₁ : t₁ ≤ 15) (h₂ : t₁ ≤ t₂)
    (h₃ : t₂ ≤ t₁ + 5) : (nodeSystem Crc32.ieee).Reachable (lateNode t₁ t₂) := by
  obtain ⟨hreply₁, hreply₂⟩ := reply_lateReplies
  have hempty : ∀ t : Turn, t.received = .timedOut → ∀ R : Replies Crc32.ieee, ∀ datagram,
      t.received = .datagram datagram → R.Carries datagram := by
    intro t ht R datagram h
    rw [ht] at h
    cases h
  have hcalled : (nodeSystem Crc32.ieee).Reachable
      { nextRequestId := 2, issued := [1], calls := [⟨1, 5, 0, []⟩] } :=
    NodeStep.reachable (.recvFrame 5 0 (List.mem_singleton_self 1) (by simp))
      (NodeStep.reachable (.nextId _) (.of_init rfl))
  have hfirst : (nodeSystem Crc32.ieee).Reachable
      { nextRequestId := 2, issued := [1], calls := [earlyCall] } :=
    NodeStep.reachable (.turn (c := ⟨1, 5, 0, []⟩) (t := ⟨0, 0, 0, .timedOut, 5⟩) rfl rfl
      ⟨le_rfl, le_rfl, le_rfl, Nat.zero_le 5, le_rfl⟩ (hempty _ rfl _)) hcalled
  have hanswered : (nodeSystem Crc32.ieee).Reachable
      { nextRequestId := 3, issued := [2, 1]
        replies := (⟨fun _ => none, nofun⟩ : Replies _).answer (lateReply 1)
        calls := [⟨2, 5, 10, []⟩, earlyCall] } := by
    have h := NodeStep.reachable (.nextId _) (NodeStep.reachable
      (.answer (List.mem_singleton.2 (requestId_lateReply 1)) rfl) hfirst)
    exact NodeStep.reachable (.recvFrame 5 10 List.mem_cons_self
      (fun c hc => by obtain rfl := Option.mem_some_iff.1 hc; rfl)) h
  have hsecond : (nodeSystem Crc32.ieee).Reachable
      { nextRequestId := 3, issued := [2, 1], replies := lateReplies
        calls := [⟨2, 5, 10, []⟩, earlyCall] } :=
    NodeStep.reachable (.answer (by rw [requestId_lateReply]; exact List.mem_cons_self)
      (by simp only [requestId_lateReply, Replies.answer]; rfl)) hanswered
  let waiting : Call := ⟨2, 5, 10, [⟨10, 10, 10, .datagram (lateDatagram 1), t₁⟩]⟩
  have hlate : (nodeSystem Crc32.ieee).Reachable
      { nextRequestId := 3, issued := [2, 1], replies := lateReplies
        calls := [waiting, earlyCall] } :=
    NodeStep.reachable (.turn (c := ⟨2, 5, 10, []⟩) rfl rfl
      ⟨le_rfl, le_rfl, le_rfl, h₀, h₁⟩ fun datagram h =>
        Received.datagram.inj h ▸ carries_lateReplies 1 hreply₁) hsecond
  have hrunning : (waiting.loop Crc32.ieee).result = none := by
    have hdecode : decodeUdpSingleChunkRef Crc32.ieee (lateDatagram 1) =
        .ok (some (lateReply 1).frame) := by decide +kernel
    have hother : acceptFrame 2 (lateReply 1).frame = none := by decide +kernel
    rw [Call.loop, recvFrame, List.foldl_cons, List.foldl_nil, RecvLoop.turn,
      if_neg (by decide), if_pos ⟨show 10 < 10 + 5 by decide, rfl⟩]
    dsimp only
    rw [RecvLoop.receive, hdecode]
    exact hother
  exact NodeStep.reachable (.turn (c := waiting) rfl hrunning ⟨h₀, le_rfl, le_rfl, h₂, h₃⟩
    fun datagram h => Received.datagram.inj h ▸ carries_lateReplies 2 hreply₂) hlate

/-- The turns of the call are those of a socket. -/
theorem turns_lateCall {t₁ t₂ : ℕ} (h₀ : 10 ≤ t₁) (h₁ : t₁ ≤ 15) (h₂ : t₁ ≤ t₂)
    (h₃ : t₂ ≤ t₁ + 5) :
    (lateCall t₁ t₂).turns <+: socketTurns 5 10 (lateIncoming t₁ t₂) := by
  rw [lateIncoming, socketTurns, if_pos h₁, socketTurns, max_eq_right h₀, if_pos h₃,
    max_eq_right h₂]
  exact List.prefix_append [_, _] _

/-- Both datagrams belong to replies, and the second does not come before the first. -/
theorem lateIncoming_carried {t₁ t₂ : ℕ} (h₂ : t₁ ≤ t₂) :
    ((lateIncoming t₁ t₂).Pairwise fun d d' => d.time ≤ d'.time) ∧
      ∀ d ∈ lateIncoming t₁ t₂, (lateNode t₁ t₂).replies.Carries d.datagram := by
  refine ⟨List.pairwise_pair.2 h₂, fun d hd => ?_⟩
  rcases List.mem_pair.1 hd with rfl | rfl
  · exact carries_lateReplies 1 reply_lateReplies.1
  · exact carries_lateReplies 2 reply_lateReplies.2

/-- Without the first. -/
theorem filter_lateIncoming (t₁ t₂ : ℕ) :
    (lateIncoming t₁ t₂).filter (fun d => d.concerns 2) = [⟨t₂, lateDatagram 2⟩] := by
  have h₁ (t : ℕ) : (⟨t, lateDatagram 1⟩ : Incoming).concerns 2 = false :=
    show (⟨0, lateDatagram 1⟩ : Incoming).concerns 2 = false by decide +kernel
  have h₂ (t : ℕ) : (⟨t, lateDatagram 2⟩ : Incoming).concerns 2 = true :=
    show (⟨0, lateDatagram 2⟩ : Incoming).concerns 2 = true by decide +kernel
  rw [lateIncoming, List.filter_cons_of_neg (by rw [h₁]; exact Bool.false_ne_true),
    List.filter_cons_of_pos (h₂ t₂), List.filter_nil]

end Client
end Clustat
