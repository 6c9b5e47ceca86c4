/-
# Peers do not notice each other

`server_loop` of `crates/server/src/udp_transport.rs` is one thread for all peers: whatever
they send arrives in one queue, and the loop keeps a reassembler and a payload capacity for
each of them.  A turn works on the entries of the sender alone (`separate_serverLoop`), so
the datagrams that are sent to a peer in a run are those of the run of its own datagrams,
with whatever the others send left out (`sentTo_eq`).

So a client can rely on the server whoever else is there: within the idle timeout, every
datagram of its requests that is the last of its frame to arrive is answered by the reply of
`handle_frame`, if UDP can carry it, and the others by nothing (`requests_answered`).
-/

import Clustat.Lib.Lanes
import Clustat.Server.Timeout

namespace Clustat
namespace Server

open Udp

section Loop

variable {Addr : Type} [DecidableEq Addr] (w : Wire) (crc : Crc32) (idleTimeout : ℕ)

/-- One turn of `server_loop`, with what it sends. -/
def LoopState.turnSends (st : LoopState Addr) (e : LoopEvent Addr) : LoopState Addr × List Bytes :=
  serverLoopStep w crc e.latest e.ipv4 idleTimeout e.now e.capacity st e.peer e.datagram

/-- What `server_loop` sends in some turns, and to whom. -/
def serverLoopSends (events : List (LoopEvent Addr)) : List (Addr × Bytes) :=
  Lanes.outputs (LoopState.turnSends w crc idleTimeout) LoopEvent.peer .empty events

/-- What the loop has in its maps for a peer. -/
def LoopState.lane (peer : Addr) (st : LoopState Addr) : Option UdpFrameReassembler × Option ℕ :=
  (st.reassemblers peer, st.payloadCaps peer)

variable {w crc idleTimeout} {st st' : LoopState Addr} {e : LoopEvent Addr}

omit [DecidableEq Addr] in
/-- Two states have the same lane for a peer exactly when they have the same
reassembler and the same capacity for it. -/
theorem LoopState.lane_eq_iff {peer : Addr} : st.lane peer = st'.lane peer ↔
    st.reassemblers peer = st'.reassemblers peer ∧ st.payloadCaps peer = st'.payloadCaps peer :=
  Prod.mk_inj

/-- A datagram of one peer leaves the lanes of all others alone. -/
theorem lane_receiveFrame_of_ne {peer : Addr} (h : peer ≠ e.peer) :
    (receiveFrame crc idleTimeout e.now st e.peer e.datagram).1.lane peer = st.lane peer := by
  cases hchunk : isChunk crc e.datagram with
  | true =>
    rw [receiveFrame_of_chunk hchunk]
    exact LoopState.lane_eq_iff.2 ⟨Function.update_of_ne h _ _, rfl⟩
  | false => rw [receiveFrame_of_not_chunk hchunk]

/-- A turn leaves the entries of the others. -/
theorem lane_turnSends_of_ne {peer : Addr} (h : peer ≠ e.peer) :
    (st.turnSends w crc idleTimeout e).1.lane peer = st.lane peer := by
  have hrecv := @lane_receiveFrame_of_ne _ _ crc idleTimeout st e peer h
  rw [LoopState.turnSends, serverLoopStep]
  rcases hout : receiveFrame crc idleTimeout e.now st e.peer e.datagram with ⟨st', _ | frame⟩
  · rwa [hout] at hrecv
  · rw [hout] at hrecv
    dsimp only at hrecv ⊢
    rw [← hrecv, LoopState.lane_eq_iff]
    split_ifs
    · exact ⟨Function.update_of_ne h _ _, rfl⟩
    · exact ⟨rfl, Function.update_of_ne h _ _⟩
    · exact ⟨rfl, rfl⟩

/-- What is received of a peer, and the entries it leaves, depend on the peer's entries. -/
theorem receiveFrame_congr (h : st.lane e.peer = st'.lane e.peer) :
    (receiveFrame crc idleTimeout e.now st e.peer e.datagram).1.lane e.peer =
        (receiveFrame crc idleTimeout e.now st' e.peer e.datagram).1.lane e.peer ∧
      (receiveFrame crc idleTimeout e.now st e.peer e.datagram).2 =
        (receiveFrame crc idleTimeout e.now st' e.peer e.datagram).2 := by
  obtain ⟨hr, hc⟩ := LoopState.lane_eq_iff.1 h
  unfold receiveFrame
  rcases decodeUdpSingleChunkRef crc e.datagram with _ | _ | frame
  · exact ⟨h, rfl⟩
  · dsimp only
    rw [hr]
    refine ⟨LoopState.lane_eq_iff.2 ⟨?_, hc⟩, rfl⟩
    dsimp only
    rw [Function.update_self, Function.update_self]
  · exact ⟨h, rfl⟩

/-- So does the whole turn. -/
theorem turnSends_congr (h : st.lane e.peer = st'.lane e.peer) :
    (st.turnSends w crc idleTimeout e).1.lane e.peer =
        (st'.turnSends w crc idleTimeout e).1.lane e.peer ∧
      (st.turnSends w crc idleTimeout e).2 = (st'.turnSends w crc idleTimeout e).2 := by
  obtain ⟨hlane, hframe⟩ := @receiveFrame_congr _ _ crc idleTimeout st st' e h
  rw [LoopState.turnSends, LoopState.turnSends, serverLoopStep, serverLoopStep]
  generalize receiveFrame crc idleTimeout e.now st e.peer e.datagram = out at hlane hframe
  generalize receiveFrame crc idleTimeout e.now st' e.peer e.datagram = out' at hlane hframe
  obtain ⟨st₁, frame?⟩ := out
  obtain ⟨st₂, frame?'⟩ := out'
  obtain rfl : frame? = frame?' := hframe
  obtain ⟨hr, hc⟩ := LoopState.lane_eq_iff.1 hlane
  cases frame? with
  | none => exact ⟨hlane, rfl⟩
  | some frame =>
    have hcap : payloadCap st₁ e.peer e.capacity = payloadCap st₂ e.peer e.capacity := by
      rw [payloadCap, payloadCap, hc]
    have hself : ∀ {α : Type} (f g : Addr → α) (v : α),
        Function.update f e.peer v e.peer = Function.update g e.peer v e.peer := fun f g v =>
      (Function.update_self e.peer v f).trans (Function.update_self e.peer v g).symm
    dsimp only at hr hc ⊢
    rw [LoopState.lane_eq_iff, hcap]
    split_ifs
    · exact ⟨⟨hself _ _ _, hc⟩, rfl⟩
    · exact ⟨⟨hr, hself _ _ _⟩, rfl⟩
    · exact ⟨⟨hr, hc⟩, rfl⟩

/-- **Each peer has its lane**: a turn for one peer changes no other lane, and
what it sends depends on its own lane only. -/
theorem separate_serverLoop :
    Lanes.Separate (LoopState.turnSends w crc idleTimeout) LoopEvent.peer
      (@LoopState.lane Addr) where
  others _ _ _ h := lane_turnSends_of_ne h
  own _ _ _ h := turnSends_congr h

/-- **A peer is sent what its own datagrams get it.**  In every run of the loop, whatever the
others send and in whatever order it arrives, the datagrams that are sent to a peer are those
of the run of the peer's datagrams alone. -/
theorem sentTo_eq (w : Wire) (crc : Crc32) (idleTimeout : ℕ) (events : List (LoopEvent Addr))
    (peer : Addr) :
    (serverLoopSends w crc idleTimeout events).filter (·.1 = peer) =
      serverLoopSends w crc idleTimeout (events.filter (·.peer = peer)) :=
  separate_serverLoop.outputs_eq rfl events

end Loop

/-! ### The requests of a peer -/

section Requests

variable {Addr : Type} [DecidableEq Addr] {w : Wire} {crc : Crc32} {idleTimeout : ℕ}
variable {ι : Type*} {family : ι → Sent crc} {peer : Addr}

/-- The deliveries that go to a reassembler. -/
def inChunks (ds : List (Delivery family)) : List (Delivery family) :=
  ds.filter fun d => (family d.frame).total ≠ 1

/-- The datagrams that go through the reassembler are those of frames in
several chunks. -/
theorem mem_inChunks {ds : List (Delivery family)} {d : Delivery family} :
    d ∈ inChunks ds ↔ d ∈ ds ∧ (family d.frame).total ≠ 1 := by
  rw [inChunks, List.mem_filter, decide_eq_true_iff]

/-- A datagram of a request is one of several exactly when its frame has
several. -/
theorem isChunk_delivery (d : Delivery family) :
    isChunk crc d.datagram = true ↔ (family d.frame).total ≠ 1 := by
  rw [isChunk_iff, Delivery.datagram]
  constructor
  · intro h h1
    cases ((family d.frame).decode_single h1 d.chunk.isLt).symm.trans h
  · exact fun h1 => (family d.frame).decode_chunk h1 d.chunk.isLt

omit [DecidableEq Addr] in
/-- A datagram of a request is not one of a `Disconnect`. -/
theorem not_ofDisconnect {e : LoopEvent Addr} {d : Delivery family}
    (htype : (family d.frame).frameHeader.frameType ≠ .disconnect)
    (hd : e.datagram = d.datagram) : ¬e.OfDisconnect := by
  rintro ⟨header, hdec, ht⟩
  rw [hd] at hdec
  obtain rfl := Except.ok.inj (((family d.frame).decode_datagram d.chunk.isLt).symm.trans hdec)
  exact htype ht

/-- **What the loop has of a peer's requests**: all their chunks, in one
reassembler, which does not expire in between, since they come within the idle
timeout. -/
theorem reassemblers_of_requests
    (htype : ∀ i, (family i).frameHeader.frameType ≠ .disconnect) {events : List (LoopEvent Addr)}
    {ds : List (Delivery family)}
    (hds : (events.filter (·.peer = peer)).map LoopEvent.datagram = ds.map Delivery.datagram)
    (hnow : ∀ a ∈ events, ∀ b ∈ events, a.peer = peer → b.peer = peer →
      a.now < b.now + idleTimeout) :
    (inChunks ds = [] ∧ (serverLoop w crc idleTimeout events).reassemblers peer = none) ∨
      ∃ a ∈ events, a.peer = peer ∧ (serverLoop w crc idleTimeout events).reassemblers peer =
        some ((UdpFrameReassembler.new a.now idleTimeout).run crc
          ((inChunks ds).map Delivery.datagram)) := by
  induction events using List.reverseRecOn generalizing ds with
  | nil =>
    obtain rfl := List.map_eq_nil_iff.1 hds.symm
    exact .inl ⟨rfl, rfl⟩
  | append_singleton events e ih =>
    have hsub : ∀ a ∈ events, a ∈ events ++ [e] := fun a ha => List.mem_append_left _ ha
    have hlast : e ∈ events ++ [e] := List.mem_append_right _ (List.mem_singleton_self e)
    have hnow' : ∀ a ∈ events, ∀ b ∈ events, a.peer = peer → b.peer = peer →
        a.now < b.now + idleTimeout := fun a ha b hb => hnow a (hsub a ha) b (hsub b hb)
    have hturn : serverLoop w crc idleTimeout (events ++ [e]) =
        (serverLoop w crc idleTimeout events).turn w crc idleTimeout e := List.foldl_append
    rw [hturn]
    by_cases hpeer : e.peer = peer
    · subst hpeer
      have hone : [e].filter (·.peer = e.peer) = [e] := by simp
      rw [List.filter_append, hone, List.map_append] at hds
      obtain ⟨ds', dl, rfl, hds', hdl⟩ := List.map_eq_append_iff.1 hds.symm
      obtain ⟨d, rfl, hd⟩ := List.map_eq_singleton_iff.1 hdl
      have hchunks : inChunks (ds' ++ [d]) = inChunks ds' ++ inChunks [d] := List.filter_append ..
      rcases turn_cases w crc idleTimeout (serverLoop w crc idleTimeout events) e with
        ⟨hchunk, hr⟩ | ⟨hchunk, hr⟩ | ⟨hdisc, -⟩
      · -- a request in one datagram
        rw [← hd] at hchunk
        have h1 : inChunks [d] = [] := List.filter_eq_nil_iff.2 fun a ha => by
          rw [List.mem_singleton.1 ha, decide_eq_true_iff, ← isChunk_delivery, hchunk]
          exact Bool.false_ne_true
        rw [hr, hchunks, h1, List.append_nil]
        exact (ih hds'.symm hnow').imp_right (Exists.imp fun a h => h.imp_left (hsub a))
      · have hfits : inChunks [d] = [d] := List.filter_eq_self.2 fun a ha => by
          rw [List.mem_singleton.1 ha, decide_eq_true_iff, ← isChunk_delivery, hd, hchunk]
        have hrun : ∀ r : UdpFrameReassembler,
            r.run crc ((inChunks (ds' ++ [d])).map Delivery.datagram) =
              ((r.run crc ((inChunks ds').map Delivery.datagram)).insert crc e.datagram).1 := by
          intro r
          rw [hchunks, hfits, List.map_append, UdpFrameReassembler.run_append, ← hd]
          rfl
        rw [hr]
        refine .inr ?_
        rcases ih hds'.symm hnow' with ⟨hnil, hnone⟩ | ⟨a, ha, hpeer, hsome⟩
        · refine ⟨e, hlast, rfl, ?_⟩
          have hcurrent : (serverLoop w crc idleTimeout events).current idleTimeout e.peer e.now =
              .new e.now idleTimeout := by
            rw [LoopState.current, hnone]
            exact ite_self _
          rw [hrun, hnil, hcurrent]
          rfl
        · refine ⟨a, hsub a ha, hpeer, ?_⟩
          have htime := hnow e hlast a (hsub a ha) rfl hpeer
          rw [hrun, current_of_some hsome (by rwa [UdpFrameReassembler.deadline_run])]
      · exact absurd hdisc (not_ofDisconnect (htype d.frame) hd.symm)
    · have hnone : [e].filter (·.peer = peer) = [] := by simp [hpeer]
      rw [List.filter_append, hnone, List.append_nil] at hds
      rw [turn_of_ne (Ne.symm hpeer)]
      exact (ih hds hnow').imp_right (Exists.imp fun a h => h.imp_left (hsub a))

/-- **The frame a request's datagram completes**, if all the others have
arrived; otherwise none is complete yet. -/
theorem receiveFrame_of_requests (hid : Function.Injective fun i => (family i).requestId)
    (htype : ∀ i, (family i).frameHeader.frameType ≠ .disconnect)
    {before : List (LoopEvent Addr)} {e : LoopEvent Addr} {ds : List (Delivery family)}
    {d : Delivery family}
    (hds : (before.filter (·.peer = e.peer)).map LoopEvent.datagram = ds.map Delivery.datagram)
    (hd : e.datagram = d.datagram)
    (hnow : ∀ a ∈ before ++ [e], ∀ b ∈ before ++ [e], a.peer = e.peer → b.peer = e.peer →
      a.now < b.now + idleTimeout) :
    ((∀ j, (⟨d.frame, j⟩ : Delivery family) ∈ ds ++ [d]) →
      (receiveFrame crc idleTimeout e.now (serverLoop w crc idleTimeout before) e.peer
        e.datagram).2 = some (family d.frame).frame) ∧
    ((∃ j, (⟨d.frame, j⟩ : Delivery family) ∉ ds ++ [d]) →
      (receiveFrame crc idleTimeout e.now (serverLoop w crc idleTimeout before) e.peer
        e.datagram).2 = none) := by
  by_cases h1 : (family d.frame).total = 1
  · have hdec : decodeUdpSingleChunkRef crc d.datagram = .ok (some (family d.frame).frame) :=
      (family d.frame).decode_single h1 d.chunk.isLt
    constructor
    · intro _
      rw [hd, receiveFrame, hdec]
    · rintro ⟨j, hj⟩
      have hone : (family d.frame).datagrams.length = 1 :=
        (family d.frame).length_datagrams.trans h1
      have hjd : j = d.chunk := Fin.ext (by omega)
      exact absurd (List.mem_append_right _ (List.mem_singleton.2 (by rw [hjd]))) hj
  · have hsub : ∀ a ∈ before, a ∈ before ++ [e] := fun a ha => List.mem_append_left _ ha
    have hlast : e ∈ before ++ [e] := List.mem_append_right _ (List.mem_singleton_self e)
    obtain ⟨opened, hcurrent⟩ : ∃ opened,
        (serverLoop w crc idleTimeout before).current idleTimeout e.peer e.now =
          (UdpFrameReassembler.new opened idleTimeout).run crc
            ((inChunks ds).map Delivery.datagram) := by
      rcases reassemblers_of_requests (w := w) htype hds
        (fun a ha b hb => hnow a (hsub a ha) b (hsub b hb)) with ⟨hnil, hnone⟩ | ⟨a, ha, hpeer, hr⟩
      · refine ⟨e.now, ?_⟩
        rw [hnil, LoopState.current, hnone]
        exact ite_self _
      · have htime := hnow e hlast a (hsub a ha) rfl hpeer
        exact ⟨a.now, current_of_some hr (by rwa [UdpFrameReassembler.deadline_run])⟩
    have hmem : ∀ j, (⟨d.frame, j⟩ : Delivery family) ∈ inChunks ds ++ [d] ↔
        (⟨d.frame, j⟩ : Delivery family) ∈ ds ++ [d] := by
      intro j
      rw [List.mem_append, List.mem_append, mem_inChunks, and_iff_left h1]
    have hchunk : isChunk crc e.datagram = true := by rwa [hd, isChunk_delivery]
    have hexact := reassembly_exact family hid opened idleTimeout (inChunks ds) d
    simp only [hmem] at hexact
    rw [receiveFrame_of_chunk hchunk, hcurrent, hd]
    dsimp only
    exact ⟨fun hall => by rw [hexact.1 hall], fun hmiss => by rw [hexact.2 hmiss]⟩

/-- The capacity the loop remembers for a peer is one it has been told. -/
theorem payloadCaps_serverLoop {events : List (LoopEvent Addr)} {c : ℕ}
    (h : (serverLoop w crc idleTimeout events).payloadCaps peer = some c) :
    ∃ e ∈ events, e.peer = peer ∧ e.capacity = c := by
  induction events using List.reverseRecOn with
  | nil => exact nomatch h
  | append_singleton events e ih =>
    have hkeep : (serverLoop w crc idleTimeout events).payloadCaps peer = some c →
        ∃ a ∈ events ++ [e], a.peer = peer ∧ a.capacity = c := fun h =>
      (ih h).imp fun a ha => ⟨List.mem_append_left _ ha.1, ha.2⟩
    have hturn : serverLoop w crc idleTimeout (events ++ [e]) =
        (serverLoop w crc idleTimeout events).turn w crc idleTimeout e := List.foldl_append
    rw [hturn, LoopState.turn, serverLoopStep] at h
    have hrecv : (receiveFrame crc idleTimeout e.now (serverLoop w crc idleTimeout events) e.peer
        e.datagram).1.payloadCaps = (serverLoop w crc idleTimeout events).payloadCaps := by
      unfold receiveFrame
      split <;> rfl
    rcases hout : receiveFrame crc idleTimeout e.now (serverLoop w crc idleTimeout events) e.peer
      e.datagram with ⟨st, _ | frame⟩
    · rw [hout] at h hrecv
      exact hkeep (hrecv ▸ h)
    · rw [hout] at h hrecv
      dsimp only at h hrecv
      split_ifs at h
      · exact hkeep (hrecv ▸ h)
      · by_cases hpeer : peer = e.peer
        · subst hpeer
          dsimp only at h
          rw [Function.update_self, payloadCap, hrecv] at h
          cases hcap : (serverLoop w crc idleTimeout events).payloadCaps e.peer with
          | some c' =>
            rw [hcap] at h
            exact hkeep (hcap.trans h)
          | none =>
            rw [hcap] at h
            exact ⟨e, List.mem_append_right _ (List.mem_singleton_self e), rfl, Option.some.inj h⟩
        · exact hkeep (hrecv ▸ (Function.update_of_ne hpeer ..).symm.trans h)
      · exact hkeep (hrecv ▸ h)

/-- What a turn sends for a frame that is not a `Disconnect`. -/
theorem turnSends_of_receiveFrame {st : LoopState Addr} {e : LoopEvent Addr} {frame : Bytes}
    (hrecv : (receiveFrame crc idleTimeout e.now st e.peer e.datagram).2 = some frame)
    (hdisc : isDisconnect frame = false) :
    (st.turnSends w crc idleTimeout e).2 =
      answer w crc e.latest e.ipv4 (payloadCap st e.peer e.capacity) frame := by
  have hcap : payloadCap (receiveFrame crc idleTimeout e.now st e.peer e.datagram).1 e.peer
      e.capacity = payloadCap st e.peer e.capacity := by
    unfold receiveFrame
    split <;> rfl
  rw [LoopState.turnSends, serverLoopStep]
  rcases hout : receiveFrame crc idleTimeout e.now st e.peer e.datagram with ⟨st', frame?⟩
  rw [hout] at hrecv hcap
  obtain rfl : frame? = some frame := hrecv
  simp only [hdisc, Bool.false_eq_true, if_false, hcap]

end Requests

/-- **Every request is answered, whoever else is there.**  A peer sends the datagrams of some
frames in any order, each any number of times, all within the idle timeout; the others send
what they like in between.  Then the datagram with which a frame is all there is answered by
the reply of `handle_frame` to that frame, which the peer can put together again, if UDP can
carry it, and by nothing if not; and any other datagram by nothing. -/
theorem requests_answered {Addr : Type} [DecidableEq Addr] {w : Wire} (hw : w.ShortResponses)
    (crc : Crc32) (idleTimeout : ℕ) {ι : Type*} (family : ι → Sent crc)
    (hid : Function.Injective fun i => (family i).requestId)
    (htype : ∀ i, (family i).frameHeader.frameType ≠ .disconnect)
    (before : List (LoopEvent Addr)) (e : LoopEvent Addr)
    (ds : List (Delivery family)) (d : Delivery family)
    (hds : (before.filter (·.peer = e.peer)).map LoopEvent.datagram = ds.map Delivery.datagram)
    (hd : e.datagram = d.datagram)
    (hnow : ∀ a ∈ before ++ [e], ∀ b ∈ before ++ [e], a.peer = e.peer → b.peer = e.peer →
      a.now < b.now + idleTimeout)
    (hcap : ∀ a ∈ before ++ [e], a.peer = e.peer → UDP_MIN_PAYLOAD ≤ a.capacity) :
    let st := serverLoop w crc idleTimeout before
    let handled := handleFrame w e.latest (family d.frame).frame
    let sendable := fun reply => UDP_CHUNK_HEADER_LEN +
      min (payloadCap st e.peer e.capacity) reply.length ≤ maxUdpPayload e.ipv4
    let sent := (st.turnSends w crc idleTimeout e).2
    ((∀ j, (⟨d.frame, j⟩ : Delivery family) ∈ ds ++ [d]) →
      ((∀ reply, handled = .ok reply → sendable reply) → AnswersAs crc sent handled) ∧
        ∀ reply, handled = .ok reply → ¬sendable reply → sent = []) ∧
    ((∃ j, (⟨d.frame, j⟩ : Delivery family) ∉ ds ++ [d]) → sent = []) := by
  intro st handled sendable sent
  obtain ⟨hall, hmiss⟩ := @receiveFrame_of_requests _ _ w crc idleTimeout _ family hid htype
    before e ds d hds hd hnow
  constructor
  · intro hcomplete
    have hdisc : isDisconnect (family d.frame).frame = false := by
      obtain ⟨p, hdec⟩ := (family d.frame).decodeFrame_frame
      rw [isDisconnect, decodeTransportFrame_of_decodeFrame hdec]
      exact beq_eq_false_iff_ne.2 (htype d.frame)
    have hlast : e ∈ before ++ [e] := List.mem_append_right _ (List.mem_singleton_self e)
    have hmin : UDP_MIN_PAYLOAD ≤ payloadCap st e.peer e.capacity := by
      unfold payloadCap
      cases hc : st.payloadCaps e.peer with
      | none => exact hcap e hlast rfl
      | some c =>
        obtain ⟨a, ha, hpeer, rfl⟩ := payloadCaps_serverLoop hc
        exact hcap a (List.mem_append_left _ ha) hpeer
    have hsent : sent = sendResponse crc e.ipv4 (payloadCap st e.peer e.capacity) handled :=
      (turnSends_of_receiveFrame (hall hcomplete) hdisc).trans (answer_eq hw _)
    rw [hsent]
    refine ⟨(sendResponse_answers_iff hw hmin _).2, fun reply hreply hnot => ?_⟩
    obtain ⟨t, requestId, p, rfl, hlen⟩ := exists_of_handleFrame hw hreply
    rw [hreply]
    exact sendResponse_of_not_sendable hmin hlen hnot
  · intro hout
    have hnone := hmiss hout
    change (LoopState.turnSends w crc idleTimeout _ e).2 = []
    rw [LoopState.turnSends, serverLoopStep]
    rcases hrecv : receiveFrame crc idleTimeout e.now (serverLoop w crc idleTimeout before) e.peer
      e.datagram with ⟨st', frame?⟩
    rw [hrecv] at hnone
    obtain rfl : frame? = none := hnone
    rfl

/-- A query with a payload is answered under the id in the payload. -/
theorem handleFrame_longFrame {len : ℕ} (hlen : len ≤ MAX_PAYLOAD_LEN) (requestId : UInt64) :
    handleFrame (fixedWire len) (.ok noGresSnapshot) (longFrame .queryRequest requestId) =
      .ok (fixedReply 9 len) := by
  have hbytes : encodeRuntimePayload (fixedWire len) (RuntimeSnapshot.fromSnapshot noGresSnapshot) =
      .ok (List.replicate len 0) :=
    encodeRkyvPayload_eq_ok_iff.2 ⟨rfl, by rwa [List.length_replicate]⟩
  have hrequest : (fixedWire len).queryRequest.fromBytes Udp.zeros =
      .ok { version := PROTOCOL_VERSION, requestId := 9 } := by
    rw [fixedWire, Codec.fromBytes_table_cons]
  have hne : Udp.zeros ≠ [] := List.ne_nil_of_length_pos (by rw [Udp.length_zeros]; decide)
  rw [handleFrame, decodeTransportFrame_of_decodeFrame (decodeFrame_longFrame _ requestId)]
  simp only [handleDecodedFrame, FrameHeader.new, handleQuery, if_neg hne, hrequest,
    validateProtocolVersion, if_true, runtimeParts, replyParts, hbytes, replyFrame, fixedReply]

/-- Two queries of two chunks each, their chunks mixed, and something else of another peer in
between: the reply, in two chunks too, is that to the query which is whole. -/
theorem requests_answered_twoChunks :
    let ids : Bool → UInt64 := fun b => if b then 7 else 8
    let sentBy (peer : Bool) (datagram : Bytes) (now : ℕ) : LoopEvent Bool :=
      ⟨peer, true, datagram, now, .ok noGresSnapshot, 256⟩
    let chunk (b : Bool) (j : Fin 2) : Bytes := (chunkOf .queryRequest ids b j).datagram
    let before : List (LoopEvent Bool) := [sentBy false [1, 2, 3] 4, sentBy true (chunk true 1) 5,
      sentBy true (chunk false 0) 5, sentBy false [] 6]
    AnswersAs Crc32.ieee ((serverLoop (fixedWire 300) Crc32.ieee 10 before).turnSends
      (fixedWire 300) Crc32.ieee 10 (sentBy true (chunk true 0) 7)).2 (.ok (fixedReply 9 300)) := by
  intro ids sentBy chunk before
  let e := sentBy true (chunk true 0) 7
  have hids : Function.Injective ids := by
    rw [Bool.injective_iff]
    decide
  have htype : ∀ b, (twoChunkFamily .queryRequest ids b).frameHeader.frameType ≠ .disconnect := by
    intro b
    rw [twoChunkFamily, frameHeader_twoChunks]
    exact FrameType.noConfusion
  have hevents : ∀ a ∈ before ++ [e], 4 ≤ a.now ∧ a.now ≤ 7 ∧ a.capacity = 256 := by
    intro a ha
    simp only [before, e, sentBy, List.cons_append, List.nil_append, List.mem_cons,
      List.not_mem_nil, or_false] at ha
    rcases ha with rfl | rfl | rfl | rfl | rfl <;> decide
  have hreply : handleFrame (fixedWire 300) (.ok noGresSnapshot) (longFrame .queryRequest 7) =
      .ok (fixedReply 9 300) := handleFrame_longFrame (by decide) 7
  have hcap : payloadCap (serverLoop (fixedWire 300) Crc32.ieee 10 before) true 256 = 256 := by
    unfold payloadCap
    cases hc : (serverLoop (fixedWire 300) Crc32.ieee 10 before).payloadCaps true with
    | none => rfl
    | some c =>
      obtain ⟨a, ha, -, rfl⟩ := payloadCaps_serverLoop hc
      exact (hevents a (List.mem_append_left _ ha)).2.2
  have hanswered := requests_answered (shortResponses_fixedWire 300) Crc32.ieee 10
    (twoChunkFamily .queryRequest ids) (requestId_twoChunkFamily .queryRequest ids hids) htype
    before e [chunkOf _ ids true 1, chunkOf _ ids false 0] (chunkOf _ ids true 0) rfl rfl
    (fun a ha b hb _ _ => by
      have ha := hevents a ha
      have hb := hevents b hb
      omega)
    (fun a ha _ => (hevents a ha).2.2 ▸ by decide)
  have hwhole : ∀ j, (⟨true, j⟩ : Delivery (twoChunkFamily .queryRequest ids)) ∈
      [chunkOf _ ids true 1, chunkOf _ ids false 0] ++ [chunkOf _ ids true 0] := by
    intro j
    rcases eq_chunkOf (⟨true, j⟩ : Delivery (twoChunkFamily .queryRequest ids)) with h | h
    · rw [h]
      exact List.mem_append_right _ (List.mem_singleton_self _)
    · rw [h]
      exact List.mem_append_left _ List.mem_cons_self
  have hall := (hanswered.1 hwhole).1
  refine (congrArg (AnswersAs Crc32.ieee _) hreply).mp (hall fun reply hr => ?_)
  obtain rfl := Except.ok.inj (hreply.symm.trans hr)
  rw [length_fixedReply]
  change UDP_CHUNK_HEADER_LEN + min (payloadCap _ true 256) _ ≤ _
  rw [hcap]
  decide

end Server
end Clustat
