/-
# How long a frame may take

`server_loop` of `crates/server/src/udp_transport.rs` keeps one reassembler for each peer.
Its deadline is set when it is created, by whichever chunk of the peer finds none or an
expired one, and when it has passed, the next chunk replaces the reassembler with all groups
in it.  So the time a frame has is what the peer's earlier chunks have left of the timeout:
a frame is handed to the handlers if its last chunk arrives before the deadline that its
first chunk found or set (`frame_handled`), and if each of its chunks arrives once, only then.

What a turn does to the reassembler of its peer is said once (`turn_cases`).
-/

import Clustat.Server.Receive
import Clustat.Udp.Recovery

namespace Clustat
namespace Server

open Udp

/-- The datagram goes to a reassembler. -/
def isChunk (crc : Crc32) (datagram : Bytes) : Bool :=
  match decodeUdpSingleChunkRef crc datagram with
  | .ok none => true
  | _ => false

section Frame

variable {crc : Crc32} {d f : Bytes}

/-- A datagram is a chunk for the reassembler exactly when the single-chunk
decoder leaves it alone. -/
theorem isChunk_iff : isChunk crc d = true ↔ decodeUdpSingleChunkRef crc d = .ok none := by
  unfold isChunk
  rcases decodeUdpSingleChunkRef crc d with e | _ | frame <;> simp

/-- A datagram that decodes, with this request id, arrives for it. -/
theorem arrival_ne_none {header : UdpChunkHeader} {id : UInt64}
    (hd : UdpChunkHeader.decode d = .ok header) (hid : header.requestId = id) :
    arrival id d ≠ none := by
  have hsome : arrival id d = some (header, payloadOf d) :=
    arrival_eq_some_iff.2 ⟨hd, hid, rfl⟩
  rw [hsome]
  exact Option.some_ne_none _

/-- A frame taken out of a datagram has the type and the request id of its header. -/
theorem frame_of_decodeUdpSingleChunkRef (h : decodeUdpSingleChunkRef crc d = .ok (some f)) :
    ∃ header fh p, UdpChunkHeader.decode d = .ok header ∧ decodeFrame f = .ok (fh, p) ∧
      fh.frameType = header.frameType ∧ fh.requestId = header.requestId := by
  unfold decodeUdpSingleChunkRef at h
  cases hd : UdpChunkHeader.decode d with
  | error e => rw [hd] at h; cases h
  | ok header =>
    simp only [hd] at h
    split_ifs at h with htotal hsum
    · cases h
    · cases hf : decodeFrame (payloadOf d) with
      | error e => rw [hf] at h; cases h
      | ok hp =>
        obtain ⟨fh, p⟩ := hp
        simp only [hf] at h
        split_ifs at h with hmeta
        rw [not_or, not_not, not_not] at hmeta
        obtain rfl := Option.some.inj (Except.ok.inj h)
        exact ⟨header, fh, p, rfl, hf, hmeta⟩

/-- So has a frame that an insert delivers. -/
theorem frame_of_insert {r : UdpFrameReassembler} (h : (r.insert crc d).2 = .ok (some f)) :
    ∃ header fh p, UdpChunkHeader.decode d = .ok header ∧ decodeFrame f = .ok (fh, p) ∧
      fh.frameType = header.frameType ∧ fh.requestId = header.requestId := by
  unfold UdpFrameReassembler.insert at h
  cases hd : UdpChunkHeader.decode d with
  | error e => rw [hd] at h; cases h
  | ok header =>
    simp only [hd, ChunkGroup.insert] at h
    split_ifs at h with hdesc
    obtain ⟨slots, hslots⟩ := exists_slots (isComplete_of_finish h)
    obtain ⟨-, rfl, fh, p, hf, ht, hid⟩ := (finish_of_full hslots).1 h
    exact ⟨header, fh, p, rfl, hf, ht.trans hdesc.1.symm, hid.trans hdesc.2.1.symm⟩

end Frame

/-- The reassembler that a chunk of the peer is given to at `now`. -/
def LoopState.current {Addr : Type*} (st : LoopState Addr) (idleTimeout : ℕ) (peer : Addr)
    (now : ℕ) : UdpFrameReassembler :=
  let current := (st.reassemblers peer).getD (.new now idleTimeout)
  if current.isExpired now then .new now idleTimeout else current

section Turn

variable {Addr : Type} [DecidableEq Addr] (w : Wire) (crc : Crc32) (idleTimeout : ℕ)

/-- The frame a turn hands to the handlers, with its sender. -/
def LoopState.handedOn (st : LoopState Addr) (e : LoopEvent Addr) : Option (Addr × Bytes) :=
  match (receiveFrame crc idleTimeout e.now st e.peer e.datagram).2 with
  | none => none
  | some frame => if isDisconnect frame then none else some (e.peer, frame)

/-- The frames the loop hands to the handlers in some turns. -/
def LoopState.handled : LoopState Addr → List (LoopEvent Addr) → List (Addr × Bytes)
  | _, [] => []
  | st, e :: es =>
    (st.handedOn crc idleTimeout e).toList ++ handled (st.turn w crc idleTimeout e) es

/-- The chunks among the datagrams of a peer. -/
def chunksFrom (peer : Addr) (events : List (LoopEvent Addr)) : List Bytes :=
  (events.filter fun e => e.peer == peer && isChunk crc e.datagram).map LoopEvent.datagram

variable {w crc idleTimeout} {st : LoopState Addr} {e : LoopEvent Addr}

/-- What is handled in two runs one after the other is handled in the first,
or in the second from where the first ends. -/
theorem mem_handled_append {a b : List (LoopEvent Addr)} {x : Addr × Bytes} :
    x ∈ st.handled w crc idleTimeout (a ++ b) ↔ x ∈ st.handled w crc idleTimeout a ∨
      x ∈ (a.foldl (LoopState.turn w crc idleTimeout) st).handled w crc idleTimeout b := by
  induction a generalizing st with
  | nil => simp [LoopState.handled]
  | cons e a ih =>
    rw [List.cons_append, LoopState.handled, LoopState.handled, List.foldl_cons,
      List.mem_append, List.mem_append, ih, or_assoc]

/-- The chunks of a peer are the chunks among the datagrams that came from it.
-/
theorem mem_chunksFrom {peer : Addr} {events : List (LoopEvent Addr)} {d : Bytes} :
    d ∈ chunksFrom crc peer events ↔
      ∃ e ∈ events, e.peer = peer ∧ isChunk crc d = true ∧ e.datagram = d := by
  simp only [chunksFrom, List.mem_map, List.mem_filter, Bool.and_eq_true, beq_iff_eq]
  constructor
  · rintro ⟨e, ⟨hmem, hpeer, hchunk⟩, rfl⟩
    exact ⟨e, hmem, hpeer, hchunk, rfl⟩
  · rintro ⟨e, hmem, hpeer, hchunk, rfl⟩
    exact ⟨e, ⟨hmem, hpeer, hchunk⟩, rfl⟩

/-- The chunks of a peer in two runs are those in the first and those in the
second. -/
theorem chunksFrom_append (peer : Addr) (a b : List (LoopEvent Addr)) :
    chunksFrom crc peer (a ++ b) = chunksFrom crc peer a ++ chunksFrom crc peer b := by
  simp only [chunksFrom, List.filter_append, List.map_append]

/-- The chunks of one more turn. -/
theorem mem_chunksFrom_append_singleton {peer : Addr} {events : List (LoopEvent Addr)}
    (hpeer : e.peer = peer) (hchunk : isChunk crc e.datagram = true) :
    e.datagram ∈ chunksFrom crc peer (events ++ [e]) :=
  mem_chunksFrom.2 ⟨e, List.mem_append_right _ (List.mem_singleton_self e), hpeer, hchunk, rfl⟩

/-- A chunk is inserted into the current reassembler of its peer, which is
kept. -/
theorem receiveFrame_of_chunk (h : isChunk crc e.datagram = true) :
    receiveFrame crc idleTimeout e.now st e.peer e.datagram =
      (let out := (st.current idleTimeout e.peer e.now).insert crc e.datagram
       ({ st with reassemblers := Function.update st.reassemblers e.peer (some out.1) },
        match out.2 with
        | .ok frame => frame
        | .error _ => none)) := by
  rw [receiveFrame, isChunk_iff.1 h]
  rfl

/-- What is no chunk leaves the state of the loop alone. -/
theorem receiveFrame_of_not_chunk (h : isChunk crc e.datagram = false) :
    (receiveFrame crc idleTimeout e.now st e.peer e.datagram).1 = st := by
  unfold receiveFrame
  rcases hd : decodeUdpSingleChunkRef crc e.datagram with _ | _ | _
  · rfl
  · rw [isChunk_iff.2 hd] at h
    cases h
  · rfl

/-- A received frame has the type and the request id of the datagram that completes it. -/
theorem frame_of_receiveFrame {f : Bytes}
    (h : (receiveFrame crc idleTimeout e.now st e.peer e.datagram).2 = some f) :
    ∃ header fh p, UdpChunkHeader.decode e.datagram = .ok header ∧ decodeFrame f = .ok (fh, p) ∧
      fh.frameType = header.frameType ∧ fh.requestId = header.requestId := by
  cases hchunk : isChunk crc e.datagram with
  | true =>
    rw [receiveFrame_of_chunk hchunk] at h
    dsimp only at h
    split at h
    · rename_i frame hout
      exact frame_of_insert (hout.trans (by rw [h]))
    · cases h
  | false =>
    unfold receiveFrame at h
    rcases hd : decodeUdpSingleChunkRef crc e.datagram with _ | _ | frame
    · rw [hd] at h
      cases h
    · rw [isChunk_iff.2 hd] at hchunk
      cases hchunk
    · rw [hd] at h
      obtain rfl := Option.some.inj h
      exact frame_of_decodeUdpSingleChunkRef hd

/-- The datagram is of a `Disconnect`. -/
def LoopEvent.OfDisconnect (e : LoopEvent Addr) : Prop :=
  ∃ header, UdpChunkHeader.decode e.datagram = .ok header ∧ header.frameType = .disconnect

/-- A frame that disconnects came in an event that does. -/
theorem ofDisconnect_of_isDisconnect {f : Bytes}
    (h : (receiveFrame crc idleTimeout e.now st e.peer e.datagram).2 = some f)
    (hdisc : isDisconnect f = true) : e.OfDisconnect := by
  obtain ⟨header, fh, p, hd, hf, ht, -⟩ := frame_of_receiveFrame h
  rw [isDisconnect, decodeTransportFrame_of_decodeFrame hf] at hdisc
  exact ⟨header, hd, ht.symm.trans (beq_iff_eq.1 hdisc)⟩

/-- A turn of the loop for one peer leaves the reassemblers of all others
alone. -/
theorem turn_of_ne {peer : Addr} (h : peer ≠ e.peer) :
    (st.turn w crc idleTimeout e).reassemblers peer = st.reassemblers peer := by
  have hrecv : (receiveFrame crc idleTimeout e.now st e.peer e.datagram).1.reassemblers peer =
      st.reassemblers peer := by
    cases hchunk : isChunk crc e.datagram with
    | true =>
      rw [receiveFrame_of_chunk hchunk]
      exact Function.update_of_ne h _ _
    | false => rw [receiveFrame_of_not_chunk hchunk]
  rw [LoopState.turn, serverLoopStep]
  rcases hout : receiveFrame crc idleTimeout e.now st e.peer e.datagram with ⟨st', _ | frame⟩
  · rw [hout] at hrecv
    exact hrecv
  · rw [hout] at hrecv
    dsimp only
    cases isDisconnect frame with
    | true => exact (Function.update_of_ne h _ _).trans hrecv
    | false => exact hrecv

/-- **What a turn does to the reassembler of its peer**: nothing, when the datagram is not a
chunk; an insert into the current one, which the deadline of the last may have replaced; and
a `Disconnect` removes it. -/
theorem turn_cases (w : Wire) (crc : Crc32) (idleTimeout : ℕ) (st : LoopState Addr)
    (e : LoopEvent Addr) :
    (isChunk crc e.datagram = false ∧
      (st.turn w crc idleTimeout e).reassemblers e.peer = st.reassemblers e.peer) ∨
    (isChunk crc e.datagram = true ∧ (st.turn w crc idleTimeout e).reassemblers e.peer =
      some ((st.current idleTimeout e.peer e.now).insert crc e.datagram).1) ∨
    (e.OfDisconnect ∧ (st.turn w crc idleTimeout e).reassemblers e.peer = none) := by
  have hturn : ∀ r?, (receiveFrame crc idleTimeout e.now st e.peer e.datagram).1.reassemblers
      e.peer = r? → (st.turn w crc idleTimeout e).reassemblers e.peer = r? ∨
        (e.OfDisconnect ∧ (st.turn w crc idleTimeout e).reassemblers e.peer = none) := by
    intro r? hrecv
    rw [LoopState.turn, serverLoopStep]
    rcases hout : receiveFrame crc idleTimeout e.now st e.peer e.datagram with ⟨st', _ | frame⟩
    · rw [hout] at hrecv
      exact .inl hrecv
    · rw [hout] at hrecv
      dsimp only
      cases hdisc : isDisconnect frame with
      | true =>
        exact .inr ⟨ofDisconnect_of_isDisconnect (congrArg Prod.snd hout) hdisc,
          Function.update_self ..⟩
      | false => exact .inl hrecv
  cases hchunk : isChunk crc e.datagram with
  | true =>
    refine .inr ((hturn _ ?_).imp (⟨rfl, ·⟩) id)
    rw [receiveFrame_of_chunk hchunk]
    exact Function.update_self ..
  | false =>
    rcases hturn _ (congrArg (fun st => st.reassemblers e.peer)
      (receiveFrame_of_not_chunk hchunk)) with h | h
    · exact .inl ⟨rfl, h⟩
    · exact .inr (.inr h)

omit [DecidableEq Addr] in
/-- The current reassembler is new, or the one there is, in time. -/
theorem current_cases (st : LoopState Addr) (idleTimeout : ℕ) (peer : Addr) (now : ℕ) :
    st.current idleTimeout peer now = .new now idleTimeout ∨
      ∃ r, st.reassemblers peer = some r ∧ now < r.deadline ∧
        st.current idleTimeout peer now = r := by
  unfold LoopState.current
  cases hr : st.reassemblers peer with
  | none => exact .inl (ite_self _)
  | some r =>
    simp only [Option.getD_some, UdpFrameReassembler.isExpired, decide_eq_true_eq]
    split_ifs with hexp
    · exact .inl rfl
    · exact .inr ⟨r, rfl, Nat.not_le.1 hexp, rfl⟩

omit [DecidableEq Addr] in
/-- Before its deadline a reassembler is the current one. -/
theorem current_of_some {peer : Addr} {r : UdpFrameReassembler} {now : ℕ}
    (hr : st.reassemblers peer = some r) (hnow : now < r.deadline) :
    st.current idleTimeout peer now = r := by
  simp [LoopState.current, hr, UdpFrameReassembler.isExpired, Nat.not_le.2 hnow]

/-- What is true of the reassembler of a peer, if it has one, after a turn. -/
theorem reassembler_turn {peer : Addr} {P Q : UdpFrameReassembler → Prop}
    (hst : ∀ r, st.reassemblers peer = some r → P r) (hkeep : ∀ r, P r → Q r)
    (hinsert : e.peer = peer → isChunk crc e.datagram = true →
      ∀ r, P r → Q (r.insert crc e.datagram).1)
    (hnew : e.peer = peer → isChunk crc e.datagram = true →
      Q ((UdpFrameReassembler.new e.now idleTimeout).insert crc e.datagram).1)
    (r : UdpFrameReassembler) (hr : (st.turn w crc idleTimeout e).reassemblers peer = some r) :
    Q r := by
  by_cases hpeer : peer = e.peer
  · subst hpeer
    rcases turn_cases w crc idleTimeout st e with ⟨-, h⟩ | ⟨hchunk, h⟩ | ⟨-, h⟩
    · exact hkeep r (hst r (h.symm.trans hr))
    · obtain rfl := Option.some.inj (h.symm.trans hr)
      rcases current_cases st idleTimeout e.peer e.now with hcur | ⟨r, hr, -, hcur⟩
      · rw [hcur]
        exact hnew rfl hchunk
      · rw [hcur]
        exact hinsert rfl hchunk r (hst r hr)
    · exact nomatch h.symm.trans hr
  · rw [turn_of_ne hpeer] at hr
    exact hkeep r (hst r hr)

/-- A reassembler of the loop into which nothing else has been inserted. -/
def FedFrom (crc : Crc32) (idleTimeout : ℕ) (datagrams : List Bytes)
    (r : UdpFrameReassembler) : Prop :=
  ∃ opened history, r = (UdpFrameReassembler.new opened idleTimeout).run crc history ∧
    ∀ d ∈ history, d ∈ datagrams

/-- A reassembler fed from some chunks is fed from more chunks too. -/
theorem FedFrom.mono {ds ds' : List Bytes} {r : UdpFrameReassembler}
    (h : FedFrom crc idleTimeout ds r) (hsub : ∀ d ∈ ds, d ∈ ds') :
    FedFrom crc idleTimeout ds' r := by
  obtain ⟨opened, history, rfl, hmem⟩ := h
  exact ⟨opened, history, rfl, fun d hd => hsub d (hmem d hd)⟩

/-- One more insert of such a chunk keeps it so. -/
theorem FedFrom.insert {ds : List Bytes} {r : UdpFrameReassembler}
    (h : FedFrom crc idleTimeout ds r) {d : Bytes} (hd : d ∈ ds) :
    FedFrom crc idleTimeout ds (r.insert crc d).1 := by
  obtain ⟨opened, history, rfl, hmem⟩ := h
  refine ⟨opened, history ++ [d], ?_, fun a ha => ?_⟩
  · rw [UdpFrameReassembler.run_append]
    rfl
  · rcases List.mem_append.1 ha with ha | ha
    · exact hmem a ha
    · exact List.mem_singleton.1 ha ▸ hd

/-- A new reassembler is fed from nothing. -/
theorem FedFrom.new (opened : ℕ) (ds : List Bytes) :
    FedFrom crc idleTimeout ds (.new opened idleTimeout) :=
  ⟨opened, [], rfl, fun _ h => nomatch h⟩

/-- The reassembler of a peer, or none, after one more turn. -/
theorem FedFrom.turn {peer : Addr} {events : List (LoopEvent Addr)}
    (h : ∀ r, st.reassemblers peer = some r →
      FedFrom crc idleTimeout (chunksFrom crc peer events) r)
    (r : UdpFrameReassembler) (hr : (st.turn w crc idleTimeout e).reassemblers peer = some r) :
    FedFrom crc idleTimeout (chunksFrom crc peer (events ++ [e])) r := by
  have hsub : ∀ d ∈ chunksFrom crc peer events, d ∈ chunksFrom crc peer (events ++ [e]) :=
    fun d hd => chunksFrom_append peer events [e] ▸ List.mem_append_left _ hd
  refine reassembler_turn h (fun r hr => hr.mono hsub) ?_ ?_ r hr
  · exact fun hpeer hchunk r hr =>
      (hr.mono hsub).insert (mem_chunksFrom_append_singleton hpeer hchunk)
  · exact fun hpeer hchunk =>
      (FedFrom.new e.now _).insert (mem_chunksFrom_append_singleton hpeer hchunk)

/-- **What a reassembler of the loop holds**: chunks of its peer, inserted
since it was made. -/
theorem fedFrom_serverLoop {peer : Addr} (events : List (LoopEvent Addr)) :
    ∀ r, (serverLoop w crc idleTimeout events).reassemblers peer = some r →
      FedFrom crc idleTimeout (chunksFrom crc peer events) r := by
  induction events using List.reverseRecOn with
  | nil => exact fun r hr => nomatch hr
  | append_singleton events e ih =>
    intro r hr
    rw [serverLoop, List.foldl_append] at hr
    exact FedFrom.turn ih r hr

/-- So does the one that the next chunk is given to. -/
theorem fedFrom_current (events : List (LoopEvent Addr)) (peer : Addr) (now : ℕ) :
    FedFrom crc idleTimeout (chunksFrom crc peer events)
      ((serverLoop w crc idleTimeout events).current idleTimeout peer now) := by
  rcases current_cases (serverLoop w crc idleTimeout events) idleTimeout peer now with
    hcur | ⟨r, hr, -, hcur⟩
  · rw [hcur]
    exact .new _ _
  · rw [hcur]
    exact fedFrom_serverLoop events r hr

end Turn

/-! ### The turns in which a frame arrives -/

section Transfer

variable {Addr : Type} [DecidableEq Addr]

/-- The turns from the first chunk of a frame to its last: all its chunks arrive in them from
`peer`, and nothing else has its request id, there or in the turns before.  The clock does
not go back. -/
structure Transfer {crc : Crc32} (s : Sent crc) (peer : Addr)
    (before turns : List (LoopEvent Addr)) (first last : LoopEvent Addr) : Prop where
  fresh : ∀ e ∈ before, e.peer = peer → arrival s.requestId e.datagram = none
  head : turns.head? = some first
  getLast : turns.getLast? = some last
  first_chunk : first.peer = peer ∧ first.datagram ∈ s.datagrams
  last_chunk : last.peer = peer ∧ last.datagram ∈ s.datagrams
  complete : ∀ d ∈ s.datagrams, ∃ e ∈ turns, e.peer = peer ∧ e.datagram = d
  genuine : ∀ e ∈ turns, e.peer = peer → arrival s.requestId e.datagram ≠ none →
    e.datagram ∈ s.datagrams
  ordered : (turns.map LoopEvent.now).Pairwise (· ≤ ·)

variable {w : Wire} {crc : Crc32} {idleTimeout : ℕ} {s : Sent crc} {peer : Addr}
variable {before turns : List (LoopEvent Addr)} {first last : LoopEvent Addr}

/-- A datagram of a frame in several chunks is a chunk. -/
theorem isChunk_datagram (s : Sent crc) (h1 : s.total ≠ 1) {d : Bytes} (hd : d ∈ s.datagrams) :
    isChunk crc d = true := by
  obtain ⟨i, hi, rfl⟩ := List.getElem_of_mem hd
  exact isChunk_iff.2 (s.decode_chunk h1 hi)

omit [DecidableEq Addr] in
/-- The turns but the last. -/
theorem Transfer.exists_init (h : Transfer s peer before turns first last) :
    ∃ init, turns = init ++ [last] ∧ (∀ x init', init = x :: init' → x = first) ∧
      (init = [] → last = first) ∧ ∀ e ∈ init, e.now ≤ last.now := by
  obtain ⟨init, rfl⟩ := List.getLast?_eq_some_iff.1 h.getLast
  refine ⟨init, rfl, ?_, ?_, fun e he => ?_⟩
  · rintro x init' rfl
    exact Option.some.inj h.head
  · rintro rfl
    exact Option.some.inj h.head
  · have hord := h.ordered
    rw [List.map_append, List.pairwise_append] at hord
    exact hord.2.2 _ (List.mem_map_of_mem he) _ List.mem_cons_self

/-- **In time, nothing is lost**: as long as the deadline is not reached and no `Disconnect`
comes, the chunks of the peer go into one reassembler. -/
theorem reassemblers_of_inTime {st : LoopState Addr} (hchunk : isChunk crc first.datagram = true)
    {rest : List (LoopEvent Addr)}
    (hdisc : ∀ e ∈ first :: rest, e.peer = first.peer → ¬e.OfDisconnect)
    (hnow : ∀ e ∈ rest, e.now < (st.current idleTimeout first.peer first.now).deadline) :
    ((first :: rest).foldl (LoopState.turn w crc idleTimeout) st).reassemblers first.peer =
      some ((st.current idleTimeout first.peer first.now).run crc
        (chunksFrom crc first.peer (first :: rest))) := by
  induction rest using List.reverseRecOn with
  | nil =>
    have hone : chunksFrom crc first.peer [first] = [first.datagram] := by
      simp [chunksFrom, hchunk]
    rw [hone, List.foldl_cons, List.foldl_nil]
    rcases turn_cases w crc idleTimeout st first with ⟨h, -⟩ | ⟨-, h⟩ | ⟨h, -⟩
    · exact nomatch h.symm.trans hchunk
    · exact h
    · exact absurd h (hdisc first List.mem_cons_self rfl)
  | append_singleton rest e ih =>
    have ih := ih
      (fun a ha => hdisc a (by rw [← List.cons_append]; exact List.mem_append_left _ ha))
      fun a ha => hnow a (List.mem_append_left _ ha)
    have hlast : e ∈ first :: (rest ++ [e]) :=
      List.mem_cons_of_mem _ (List.mem_append_right _ (List.mem_singleton_self e))
    rw [← List.cons_append, List.foldl_append, List.foldl_cons, List.foldl_nil]
    rw [chunksFrom_append, UdpFrameReassembler.run_append]
    by_cases hpeer : first.peer = e.peer
    · rw [hpeer] at ih ⊢
      rcases turn_cases w crc idleTimeout
        ((first :: rest).foldl (LoopState.turn w crc idleTimeout) st) e with
        ⟨hc, h⟩ | ⟨hc, h⟩ | ⟨h, -⟩
      · have hnone : chunksFrom crc e.peer [e] = [] := by simp [chunksFrom, hc]
        rw [h, ih, hnone]
        rfl
      · have hone : chunksFrom crc e.peer [e] = [e.datagram] := by simp [chunksFrom, hc]
        have htime := hnow e (List.mem_append_right _ (List.mem_singleton_self e))
        rw [hpeer] at htime
        rw [h, current_of_some ih (by rwa [UdpFrameReassembler.deadline_run]), hone]
        rfl
      · exact absurd h (hdisc e hlast hpeer.symm)
    · have hnone : chunksFrom crc first.peer [e] = [] := by simp [chunksFrom, Ne.symm hpeer]
      rw [turn_of_ne hpeer, ih, hnone]
      rfl

/-- Nothing that arrived before the frame is for its request id. -/
theorem Transfer.received_eq_nil (h : Transfer s peer before turns first last)
    {history : List Bytes} (hmem : ∀ d ∈ history, d ∈ chunksFrom crc peer before) :
    received s.requestId history = [] := by
  refine List.filterMap_eq_nil_iff.2 fun d hd => ?_
  obtain ⟨e, he, hpeer, -, rfl⟩ := mem_chunksFrom.1 (hmem d hd)
  exact h.fresh e he hpeer

/-- What arrives for its request id is a chunk of the frame. -/
theorem Transfer.exists_of_mem_received (h : Transfer s peer before turns first last)
    {events : List (LoopEvent Addr)} (hsub : ∀ e ∈ events, e ∈ turns) {x : Arrival}
    (hx : x ∈ received s.requestId (chunksFrom crc peer events)) :
    ∃ j < s.total, x = s.arrivalAt j := by
  obtain ⟨d, hd, hdx⟩ := List.mem_filterMap.1 hx
  obtain ⟨e, he, hpeer, -, rfl⟩ := mem_chunksFrom.1 hd
  have hne : arrival s.requestId e.datagram ≠ none := by simp [hdx]
  obtain ⟨j, hj, hdj⟩ := List.getElem_of_mem (h.genuine e (hsub e he) hpeer hne)
  rw [← hdj, s.arrival_datagram hj, if_pos rfl] at hdx
  exact ⟨j, s.length_datagrams ▸ hj, (Option.some.inj hdx).symm⟩

/-- **The last chunk completes the frame** in a reassembler that was given all
the others, whatever else it was given. -/
theorem Transfer.insert_last (h : Transfer s peer before turns first last) (h1 : s.total ≠ 1)
    {init : List (LoopEvent Addr)} (hinit : turns = init ++ [last]) {r : UdpFrameReassembler}
    (hr : FedFrom crc idleTimeout (chunksFrom crc peer before) r) :
    ((r.run crc (chunksFrom crc peer init)).insert crc last.datagram).2 =
      .ok (some s.frame) := by
  obtain ⟨opened, history, rfl, hmem⟩ := hr
  have hsub : ∀ e ∈ init, e ∈ turns := fun e he => hinit ▸ List.mem_append_left _ he
  obtain ⟨i, hi, hlast⟩ := List.getElem_of_mem h.last_chunk.2
  have hfits : s.Fits ((UdpFrameReassembler.new opened idleTimeout).run crc history) := by
    intro g hg
    rw [groups_run, h.received_eq_nil hmem] at hg
    cases hg
  rw [← UdpFrameReassembler.run_append, ← hlast]
  refine insert_resent hfits hi (fun x hx => h.exists_of_mem_received hsub hx) fun j hj hji => ?_
  have hj' : j < s.datagrams.length := s.length_datagrams ▸ hj
  have harr : ∀ {k} (hk : k < s.datagrams.length),
      arrival s.requestId s.datagrams[k] = some (s.arrivalAt k) := fun hk =>
    (s.arrival_datagram hk s.requestId).trans (if_pos rfl)
  obtain ⟨e, he, hpeer, hd⟩ := h.complete s.datagrams[j] (List.getElem_mem hj')
  refine List.mem_filterMap.2 ⟨s.datagrams[j], mem_chunksFrom.2 ⟨e, ?_, hpeer,
    isChunk_datagram s h1 (List.getElem_mem hj'), hd⟩, harr hj'⟩
  rw [hinit] at he
  rcases List.mem_append.1 he with he | he
  · exact he
  · -- the last chunk has another number
    rw [List.mem_singleton.1 he, ← hlast] at hd
    have heq : s.arrivalAt i = s.arrivalAt j :=
      Option.some.inj ((harr hi).symm.trans ((congrArg _ hd).trans (harr hj')))
    exact absurd (s.arrivalAt_injective (s.length_datagrams ▸ hi) hj heq).symm hji

/-- The reassembler the last chunk is given to. -/
theorem Transfer.current_last (h : Transfer s peer before turns first last) (h1 : s.total ≠ 1)
    {st : LoopState Addr} {init : List (LoopEvent Addr)} (hinit : turns = init ++ [last])
    (hdisc : ∀ e ∈ turns, e.peer = peer → ¬e.OfDisconnect)
    (hnow : last.now < (st.current idleTimeout peer first.now).deadline) :
    (init.foldl (LoopState.turn w crc idleTimeout) st).current idleTimeout peer last.now =
      (st.current idleTimeout peer first.now).run crc (chunksFrom crc peer init) := by
  obtain ⟨init', hinit', hfirst, hnil, hord⟩ := h.exists_init
  obtain rfl := List.append_cancel_right (hinit.symm.trans hinit')
  cases init with
  | nil =>
    rw [hnil rfl]
    rfl
  | cons x rest =>
    obtain rfl := hfirst x rest rfl
    obtain ⟨hpeer, hmem⟩ := h.first_chunk
    subst hpeer
    have hrun := @reassemblers_of_inTime _ _ w crc idleTimeout x st (isChunk_datagram s h1 hmem)
      rest (fun e he => hdisc e (hinit ▸ List.mem_append_left _ he))
      fun e he => (hord e (List.mem_cons_of_mem _ he)).trans_lt hnow
    exact current_of_some hrun (by rwa [UdpFrameReassembler.deadline_run])

/-- A frame that comes out, and does not disconnect, is handed on. -/
theorem handedOn_of_receiveFrame {st : LoopState Addr} {e : LoopEvent Addr} {f : Bytes}
    (h : (receiveFrame crc idleTimeout e.now st e.peer e.datagram).2 = some f)
    (hdisc : ¬e.OfDisconnect) : st.handedOn crc idleTimeout e = some (e.peer, f) := by
  rw [LoopState.handedOn, h]
  exact if_neg fun hd => hdisc (ofDisconnect_of_isDisconnect h hd)

/-- **A frame that arrives in time is handed to the handlers**: if it is one datagram, or if
its last chunk arrives before the deadline of the reassembler that its first chunk was given
to, and no `Disconnect` of the peer comes in between. -/
theorem Transfer.handled (h : Transfer s peer before turns first last)
    (hdisc : ∀ e ∈ turns, e.peer = peer → ¬e.OfDisconnect)
    (hnow : s.total = 1 ∨ last.now <
      ((serverLoop w crc idleTimeout before).current idleTimeout peer first.now).deadline) :
    (peer, s.frame) ∈ (serverLoop w crc idleTimeout before).handled w crc idleTimeout turns := by
  obtain ⟨init, hinit, -⟩ := h.exists_init
  obtain ⟨hpeer, hmem⟩ := h.last_chunk
  have hrecv : (receiveFrame crc idleTimeout last.now
      (init.foldl (LoopState.turn w crc idleTimeout) (serverLoop w crc idleTimeout before))
      last.peer last.datagram).2 = some s.frame := by
    by_cases h1 : s.total = 1
    · obtain ⟨i, hi, hd⟩ := List.getElem_of_mem hmem
      rw [receiveFrame, ← hd, s.decode_single h1 hi]
    · have hcurrent := h.current_last (w := w) h1 hinit hdisc (hnow.resolve_left h1)
      rw [receiveFrame_of_chunk (isChunk_datagram s h1 hmem), hpeer, hcurrent]
      dsimp only
      rw [h.insert_last h1 hinit (fedFrom_current before peer first.now)]
  have hlast : last ∈ turns := hinit ▸ List.mem_append_right _ (List.mem_singleton_self last)
  have hon := handedOn_of_receiveFrame hrecv (hdisc last hlast hpeer)
  rw [hinit]
  refine mem_handled_append.2 (.inr ?_)
  rw [LoopState.handled, hon, hpeer]
  exact List.mem_append_left _ (List.mem_singleton_self _)

/-! ### And only in time -/

/-- Each chunk of the frame arrives once. -/
def Once (s : Sent crc) (peer : Addr) (turns : List (LoopEvent Addr)) : Prop :=
  ∀ d ∈ s.datagrams, turns.countP (fun e => e.peer == peer && e.datagram == d) = 1

/-- **A datagram that comes once** is not among the other turns of its peer,
neither before nor after the one it comes in. -/
theorem Once.ne_of_mem (honce : Once s peer turns) {a b : List (LoopEvent Addr)}
    {x : LoopEvent Addr} (hsplit : turns = a ++ x :: b) (hx : x.peer = peer)
    (hmem : x.datagram ∈ s.datagrams) {e : LoopEvent Addr} (he : e ∈ a ∨ e ∈ b)
    (hpeer : e.peer = peer) : e.datagram ≠ x.datagram := by
  intro hd
  have hcount := honce x.datagram hmem
  rw [hsplit, List.countP_append, List.countP_cons_of_pos (by simp [hx])] at hcount
  have hnone : ∀ l : List (LoopEvent Addr), e ∈ l →
      0 < l.countP fun e => e.peer == peer && e.datagram == x.datagram := fun l hl =>
    List.countP_pos_iff.2 ⟨e, hl, by simp [hpeer, hd]⟩
  rcases he with he | he
  · have := hnone a he
    omega
  · have := hnone b he
    omega

/-- What is handled was handed on in one of the turns, in the state that the
turns before it have led to. -/
theorem exists_of_mem_handled {st : LoopState Addr} {x : Addr × Bytes}
    (h : x ∈ st.handled w crc idleTimeout turns) :
    ∃ a e b, turns = a ++ e :: b ∧
      (a.foldl (LoopState.turn w crc idleTimeout) st).handedOn crc idleTimeout e = some x := by
  induction turns generalizing st with
  | nil => exact nomatch h
  | cons e turns ih =>
    rw [LoopState.handled, List.mem_append, Option.mem_toList] at h
    rcases h with h | h
    · exact ⟨[], e, turns, rfl, h⟩
    · obtain ⟨a, e', b, rfl, hon⟩ := ih h
      exact ⟨e :: a, e', b, rfl, hon⟩

/-- A delivered frame is made of datagrams that were inserted. -/
theorem forall_mem_of_delivered {ds : List Bytes} {r : UdpFrameReassembler}
    (hr : FedFrom crc idleTimeout ds r)
    (hgenuine : ∀ d ∈ ds, arrival s.requestId d ≠ none → d ∈ s.datagrams) {x : Bytes}
    (hx : x ∈ s.datagrams) (hins : (r.insert crc x).2 = .ok (some s.frame)) :
    ∀ d ∈ s.datagrams, d ∈ ds ∨ d = x := by
  obtain ⟨opened, history, rfl, hmem⟩ := hr
  obtain ⟨i, hi, rfl⟩ := List.getElem_of_mem hx
  obtain ⟨header, hd, payloads, hlast, -⟩ := reassembly_sound crc opened idleTimeout _ _ _ hins
  obtain rfl := Except.ok.inj ((s.decode_datagram hi).symm.trans hd)
  intro d hd
  obtain ⟨j, hj, rfl⟩ := List.getElem_of_mem hd
  have hj' : j < (s.headerAt i).totalChunks.toNat := by
    rw [s.totalChunks_headerAt, ← s.length_datagrams]
    exact hj
  obtain ⟨before', d, after, y, hsplit, hy, hsame, hid, -⟩ := hlast j hj'
  have hin : d ∈ history ++ [s.datagrams[i]] := hsplit ▸ List.mem_append_right _ List.mem_cons_self
  -- the datagram with that number is the chunk of the frame
  have heq : d ∈ s.datagrams → d = s.datagrams[j] := by
    intro hd
    obtain ⟨k, hk, rfl⟩ := List.getElem_of_mem hd
    obtain rfl := Except.ok.inj ((s.decode_datagram hk).symm.trans hy)
    rw [s.chunkId_headerAt (s.length_datagrams ▸ hk)] at hid
    subst hid
    rfl
  rcases List.mem_append.1 hin with hin | hin
  · have hd := hgenuine d (hmem d hin) (arrival_ne_none hy hsame.2.1)
    exact .inl (heq hd ▸ hmem d hin)
  · rw [List.mem_singleton] at hin
    exact .inr ((heq (hin ▸ List.getElem_mem hi)).symm.trans hin)

/-- After the first chunk the reassembler has its deadline, or was opened since. -/
theorem reassembler_after_first {st : LoopState Addr} (hchunk : isChunk crc first.datagram = true)
    (rest : List (LoopEvent Addr)) :
    ∀ r, ((first :: rest).foldl (LoopState.turn w crc idleTimeout) st).reassemblers first.peer =
      some r → r.deadline = (st.current idleTimeout first.peer first.now).deadline ∨
        FedFrom crc idleTimeout (chunksFrom crc first.peer rest) r := by
  induction rest using List.reverseRecOn with
  | nil =>
    intro r hr
    rcases turn_cases w crc idleTimeout st first with ⟨h, -⟩ | ⟨-, h⟩ | ⟨-, h⟩
    · exact nomatch h.symm.trans hchunk
    · obtain rfl := Option.some.inj (h.symm.trans hr)
      exact .inl (UdpFrameReassembler.deadline_run crc _ [first.datagram])
    · exact nomatch h.symm.trans hr
  | append_singleton rest e ih =>
    intro r hr
    rw [← List.cons_append, List.foldl_append] at hr
    have hmono : ∀ d ∈ chunksFrom crc first.peer rest,
        d ∈ chunksFrom crc first.peer (rest ++ [e]) :=
      fun d hd => chunksFrom_append first.peer rest [e] ▸ List.mem_append_left _ hd
    refine reassembler_turn ih (fun r hr => hr.imp id fun h => h.mono hmono) ?_ ?_ r hr
    · rintro hpeer hc r (hr | hr)
      · exact .inl ((UdpFrameReassembler.deadline_run crc r [e.datagram]).trans hr)
      · exact .inr ((hr.mono hmono).insert (mem_chunksFrom_append_singleton hpeer hc))
    · exact fun hpeer hc =>
        .inr ((FedFrom.new e.now _).insert (mem_chunksFrom_append_singleton hpeer hc))

/-- The turn that hands the frame on completes it. -/
theorem Transfer.forall_mem_of_handedOn (h : Transfer s peer before turns first last)
    (h1 : s.total ≠ 1) {a b : List (LoopEvent Addr)} {x : LoopEvent Addr}
    (hsplit : turns = a ++ x :: b)
    (hon : (a.foldl (LoopState.turn w crc idleTimeout)
      (serverLoop w crc idleTimeout before)).handedOn crc idleTimeout x = some (peer, s.frame)) :
    x.peer = peer ∧ x.datagram ∈ s.datagrams ∧
      (((a.foldl (LoopState.turn w crc idleTimeout) (serverLoop w crc idleTimeout before)).current
        idleTimeout x.peer x.now).insert crc x.datagram).2 = .ok (some s.frame) := by
  unfold LoopState.handedOn at hon
  cases hrecv : (receiveFrame crc idleTimeout x.now (a.foldl (LoopState.turn w crc idleTimeout)
      (serverLoop w crc idleTimeout before)) x.peer x.datagram).2 with
  | none => rw [hrecv] at hon; cases hon
  | some frame =>
    simp only [hrecv] at hon
    split_ifs at hon
    obtain ⟨hpeer, rfl⟩ := Prod.mk.inj (Option.some.inj hon)
    obtain ⟨header, fh, p, hd, hf, -, hid⟩ := frame_of_receiveFrame hrecv
    have hreq : header.requestId = s.requestId := by
      rw [← hid, Sent.requestId, s.frameHeader_eq hf]
    have hmem := h.genuine x (hsplit ▸ List.mem_append_right _ List.mem_cons_self) hpeer
      (arrival_ne_none hd hreq)
    refine ⟨hpeer, hmem, ?_⟩
    rw [receiveFrame_of_chunk (isChunk_datagram s h1 hmem)] at hrecv
    dsimp only at hrecv
    split at hrecv
    · rename_i hout
      rw [hout, hrecv]
    · cases hrecv

/-- The frame is handed on in the last of the turns. -/
theorem Transfer.eq_last_of_handedOn (h : Transfer s peer before turns first last)
    (honce : Once s peer turns) (h1 : s.total ≠ 1) {a b : List (LoopEvent Addr)}
    {x : LoopEvent Addr} (hsplit : turns = a ++ x :: b)
    (hon : (a.foldl (LoopState.turn w crc idleTimeout)
      (serverLoop w crc idleTimeout before)).handedOn crc idleTimeout x = some (peer, s.frame)) :
    x = last ∧ b = [] := by
  obtain ⟨hpeer, hmem, hins⟩ := h.forall_mem_of_handedOn h1 hsplit hon
  have hgenuine : ∀ d ∈ chunksFrom crc peer (before ++ a), arrival s.requestId d ≠ none →
      d ∈ s.datagrams ∧ ∃ e ∈ a, e.peer = peer ∧ e.datagram = d := by
    intro d hd hne
    obtain ⟨e, he, hpeer, -, rfl⟩ := mem_chunksFrom.1 hd
    rcases List.mem_append.1 he with he | he
    · exact absurd (h.fresh e he hpeer) hne
    · exact ⟨h.genuine e (hsplit ▸ List.mem_append_left _ he) hpeer hne, e, he, hpeer, rfl⟩
  have hfed : FedFrom crc idleTimeout (chunksFrom crc peer (before ++ a))
      ((a.foldl (LoopState.turn w crc idleTimeout) (serverLoop w crc idleTimeout before)).current
        idleTimeout x.peer x.now) := by
    rw [serverLoop, ← List.foldl_append, hpeer]
    exact fedFrom_current (before ++ a) peer x.now
  have hall := forall_mem_of_delivered hfed (fun d hd hne => (hgenuine d hd hne).1) hmem hins
  have hlast := h.getLast
  rcases List.eq_nil_or_concat b with rfl | ⟨b, y, rfl⟩
  · rw [hsplit, List.getLast?_append_of_ne_nil _ (List.cons_ne_nil _ _)] at hlast
    exact ⟨Option.some.inj hlast, rfl⟩
  · -- a later last chunk would have arrived before
    have hsplit' : turns = (a ++ x :: b) ++ [y] := by
      rw [hsplit, List.append_assoc, List.cons_append, List.concat_eq_append]
    rw [hsplit', List.getLast?_append_of_ne_nil _ (List.cons_ne_nil _ _)] at hlast
    obtain rfl : y = last := Option.some.inj hlast
    obtain ⟨hy, hymem⟩ := h.last_chunk
    obtain ⟨k, hk, hyk⟩ := List.getElem_of_mem hymem
    have hne := fun {e : LoopEvent Addr} (he : e ∈ a ++ x :: b) (hp : e.peer = peer) =>
      honce.ne_of_mem hsplit' hy hymem (.inl he) hp
    rcases hall y.datagram hymem with hold | hx
    · have harr : arrival s.requestId y.datagram ≠ none := by
        rw [← hyk, s.arrival_datagram hk, if_pos rfl]
        exact Option.some_ne_none _
      obtain ⟨-, e, he, hp, hd⟩ := hgenuine _ hold harr
      exact absurd hd (hne (List.mem_append_left _ he) hp)
    · exact absurd hx.symm (hne (List.mem_append_right _ List.mem_cons_self) hpeer)

/-- A frame in several chunks has a datagram other than any given one, as its
chunk ids differ. -/
theorem exists_ne_datagram (s : Sent crc) (h1 : s.total ≠ 1) (d : Bytes) :
    ∃ d' ∈ s.datagrams, d' ≠ d := by
  have hpos := s.total_pos
  have hlen := s.length_datagrams
  by_contra hall
  push Not at hall
  have harr : ∀ {k} (hk : k < s.datagrams.length),
      arrival s.requestId d = some (s.arrivalAt k) := fun hk => by
    rw [← hall _ (List.getElem_mem hk), s.arrival_datagram hk, if_pos rfl]
  have h01 := (harr (k := 0) (by omega)).symm.trans (harr (k := 1) (by omega))
  exact absurd (s.arrivalAt_injective (by omega) (by omega) (Option.some.inj h01)) zero_ne_one

/-- **A frame that arrives late is not handed on**, when each of its chunks arrives once: the
first of them went with the reassembler that was replaced. -/
theorem Transfer.inTime_of_handled (h : Transfer s peer before turns first last)
    (honce : Once s peer turns)
    (hhandled : (peer, s.frame) ∈
      (serverLoop w crc idleTimeout before).handled w crc idleTimeout turns) :
    s.total = 1 ∨ last.now <
      ((serverLoop w crc idleTimeout before).current idleTimeout peer first.now).deadline := by
  by_contra hnot
  obtain ⟨h1, hlate⟩ := not_or.1 hnot
  obtain ⟨a, x, b, hsplit, hon⟩ := exists_of_mem_handled hhandled
  obtain ⟨rfl, rfl⟩ := h.eq_last_of_handedOn honce h1 hsplit hon
  obtain ⟨hpeer, hmem, hins⟩ := h.forall_mem_of_handedOn h1 hsplit hon
  rw [hpeer] at hins
  rcases current_cases (a.foldl (LoopState.turn w crc idleTimeout)
    (serverLoop w crc idleTimeout before)) idleTimeout peer x.now with hcur | ⟨r, hr, hnow, hcur⟩
  · -- a new reassembler has the last chunk only
    rw [hcur] at hins
    obtain ⟨d, hd, hne⟩ := exists_ne_datagram s h1 x.datagram
    have hall := forall_mem_of_delivered (.new x.now []) (fun _ h => nomatch h) hmem hins d hd
    exact hne (hall.resolve_left List.not_mem_nil)
  · have hhead := h.head
    cases a with
    | nil =>
      rw [hsplit] at hhead
      obtain rfl : x = first := Option.some.inj hhead
      rw [List.foldl_nil] at hcur
      exact hlate (by rwa [hcur])
    | cons y rest =>
      rw [hsplit] at hhead
      obtain rfl : y = first := Option.some.inj hhead
      obtain ⟨hy, hymem⟩ := h.first_chunk
      subst hy
      rcases reassembler_after_first (isChunk_datagram s h1 hymem) rest r hr with hdead | hfed
      · exact hlate (hdead ▸ hnow)
      · -- opened after the first chunk, which does not come again
        have hgenuine : ∀ d ∈ chunksFrom crc y.peer rest, arrival s.requestId d ≠ none →
            d ∈ s.datagrams := by
          intro d hd hne
          obtain ⟨e, he, hp, -, rfl⟩ := mem_chunksFrom.1 hd
          exact h.genuine e (hsplit ▸ List.mem_append_left _ (List.mem_cons_of_mem _ he)) hp hne
        rw [hcur] at hins
        have hne := fun {e : LoopEvent Addr} (he : e ∈ rest ++ [x]) (hp : e.peer = y.peer) =>
          honce.ne_of_mem (a := []) hsplit rfl hymem (.inr he) hp
        rcases forall_mem_of_delivered hfed hgenuine hmem hins y.datagram hymem with hold | hx
        · obtain ⟨e, he, hp, -, hd⟩ := mem_chunksFrom.1 hold
          exact hne (List.mem_append_left _ he) hp hd
        · exact hne (List.mem_append_right _ (List.mem_singleton_self x)) hpeer hx.symm

/-- **The timeout is that of the reassembler.**  A frame all of whose chunks arrive is handed
to the handlers if it is one datagram or its last chunk arrives before the deadline of the
reassembler its first chunk was given to (and the peer has not disconnected in between);
and when each chunk arrives once, then only. -/
theorem frame_timeout (w : Wire) (crc : Crc32) (idleTimeout : ℕ) {s : Sent crc} {peer : Addr}
    {before turns : List (LoopEvent Addr)} {first last : LoopEvent Addr}
    (h : Transfer s peer before turns first last) :
    let st := serverLoop w crc idleTimeout before
    let inTime := s.total = 1 ∨ last.now < (st.current idleTimeout peer first.now).deadline
    ((∀ e ∈ turns, e.peer = peer → ¬e.OfDisconnect) → inTime →
      (peer, s.frame) ∈ st.handled w crc idleTimeout turns) ∧
    (Once s peer turns → (peer, s.frame) ∈ st.handled w crc idleTimeout turns → inTime) :=
  ⟨fun hdisc => h.handled hdisc, fun honce => h.inTime_of_handled honce⟩

end Transfer

/-! ### Two frames of two chunks -/

/-- A chunk of the frame of a request id, from the only peer. -/
def chunkEvent (requestId : UInt64) (i : Fin 2) (now : ℕ) : LoopEvent Unit where
  peer := ()
  ipv4 := true
  datagram := (twoChunks .heartbeat requestId).datagrams[Fin.cast (length_twoChunks .heartbeat requestId).symm i]
  now := now
  latest := .error .internal
  capacity := 1200

/-- The event brings one of the two datagrams. -/
theorem datagram_mem (requestId : UInt64) (i : Fin 2) (now : ℕ) :
    (chunkEvent requestId i now).datagram ∈ (twoChunks .heartbeat requestId).datagrams :=
  List.getElem_mem _

/-- There are no datagrams but these two. -/
theorem eq_or_eq_datagram {requestId : UInt64} {d : Bytes}
    (hd : d ∈ (twoChunks .heartbeat requestId).datagrams) (now : ℕ) :
    d = (chunkEvent requestId 0 now).datagram ∨ d = (chunkEvent requestId 1 now).datagram := by
  have hfin : ∃ i, d = (chunkEvent requestId i now).datagram := by
    obtain ⟨i, hi, rfl⟩ := List.getElem_of_mem hd
    exact ⟨⟨i, length_twoChunks .heartbeat requestId ▸ hi⟩, rfl⟩
  exact Fin.exists_fin_two.1 hfin

/-- What arrives of the event for request `r`: its chunk, if the request ids
agree. -/
theorem arrival_chunkEvent (r requestId : UInt64) (i : Fin 2) (now : ℕ) :
    arrival r (chunkEvent requestId i now).datagram =
      if requestId = r then some ((twoChunks .heartbeat requestId).arrivalAt i) else none := by
  have harr := (twoChunks .heartbeat requestId).arrival_datagram
    (Fin.cast (length_twoChunks .heartbeat requestId).symm i).isLt r
  rw [requestId_twoChunks] at harr
  exact harr

/-- Every header of a frame has the type of the frame. -/
theorem frameType_headerAt {crc : Crc32} (s : Sent crc) (i : ℕ) :
    (s.headerAt i).frameType = s.frameHeader.frameType := rfl

/-- A heartbeat does not disconnect. -/
theorem not_ofDisconnect_chunkEvent (requestId : UInt64) (i : Fin 2) (now : ℕ) :
    ¬(chunkEvent requestId i now).OfDisconnect := by
  rintro ⟨header, hd, ht⟩
  have hdec := (twoChunks .heartbeat requestId).decode_datagram
    (Fin.cast (length_twoChunks .heartbeat requestId).symm i).isLt
  rw [← Except.ok.inj (hdec.symm.trans hd), frameType_headerAt,
    (twoChunks .heartbeat requestId).frameHeader_eq (decodeFrame_longFrame .heartbeat requestId)] at ht
  cases ht

/-- The datagram does not depend on the time it comes at. -/
theorem datagram_eq (requestId : UInt64) (i : Fin 2) (t t' : ℕ) :
    (chunkEvent requestId i t).datagram = (chunkEvent requestId i t').datagram := rfl

/-- The two datagrams differ. -/
theorem datagram_ne {i j : Fin 2} (hij : i ≠ j) (requestId : UInt64) (t t' : ℕ) :
    (chunkEvent requestId i t).datagram ≠ (chunkEvent requestId j t').datagram := by
  intro heq
  have harr := arrival_chunkEvent requestId requestId i t
  rw [heq, arrival_chunkEvent, if_pos rfl, if_pos rfl] at harr
  have htotal := total_twoChunks .heartbeat requestId
  exact hij (Fin.ext ((twoChunks .heartbeat requestId).arrivalAt_injective (by omega) (by omega)
    (Option.some.inj harr)).symm)

/-- Frame 7 in two turns, after a chunk of frame 8. -/
theorem transfer_twoChunks {t₀ t₁ : ℕ} (ht : t₀ ≤ t₁) :
    Transfer (twoChunks .heartbeat 7) () [chunkEvent 8 0 0] [chunkEvent 7 0 t₀, chunkEvent 7 1 t₁]
      (chunkEvent 7 0 t₀) (chunkEvent 7 1 t₁) where
  fresh e he _ := by
    rw [List.mem_singleton.1 he, requestId_twoChunks, arrival_chunkEvent]
    rfl
  head := rfl
  getLast := rfl
  first_chunk := ⟨rfl, datagram_mem 7 0 t₀⟩
  last_chunk := ⟨rfl, datagram_mem 7 1 t₁⟩
  complete d hd := by
    rcases eq_or_eq_datagram hd t₀ with h0 | h1
    · exact ⟨_, List.mem_cons_self, rfl, h0.symm⟩
    · refine ⟨_, List.mem_cons_of_mem _ List.mem_cons_self, rfl, ?_⟩
      exact (datagram_eq 7 1 t₁ t₀).trans h1.symm
  genuine e he _ _ := by
    rcases List.mem_pair.1 he with rfl | rfl
    · exact datagram_mem 7 0 t₀
    · exact datagram_mem 7 1 t₁
  ordered := by simpa [chunkEvent] using ht

/-- In these two turns each of them comes once. -/
theorem once_twoChunks (t₀ t₁ : ℕ) :
    Once (twoChunks .heartbeat 7) () [chunkEvent 7 0 t₀, chunkEvent 7 1 t₁] := by
  intro d hd
  rcases eq_or_eq_datagram hd t₀ with h0 | h1
  · have hne := datagram_ne (show (1 : Fin 2) ≠ 0 by decide) 7 t₁ t₀
    rw [← h0] at hne
    simp [hne, h0.symm]
  · have hne := datagram_ne (show (0 : Fin 2) ≠ 1 by decide) 7 t₀ t₀
    rw [← h1] at hne
    simp [hne, (datagram_eq 7 1 t₁ t₀).trans h1.symm]

/-- The deadline frame 8 has set. -/
theorem deadline_twoChunks {now : ℕ} (hnow : now < 10) :
    ((serverLoop failingWire Crc32.ieee 10 [chunkEvent 8 0 0]).current 10 () now).deadline =
      10 := by
  have htotal : (twoChunks .heartbeat 8).total ≠ 1 := by
    rw [total_twoChunks]
    decide
  have hrun := @reassemblers_of_inTime _ _ failingWire Crc32.ieee 10 (chunkEvent 8 0 0) .empty
    (isChunk_datagram (twoChunks .heartbeat 8) htotal (datagram_mem 8 0 0)) []
    (fun e he _ => List.mem_singleton.1 he ▸ not_ofDisconnect_chunkEvent 8 0 0)
    (fun e he => nomatch he)
  have hdead : ((LoopState.empty : LoopState Unit).current 10 () 0).deadline = 10 := rfl
  rw [serverLoop, current_of_some hrun]
  · exact (UdpFrameReassembler.deadline_run ..).trans hdead
  · rw [UdpFrameReassembler.deadline_run]
    exact hnow

/-- A last chunk at 11 is late. -/
theorem late_twoChunks {now : ℕ} (hnow : now < 10) : ¬((twoChunks .heartbeat 7).total = 1 ∨ 11 <
    ((serverLoop failingWire Crc32.ieee 10 [chunkEvent 8 0 0]).current 10 () now).deadline) := by
  rintro (htotal | htime)
  · exact absurd ((total_twoChunks .heartbeat 7).symm.trans htotal) (by decide)
  · exact absurd (htime.trans_eq (deadline_twoChunks hnow)) (by decide)

/-- With a timeout of 10 after which frame 8 has set the deadline: frame 7 is handed on when
it arrives at 8 and 9, and is not when it arrives at 9 and 11. -/
theorem frame_timeout_twoChunks :
    let st := serverLoop failingWire Crc32.ieee 10 [chunkEvent 8 0 0]
    ((), (twoChunks .heartbeat 7).frame) ∈ st.handled failingWire Crc32.ieee 10
      [chunkEvent 7 0 8, chunkEvent 7 1 9] ∧
    ((), (twoChunks .heartbeat 7).frame) ∉ st.handled failingWire Crc32.ieee 10
      [chunkEvent 7 0 9, chunkEvent 7 1 11] := by
  intro st
  have hearly := frame_timeout failingWire Crc32.ieee 10
    (transfer_twoChunks (show 8 ≤ 9 by decide))
  have hlate := frame_timeout failingWire Crc32.ieee 10
    (transfer_twoChunks (show 9 ≤ 11 by decide))
  constructor
  · refine hearly.1 (fun e he _ => ?_) (.inr ?_)
    · rcases List.mem_pair.1 he with rfl | rfl
      · exact not_ofDisconnect_chunkEvent 7 0 8
      · exact not_ofDisconnect_chunkEvent 7 1 9
    · exact (show 9 < 10 by decide).trans_eq (deadline_twoChunks (by decide)).symm
  · exact fun hmem => late_twoChunks (by decide) (hlate.2 (once_twoChunks 9 11) hmem)

/-- **A frame that takes 2 of 10 and is lost**: the deadline was set by another frame, and
passes between its two chunks. -/
theorem timeout_not_per_frame : ¬∀ (idleTimeout : ℕ) (s : Sent Crc32.ieee) (peer : Unit)
    (before turns : List (LoopEvent Unit)) (first last : LoopEvent Unit),
      Transfer s peer before turns first last → (∀ e ∈ turns, e.peer = peer → ¬e.OfDisconnect) →
      (∀ e ∈ turns, e.now < first.now + idleTimeout) →
        (peer, s.frame) ∈ (serverLoop failingWire Crc32.ieee idleTimeout before).handled
          failingWire Crc32.ieee idleTimeout turns := by
  intro hall
  have h := transfer_twoChunks (show 9 ≤ 11 by decide)
  have hmem := hall 10 _ _ _ _ _ _ h (fun e he _ => ?_) (fun e he => ?_)
  · exact late_twoChunks (by decide) (h.inTime_of_handled (once_twoChunks 9 11) hmem)
  · rcases List.mem_pair.1 he with rfl | rfl
    · exact not_ofDisconnect_chunkEvent 7 0 9
    · exact not_ofDisconnect_chunkEvent 7 1 11
  · rcases List.mem_pair.1 he with rfl | rfl
    · decide
    · decide

end Server
end Clustat
