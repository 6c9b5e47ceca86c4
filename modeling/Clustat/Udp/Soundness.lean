/-
# What the reassembler accepts

`UdpFrameReassembler::insert` on arbitrary byte strings: malformed, forged,
repeated, of several frames under one request id.  Whatever was inserted
before, a delivered frame was announced by a datagram for every chunk number,
and it consists of the most recent payload of each (`reassembly_sound`).

The announced frame length is used once, to truncate: a frame shorter than
announced is delivered as it is, and a longer one is cut.  `frameLen_not_checked`
has a datagram of each kind.
-/

import Clustat.Udp.Delivery

namespace Clustat
namespace Udp

variable (crc : Crc32)

/-- `p` is the payload of the last datagram of the history that describes the
same frame as `h` and carries chunk `i`. -/
def LastChunk (h : UdpChunkHeader) (history : List Bytes) (i : ℕ) (p : Bytes) : Prop :=
  ∃ before d after x, history = before ++ d :: after ∧ UdpChunkHeader.decode d = .ok x ∧
    SameFrame h x ∧ x.chunkId.toNat = i ∧ payloadOf d = p ∧
      ∀ e ∈ after, ∀ y, UdpChunkHeader.decode e = .ok y → SameFrame h y → y.chunkId.toNat ≠ i

/-- A datagram that is not chunk `i` of the frame leaves the last chunk `i`
what it was. -/
theorem LastChunk.append {h : UdpChunkHeader} {history : List Bytes} {i : ℕ} {p d : Bytes}
    (hl : LastChunk h history i p)
    (hd : ∀ y, UdpChunkHeader.decode d = .ok y → SameFrame h y → y.chunkId.toNat ≠ i) :
    LastChunk h (history ++ [d]) i p := by
  obtain ⟨before, e, after, x, rfl, he, hs, hi, hp, hlast⟩ := hl
  refine ⟨before, e, after ++ [d], x, by simp, he, hs, hi, hp, fun a ha => ?_⟩
  rcases List.mem_append.1 ha with ha | ha
  · exact hlast a ha
  · obtain rfl := List.mem_singleton.1 ha
    exact hd

/-- **A slot holds the last chunk of its number**: no chunk with this number
came after it for the same frame. -/
theorem lastChunk_of_latest {h : UdpChunkHeader} {history : List Bytes} {i : ℕ} {s : ChunkSlot}
    (hs : latest h (received h.requestId history) i = some s) :
    LastChunk h history i s.payload := by
  induction history using List.reverseRecOn with
  | nil => cases hs
  | append_singleton history d ih =>
    have happ : received h.requestId (history ++ [d]) =
        received h.requestId history ++ (arrival h.requestId d).toList := by
      cases ha : arrival h.requestId d <;> simp [received, ha]
    rw [happ] at hs
    cases ha : arrival h.requestId d with
    | none =>
      rw [ha, Option.toList_none, List.append_nil] at hs
      refine (ih hs).append fun y hy hsame => ?_
      have hsome : arrival h.requestId d = some (y, payloadOf d) :=
        arrival_eq_some_iff.2 ⟨hy, hsame.2.1, rfl⟩
      exact absurd (ha.symm.trans hsome) (by simp)
    | some x =>
      obtain ⟨hdec, hid, hpay⟩ := arrival_eq_some_iff.1 ha
      rw [ha, Option.toList_some, latest_append_singleton] at hs
      split_ifs at hs with hfill
      · obtain rfl := Option.some.inj hs
        rw [fillsSlot, Bool.and_eq_true, decide_eq_true_eq, beq_iff_eq] at hfill
        exact ⟨history, d, [], x.1, rfl, hdec, hfill.1, hfill.2, hpay.symm, by simp⟩
      · refine (ih hs).append fun y hy hsame hyi => hfill ?_
        obtain rfl := Except.ok.inj (hdec.symm.trans hy)
        simp [fillsSlot, hsame, hyi]

/-- **Reassembly is sound on arbitrary input.**  Whatever was inserted, a
delivered frame is of the datagram just inserted; a datagram of the same frame
type, request id, frame length and number of chunks was inserted for every
chunk; and the frame is the most recent payload of each chunk, in order, cut
after the announced number of bytes: a well-formed frame of that type and
request id. -/
theorem reassembly_sound (now timeout : ℕ) (history : List Bytes) (d f : Bytes)
    (hf : (((UdpFrameReassembler.new now timeout).run crc history).insert crc d).2 =
      .ok (some f)) :
    ∃ h, UdpChunkHeader.decode d = .ok h ∧ ∃ payloads : ℕ → Bytes,
      (∀ i < h.totalChunks.toNat, LastChunk h (history ++ [d]) i (payloads i)) ∧
      f = ((List.range h.totalChunks.toNat).map payloads).flatten.take h.frameLen.toNat ∧
      f.length = min h.frameLen.toNat
        ((List.range h.totalChunks.toNat).map fun i => (payloads i).length).sum ∧
      ∃ fh p, decodeFrame f = .ok (fh, p) ∧ fh.frameType = h.frameType ∧
        fh.requestId = h.requestId := by
  cases hd : UdpChunkHeader.decode d with
  | error e => simp [UdpFrameReassembler.insert, hd] at hf
  | ok h =>
    have hrec : received h.requestId history ++ [(h, payloadOf d)] =
        received h.requestId (history ++ [d]) := by
      have ha : arrival h.requestId d = some (h, payloadOf d) :=
        arrival_eq_some_iff.2 ⟨hd, rfl, rfl⟩
      simp [received, ha]
    rw [insert_run crc now timeout history hd] at hf
    dsimp only at hf
    split_ifs at hf with hs
    rw [groupFrom_congr hs, hrec] at hf
    obtain ⟨slots, hlatest, -, hcat, hdec⟩ := groupFrom_delivers hf
    refine ⟨h, rfl, fun i => (slots i).payload, fun i hi => lastChunk_of_latest (hlatest i hi),
      hcat, ?_, hdec⟩
    rw [hcat, List.length_take, List.length_flatten, List.map_map]
    rfl

/-- The only datagram of request 7 whose payload is the empty query followed by
`extra`, announcing a frame of `frameLen` bytes. -/
def forged (frameLen : UInt32) (extra : Bytes) : Bytes :=
  let payload := emptyQuery 7 ++ extra
  let checksum := Crc32.ieee.hash payload
  { singleHeader .queryRequest 7 payload.length checksum with frameLen }.encode ++ payload

/-- A frame whose second chunk comes first. -/
theorem reassembly_sound_twoChunks :
    let chunk (j : Fin 2) := (chunkOf .heartbeat (fun _ : Unit => 7) () j).datagram
    let f := longFrame .heartbeat 7
    ∃ h, UdpChunkHeader.decode (chunk 0) = .ok h ∧ ∃ payloads : ℕ → Bytes,
      (∀ i < h.totalChunks.toNat, LastChunk h ([chunk 1] ++ [chunk 0]) i (payloads i)) ∧
      f = ((List.range h.totalChunks.toNat).map payloads).flatten.take h.frameLen.toNat ∧
      f.length = min h.frameLen.toNat
        ((List.range h.totalChunks.toNat).map fun i => (payloads i).length).sum ∧
      ∃ fh p, decodeFrame f = .ok (fh, p) ∧ fh.frameType = h.frameType ∧
        fh.requestId = h.requestId := by
  intro chunk f
  have hid : Function.Injective fun _ : Unit => (7 : UInt64) := fun _ _ _ => rfl
  have hmem : ∀ j, (⟨(), j⟩ : Delivery (twoChunkFamily .heartbeat fun _ : Unit => 7)) ∈
      [chunkOf .heartbeat _ () 1] ++ [chunkOf .heartbeat _ () 0] := by
    intro j
    rcases eq_chunkOf (⟨(), j⟩ : Delivery (twoChunkFamily .heartbeat _)) with h | h
    · exact h ▸ List.mem_append_right _ (List.mem_singleton_self _)
    · exact h ▸ List.mem_append_left _ List.mem_cons_self
  have hdelivered := insert_of_delivered (requestId_twoChunkFamily .heartbeat _ hid) 0 0 hmem
  have hframe : (twoChunkFamily .heartbeat (fun _ : Unit => 7) ()).frame = f := rfl
  exact reassembly_sound Crc32.ieee 0 0 [chunk 1] (chunk 0) f
    (hdelivered.trans (congrArg (fun frame => Except.ok (some frame)) hframe))

/-- A frame of 18 bytes is delivered though 19 are announced, and the last byte
of a payload of 19 is dropped when 18 are announced. -/
theorem frameLen_not_checked :
    let r := UdpFrameReassembler.new 0 0
    ((r.insert Crc32.ieee (forged 19 [])).2 = .ok (some (emptyQuery 7)) ∧
        (emptyQuery 7).length ≠ 19) ∧
      (r.insert Crc32.ieee (forged 18 [0])).2 = .ok (some (emptyQuery 7)) ∧
        payloadOf (forged 18 [0]) ≠ emptyQuery 7 := by
  decide +kernel

end Udp
end Clustat
