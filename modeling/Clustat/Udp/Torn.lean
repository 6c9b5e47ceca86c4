/-
# Torn frames

A request that the network duplicates is answered twice, and the two replies
may differ.  Their datagrams share request id, frame type and length, so they
land in one `ChunkGroup` (`crates/common/src/udp.rs`), where the neighbour
checksums are to keep the two apart (`DEV.md`, design points of the UDP
transport).  `Twins` are two such frames.

The ring check sees three consecutive chunks at a time.  It therefore ties two
places where the frames differ to each other only through a walk over such
places in strides of at most two (`neverTorn_iff`): from six chunks on there are
twins whose datagrams are delivered as a frame that is neither of them
(`torn_six`).
-/

import Clustat.Lib.Ring
import Clustat.Udp.Soundness
import Mathlib.Tactic.IntervalCases

namespace Clustat
namespace Udp

open Chunks Colouring

/-- Two frames with the same type, request id and length, split with the same
capacity, whose different chunk payloads have different checksums. -/
structure Twins (crc : Crc32) where
  a : Sent crc
  b : Sent crc
  frameType_eq : a.frameHeader.frameType = b.frameHeader.frameType
  requestId_eq : a.requestId = b.requestId
  length_eq : a.frame.length = b.frame.length
  maxPayload_eq : a.maxPayload = b.maxPayload
  hash_inj : ∀ p ∈ chunks a.maxPayload a.frame ++ chunks b.maxPayload b.frame,
    ∀ q ∈ chunks a.maxPayload a.frame ++ chunks b.maxPayload b.frame,
      crc.hash p = crc.hash q → p = q

namespace Twins

variable {crc : Crc32} (t : Twins crc)

/-- `true` is the first frame, `false` the second. -/
def family : Bool → Sent crc
  | true => t.a
  | false => t.b

/-- The number of chunks of either frame. -/
def total : ℕ := t.a.total

/-- The ring of the chunk numbers. -/
def ring : Equiv.Perm (Fin t.total) where
  toFun i := ⟨nextIdx t.total i, nextIdx_lt i.isLt⟩
  invFun i := ⟨prevIdx t.total i, prevIdx_lt i.isLt⟩
  left_inv i := Fin.ext (prevIdx_nextIdx t.total i)
  right_inv i := Fin.ext (nextIdx_prevIdx i.isLt)

/-- On the ring of chunks a step forward is `nextIdx`. -/
theorem val_ring (i : Fin t.total) : (t.ring i : ℕ) = nextIdx t.total i := rfl

/-- On the ring of chunks a step back is `prevIdx`. -/
theorem val_ring_symm (i : Fin t.total) : (t.ring.symm i : ℕ) = prevIdx t.total i := rfl

/-- The chunks in which the frames differ. -/
def differ : Set (Fin t.total) := {i | t.a.chunk i ≠ t.b.chunk i}

/-- Whatever arrives of the two frames, in any order, with loss and
duplication, a delivered frame is one of them. -/
def NeverTorn : Prop :=
  ∀ (now timeout : ℕ) (before : List (Delivery t.family)) (d : Delivery t.family) (f : Bytes),
    (((UdpFrameReassembler.new now timeout).run crc (before.map Delivery.datagram)).insert crc
      d.datagram).2 = .ok (some f) → f = t.a.frame ∨ f = t.b.frame

/-- Both twins have the same number of chunks. -/
theorem total_family (o : Bool) : (t.family o).total = t.total := by
  cases o
  · change t.b.total = t.a.total
    rw [Sent.total, Sent.total, length_chunks, length_chunks, t.maxPayload_eq, t.length_eq]
  · rfl

/-- Both twins have the same request id, so they share one group. -/
theorem requestId_family (o : Bool) : (t.family o).requestId = t.a.requestId := by
  cases o
  · exact t.requestId_eq.symm
  · rfl

/-- Both frames start with the same header. -/
theorem frameHeader_family (o : Bool) : (t.family o).frameHeader = t.a.frameHeader := by
  cases o
  · obtain ⟨p, hp⟩ := t.a.decodeFrame_frame
    obtain ⟨q, hq⟩ := t.b.decodeFrame_frame
    obtain ⟨hva, hla, -⟩ := decodeFrame_eq_ok_iff.1 hp
    obtain ⟨hvb, hlb, -⟩ := decodeFrame_eq_ok_iff.1 hq
    have hlen : t.b.frameHeader.payloadLen = t.a.frameHeader.payloadLen := by
      have h := t.length_eq
      rw [length_of_decodeFrame hp, length_of_decodeFrame hq] at h
      exact UInt32.toNat_inj.1 (by omega)
    have hid : t.a.frameHeader.requestId = t.b.frameHeader.requestId := t.requestId_eq
    change t.b.frameHeader = t.a.frameHeader
    calc t.b.frameHeader
        = ⟨t.b.frameHeader.version, t.b.frameHeader.frameType, t.b.frameHeader.requestId,
            t.b.frameHeader.payloadLen⟩ := rfl
      _ = t.a.frameHeader := by rw [hvb, ← hva, ← t.frameType_eq, ← hid, hlen]
  · rfl

/-- Both twins have the same length. -/
theorem length_frame_family (o : Bool) : (t.family o).frame.length = t.a.frame.length := by
  cases o
  · exact t.length_eq.symm
  · rfl

/-- No two headers of the twins tell that they come from different frames,
which is why the group takes the chunks of both. -/
theorem sameFrame_family (o o' : Bool) (i j : ℕ) :
    SameFrame ((t.family o).headerAt i) ((t.family o').headerAt j) := by
  refine ⟨?_, ?_, ?_, ?_⟩
  · exact congrArg FrameHeader.frameType
      ((t.frameHeader_family o').trans (t.frameHeader_family o).symm)
  · exact (t.requestId_family o').trans (t.requestId_family o).symm
  · exact congrArg UInt32.ofNat
      ((t.length_frame_family o').trans (t.length_frame_family o).symm)
  · exact congrArg UInt16.ofNat ((t.total_family o').trans (t.total_family o).symm)

/-- The chunks of either twin are among those on which the checksum is asked
to tell different chunks apart. -/
theorem chunk_mem (o : Bool) {i : ℕ} (hi : i < t.total) :
    (t.family o).chunk i ∈ chunks t.a.maxPayload t.a.frame ++ chunks t.b.maxPayload t.b.frame := by
  have hi' : i < (t.family o).total := (t.total_family o).symm ▸ hi
  rw [(t.family o).chunk_eq hi', List.mem_append]
  cases o
  · exact .inr (List.getElem_mem _)
  · exact .inl (List.getElem_mem _)

/-- Two copies of a chunk have one checksum unless they are told apart by their
payloads. -/
theorem hash_chunk_iff (x y : Bool) (j : Fin t.total) :
    crc.hash ((t.family x).chunk j) = crc.hash ((t.family y).chunk j) ↔
      (j ∈ t.differ → x = y) := by
  constructor
  · intro h hj
    have heq := t.hash_inj _ (t.chunk_mem x j.isLt) _ (t.chunk_mem y j.isLt) h
    cases x <;> cases y
    · rfl
    · exact absurd heq.symm hj
    · exact absurd heq hj
    · rfl
  · intro h
    by_cases hj : j ∈ t.differ
    · rw [h hj]
    · have heq : t.a.chunk j = t.b.chunk j := not_not.1 hj
      cases x <;> cases y <;> simp [family, heq]

/-- The first checksum in a slot is that of the chunk before in the twin the
slot came from. -/
theorem prevChecksum_slot (x : Bool) {i : ℕ} (hi : i < t.total) :
    ((t.family x).slot i).prevChecksum = crc.hash ((t.family x).chunk (prevIdx t.total i)) := by
  have h := (t.family x).prevChecksum_headerAt (i := i) (by rwa [t.total_family])
  rwa [t.total_family] at h

/-- The second checksum in a slot is that of the chunk after in the twin the
slot came from. -/
theorem nextChecksum_slot (x : Bool) {i : ℕ} (hi : i < t.total) :
    ((t.family x).slot i).nextChecksum = crc.hash ((t.family x).chunk (nextIdx t.total i)) := by
  have h := (t.family x).nextChecksum_headerAt (i := i) (by rwa [t.total_family])
  rwa [t.total_family] at h

/-- **What the ring check sees**: filled with chunks of either frame, the ring
closes if every chunk in which the frames differ has both neighbours from its
own frame. -/
theorem ringOk_iff (o : ℕ → Bool) :
    RingOk crc t.total (fun i => (t.family (o i)).slot i) ↔
      Respects t.ring t.differ (fun i => o i = true) := by
  have hring : RingOk crc t.total (fun i => (t.family (o i)).slot i) ↔
      ∀ i : Fin t.total, (t.ring.symm i ∈ t.differ → o (t.ring.symm i) = o i) ∧
        (t.ring i ∈ t.differ → o (t.ring i) = o i) := by
    refine ⟨fun h i => ?_, fun h i hi => ?_⟩
    · obtain ⟨hp, hn⟩ := h i i.isLt
      rw [t.prevChecksum_slot _ i.isLt] at hp
      rw [t.nextChecksum_slot _ i.isLt] at hn
      exact ⟨(t.hash_chunk_iff _ _ (t.ring.symm i)).1 hp, (t.hash_chunk_iff _ _ (t.ring i)).1 hn⟩
    · obtain ⟨hp, hn⟩ := h ⟨i, hi⟩
      rw [t.prevChecksum_slot _ hi, t.nextChecksum_slot _ hi]
      exact ⟨(t.hash_chunk_iff _ _ (t.ring.symm ⟨i, hi⟩)).2 hp,
        (t.hash_chunk_iff _ _ (t.ring ⟨i, hi⟩)).2 hn⟩
  rw [hring]
  constructor
  · intro h j hj
    have hnext := (h (t.ring j)).1
    have hprev := (h (t.ring.symm j)).2
    rw [Equiv.symm_apply_apply] at hnext
    rw [Equiv.apply_symm_apply] at hprev
    exact ⟨Bool.eq_iff_iff.1 (hnext hj).symm, Bool.eq_iff_iff.1 (hprev hj).symm⟩
  · intro h i
    refine ⟨fun hi => ?_, fun hi => ?_⟩
    · have hiff := (h _ hi).1
      rw [Equiv.apply_symm_apply] at hiff
      exact (Bool.eq_iff_iff.2 hiff).symm
    · have hiff := (h _ hi).2
      rw [Equiv.symm_apply_apply] at hiff
      exact (Bool.eq_iff_iff.2 hiff).symm

/-! ### Frames put together from chunks of both -/

/-- Chunk `i` taken from the frame `o i`, for every `i`. -/
def mixed (o : ℕ → Bool) : Bytes :=
  ((List.range t.total).map fun i => (t.family (o i)).chunk i).flatten

/-- A frame mixed of one twin only is that twin. -/
theorem frame_eq_mixed (x : Bool) : (t.family x).frame = t.mixed fun _ => x := by
  rw [mixed, ← t.total_family x, Sent.flatten_chunk]

/-- The chunks at one place have one length. -/
theorem length_chunk_family (x : Bool) {i : ℕ} (hi : i < t.total) :
    ((t.family x).chunk i).length = (t.a.chunk i).length := by
  cases x
  · have hb : i < t.b.total := (t.total_family false).symm ▸ hi
    change (t.b.chunk i).length = _
    rw [t.b.chunk_eq hb, t.a.chunk_eq hi]
    simp only [chunks, List.getElem_map, List.getElem_range, List.length_take, List.length_drop,
      t.maxPayload_eq, t.length_eq]
  · rfl

/-- Only at the chunks in which the frames differ does the choice matter. -/
theorem mixed_eq_mixed_iff (o o' : ℕ → Bool) :
    t.mixed o = t.mixed o' ↔ ∀ i ∈ t.differ, o i = o' i := by
  have hlen : ((List.range t.total).map fun i => (t.family (o i)).chunk i).map List.length =
      ((List.range t.total).map fun i => (t.family (o' i)).chunk i).map List.length := by
    rw [List.map_map, List.map_map]
    refine List.map_congr_left fun i hi => ?_
    have hi := List.mem_range.1 hi
    exact (t.length_chunk_family _ hi).trans (t.length_chunk_family _ hi).symm
  have hflat : t.mixed o = t.mixed o' ↔
      ((List.range t.total).map fun i => (t.family (o i)).chunk i) =
        (List.range t.total).map fun i => (t.family (o' i)).chunk i :=
    ⟨fun h => List.eq_iff_flatten_eq.2 ⟨h, hlen⟩, fun h => congrArg List.flatten h⟩
  rw [hflat, List.map_inj_left]
  constructor
  · intro h i hi
    exact (t.hash_chunk_iff _ _ i).1 (congrArg crc.hash (h i (List.mem_range.2 i.isLt))) hi
  · intro h i hi
    have hi := List.mem_range.1 hi
    exact t.hash_inj _ (t.chunk_mem _ hi) _ (t.chunk_mem _ hi)
      ((t.hash_chunk_iff _ _ ⟨i, hi⟩).2 (h ⟨i, hi⟩))

/-- Mixing does not change the length, because chunks at the same place are
equally long. -/
theorem length_mixed (o : ℕ → Bool) : (t.mixed o).length = t.a.frame.length := by
  have hlen : ∀ o : ℕ → Bool, (t.mixed o).length =
      ((List.range t.total).map fun i => (t.a.chunk i).length).sum := by
    intro o
    rw [mixed, List.length_flatten, List.map_map]
    refine congrArg List.sum (List.map_congr_left fun i hi => ?_)
    exact t.length_chunk_family _ (List.mem_range.1 hi)
  rw [hlen o, ← hlen fun _ => true, ← t.frame_eq_mixed]
  rfl

/-- The header is in the first chunk, so a mixed frame starts with it. -/
theorem take_mixed (o : ℕ → Bool) :
    (t.mixed o).take FRAME_HEADER_LEN = t.a.frameHeader.encode := by
  have hfirst : ∀ o : ℕ → Bool, (t.mixed o).take FRAME_HEADER_LEN =
      ((t.family (o 0)).chunk 0).take FRAME_HEADER_LEN := by
    intro o
    obtain ⟨n, hn⟩ := Nat.exists_eq_succ_of_ne_zero (Nat.pos_iff_ne_zero.1 t.a.total_pos)
    have hlen : FRAME_HEADER_LEN ≤ ((t.family (o 0)).chunk 0).length := by
      obtain ⟨p, hp⟩ := t.a.decodeFrame_frame
      have hmin := t.a.minPayload_le
      have hframe := length_of_decodeFrame hp
      rw [t.length_chunk_family _ t.a.total_pos, t.a.chunk_eq t.a.total_pos]
      simp only [chunks, List.getElem_map, List.getElem_range, List.length_take, List.length_drop]
      simp only [UDP_MIN_PAYLOAD, FRAME_HEADER_LEN] at *
      omega
    rw [mixed, show t.total = n + 1 from hn, List.range_succ_eq_map, List.map_cons,
      List.flatten_cons, List.take_append_of_le_length hlen]
  obtain ⟨p, hp⟩ := (t.family (o 0)).decodeFrame_frame
  rw [hfirst o, ← hfirst fun _ => o 0, ← t.frame_eq_mixed, (decodeFrame_eq_ok_iff.1 hp).2.2,
    t.frameHeader_family, ← t.a.frameHeader.length_encode, List.take_left]

/-- Every mixed frame decodes, with the common header. -/
theorem decodeFrame_mixed (o : ℕ → Bool) :
    ∃ p, decodeFrame (t.mixed o) = .ok (t.a.frameHeader, p) := by
  obtain ⟨p, hp⟩ := t.a.decodeFrame_frame
  obtain ⟨hv, hlen, -⟩ := decodeFrame_eq_ok_iff.1 hp
  refine ⟨(t.mixed o).drop FRAME_HEADER_LEN, decodeFrame_eq_ok_iff.2 ⟨hv, ?_, ?_⟩⟩
  · rw [List.length_drop, t.length_mixed, length_of_decodeFrame hp, hlen, Nat.add_sub_cancel_left]
  · rw [← t.take_mixed o, List.take_append_drop]

/-! ### What the reassembler delivers of twins -/

/-- What an insert returns after any deliveries of the twins: all of them end
up in the one group of their request id, and the first of them opened it. -/
theorem insert_delivery (now timeout : ℕ) (before : List (Delivery t.family))
    (d : Delivery t.family) :
    (((UdpFrameReassembler.new now timeout).run crc (before.map Delivery.datagram)).insert crc
        d.datagram).2 =
      (groupFrom (t.a.headerAt 0)
        (received t.a.requestId ((before ++ [d]).map Delivery.datagram))).finish crc := by
  rw [Udp.insert_delivery (fun i i' _ => t.sameFrame_family i i' 0 0), t.requestId_family,
    groupFrom_congr (t.sameFrame_family d.frame true d.chunk 0)]
  rfl

/-- A slot is filled by the chunk of one of the frames. -/
theorem slot_of_latest {ds : List (Delivery t.family)} {i : ℕ} {s : ChunkSlot}
    (h : latest (t.a.headerAt 0) (received t.a.requestId (ds.map Delivery.datagram)) i = some s) :
    ∃ d ∈ ds, (d.chunk : ℕ) = i ∧ s = (t.family d.frame).slot i := by
  obtain ⟨x, hx, hfill, rfl⟩ := exists_of_latest h
  obtain ⟨d, hd, -, rfl⟩ := mem_received_iff.1 hx
  have hlt : (d.chunk : ℕ) < (t.family d.frame).total :=
    (t.family d.frame).length_datagrams ▸ d.chunk.isLt
  rw [fillsSlot, Bool.and_eq_true, beq_iff_eq] at hfill
  have hi : (d.chunk : ℕ) = i :=
    ((t.family d.frame).chunkId_headerAt hlt).symm.trans hfill.2
  exact ⟨d, hd, hi, by rw [← hi]; rfl⟩

/-- **Whatever is delivered is mixed** from the two frames, in a way the ring
check could not tell from either. -/
theorem mixed_of_delivered {now timeout : ℕ} {before : List (Delivery t.family)}
    {d : Delivery t.family} {f : Bytes}
    (hf : (((UdpFrameReassembler.new now timeout).run crc (before.map Delivery.datagram)).insert
      crc d.datagram).2 = .ok (some f)) :
    ∃ o : ℕ → Bool, Respects t.ring t.differ (fun i => o i = true) ∧ f = t.mixed o := by
  rw [t.insert_delivery] at hf
  obtain ⟨slots, hlatest, hring, hcat, -⟩ := groupFrom_delivers hf
  have htot : (t.a.headerAt 0).totalChunks.toNat = t.total := t.a.totalChunks_headerAt 0
  rw [htot] at hlatest hring hcat
  have hpick : ∀ i, ∃ x : Bool, i < t.total → slots i = (t.family x).slot i := by
    intro i
    by_cases hi : i < t.total
    · obtain ⟨e, -, -, he⟩ := t.slot_of_latest (hlatest i hi)
      exact ⟨e.frame, fun _ => he⟩
    · exact ⟨true, fun h => absurd h hi⟩
  choose o ho using hpick
  refine ⟨o, (t.ringOk_iff o).1 (hring.congr ho), ?_⟩
  have hmap : ((List.range t.total).map fun i => (slots i).payload).flatten = t.mixed o := by
    refine congrArg List.flatten (List.map_congr_left fun i hi => ?_)
    rw [ho i (List.mem_range.1 hi)]
    rfl
  rw [hcat, hmap, t.a.frameLen_headerAt, ← t.length_mixed o, List.take_length]

/-- Chunk `i` of frame `x`, as a delivery. -/
def delivery (x : Bool) (i : Fin t.total) : Delivery t.family :=
  ⟨x, ⟨i, by rw [(t.family x).length_datagrams, t.total_family]; exact i.isLt⟩⟩

/-- **Whatever the ring check cannot tell from a frame is delivered** if its
chunks arrive: a choice that respects the differing places is sent, chunk by
chunk, and comes out. -/
theorem delivered_of_respects {o : ℕ → Bool}
    (ho : Respects t.ring t.differ (fun i => o i = true)) (now timeout : ℕ) :
    ∃ (before : List (Delivery t.family)) (d : Delivery t.family),
      (((UdpFrameReassembler.new now timeout).run crc (before.map Delivery.datagram)).insert crc
        d.datagram).2 = .ok (some (t.mixed o)) := by
  let first : Fin t.total := ⟨0, t.a.total_pos⟩
  let all : List (Delivery t.family) :=
    (List.finRange t.total).map fun i : Fin t.total => t.delivery (o i) i
  have hall : ∀ e ∈ all ++ [t.delivery (o first) first], ∃ i : Fin t.total,
      e = t.delivery (o i) i := by
    intro e he
    rcases List.mem_append.1 he with he | he
    · obtain ⟨i, -, rfl⟩ := List.mem_map.1 he
      exact ⟨i, rfl⟩
    · exact ⟨first, List.mem_singleton.1 he⟩
  refine ⟨all, t.delivery (o first) first, ?_⟩
  have htot : (t.a.headerAt 0).totalChunks.toNat = t.total := t.a.totalChunks_headerAt 0
  -- every slot holds the chunk of the chosen frame
  have hlatest : ∀ i < (t.a.headerAt 0).totalChunks.toNat, latest (t.a.headerAt 0)
      (received t.a.requestId ((all ++ [t.delivery (o first) first]).map Delivery.datagram)) i =
        some ((t.family (o i)).slot i) := by
    intro i hi
    rw [htot] at hi
    have hmem : (t.family (o i)).arrivalAt i ∈
        received t.a.requestId ((all ++ [t.delivery (o first) first]).map Delivery.datagram) :=
      mem_received_iff.2 ⟨t.delivery (o i) ⟨i, hi⟩,
        List.mem_append_left _ (List.mem_map.2 ⟨⟨i, hi⟩, List.mem_finRange _, rfl⟩),
        t.requestId_family _, rfl⟩
    have hfill : fillsSlot (t.a.headerAt 0) i ((t.family (o i)).arrivalAt i) = true := by
      have hid := (t.family (o i)).chunkId_headerAt (i := i) (by rwa [t.total_family])
      rw [fillsSlot, Bool.and_eq_true, decide_eq_true_eq, beq_iff_eq]
      exact ⟨t.sameFrame_family true (o i) 0 i, hid⟩
    obtain ⟨s, hs⟩ := Option.isSome_iff_exists.1 (latest_isSome_iff.2 ⟨_, hmem, hfill⟩)
    obtain ⟨e, he, hei, rfl⟩ := t.slot_of_latest hs
    obtain ⟨j, rfl⟩ := hall e he
    obtain rfl : (j : ℕ) = i := hei
    exact hs
  have hslots := chunks_groupFrom hlatest
  have hasm : (groupFrom (t.a.headerAt 0) (received t.a.requestId
      ((all ++ [t.delivery (o first) first]).map Delivery.datagram))).assemble = t.mixed o := by
    have hmix : ((List.range t.total).map fun i => ((t.family (o i)).slot i).payload).flatten =
        t.mixed o := rfl
    have hlen : (groupFrom (t.a.headerAt 0) (received t.a.requestId
        ((all ++ [t.delivery (o first) first]).map Delivery.datagram))).frameLen.toNat =
          t.a.frame.length := t.a.frameLen_headerAt 0
    rw [assemble_of_full hslots, htot, hmix, hlen, ← t.length_mixed o, List.take_length]
  rw [t.insert_delivery]
  obtain ⟨p, hp⟩ := t.decodeFrame_mixed o
  refine (finish_of_full hslots).2 ⟨?_, hasm.symm, _, p, by rw [hasm, hp], rfl, rfl⟩
  rw [htot]
  exact (t.ringOk_iff o).2 ho

/-- **When torn frames are impossible**: exactly when any two chunks in which
the frames differ are linked by a walk over such chunks in strides of at most
two places of the ring. -/
theorem neverTorn_iff :
    t.NeverTorn ↔ ∀ i ∈ t.differ, ∀ j ∈ t.differ, Linked t.ring t.differ i j := by
  constructor
  · intro hnever i hi j hj
    by_contra hlink
    obtain ⟨o, ho, hoi, hoj⟩ := exists_respects hj hlink
    classical
    let pick : ℕ → Bool := fun k => if hk : k < t.total then decide (o ⟨k, hk⟩) else true
    have hpick : ∀ k : Fin t.total, pick k = decide (o k) := fun k => dif_pos k.isLt
    have hresp : Respects t.ring t.differ (fun k => pick k = true) := by
      have hfun : (fun k : Fin t.total => pick k = true) = o := by
        funext k
        rw [hpick, decide_eq_true_eq]
      rwa [hfun]
    obtain ⟨before, d, hd⟩ := t.delivered_of_respects hresp 0 0
    rcases hnever 0 0 before d _ hd with h | h
    · rw [show t.a.frame = t.mixed fun _ => true from t.frame_eq_mixed true,
        t.mixed_eq_mixed_iff] at h
      exact hoj (of_decide_eq_true ((hpick j).symm.trans (h j hj)))
    · rw [show t.b.frame = t.mixed fun _ => false from t.frame_eq_mixed false,
        t.mixed_eq_mixed_iff] at h
      exact of_decide_eq_false ((hpick i).symm.trans (h i hi)) hoi
  · intro hlink now timeout before d f hf
    obtain ⟨o, ho, rfl⟩ := t.mixed_of_delivered hf
    by_cases hne : ∃ i, i ∈ t.differ
    · obtain ⟨i, hi⟩ := hne
      have hconst : t.mixed o = (t.family (o i)).frame := by
        rw [t.frame_eq_mixed, t.mixed_eq_mixed_iff]
        exact fun j hj => Bool.eq_iff_iff.2 (ho.of_linked hi (hlink i hi j hj))
      rw [hconst]
      cases o i
      · exact .inr rfl
      · exact .inl rfl
    · left
      rw [show t.a.frame = t.mixed fun _ => true from t.frame_eq_mixed true, t.mixed_eq_mixed_iff]
      exact fun i hi => absurd ⟨i, hi⟩ hne

end Twins

/-! ### A torn frame -/

/-- 256 equal bytes. -/
def block (c : UInt8) : Bytes := List.replicate 256 c

/-- The first chunk of a reply of 1536 bytes. -/
def firstBlock : Bytes :=
  (FrameHeader.new .queryResponse 7 1518).encode ++ List.replicate 238 0

/-- The chunks of a reply that is zero but for the header, chunk 1 and chunk 4. -/
def sixBlocks (c₁ c₄ : UInt8) : List Bytes :=
  [firstBlock, block c₁, block 0, block 0, block c₄, block 0]

/-- A block is 256 bytes long, the least capacity. -/
@[simp] theorem length_block (c : UInt8) : (block c).length = 256 := List.length_replicate

/-- The first block, with the frame header in front, has the same length as
the others. -/
@[simp] theorem length_firstBlock : firstBlock.length = 256 := by
  rw [firstBlock, List.length_append, FrameHeader.length_encode, List.length_replicate]
  rfl

/-- Cutting the six blocks for the least capacity gives them back, one a
chunk. -/
theorem chunks_sixBlocks (c₁ c₄ : UInt8) :
    chunks UDP_MIN_PAYLOAD (sixBlocks c₁ c₄).flatten = sixBlocks c₁ c₄ :=
  chunks_flatten (by decide) (by simp [sixBlocks, UDP_MIN_PAYLOAD])

/-- The two blocks that vary can be read off the frame, so different choices
are different frames. -/
theorem flatten_sixBlocks_inj {c₁ c₄ d₁ d₄ : UInt8}
    (h : (sixBlocks c₁ c₄).flatten = (sixBlocks d₁ d₄).flatten) : c₁ = d₁ ∧ c₄ = d₄ := by
  have hblock : ∀ {c d}, block c = block d → c = d := fun he => by
    simpa only [block, List.replicate_inj, Nat.succ_ne_zero, true_and, false_or] using he
  have hlist := congrArg (chunks UDP_MIN_PAYLOAD) h
  rw [chunks_sixBlocks, chunks_sixBlocks] at hlist
  simp only [sixBlocks, List.cons.injEq, and_true, true_and] at hlist
  exact ⟨hblock hlist.1, hblock hlist.2⟩

/-- Six blocks are 1536 bytes. -/
theorem length_sixBlocks (c₁ c₄ : UInt8) : (sixBlocks c₁ c₄).flatten.length = 1536 := by
  simp [sixBlocks]

/-- The six blocks are a reply frame to request 7, whatever the two varying
blocks hold. -/
theorem decodeFrame_sixBlocks (c₁ c₄ : UInt8) : decodeFrame (sixBlocks c₁ c₄).flatten =
    .ok (FrameHeader.new .queryResponse 7 1518,
      List.replicate 238 0 ++ [block c₁, block 0, block 0, block c₄, block 0].flatten) := by
  refine decodeFrame_eq_ok_iff.2 ⟨rfl, ?_, ?_⟩
  · rw [List.length_append, List.length_replicate]
    simp
    rfl
  · rw [sixBlocks, List.flatten_cons, firstBlock, List.append_assoc]

def sentSix (c₁ c₄ : UInt8) : Sent Crc32.ieee :=
  .ofFrame _ (decodeFrame_sixBlocks c₁ c₄) (le_refl UDP_MIN_PAYLOAD) udpMinPayload_le
    (by rw [length_sixBlocks]; decide) (by rw [length_sixBlocks]; decide)

/-- The six blocks were sent with the least capacity. -/
theorem maxPayload_sentSix (c₁ c₄ : UInt8) : (sentSix c₁ c₄).maxPayload = UDP_MIN_PAYLOAD := rfl

/-- What was sent is the six blocks. -/
theorem frame_sentSix (c₁ c₄ : UInt8) : (sentSix c₁ c₄).frame = (sixBlocks c₁ c₄).flatten := rfl

/-- The header of the six blocks, as it was sent. -/
theorem frameHeader_sentSix (c₁ c₄ : UInt8) :
    (sentSix c₁ c₄).frameHeader = FrameHeader.new .queryResponse 7 1518 :=
  (sentSix c₁ c₄).frameHeader_eq (decodeFrame_sixBlocks c₁ c₄)

/-- Chunk `i` of what was sent is block `i`. -/
theorem chunk_sentSix (c₁ c₄ : UInt8) (i : ℕ) :
    (sentSix c₁ c₄).chunk i = (sixBlocks c₁ c₄)[i]?.getD [] := by
  rw [Sent.chunk, maxPayload_sentSix, frame_sentSix, chunks_sixBlocks]

/-- The checksum of a byte string, computed a quarter at a time. -/
theorem hash_quarters {p q₁ q₂ q₃ q₄ : Bytes} (r₁ r₂ r₃ : ℕ) {r₄ : ℕ}
    (hp : p = q₁ ++ q₂ ++ q₃ ++ q₄) (h₁ : q₁.foldl crcByte 0xFFFFFFFF = r₁)
    (h₂ : q₂.foldl crcByte r₁ = r₂) (h₃ : q₃.foldl crcByte r₂ = r₃)
    (h₄ : q₄.foldl crcByte r₃ = r₄) :
    Crc32.ieee.hash p = UInt32.ofNat (r₄ ^^^ 0xFFFFFFFF) := by
  change UInt32.ofNat (p.foldl crcByte 0xFFFFFFFF ^^^ 0xFFFFFFFF) = _
  rw [hp, List.foldl_append, List.foldl_append, List.foldl_append, h₁, h₂, h₃, h₄]

/-- A block is four equal quarters, which keeps the computation of its
checksum short. -/
theorem block_eq (c : UInt8) : block c = List.replicate 64 c ++ List.replicate 64 c ++
    List.replicate 64 c ++ List.replicate 64 c := by
  simp only [block, List.replicate_append_replicate]

/-- The three payloads of such replies have three checksums. -/
theorem hash_blocks : ∀ p ∈ [firstBlock, block 0, block 1], ∀ q ∈ [firstBlock, block 0, block 1],
    Crc32.ieee.hash p = Crc32.ieee.hash q → p = q := by
  have hfirst : Crc32.ieee.hash firstBlock = UInt32.ofNat (408330514 ^^^ 0xFFFFFFFF) := by
    have hparts : firstBlock = ((FrameHeader.new .queryResponse 7 1518).encode ++
        List.replicate 46 0) ++ List.replicate 64 0 ++ List.replicate 64 0 ++
          List.replicate 64 0 := by
      simp only [firstBlock, List.append_assoc, List.replicate_append_replicate]
    exact hash_quarters 41258815 1928535181 935137254 hparts
      (by decide +kernel) (by decide +kernel) (by decide +kernel) (by decide +kernel)
  have hzero : Crc32.ieee.hash (block 0) = UInt32.ofNat (4066998951 ^^^ 0xFFFFFFFF) :=
    hash_quarters 2322767049 1029113186 1946220301 (block_eq 0)
      (by decide +kernel) (by decide +kernel) (by decide +kernel) (by decide +kernel)
  have hone : Crc32.ieee.hash (block 1) = UInt32.ofNat (2664265785 ^^^ 0xFFFFFFFF) :=
    hash_quarters 4096955728 3404794820 2084346560 (block_eq 1)
      (by decide +kernel) (by decide +kernel) (by decide +kernel) (by decide +kernel)
  simp only [List.forall_mem_cons, List.not_mem_nil, false_imp_iff, implies_true, and_true, hfirst,
    hzero, hone]
  decide

/-- Two replies that differ in chunk 1 and in chunk 4. -/
def sixTwins : Twins Crc32.ieee where
  a := sentSix 1 1
  b := sentSix 0 0
  frameType_eq := by rw [frameHeader_sentSix, frameHeader_sentSix]
  requestId_eq := by rw [Sent.requestId, Sent.requestId, frameHeader_sentSix, frameHeader_sentSix]
  length_eq := by rw [frame_sentSix, frame_sentSix, length_sixBlocks, length_sixBlocks]
  maxPayload_eq := by rw [maxPayload_sentSix, maxPayload_sentSix]
  hash_inj := by
    have hmem : ∀ p ∈ sixBlocks 1 1 ++ sixBlocks 0 0, p ∈ [firstBlock, block 0, block 1] := by
      intro p hp
      simp only [sixBlocks, List.mem_append, List.mem_cons, List.not_mem_nil, or_false] at hp ⊢
      tauto
    rw [maxPayload_sentSix, maxPayload_sentSix, frame_sentSix, frame_sentSix, chunks_sixBlocks,
      chunks_sixBlocks]
    exact fun p hp q hq => hash_blocks p (hmem p hp) q (hmem q hq)

/-- The first twin, whose two varying blocks are of ones. -/
theorem frame_sixTwins_a : sixTwins.a.frame = (sixBlocks 1 1).flatten := by
  rw [sixTwins, frame_sentSix]

/-- The second twin, whose two varying blocks are of zeros. -/
theorem frame_sixTwins_b : sixTwins.b.frame = (sixBlocks 0 0).flatten := by
  rw [sixTwins, frame_sentSix]

/-- Chunks 0 to 2 of the first reply and 3 to 5 of the second are delivered as a
frame that is neither. -/
theorem torn_six :
    (∃ (before : List (Delivery sixTwins.family)) (d : Delivery sixTwins.family),
      (((UdpFrameReassembler.new 0 0).run Crc32.ieee (before.map Delivery.datagram)).insert
        Crc32.ieee d.datagram).2 = .ok (some (sixBlocks 1 0).flatten)) ∧
      (sixBlocks 1 0).flatten ≠ sixTwins.a.frame ∧ (sixBlocks 1 0).flatten ≠ sixTwins.b.frame := by
  have htotal : sixTwins.total = 6 := by
    change (chunks (sentSix 1 1).maxPayload (sentSix 1 1).frame).length = 6
    rw [maxPayload_sentSix, frame_sentSix, chunks_sixBlocks]
    rfl
  have hdiffer : ∀ j ∈ sixTwins.differ, (j : ℕ) = 1 ∨ (j : ℕ) = 4 := by
    intro j hj
    have hlt : (j : ℕ) < 6 := htotal ▸ j.isLt
    change (sentSix 1 1).chunk j ≠ (sentSix 0 0).chunk j at hj
    rw [chunk_sentSix, chunk_sentSix] at hj
    generalize (j : ℕ) = i at hj hlt
    interval_cases i <;> simp_all [sixBlocks]
  have hmixed : sixTwins.mixed (fun i => decide (i < 3)) = (sixBlocks 1 0).flatten := by
    rw [Twins.mixed, htotal]
    change [(sentSix 1 1).chunk 0, (sentSix 1 1).chunk 1, (sentSix 1 1).chunk 2,
      (sentSix 0 0).chunk 3, (sentSix 0 0).chunk 4, (sentSix 0 0).chunk 5].flatten = _
    simp only [chunk_sentSix]
    rfl
  have hresp : Respects sixTwins.ring sixTwins.differ
      (fun i => decide ((i : ℕ) < 3) = true) := by
    intro j hj
    simp only [decide_eq_true_eq, sixTwins.val_ring, sixTwins.val_ring_symm, htotal]
    rcases hdiffer j hj with h | h <;> rw [h] <;> decide
  have hdel := sixTwins.delivered_of_respects (o := fun i => decide (i < 3)) hresp 0 0
  rw [hmixed] at hdel
  refine ⟨hdel, fun h => ?_, fun h => ?_⟩
  · rw [frame_sixTwins_a] at h
    exact absurd (flatten_sixBlocks_inj h).2 (by decide)
  · rw [frame_sixTwins_b] at h
    exact absurd (flatten_sixBlocks_inj h).1 (by decide)

end Udp
end Clustat
