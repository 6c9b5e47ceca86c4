/-
# Reassembly of genuine datagrams

`encode_udp_chunks` against `UdpFrameReassembler` (`crates/common/src/udp.rs`):
a `Sent` frame is one the encoder accepted, with its datagrams.  Whatever order
the datagrams of a family of frames arrive in, and however often each of them
does, the reassembler answers an insert by whether the frame of that datagram
is all there (`reassembly_exact`).  The frames of a family have different
request ids, so they fill different groups; inside a group every slot can only
ever hold the one chunk the encoder made for it, and the checksums it made for
the neighbours close the ring (`Sent.ringOk`).
-/

import Clustat.Udp.Reassembler
import Mathlib.Data.List.Nodup

namespace Clustat
namespace Udp

open Chunks

/-- A frame `encode_udp_chunks` accepted for a capacity in `256..=65535`, and
the datagrams it made. -/
structure Sent (crc : Crc32) where
  frame : Bytes
  maxPayload : ℕ
  datagrams : List Bytes
  maxPayload_le : maxPayload ≤ U16_MAX
  encoded : encodeUdpChunks crc frame maxPayload = .ok datagrams

namespace Sent

variable {crc : Crc32} (s : Sent crc)

/-- The header of the frame. -/
def frameHeader : FrameHeader :=
  match decodeFrame s.frame with
  | .ok (h, _) => h
  | .error _ => .new .queryRequest 0 0

/-- The request id of the frame. -/
def requestId : UInt64 := s.frameHeader.requestId

/-- The number of chunks. -/
def total : ℕ := (chunks s.maxPayload s.frame).length

/-- The payload of chunk `i`. -/
def chunk (i : ℕ) : Bytes := (chunks s.maxPayload s.frame)[i]?.getD []

/-- The header of chunk `i`. -/
def headerAt (i : ℕ) : UdpChunkHeader :=
  chunkHeader crc s.frameHeader s.frame.length (chunks s.maxPayload s.frame) i (s.chunk i)

/-- Chunk `i` as it arrives. -/
def arrivalAt (i : ℕ) : Arrival := (s.headerAt i, s.chunk i)

/-- A frame that the encoder accepted is one that `decode_frame` accepts,
since `encode_udp_chunks` decodes it first. -/
theorem decodeFrame_frame : ∃ p, decodeFrame s.frame = .ok (s.frameHeader, p) := by
  obtain ⟨-, -, -, h, p, hd, -⟩ := encodeUdpChunks_eq_ok_iff.1 s.encoded
  exact ⟨p, by rw [frameHeader, hd]⟩

/-- The header of a sent frame is the one `decode_frame` reads off it. -/
theorem frameHeader_eq {h : FrameHeader} {p : Bytes} (hd : decodeFrame s.frame = .ok (h, p)) :
    s.frameHeader = h := by
  rw [frameHeader, hd]

/-- The encoder has checked that the capacity is at least `UDP_MIN_PAYLOAD`.
-/
theorem minPayload_le : UDP_MIN_PAYLOAD ≤ s.maxPayload := (encodeUdpChunks_eq_ok_iff.1 s.encoded).1

/-- The capacity is positive, so cutting the frame into chunks ends. -/
theorem maxPayload_pos : 0 < s.maxPayload :=
  lt_of_lt_of_le (by decide) s.minPayload_le

/-- The length of a sent frame fits the 32 bits of `frame_len`. -/
theorem length_frame_lt : s.frame.length < 2 ^ 32 := (encodeUdpChunks_eq_ok_iff.1 s.encoded).2.1

/-- A sent frame is not empty: it has its header at least. -/
theorem length_frame_pos : 0 < s.frame.length := by
  obtain ⟨p, hd⟩ := s.decodeFrame_frame
  rw [length_of_decodeFrame hd, FRAME_HEADER_LEN]
  omega

/-- The number of chunks fits the 16 bits of `total_chunks`. -/
theorem total_le : s.total ≤ U16_MAX := by
  rw [total, length_chunks]
  exact (encodeUdpChunks_eq_ok_iff.1 s.encoded).2.2.1

/-- A sent frame has at least one chunk. -/
theorem total_pos : 0 < s.total := by
  rw [total, length_chunks]
  exact divCeil_pos s.maxPayload_pos s.length_frame_pos

/-- The datagrams of a sent frame are its chunks, each behind its own header.
-/
theorem datagrams_eq : s.datagrams =
    chunkDatagrams crc s.frameHeader s.frame.length (chunks s.maxPayload s.frame) := by
  obtain ⟨-, -, -, h, p, hd, he⟩ := encodeUdpChunks_eq_ok_iff.1 s.encoded
  rw [he, frameHeader, hd]

/-- There are as many datagrams as chunks. -/
theorem length_datagrams : s.datagrams.length = s.total := by
  rw [datagrams_eq, chunkDatagrams, List.length_mapIdx, total]

/-- Below the number of chunks, `chunk i` is the chunk at place `i`, without
the default. -/
theorem chunk_eq {i : ℕ} (hi : i < (chunks s.maxPayload s.frame).length) :
    s.chunk i = (chunks s.maxPayload s.frame)[i] := by
  rw [chunk, List.getElem?_eq_getElem hi, Option.getD_some]

/-- **Datagram `i` is header `i` and chunk `i`**, one after the other, as the
encoder has put them. -/
theorem getElem_datagrams {i : ℕ} (hi : i < s.datagrams.length) :
    s.datagrams[i] = (s.headerAt i).encode ++ s.chunk i := by
  have hi' : i < s.total := s.length_datagrams ▸ hi
  simp only [s.datagrams_eq, chunkDatagrams, List.getElem_mapIdx, headerAt, s.chunk_eq hi']
  rfl

/-- The length of a chunk fits the 16 bits of `payload_len`. -/
theorem length_chunk_le {i : ℕ} (hi : i < s.total) : (s.chunk i).length ≤ U16_MAX := by
  rw [s.chunk_eq hi]
  exact (length_getElem_chunks_le hi).trans s.maxPayload_le

/-- The chunks in order are the frame. -/
theorem flatten_chunk : ((List.range s.total).map s.chunk).flatten = s.frame := by
  have hmap : (List.range s.total).map s.chunk = chunks s.maxPayload s.frame := by
    refine List.ext_getElem (by simp [total]) fun i _ hi => ?_
    rw [List.getElem_map, List.getElem_range, s.chunk_eq hi]
  rw [hmap, flatten_chunks s.maxPayload_pos]

/-! ### The headers -/

/-- The chunk id of header `i` is `i` itself: nothing is lost in 16 bits. -/
theorem chunkId_headerAt {i : ℕ} (hi : i < s.total) : (s.headerAt i).chunkId.toNat = i := by
  have hle := s.total_le
  rw [U16_MAX] at hle
  exact UInt16.toNat_ofNat_of_lt' (show i < 2 ^ 16 by omega)

/-- Every header of a frame announces the number of its chunks. -/
theorem totalChunks_headerAt (i : ℕ) : (s.headerAt i).totalChunks.toNat = s.total := by
  have hle := s.total_le
  rw [U16_MAX] at hle
  exact UInt16.toNat_ofNat_of_lt' (show s.total < 2 ^ 16 by omega)

/-- Every header of a frame has the request id of the frame. -/
theorem requestId_headerAt (i : ℕ) : (s.headerAt i).requestId = s.requestId := rfl

/-- Every header of a frame announces the length of the frame: nothing is lost
in 32 bits. -/
theorem frameLen_headerAt (i : ℕ) : (s.headerAt i).frameLen.toNat = s.frame.length :=
  UInt32.toNat_ofNat_of_lt' s.length_frame_lt

/-- The headers of one frame agree in what makes two headers belong to the
same frame. -/
theorem sameFrame_headerAt (i j : ℕ) : SameFrame (s.headerAt i) (s.headerAt j) :=
  ⟨rfl, rfl, rfl, rfl⟩

/-- The first checksum of header `i` is that of the chunk before, where the
last chunk comes before the first. -/
theorem prevChecksum_headerAt {i : ℕ} (hi : i < s.total) :
    (s.headerAt i).prevChecksum = crc.hash (s.chunk (prevIdx s.total i)) := by
  have hlt : prevIdx s.total i < s.total := prevIdx_lt hi
  have hlt' : prevIdx s.total i < ((chunks s.maxPayload s.frame).map crc.hash).length := by
    rwa [List.length_map]
  calc (s.headerAt i).prevChecksum
      = (((chunks s.maxPayload s.frame).map crc.hash)[prevIdx s.total i]?).getD 0 := rfl
    _ = crc.hash (s.chunk (prevIdx s.total i)) := by
        rw [List.getElem?_eq_getElem hlt', Option.getD_some, List.getElem_map, s.chunk_eq hlt]
        rfl

/-- The second checksum of header `i` is that of the chunk after, where the
first chunk comes after the last. -/
theorem nextChecksum_headerAt {i : ℕ} (hi : i < s.total) :
    (s.headerAt i).nextChecksum = crc.hash (s.chunk (nextIdx s.total i)) := by
  have hlt : nextIdx s.total i < s.total := nextIdx_lt hi
  have hlt' : nextIdx s.total i < ((chunks s.maxPayload s.frame).map crc.hash).length := by
    rwa [List.length_map]
  calc (s.headerAt i).nextChecksum
      = (((chunks s.maxPayload s.frame).map crc.hash)[nextIdx s.total i]?).getD 0 := rfl
    _ = crc.hash (s.chunk (nextIdx s.total i)) := by
        rw [List.getElem?_eq_getElem hlt', Option.getD_some, List.getElem_map, s.chunk_eq hlt]
        rfl

/-- The headers the encoder makes are valid: the version is the current one
and the chunk id is below the number of chunks. -/
theorem valid_headerAt {i : ℕ} (hi : i < s.total) : (s.headerAt i).Valid where
  version := rfl
  total_pos h := by
    have := s.totalChunks_headerAt i
    rw [h] at this
    exact absurd this.symm (Nat.pos_iff_ne_zero.1 s.total_pos)
  chunk_lt := by
    rw [UInt16.lt_iff_toNat_lt, s.chunkId_headerAt hi, s.totalChunks_headerAt]
    exact hi

/-- **A datagram of the frame is what arrives of it**, for its own request id;
for any other id nothing does. -/
theorem arrival_datagram {i : ℕ} (hi : i < s.datagrams.length) (r : UInt64) :
    arrival r s.datagrams[i] = if s.requestId = r then some (s.arrivalAt i) else none := by
  have hi' : i < s.total := s.length_datagrams ▸ hi
  have hlen : (s.headerAt i).payloadLen.toNat = (s.chunk i).length := by
    have hle := s.length_chunk_le hi'
    rw [U16_MAX] at hle
    exact UInt16.toNat_ofNat_of_lt' (show (s.chunk i).length < 2 ^ 16 by omega)
  have hd := UdpChunkHeader.decode_encode_append (s.valid_headerAt hi') hlen
  rw [s.getElem_datagrams hi, arrival, hd, payloadOf_encode_append]
  rfl

/-- Decoding datagram `i` gives header `i`. -/
theorem decode_datagram {i : ℕ} (hi : i < s.datagrams.length) :
    UdpChunkHeader.decode s.datagrams[i] = .ok (s.headerAt i) := by
  have h := s.arrival_datagram hi s.requestId
  rw [if_pos rfl] at h
  exact (arrival_eq_some_iff.1 h).1

/-- Behind the header of datagram `i` stands chunk `i`. -/
theorem payloadOf_datagram {i : ℕ} (hi : i < s.datagrams.length) :
    payloadOf s.datagrams[i] = s.chunk i := by
  rw [s.getElem_datagrams hi, payloadOf_encode_append]

/-- The only datagram of a frame is taken apart at once. -/
theorem decode_single (h1 : s.total = 1) {i : ℕ} (hi : i < s.datagrams.length) :
    decodeUdpSingleChunkRef crc s.datagrams[i] = .ok (some s.frame) := by
  have hi0 : i = 0 := by
    rw [s.length_datagrams, h1] at hi
    exact Nat.lt_one_iff.1 hi
  subst hi0
  have hone : (s.headerAt 0).totalChunks = 1 :=
    UInt16.toNat_inj.1 ((s.totalChunks_headerAt 0).trans h1)
  have hchunk : s.chunk 0 = s.frame := by
    have hflat := s.flatten_chunk
    rw [h1] at hflat
    simpa using hflat
  have hpos : 0 < s.total := s.total_pos
  have hprev := s.prevChecksum_headerAt hpos
  have hnext := s.nextChecksum_headerAt hpos
  rw [h1] at hprev hnext
  have hprev : (s.headerAt 0).prevChecksum = crc.hash s.frame := hprev.trans (by rw [← hchunk]; rfl)
  have hnext : (s.headerAt 0).nextChecksum = crc.hash s.frame := hnext.trans (by rw [← hchunk]; rfl)
  obtain ⟨p, hd⟩ := s.decodeFrame_frame
  have htype : s.frameHeader.frameType = (s.headerAt 0).frameType := rfl
  have hid : s.frameHeader.requestId = (s.headerAt 0).requestId := rfl
  rw [decodeUdpSingleChunkRef, s.decode_datagram hi]
  simp only [s.payloadOf_datagram hi, hchunk, hone, hprev, hnext, hd, htype, hid, ne_eq,
    not_true_eq_false, or_self, if_false]

/-- A datagram that is one of several is not. -/
theorem decode_chunk (h1 : s.total ≠ 1) {i : ℕ} (hi : i < s.datagrams.length) :
    decodeUdpSingleChunkRef crc s.datagrams[i] = .ok none := by
  have hne : (s.headerAt i).totalChunks ≠ 1 := by
    intro h
    exact h1 ((s.totalChunks_headerAt i).symm.trans (congrArg UInt16.toNat h))
  rw [decodeUdpSingleChunkRef, s.decode_datagram hi]
  exact if_pos hne

/-- The slot of chunk `i`. -/
def slot (i : ℕ) : ChunkSlot := (s.arrivalAt i).slot

/-- **The encoder's checksums close the ring**: each header states the
checksums of the chunks before and after its own. -/
theorem ringOk : RingOk crc s.total s.slot := fun _ hi =>
  ⟨(s.prevChecksum_headerAt hi).symm, (s.nextChecksum_headerAt hi).symm⟩

/-- A chunk can only fill its own slot. -/
theorem fillsSlot_arrivalAt {j : ℕ} (hj : j < s.total) (k i : ℕ) :
    fillsSlot (s.headerAt k) i (s.arrivalAt j) = decide (j = i) := by
  simp only [fillsSlot, arrivalAt, s.sameFrame_headerAt, decide_true, Bool.true_and,
    s.chunkId_headerAt hj]
  rfl

end Sent

/-! ### The slots of a group -/

/-- A slot is filled as soon as some arrival fills it. -/
theorem latest_isSome_iff {h₀ : UdpChunkHeader} {arrivals : List Arrival} {i : ℕ} :
    (latest h₀ arrivals i).isSome ↔ ∃ x ∈ arrivals, fillsSlot h₀ i x := by
  simp [latest, List.find?_isSome]

/-- A slot holds one of the arrivals that fill it. -/
theorem exists_of_latest {h₀ : UdpChunkHeader} {arrivals : List Arrival} {i : ℕ} {s : ChunkSlot}
    (h : latest h₀ arrivals i = some s) : ∃ x ∈ arrivals, fillsSlot h₀ i x ∧ x.slot = s := by
  obtain ⟨x, hx, rfl⟩ := Option.map_eq_some_iff.1 h
  exact ⟨x, List.mem_reverse.1 (List.mem_of_find?_eq_some hx), List.find?_some hx, rfl⟩

/-- Slot `i` of the group made by some arrivals holds the last of them that
fills it. -/
theorem slotAt_groupFrom {h₀ : UdpChunkHeader} {arrivals : List Arrival} {i : ℕ}
    (hi : i < h₀.totalChunks.toNat) : (groupFrom h₀ arrivals).slotAt i = latest h₀ arrivals i := by
  simp [ChunkGroup.slotAt, groupFrom, List.getElem?_range hi]

/-- **When a group is complete**: for each announced chunk, one of the
arrivals fills its slot. -/
theorem isComplete_groupFrom_iff {h₀ : UdpChunkHeader} {arrivals : List Arrival} :
    (groupFrom h₀ arrivals).isComplete = true ↔
      ∀ i < h₀.totalChunks.toNat, ∃ x ∈ arrivals, fillsSlot h₀ i x := by
  have hlen : (groupFrom h₀ arrivals).chunks.length = h₀.totalChunks.toNat := by simp [groupFrom]
  rw [isComplete_iff, hlen]
  refine forall₂_congr fun i hi => ?_
  rw [slotAt_groupFrom hi, latest_isSome_iff]

/-- The chunks of a group all of whose slots are known. -/
theorem chunks_groupFrom {h₀ : UdpChunkHeader} {arrivals : List Arrival} {slots : ℕ → ChunkSlot}
    (h : ∀ i < h₀.totalChunks.toNat, latest h₀ arrivals i = some (slots i)) :
    (groupFrom h₀ arrivals).chunks =
      (List.range h₀.totalChunks.toNat).map fun i => some (slots i) :=
  List.map_congr_left fun i hi => h i (List.mem_range.1 hi)

/-- **What a delivering group holds**: a slot for each announced chunk,
checksums that close the ring, and, put together and cut off at `frame_len`, a
frame with the type and the request id of the group. -/
theorem groupFrom_delivers {h : UdpChunkHeader} {arrivals : List Arrival} {crc : Crc32} {f : Bytes}
    (hf : (groupFrom h arrivals).finish crc = .ok (some f)) :
    ∃ slots : ℕ → ChunkSlot,
      (∀ i < h.totalChunks.toNat, latest h arrivals i = some (slots i)) ∧
      RingOk crc h.totalChunks.toNat slots ∧
      f = ((List.range h.totalChunks.toNat).map fun i => (slots i).payload).flatten.take
        h.frameLen.toNat ∧
      ∃ fh p, decodeFrame f = .ok (fh, p) ∧ fh.frameType = h.frameType ∧
        fh.requestId = h.requestId := by
  have hlen : (groupFrom h arrivals).chunks.length = h.totalChunks.toNat := by simp [groupFrom]
  obtain ⟨slots, hslots⟩ := exists_slots (isComplete_of_finish hf)
  rw [hlen] at hslots
  obtain ⟨hring, rfl, hdec⟩ := (finish_of_full hslots).1 hf
  refine ⟨slots, fun i hi => ?_, hring, assemble_of_full hslots, hdec⟩
  rw [← slotAt_groupFrom hi, slotAt_of_full hslots hi]

/-- **A group that was only sent chunks of one frame** delivers the frame once
it has them all, and nothing before. -/
theorem finish_of_genuine {crc : Crc32} (s : Sent crc) (k : ℕ) {arrivals : List Arrival}
    (hall : ∀ x ∈ arrivals, ∃ j < s.total, x = s.arrivalAt j) :
    ((∀ i < s.total, s.arrivalAt i ∈ arrivals) →
        (groupFrom (s.headerAt k) arrivals).finish crc = .ok (some s.frame)) ∧
      ((∃ i < s.total, s.arrivalAt i ∉ arrivals) →
        (groupFrom (s.headerAt k) arrivals).finish crc = .ok none) := by
  have htot := s.totalChunks_headerAt k
  have hfill : ∀ i < s.total, (∃ x ∈ arrivals, fillsSlot (s.headerAt k) i x) ↔
      s.arrivalAt i ∈ arrivals := by
    intro i hi
    constructor
    · rintro ⟨x, hx, hf⟩
      obtain ⟨j, hj, rfl⟩ := hall x hx
      rw [s.fillsSlot_arrivalAt hj, decide_eq_true_eq] at hf
      exact hf ▸ hx
    · intro hx
      exact ⟨_, hx, by rw [s.fillsSlot_arrivalAt hi]; exact decide_eq_true rfl⟩
  constructor
  · intro h
    have hslots : (groupFrom (s.headerAt k) arrivals).chunks =
        (List.range s.total).map fun i => some (s.slot i) := by
      rw [← htot]
      refine chunks_groupFrom fun i hi => ?_
      rw [htot] at hi
      obtain ⟨t, ht⟩ := Option.isSome_iff_exists.1
        (latest_isSome_iff.2 ((hfill i hi).2 (h i hi)))
      obtain ⟨x, hx, hf, rfl⟩ := exists_of_latest ht
      obtain ⟨j, hj, rfl⟩ := hall x hx
      rw [s.fillsSlot_arrivalAt hj, decide_eq_true_eq] at hf
      rw [ht, hf]
      rfl
    have hasm : (groupFrom (s.headerAt k) arrivals).assemble = s.frame := by
      have hlen : (groupFrom (s.headerAt k) arrivals).frameLen.toNat = s.frame.length :=
        s.frameLen_headerAt k
      rw [assemble_of_full hslots, hlen]
      exact (congrArg _ s.flatten_chunk).trans List.take_length
    obtain ⟨p, hd⟩ := s.decodeFrame_frame
    exact (finish_of_full hslots).2
      ⟨s.ringOk, hasm.symm, s.frameHeader, p, by rw [hasm, hd], rfl, rfl⟩
  · rintro ⟨i, hi, hmiss⟩
    refine finish_of_not_complete (Bool.not_eq_true _ ▸ fun hc => hmiss ?_)
    exact (hfill i hi).1 (isComplete_groupFrom_iff.1 hc i (htot ▸ hi))

/-! ### Families of frames -/

/-- A datagram of a family of frames: which frame, and which of its chunks. -/
structure Delivery {crc : Crc32} {ι : Type*} (family : ι → Sent crc) where
  frame : ι
  chunk : Fin (family frame).datagrams.length

/-- The bytes of a delivery. -/
def Delivery.datagram {crc : Crc32} {ι : Type*} {family : ι → Sent crc} (d : Delivery family) :
    Bytes := (family d.frame).datagrams[d.chunk]

section Family

variable {crc : Crc32} {ι : Type*} {family : ι → Sent crc}

/-- Two chunks of one frame are different arrivals, since their chunk ids
differ. -/
theorem Sent.arrivalAt_injective (s : Sent crc) {i j : ℕ} (hi : i < s.total) (hj : j < s.total)
    (h : s.arrivalAt i = s.arrivalAt j) : i = j := by
  have := congrArg (fun x : Arrival => x.1.chunkId.toNat) h
  simpa [Sent.arrivalAt, s.chunkId_headerAt hi, s.chunkId_headerAt hj] using this

/-- A delivery brings its chunk, for the request id of its frame only. -/
theorem Delivery.arrival_datagram (d : Delivery family) (r : UInt64) :
    arrival r d.datagram =
      if (family d.frame).requestId = r then some ((family d.frame).arrivalAt d.chunk) else none :=
  (family d.frame).arrival_datagram d.chunk.isLt r

/-- What a run of deliveries brings for a request id. -/
theorem mem_received_iff {ds : List (Delivery family)} {r : UInt64} {x : Arrival} :
    x ∈ received r (ds.map Delivery.datagram) ↔
      ∃ d ∈ ds, (family d.frame).requestId = r ∧ x = (family d.frame).arrivalAt d.chunk := by
  simp only [received, List.mem_filterMap, List.mem_map, exists_exists_and_eq_and,
    Delivery.arrival_datagram]
  refine exists_congr fun d => and_congr_right fun _ => ?_
  constructor
  · intro ha
    split_ifs at ha with hr
    exact ⟨hr, (Option.some.inj ha).symm⟩
  · rintro ⟨hr, rfl⟩
    exact if_pos hr

/-- The chunk of frame `i` with number `l` has arrived once it is delivered. -/
theorem arrivalAt_mem_received_iff (hid : Function.Injective fun i => (family i).requestId)
    {ds : List (Delivery family)} {i : ι} (l : Fin (family i).datagrams.length) :
    (family i).arrivalAt l ∈ received (family i).requestId (ds.map Delivery.datagram) ↔
      (⟨i, l⟩ : Delivery family) ∈ ds := by
  rw [mem_received_iff]
  constructor
  · rintro ⟨⟨k, l'⟩, hl', hk, he⟩
    obtain rfl : k = i := hid hk
    have hlt : ∀ m : Fin (family k).datagrams.length, (m : ℕ) < (family k).total := fun m =>
      (family k).length_datagrams ▸ m.isLt
    rwa [Fin.ext ((family k).arrivalAt_injective (hlt l) (hlt l') he)]
  · exact fun h => ⟨_, h, rfl, rfl⟩

/-- **The answer to a delivery** is the check of the group of its frame, given
every chunk delivered so far.  Frames of the family that share a request id have
to be of one description. -/
theorem insert_delivery
    (hfam : ∀ i i', (family i).requestId = (family i').requestId →
      SameFrame ((family i).headerAt 0) ((family i').headerAt 0))
    (now timeout : ℕ) (before : List (Delivery family)) (d : Delivery family) :
    (((UdpFrameReassembler.new now timeout).run crc
        (before.map Delivery.datagram)).insert crc d.datagram).2 =
      (groupFrom ((family d.frame).headerAt d.chunk)
        (received (family d.frame).requestId
          ((before ++ [d]).map Delivery.datagram))).finish crc := by
  have hdec : UdpChunkHeader.decode d.datagram = .ok ((family d.frame).headerAt d.chunk) :=
    (family d.frame).decode_datagram d.chunk.isLt
  have hx : ((family d.frame).headerAt d.chunk, payloadOf d.datagram) =
      (family d.frame).arrivalAt d.chunk :=
    congrArg (Prod.mk _) ((family d.frame).payloadOf_datagram d.chunk.isLt)
  have hrec : received (family d.frame).requestId ((before ++ [d]).map Delivery.datagram) =
      received (family d.frame).requestId (before.map Delivery.datagram) ++
        [(family d.frame).arrivalAt d.chunk] := by
    simp [received, Delivery.arrival_datagram]
  -- the group was opened by a chunk of such a frame, if not by this one
  have hopen : SameFrame (opening (received (family d.frame).requestId
      (before.map Delivery.datagram)) ((family d.frame).arrivalAt d.chunk))
        ((family d.frame).headerAt d.chunk) := by
    unfold opening
    cases hh : (received (family d.frame).requestId (before.map Delivery.datagram)).head? with
    | none => exact .refl _
    | some y =>
      obtain ⟨e, -, he, rfl⟩ := mem_received_iff.1 (List.mem_of_head? hh)
      exact hfam _ _ he
  have hins := insert_run crc now timeout (before.map Delivery.datagram) hdec
  dsimp only at hins
  rw [hx, Sent.requestId_headerAt, if_pos hopen, groupFrom_congr hopen] at hins
  rw [hins, hrec]

/-- What has arrived of a frame are chunks of it. -/
theorem exists_of_mem_received (hid : Function.Injective fun i => (family i).requestId)
    {ds : List (Delivery family)} {i : ι} {x : Arrival}
    (hx : x ∈ received (family i).requestId (ds.map Delivery.datagram)) :
    ∃ j < (family i).total, x = (family i).arrivalAt j := by
  obtain ⟨⟨k, l⟩, -, he, rfl⟩ := mem_received_iff.1 hx
  obtain rfl : k = i := hid he
  exact ⟨l, (family k).length_datagrams ▸ l.isLt, rfl⟩

/-- **The insert that completes a frame returns it.** Once every datagram of
the frame is among those delivered, this last one included, the frame comes
out, whatever else of the family came in between. -/
theorem insert_of_delivered (hid : Function.Injective fun i => (family i).requestId)
    (now timeout : ℕ) {before : List (Delivery family)} {d : Delivery family}
    (h : ∀ j, (⟨d.frame, j⟩ : Delivery family) ∈ before ++ [d]) :
    (((UdpFrameReassembler.new now timeout).run crc (before.map Delivery.datagram)).insert crc
      d.datagram).2 = .ok (some (family d.frame).frame) := by
  rw [insert_delivery (fun i i' he => by obtain rfl := hid he; exact .refl _) now timeout before d]
  refine (finish_of_genuine (family d.frame) d.chunk fun x hx =>
    exists_of_mem_received hid hx).1 fun l hl => ?_
  exact (arrivalAt_mem_received_iff hid ⟨l, (family d.frame).length_datagrams ▸ hl⟩).2 (h _)

/-- **Before that an insert returns nothing**: while one datagram of the frame
has not been delivered, the answer is `Ok(None)`. -/
theorem insert_of_missing (hid : Function.Injective fun i => (family i).requestId)
    (now timeout : ℕ) {before : List (Delivery family)} {d : Delivery family}
    (h : ∃ j, (⟨d.frame, j⟩ : Delivery family) ∉ before ++ [d]) :
    (((UdpFrameReassembler.new now timeout).run crc (before.map Delivery.datagram)).insert crc
      d.datagram).2 = .ok none := by
  obtain ⟨l, hl⟩ := h
  rw [insert_delivery (fun i i' he => by obtain rfl := hid he; exact .refl _) now timeout before d]
  refine (finish_of_genuine (family d.frame) d.chunk fun x hx =>
    exists_of_mem_received hid hx).2 ⟨l, (family d.frame).length_datagrams ▸ l.isLt, ?_⟩
  exact mt (arrivalAt_mem_received_iff hid l).1 hl

/-- **Reassembly is exact for any delivery order.**  The frames of a family
have different request ids; after any deliveries, in any order and with any
repetition, the insert of one more datagram gives the frame of that datagram if
all its chunks have been delivered by now, and nothing yet otherwise. -/
theorem reassembly_exact (family : ι → Sent crc)
    (hid : Function.Injective fun i => (family i).requestId) (now timeout : ℕ)
    (before : List (Delivery family)) (d : Delivery family) :
    ((∀ j, (⟨d.frame, j⟩ : Delivery family) ∈ before ++ [d]) →
      (((UdpFrameReassembler.new now timeout).run crc (before.map Delivery.datagram)).insert crc
        d.datagram).2 = .ok (some (family d.frame).frame)) ∧
    ((∃ j, (⟨d.frame, j⟩ : Delivery family) ∉ before ++ [d]) →
      (((UdpFrameReassembler.new now timeout).run crc (before.map Delivery.datagram)).insert crc
        d.datagram).2 = .ok none) :=
  ⟨insert_of_delivered hid now timeout, insert_of_missing hid now timeout⟩

end Family

/-! ### One frame at a fresh receiver -/

/-- The answers to a list of inserts. -/
def UdpFrameReassembler.answers (crc : Crc32) :
    UdpFrameReassembler → List Bytes → List (Except UdpChunkError (Option Bytes))
  | _, [] => []
  | r, d :: ds => (r.insert crc d).2 :: answers crc (r.insert crc d).1 ds

/-- **The datagrams of a frame, each once and in any order**: nothing until the
last of them, then the frame. -/
theorem Sent.answers_of_perm {crc : Crc32} (s : Sent crc) (now timeout : ℕ)
    {order : List (Fin s.datagrams.length)} (hperm : order.Perm (List.finRange _)) :
    (UdpFrameReassembler.new now timeout).answers crc (order.map s.datagrams.get) =
      List.replicate (order.length - 1) (.ok none) ++ [.ok (some s.frame)] := by
  let family : Unit → Sent crc := fun _ => s
  have hid : Function.Injective fun i => (family i).requestId := fun _ _ _ => rfl
  let deliver : Fin s.datagrams.length → Delivery family := fun j => ⟨(), j⟩
  have hdeliver : ∀ {js : List (Fin s.datagrams.length)} {j}, deliver j ∈ js.map deliver ↔ j ∈ js :=
    fun {js j} => List.mem_map_of_injective fun a b h => by cases h; rfl
  have hdatagram : ∀ js : List (Fin s.datagrams.length),
      (js.map deliver).map Delivery.datagram = js.map s.datagrams.get := fun js => List.map_map
  -- `before` has been inserted and `rest` is still to come
  have hrest : ∀ (rest before : List (Fin s.datagrams.length)), rest ≠ [] →
      (before ++ rest).Perm (List.finRange _) →
      ((UdpFrameReassembler.new now timeout).run crc (before.map s.datagrams.get)).answers crc
          (rest.map s.datagrams.get) =
        List.replicate (rest.length - 1) (.ok none) ++ [.ok (some s.frame)] := by
    intro rest
    induction rest with
    | nil => exact fun _ hne => absurd rfl hne
    | cons j rest ih =>
      intro before _ hp
      have hsnoc : ∀ i, deliver i ∈ before.map deliver ++ [deliver j] ↔ i ∈ before ++ [j] := by
        intro i
        rw [← List.map_singleton, ← List.map_append, hdeliver]
      rw [List.map_cons, UdpFrameReassembler.answers]
      cases rest with
      | nil =>
        have hin : ∀ i, deliver i ∈ before.map deliver ++ [deliver j] := fun i =>
          (hsnoc i).2 (hp.mem_iff.2 (List.mem_finRange i))
        have hall := insert_of_delivered hid now timeout (d := deliver j) hin
        rw [hdatagram] at hall
        exact congrArg (fun a => [a]) hall
      | cons i rest =>
        have hnodup := hp.symm.nodup (List.nodup_finRange _)
        have hi : i ∉ before ++ [j] := by
          rw [List.append_cons] at hnodup
          exact fun hmem => List.disjoint_of_nodup_append hnodup hmem List.mem_cons_self
        have hout : ∃ i, deliver i ∉ before.map deliver ++ [deliver j] :=
          ⟨i, fun hmem => hi ((hsnoc i).1 hmem)⟩
        have hmiss := insert_of_missing hid now timeout (d := deliver j) hout
        rw [hdatagram] at hmiss
        have hnext := ih (before ++ [j]) (List.cons_ne_nil _ _) (by rwa [← List.append_cons])
        rw [List.map_append, UdpFrameReassembler.run_append] at hnext
        exact congrArg₂ List.cons hmiss hnext
  have hne : order ≠ [] := by
    rintro rfl
    have hlen := hperm.length_eq
    rw [List.length_finRange, s.length_datagrams] at hlen
    exact absurd hlen.symm (Nat.pos_iff_ne_zero.1 s.total_pos)
  exact hrest order [] hne hperm

/-- A well-formed frame that is not too long for the capacity. -/
def Sent.ofFrame (crc : Crc32) {frame : Bytes} {h : FrameHeader} {p : Bytes}
    (hd : decodeFrame frame = .ok (h, p)) {maxPayload : ℕ} (hmin : UDP_MIN_PAYLOAD ≤ maxPayload)
    (hmax : maxPayload ≤ U16_MAX) (hlen : frame.length < 2 ^ 32)
    (hcount : divCeil frame.length maxPayload ≤ U16_MAX) : Sent crc where
  frame := frame
  maxPayload := maxPayload
  datagrams := chunkDatagrams crc h frame.length (chunks maxPayload frame)
  maxPayload_le := hmax
  encoded := encodeUdpChunks_eq_ok_iff.2 ⟨hmin, hlen, hcount, h, p, hd, rfl⟩

/-- A frame that fits in one datagram. -/
def Sent.single (crc : Crc32) {frame : Bytes} {h : FrameHeader} {p : Bytes}
    (hd : decodeFrame frame = .ok (h, p)) {maxPayload : ℕ} (hmin : UDP_MIN_PAYLOAD ≤ maxPayload)
    (hmax : maxPayload ≤ U16_MAX) (hlen : frame.length ≤ maxPayload) : Sent crc where
  frame := frame
  maxPayload := maxPayload
  datagrams :=
    [(singleHeader h.frameType h.requestId frame.length (crc.hash frame)).encode ++ frame]
  maxPayload_le := hmax
  encoded := encodeUdpChunks_of_length_le hd hmin hmax hlen

/-- The request id of a frame that fits one datagram is that of its header. -/
@[simp] theorem Sent.requestId_single (crc : Crc32) {frame : Bytes} {h : FrameHeader} {p : Bytes}
    (hd : decodeFrame frame = .ok (h, p)) {maxPayload : ℕ} (hmin : UDP_MIN_PAYLOAD ≤ maxPayload)
    (hmax : maxPayload ≤ U16_MAX) (hlen : frame.length ≤ maxPayload) :
    (Sent.single crc hd hmin hmax hlen).requestId = h.requestId :=
  congrArg FrameHeader.requestId ((Sent.single crc hd hmin hmax hlen).frameHeader_eq hd)

/-- A datagram of the least capacity is one that UDP can carry. -/
theorem udpMinPayload_le : UDP_MIN_PAYLOAD ≤ U16_MAX := by decide

/-- The empty query with a given request id. -/
def emptyQuery (requestId : UInt64) : Bytes :=
  encodeFrame (FrameHeader.new .queryRequest requestId 0) []

/-- The query without a payload is a frame, and has the request id it was
given. -/
theorem decodeFrame_emptyQuery (requestId : UInt64) :
    decodeFrame (emptyQuery requestId) = .ok (FrameHeader.new .queryRequest requestId 0, []) :=
  decodeFrame_encodeFrame (h := .new .queryRequest requestId 0) (p := []) rfl (by decide)

def Sent.emptyQuery (crc : Crc32) (requestId : UInt64) : Sent crc :=
  .single crc (decodeFrame_emptyQuery requestId) (le_refl UDP_MIN_PAYLOAD) udpMinPayload_le
    (by rw [Udp.emptyQuery, length_encodeFrame]; decide)

/-! ### Frames of two chunks -/

/-- A payload that does not fit in one chunk of the least capacity. -/
def zeros : Bytes := List.replicate 300 0

/-- The payload has 300 bytes, more than fit one datagram of the least
capacity. -/
theorem length_zeros : zeros.length = 300 := List.length_replicate

/-- A frame of 318 bytes. -/
def longFrame (t : FrameType) (requestId : UInt64) : Bytes := encodeFrame (.new t requestId 0) zeros

section TwoChunks

variable (t : FrameType) (requestId : UInt64)

/-- The long frame is a frame, whatever its type and request id. -/
theorem decodeFrame_longFrame : decodeFrame (longFrame t requestId) =
    .ok (.new t requestId (UInt32.ofNat zeros.length), zeros) :=
  decodeFrame_encodeFrame (h := .new t requestId 0) rfl (by rw [length_zeros]; decide)

/-- The long frame has 18 bytes of header and 300 of payload. -/
theorem length_longFrame : (longFrame t requestId).length = 318 := by
  rw [longFrame, length_encodeFrame, length_zeros]
  rfl

/-- It is cut into two chunks. -/
def twoChunks : Sent Crc32.ieee :=
  .ofFrame _ (decodeFrame_longFrame t requestId) (le_refl UDP_MIN_PAYLOAD) udpMinPayload_le
    (by rw [length_longFrame]; decide) (by rw [length_longFrame]; decide)

/-- Cut for the least capacity of 256 bytes, the long frame has two chunks. -/
theorem total_twoChunks : (twoChunks t requestId).total = 2 := by
  have hframe : (twoChunks t requestId).frame = longFrame t requestId := rfl
  have hmax : (twoChunks t requestId).maxPayload = UDP_MIN_PAYLOAD := rfl
  rw [Sent.total, Chunks.length_chunks, hframe, hmax, length_longFrame]
  decide

/-- It is sent as two datagrams. -/
theorem length_twoChunks : (twoChunks t requestId).datagrams.length = 2 :=
  (twoChunks t requestId).length_datagrams.trans (total_twoChunks t requestId)

/-- The header of the long frame, as it was sent. -/
theorem frameHeader_twoChunks : (twoChunks t requestId).frameHeader =
    .new t requestId (UInt32.ofNat zeros.length) :=
  (twoChunks t requestId).frameHeader_eq (decodeFrame_longFrame t requestId)

/-- The long frame keeps the request id it was given. -/
theorem requestId_twoChunks : (twoChunks t requestId).requestId = requestId :=
  congrArg FrameHeader.requestId (frameHeader_twoChunks t requestId)

end TwoChunks

/-- Frames of two chunks, with these request ids. -/
def twoChunkFamily {ι : Type*} (t : FrameType) (ids : ι → UInt64) (i : ι) : Sent Crc32.ieee :=
  twoChunks t (ids i)

section Family

variable {ι : Type*} (t : FrameType) (ids : ι → UInt64)

/-- The delivery of a chunk of one of them. -/
def chunkOf (i : ι) (j : Fin 2) : Delivery (twoChunkFamily t ids) :=
  ⟨i, Fin.cast (length_twoChunks t (ids i)).symm j⟩

/-- Long frames with different request ids make a family as `reassembly_exact`
asks for. -/
theorem requestId_twoChunkFamily (h : Function.Injective ids) :
    Function.Injective fun i => (twoChunkFamily t ids i).requestId := by
  simpa only [twoChunkFamily, requestId_twoChunks] using h

variable {t ids}

/-- There are no other deliveries. -/
theorem eq_chunkOf (d : Delivery (twoChunkFamily t ids)) :
    d = chunkOf t ids d.frame 0 ∨ d = chunkOf t ids d.frame 1 := by
  obtain ⟨i, j⟩ := d
  have hlen : (twoChunkFamily t ids i).datagrams.length = 2 := length_twoChunks t (ids i)
  have hval : ∀ k : Fin 2, (j : ℕ) = k → (⟨i, j⟩ : Delivery (twoChunkFamily t ids)) =
      chunkOf t ids i k := fun k hk => congrArg (Delivery.mk i) (Fin.ext hk)
  have hj : (j : ℕ) < 2 := hlen ▸ j.isLt
  exact (Nat.lt_succ_iff_lt_or_eq.1 hj).imp (fun h => hval 0 (Nat.lt_one_iff.1 h)) (hval 1)

end Family

/-- The second chunk of a frame arrives twice, with one of another frame in between; then the
first. -/
theorem reassembly_exact_twoChunks :
    let ids : Bool → UInt64 := fun b => if b then 7 else 8
    let chunk := chunkOf .heartbeat ids
    (((UdpFrameReassembler.new 0 0).run Crc32.ieee
      ([chunk true 1, chunk false 0, chunk true 1].map Delivery.datagram)).insert Crc32.ieee
        (chunk true 0).datagram).2 = .ok (some (longFrame .heartbeat 7)) := by
  intro ids chunk
  have hid : Function.Injective ids := by
    rw [Bool.injective_iff]
    decide
  refine (reassembly_exact _ (requestId_twoChunkFamily .heartbeat ids hid) 0 0 _
    (chunk true 0)).1 fun j => ?_
  rcases eq_chunkOf (⟨true, j⟩ : Delivery (twoChunkFamily .heartbeat ids)) with h | h
  · exact h ▸ List.mem_append_right _ (List.mem_singleton_self _)
  · exact h ▸ List.mem_append_left _ List.mem_cons_self

end Udp
end Clustat
