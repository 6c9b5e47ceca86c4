/-
# The numbers in the headers of a frame's chunks

`encode_udp_chunks` of `crates/common/src/udp.rs` writes the length of the frame, the number
of chunks, the number of the chunk and the length of its payload into fields of 32 and 16
bits.  It checks the first two before it casts them, the third is below the second, and the
fourth is at most `max_payload`, which nothing bounds: the headers are right as long as one
of `max_payload` and the frame is at most 65535 bytes long (`exactFields_iff`).
-/

import Clustat.Udp.Delivery
import Clustat.Udp.SingleChunk

namespace Clustat
namespace Udp

open Chunks

/-- Every datagram is accepted, and its header has the number of the chunk, the number of
chunks and the lengths of its payload and of the frame; the payloads in order are the
frame. -/
def ExactFields (frame : Bytes) (datagrams : List Bytes) : Prop :=
  (∀ i (hi : i < datagrams.length), ∃ h, UdpChunkHeader.decode datagrams[i] = .ok h ∧
    h.chunkId.toNat = i ∧ h.totalChunks.toNat = datagrams.length ∧
    h.payloadLen.toNat = (payloadOf datagrams[i]).length ∧ h.frameLen.toNat = frame.length) ∧
  (datagrams.map payloadOf).flatten = frame

variable {crc : Crc32} {frame : Bytes} {h : FrameHeader} {p : Bytes} {maxPayload : ℕ}

/-- As long as no chunk is too long for its length field. -/
theorem Sent.exactFields (s : Sent crc) : ExactFields s.frame s.datagrams := by
  refine ⟨fun i hi => ?_, ?_⟩
  · have hi' : i < s.total := s.length_datagrams ▸ hi
    refine ⟨_, s.decode_datagram hi, s.chunkId_headerAt hi', ?_, ?_, s.frameLen_headerAt i⟩
    · rw [s.totalChunks_headerAt, s.length_datagrams]
    · exact (length_payloadOf (s.decode_datagram hi)).symm
  · have hmap : s.datagrams.map payloadOf = (List.range s.total).map s.chunk := by
      refine List.ext_getElem (by simp [s.length_datagrams]) fun i hi _ => ?_
      rw [List.getElem_map, List.getElem_map, List.getElem_range, s.payloadOf_datagram]
    rw [hmap, s.flatten_chunk]

/-- A frame in one datagram. -/
theorem exactFields_single (hlen : frame.length ≤ U16_MAX) (h32 : frame.length < 2 ^ 32)
    (frameType : FrameType) (requestId : UInt64) (checksum : UInt32) :
    ExactFields frame
      [(singleHeader frameType requestId frame.length checksum).encode ++ frame] := by
  refine ⟨fun i hi => ?_, ?_⟩
  · obtain rfl : i = 0 := Nat.lt_one_iff.1 hi
    have hd := decode_singleHeader hlen frameType requestId checksum
    exact ⟨_, hd, rfl, rfl, (length_payloadOf hd).symm, UInt32.toNat_ofNat_of_lt' h32⟩
  · rw [List.map_singleton, payloadOf_encode_append, List.flatten_singleton]

/-- A chunk that is too long for its length field: no header has its length. -/
theorem not_exactFields (hd : decodeFrame frame = .ok (h, p)) (h32 : frame.length < 2 ^ 32)
    (hmax : U16_MAX < maxPayload) (hlen : U16_MAX < frame.length)
    (hcount : frame.length ≤ U16_MAX * maxPayload) :
    ∃ datagrams, encodeUdpChunks crc frame maxPayload = .ok datagrams ∧
      ¬ExactFields frame datagrams := by
  have hmin : UDP_MIN_PAYLOAD ≤ maxPayload := le_trans (by decide) hmax.le
  have hpos : 0 < maxPayload := lt_of_le_of_lt (Nat.zero_le _) hmax
  refine ⟨_, encodeUdpChunks_eq_ok_iff.2 ⟨hmin, h32, (divCeil_le_iff hpos).2 hcount, h, p, hd,
    rfl⟩, ?_⟩
  rintro ⟨hfields, -⟩
  have hchunks : 0 < (chunks maxPayload frame).length := by
    rw [length_chunks]
    exact divCeil_pos hpos (lt_of_le_of_lt (Nat.zero_le _) hlen)
  have hfirst : 0 < (chunkDatagrams crc h frame.length (chunks maxPayload frame)).length := by
    rwa [chunkDatagrams, List.length_mapIdx]
  obtain ⟨h0, -, -, -, hpayload, -⟩ := hfields 0 hfirst
  have hsize : (payloadOf (chunkDatagrams crc h frame.length (chunks maxPayload frame))[0]).length =
      min maxPayload frame.length := by
    simp [chunkDatagrams, List.getElem_mapIdx, payloadOf_encode_append, getElem_chunks]
  have hu16 := h0.payloadLen.toNat_lt
  rw [U16_MAX] at hmax hlen
  omega

/-- **When the chunk encoder truncates no field.**  For a frame whose length fits in 32 bits,
whatever `encode_udp_chunks` returns has the right numbers in its headers exactly when one of
`max_payload` and the frame is at most 65535 bytes long, or the frame would need more than
65535 chunks and is refused. -/
theorem exactFields_iff (crc : Crc32) (hd : decodeFrame frame = .ok (h, p))
    (h32 : frame.length < 2 ^ 32) (maxPayload : ℕ) :
    (∀ datagrams, encodeUdpChunks crc frame maxPayload = .ok datagrams →
      ExactFields frame datagrams) ↔
      maxPayload ≤ U16_MAX ∨ frame.length ≤ U16_MAX ∨ U16_MAX * maxPayload < frame.length := by
  constructor
  · intro hall
    by_contra hnot
    rw [not_or, not_or, Nat.not_le, Nat.not_le, Nat.not_lt] at hnot
    obtain ⟨hmax, hlen, hcount⟩ := hnot
    obtain ⟨datagrams, hok, hexact⟩ := @not_exactFields crc _ h p _ hd h32 hmax hlen hcount
    exact hexact (hall datagrams hok)
  · intro hcond datagrams hok
    rcases Nat.lt_or_ge U16_MAX maxPayload with hmax | hmax
    · obtain ⟨hmin, -, hcount, -⟩ := encodeUdpChunks_eq_ok_iff.1 hok
      have hpos : 0 < maxPayload := lt_of_lt_of_le (by decide) hmin
      rcases hcond with hle | hlen | hmany
      · exact absurd hmax (Nat.not_lt.2 hle)
      · -- a short frame is one chunk, whatever the capacity
        rw [encodeUdpChunks_of_fits hd hmin h32 (hlen.trans hmax.le)] at hok
        obtain rfl := Except.ok.inj hok
        exact exactFields_single hlen h32 _ _ _
      · exact absurd ((divCeil_le_iff hpos).1 hcount) (Nat.not_le.2 hmany)
    · exact Sent.exactFields { frame, maxPayload, datagrams, maxPayload_le := hmax, encoded := hok }

/-- A heartbeat with so many bytes. -/
def heartbeat (len : ℕ) : Bytes := encodeFrame (.new .heartbeat 7 0) (List.replicate len 0)

/-- The length of a heartbeat frame with `len` bytes of payload. -/
theorem length_heartbeat (len : ℕ) : (heartbeat len).length = FRAME_HEADER_LEN + len := by
  rw [heartbeat, length_encodeFrame, List.length_replicate]

/-- A heartbeat frame is one that `decode_frame` accepts, as long as its
payload length fits 32 bits. -/
theorem decodeFrame_heartbeat {len : ℕ} (h : len < 2 ^ 32) :
    ∃ header p, decodeFrame (heartbeat len) = .ok (header, p) :=
  ⟨_, _, decodeFrame_encodeFrame (h := .new .heartbeat 7 0) rfl (by rwa [List.length_replicate])⟩

/-- A frame of 65554 bytes: right for a capacity of 65535, and not for one more. -/
theorem exactFields_heartbeat :
    (∀ datagrams, encodeUdpChunks Crc32.ieee (heartbeat 65536) 65535 = .ok datagrams →
      ExactFields (heartbeat 65536) datagrams) ∧
    ¬∀ datagrams, encodeUdpChunks Crc32.ieee (heartbeat 65536) 65536 = .ok datagrams →
      ExactFields (heartbeat 65536) datagrams := by
  obtain ⟨header, p, hd⟩ := decodeFrame_heartbeat (show 65536 < 2 ^ 32 by decide)
  have hlen : (heartbeat 65536).length = 65554 := length_heartbeat 65536
  have h32 : (heartbeat 65536).length < 2 ^ 32 := hlen ▸ by decide
  refine ⟨(exactFields_iff Crc32.ieee hd h32 65535).2 (.inl le_rfl), fun hall => ?_⟩
  have hcond := (exactFields_iff Crc32.ieee hd h32 65536).1 hall
  rw [hlen] at hcond
  exact absurd hcond (by decide)

/-- **A length that is truncated**: for a frame of 65554 bytes and a capacity of 65536. -/
theorem payloadLen_truncated : ¬∀ (frame : Bytes) (header : FrameHeader) (p : Bytes)
    (maxPayload : ℕ) (datagrams : List Bytes), decodeFrame frame = .ok (header, p) →
      frame.length < 2 ^ 32 → encodeUdpChunks Crc32.ieee frame maxPayload = .ok datagrams →
        ExactFields frame datagrams := by
  intro hall
  obtain ⟨header, p, hd⟩ := decodeFrame_heartbeat (show 65536 < 2 ^ 32 by decide)
  have hlen : (heartbeat 65536).length = 65554 := length_heartbeat 65536
  have h32 : (heartbeat 65536).length < 2 ^ 32 := hlen ▸ by decide
  obtain ⟨datagrams, hok, hexact⟩ := @not_exactFields Crc32.ieee _ header p 65536 hd h32
    (by decide) (hlen ▸ by decide) (hlen ▸ by decide)
  exact hexact (hall _ header p 65536 datagrams hd h32 hok)

end Udp
end Clustat
