/-
# A frame in one datagram

`crates/common/src/udp.rs` can make the datagram of a short frame in three ways and take it
apart in two.  The three encoders write the same bytes (`encoders_agree`).  The two decoders
make the same checks in the same order, but the reassembler cuts the frame off where the
header says it ends, and `decode_udp_single_chunk_ref` does not look at that field: they
differ when the header announces fewer bytes than the datagram has (`decoders_agree_iff`).
-/

import Clustat.Udp.Reassembler

namespace Clustat
namespace Udp

variable {crc : Crc32}

/-! ### Three encoders -/

/-- The header of an only chunk is valid: chunk 0 of 1. -/
theorem singleHeader_valid (frameType : FrameType) (requestId : UInt64) (frameLen : ℕ)
    (checksum : UInt32) : (singleHeader frameType requestId frameLen checksum).Valid where
  version := rfl
  total_pos := show (1 : UInt16) ≠ 0 by decide
  chunk_lt := show (0 : UInt16) < 1 by decide

/-- The header of a frame in one datagram is read back. -/
theorem decode_singleHeader {frame : Bytes} (hlen : frame.length ≤ U16_MAX)
    (frameType : FrameType) (requestId : UInt64) (checksum : UInt32) :
    UdpChunkHeader.decode
        ((singleHeader frameType requestId frame.length checksum).encode ++ frame) =
      .ok (singleHeader frameType requestId frame.length checksum) := by
  refine UdpChunkHeader.decode_encode_append (singleHeader_valid ..) ?_
  exact UInt16.toNat_ofNat_of_lt' (Nat.lt_succ_of_le hlen)

/-- A frame is taken out of its datagram. -/
theorem decodeUdpSingleChunkRef_single {frame : Bytes} {h : FrameHeader} {p : Bytes}
    (hd : decodeFrame frame = .ok (h, p)) (hlen : frame.length ≤ U16_MAX) :
    decodeUdpSingleChunkRef crc
        ((singleHeader h.frameType h.requestId frame.length (crc.hash frame)).encode ++ frame) =
      .ok (some frame) := by
  rw [decodeUdpSingleChunkRef, decode_singleHeader hlen]
  simp [singleHeader, hd]

/-- The frame of a header and a payload depends on the payload length of neither. -/
theorem encodeFrame_new {h : FrameHeader} (hv : h.version = PROTOCOL_VERSION) (p : Bytes) :
    encodeFrame (FrameHeader.new h.frameType h.requestId 0) p = encodeFrame h p := by
  rw [encodeFrame, encodeFrame, FrameHeader.new, ← hv]

/-- **The three encoders agree.**  For a frame of at most 65535 bytes all of them make the
same datagram, and the frame is what is taken out of it; for a longer one both encoders of a
single datagram fail. -/
theorem encoders_agree (crc : Crc32) (h : FrameHeader) (hv : h.version = PROTOCOL_VERSION)
    (p : Bytes) :
    let frame := encodeFrame h p
    (FRAME_HEADER_LEN + p.length ≤ U16_MAX → ∃ datagram,
      encodeUdpSingleChunkFromParts crc h.frameType h.requestId p = .ok datagram ∧
      encodeUdpSingleChunk crc frame = .ok datagram ∧
      (∀ m, UDP_MIN_PAYLOAD ≤ m → frame.length ≤ m →
        encodeUdpChunks crc frame m = .ok [datagram]) ∧
      decodeUdpSingleChunk crc datagram = .ok (some frame)) ∧
    (U16_MAX < FRAME_HEADER_LEN + p.length →
      (∃ e, encodeUdpSingleChunkFromParts crc h.frameType h.requestId p = .error e) ∧
      ∃ e, encodeUdpSingleChunk crc frame = .error e) := by
  intro frame
  have hsize : frame.length = FRAME_HEADER_LEN + p.length := length_encodeFrame h p
  refine ⟨fun hlen => ?_, fun hlong => ?_⟩
  · have h32 : frame.length < 2 ^ 32 := hsize ▸ lt_of_le_of_lt hlen (by decide)
    have hdec := decodeFrame_encodeFrame hv
      (show p.length < 2 ^ 32 from lt_of_le_of_lt (Nat.le_add_left _ _) (hsize ▸ h32))
    have hencode : encodeUdpSingleChunk crc frame = .ok _ :=
      encodeUdpSingleChunk_of_decodeFrame hdec (hsize.trans_le hlen)
    refine ⟨_, ?_, hencode, fun m hmin hm => encodeUdpChunks_of_fits hdec hmin h32 hm, ?_⟩
    · rw [encodeUdpSingleChunkFromParts_eq hlen, encodeFrame_new hv]
      exact hencode
    · rw [decodeUdpSingleChunk, decodeUdpSingleChunkRef_single hdec (hsize.trans_le hlen)]
  · exact ⟨encodeUdpSingleChunkFromParts_of_long hlong _ _,
      _, encodeUdpSingleChunk_of_long (hsize ▸ hlong)⟩

/-- An empty query, and a payload of 65536 bytes. -/
theorem encoders_agree_emptyQuery :
    let h := FrameHeader.new .queryRequest 7 0
    let long : Bytes := List.replicate 65536 0
    (∃ datagram,
      encodeUdpSingleChunkFromParts Crc32.ieee .queryRequest 7 [] = .ok datagram ∧
      encodeUdpSingleChunk Crc32.ieee (encodeFrame h []) = .ok datagram ∧
      (∀ m, UDP_MIN_PAYLOAD ≤ m → (encodeFrame h []).length ≤ m →
        encodeUdpChunks Crc32.ieee (encodeFrame h []) m = .ok [datagram]) ∧
      decodeUdpSingleChunk Crc32.ieee datagram = .ok (some (encodeFrame h []))) ∧
    (∃ e, encodeUdpSingleChunkFromParts Crc32.ieee .queryRequest 7 long = .error e) ∧
      ∃ e, encodeUdpSingleChunk Crc32.ieee (encodeFrame h long) = .error e := by
  intro h long
  have hlong : U16_MAX < FRAME_HEADER_LEN + long.length := by
    rw [List.length_replicate]
    decide
  exact ⟨(encoders_agree Crc32.ieee h rfl []).1 (by decide),
    (encoders_agree Crc32.ieee h rfl long).2 hlong⟩

/-! ### Two decoders -/

/-- What both decoders do with a frame whose checksums are right. -/
def checkFrame (h : UdpChunkHeader) (frame : Bytes) : Except UdpChunkError (Option Bytes) :=
  match decodeFrame frame with
  | .error e => .error (.frame e)
  | .ok (decoded, _) =>
    if decoded.frameType ≠ h.frameType ∨ decoded.requestId ≠ h.requestId then
      .error .metadataMismatch
    else .ok (some frame)

/-- One of the checksums is not that of the payload. -/
def ChecksumsDiffer (crc : Crc32) (h : UdpChunkHeader) (payload : Bytes) : Prop :=
  h.prevChecksum ≠ crc.hash payload ∨ h.nextChecksum ≠ crc.hash payload

instance (crc : Crc32) (h : UdpChunkHeader) (payload : Bytes) :
    Decidable (ChecksumsDiffer crc h payload) := inferInstanceAs (Decidable (_ ∨ _))

section Decoders

variable {d : Bytes} {h : UdpChunkHeader}

/-- The fast path. -/
theorem decodeUdpSingleChunkRef_eq (hd : UdpChunkHeader.decode d = .ok h)
    (h1 : h.totalChunks = 1) :
    decodeUdpSingleChunkRef crc d =
      if ChecksumsDiffer crc h (payloadOf d) then .error .checksumMismatch
      else checkFrame h (payloadOf d) := by
  rw [decodeUdpSingleChunkRef, hd]
  dsimp only
  rw [if_neg (not_not.2 h1)]
  rfl

/-- The decoder that copies the frame and the one that borrows it give the
same result. -/
theorem decodeUdpSingleChunk_eq (crc : Crc32) (d : Bytes) :
    decodeUdpSingleChunk crc d = decodeUdpSingleChunkRef crc d := by
  unfold decodeUdpSingleChunk
  rcases decodeUdpSingleChunkRef crc d with e | _ | frame <;> rfl

/-- The reassembler, which cuts the frame off. -/
theorem insert_new_eq (hd : UdpChunkHeader.decode d = .ok h) (h1 : h.totalChunks = 1)
    (now timeout : ℕ) :
    ((UdpFrameReassembler.new now timeout).insert crc d).2 =
      if ChecksumsDiffer crc h (payloadOf d) then .error .checksumMismatch
      else checkFrame h ((payloadOf d).take h.frameLen.toNat) := by
  have hchunk : h.chunkId = 0 := by
    have hlt := (UdpChunkHeader.encode_of_decode hd).1.chunk_lt
    rw [h1] at hlt
    exact UInt16.lt_one_iff.1 hlt
  let slot : ChunkSlot := ⟨payloadOf d, h.prevChecksum, h.nextChecksum⟩
  let g : ChunkGroup :=
    { frameType := h.frameType, requestId := h.requestId, frameLen := h.frameLen,
      totalChunks := h.totalChunks, chunks := [some slot] }
  have hstore : (ChunkGroup.new h).store h (payloadOf d) = g := by
    simp [ChunkGroup.store, ChunkGroup.new, h1, hchunk, g, slot]
  have hinsert : ((UdpFrameReassembler.new now timeout).insert crc d).2 = g.finish crc := by
    rw [UdpFrameReassembler.insert, hd, ← hstore]
    exact congrArg Prod.snd (if_pos ⟨rfl, rfl, rfl, rfl⟩)
  have hverify : g.verifyAll crc =
      if ChecksumsDiffer crc h (payloadOf d) then .error .checksumMismatch else .ok () := by
    -- the only chunk is its own neighbour on either side
    have hmatch : g.neighboursMatch crc 0 =
        (crc.hash (payloadOf d) == h.prevChecksum && crc.hash (payloadOf d) == h.nextChecksum) :=
      rfl
    have hdiffer : g.neighboursMatch crc 0 = true ↔ ¬ChecksumsDiffer crc h (payloadOf d) := by
      rw [hmatch, Bool.and_eq_true, beq_iff_eq, beq_iff_eq, ChecksumsDiffer, not_or, not_not,
        not_not]
      exact and_congr eq_comm eq_comm
    have hrange : List.range g.chunks.length = [0] := rfl
    rw [ChunkGroup.verifyAll, hrange, List.all_cons, List.all_nil, Bool.and_true]
    simp only [hdiffer, ite_not]
  have hassemble : g.assemble = (payloadOf d).take h.frameLen.toNat := by
    simp [ChunkGroup.assemble, g, slot]
  have hcomplete : g.isComplete = true := rfl
  rw [hinsert, ChunkGroup.finish, hcomplete, hverify, hassemble]
  split_ifs with hnot
  · cases hnot
  · cases hnot
  · rfl
  · rfl

/-- The header of a frame is that of the frame cut off after it. -/
theorem frameHeader_take {frame : Bytes} {n : ℕ} (hn : FRAME_HEADER_LEN ≤ n)
    (hlen : n < frame.length) : FrameHeader.decode (frame.take n) = FrameHeader.decode frame := by
  conv_rhs => rw [← List.take_append_drop n frame]
  refine (FrameHeader.decode_append ?_ _).symm
  rw [List.length_take]
  omega

/-- A frame that is too short for its header. -/
theorem checkFrame_of_short {frame : Bytes} (hlen : frame.length < FRAME_HEADER_LEN) :
    checkFrame h frame = .error (.frame (.shortHeader frame.length FRAME_HEADER_LEN)) := by
  rw [checkFrame, decodeFrame, FrameHeader.decode, if_pos hlen]
  rfl

/-- A frame whose header is not accepted. -/
theorem checkFrame_of_error {frame : Bytes} {e : FrameHeaderError}
    (hd : FrameHeader.decode frame = .error e) :
    checkFrame h frame = .error (.frame (.ofHeaderError e)) := by
  rw [checkFrame, decodeFrame, hd]

/-- A frame whose header is accepted: its length is looked at first. -/
theorem checkFrame_of_ok {frame : Bytes} {header : FrameHeader}
    (hd : FrameHeader.decode frame = .ok header) :
    checkFrame h frame =
      if frame.length - FRAME_HEADER_LEN ≠ header.payloadLen.toNat then
        .error (.frame (.payloadLengthMismatch header.payloadLen.toNat
          (frame.length - FRAME_HEADER_LEN)))
      else if header.frameType ≠ h.frameType ∨ header.requestId ≠ h.requestId then
        .error .metadataMismatch
      else .ok (some frame) := by
  rw [checkFrame, decodeFrame, hd]
  dsimp only
  rw [List.length_drop]
  split_ifs <;> simp_all

/-- **Where cutting a frame off makes no difference**: at its end, or when its header is
intact and not accepted. -/
theorem checkFrame_take_iff (h : UdpChunkHeader) (frame : Bytes) (n : ℕ) :
    checkFrame h frame = checkFrame h (frame.take n) ↔
      frame.length ≤ n ∨
        FRAME_HEADER_LEN ≤ n ∧ ∃ e, FrameHeader.decode frame = .error e := by
  rcases Nat.lt_or_ge n frame.length with hn | hn
  · have htake : (frame.take n).length = n := by
      rw [List.length_take, Nat.min_eq_left hn.le]
    rw [or_iff_right (Nat.not_le.2 hn)]
    rcases Nat.lt_or_ge n FRAME_HEADER_LEN with hshort | hheader
    · -- nothing is left of a header
      rw [checkFrame_of_short (htake.trans_lt hshort), htake]
      refine iff_of_false (fun heq => ?_) fun hor => absurd hor.1 (Nat.not_le.2 hshort)
      rcases Nat.lt_or_ge frame.length FRAME_HEADER_LEN with hlen | hlen
      · rw [checkFrame_of_short hlen] at heq
        simp only [Except.error.injEq, UdpChunkError.frame.injEq,
          FrameDecodeError.shortHeader.injEq] at heq
        omega
      · cases hd : FrameHeader.decode frame with
        | error e =>
          rw [checkFrame_of_error hd] at heq
          cases e with
          | tooShort got min => exact FrameHeader.ne_tooShort_of_decode hlen hd got min rfl
          | badMagic | versionMismatch | unknownFrameType => cases heq
        | ok header =>
          rw [checkFrame_of_ok hd] at heq
          split_ifs at heq <;> cases heq
    · cases hd : FrameHeader.decode frame with
      | error e =>
        have hd' := (frameHeader_take hheader hn).trans hd
        rw [checkFrame_of_error hd, checkFrame_of_error hd']
        exact iff_of_true rfl ⟨hheader, e, rfl⟩
      | ok header =>
        have hd' := (frameHeader_take hheader hn).trans hd
        rw [checkFrame_of_ok hd, checkFrame_of_ok hd', htake]
        refine iff_of_false (fun heq => ?_) fun hor => ?_
        · -- at most one of the two lengths is the announced one
          rw [FRAME_HEADER_LEN] at hheader heq
          rcases eq_or_ne (frame.length - 18) header.payloadLen.toNat with hfull | hfull <;>
            rcases eq_or_ne (n - 18) header.payloadLen.toNat with hcut | hcut
          · omega
          · rw [if_neg (not_not.2 hfull), if_pos hcut] at heq
            split_ifs at heq
            cases heq
          · rw [if_pos hfull, if_neg (not_not.2 hcut)] at heq
            split_ifs at heq
            cases heq
          · rw [if_pos hfull, if_pos hcut] at heq
            simp only [Except.error.injEq, UdpChunkError.frame.injEq,
              FrameDecodeError.payloadLengthMismatch.injEq] at heq
            omega
        · obtain ⟨-, e, he⟩ := hor
          cases he
  · rw [List.take_of_length_le hn]
    exact ⟨fun _ => .inl hn, fun _ => rfl⟩

/-- **When the two decoders agree.**  On a datagram with the only chunk of a frame both of
them give the same answer exactly when the header announces at least as many bytes as there
are, or a checksum is wrong, or the frame has a header that is not accepted and that the
announced length does not cut into. -/
theorem decoders_agree_iff (hd : UdpChunkHeader.decode d = .ok h) (h1 : h.totalChunks = 1)
    (now timeout : ℕ) :
    (decodeUdpSingleChunk crc d = ((UdpFrameReassembler.new now timeout).insert crc d).2 ∧
      decodeUdpSingleChunkRef crc d =
        ((UdpFrameReassembler.new now timeout).insert crc d).2) ↔
      h.payloadLen.toNat ≤ h.frameLen.toNat ∨ ChecksumsDiffer crc h (payloadOf d) ∨
        FRAME_HEADER_LEN ≤ h.frameLen.toNat ∧
          ∃ e, FrameHeader.decode (payloadOf d) = .error e := by
  have hlen := length_payloadOf hd
  rw [decodeUdpSingleChunk_eq, and_self, decodeUdpSingleChunkRef_eq hd h1, insert_new_eq hd h1]
  by_cases hsum : ChecksumsDiffer crc h (payloadOf d)
  · rw [if_pos hsum, if_pos hsum]
    exact iff_of_true rfl (.inr (.inl hsum))
  · rw [if_neg hsum, if_neg hsum, checkFrame_take_iff, hlen, or_iff_right hsum]

/-- The datagram of an empty query, announcing a frame of `frameLen` bytes. -/
def announcing (frameLen : UInt32) : UdpChunkHeader × Bytes :=
  let frame := encodeFrame (.new .queryRequest 7 0) []
  ({ singleHeader .queryRequest 7 18 (Crc32.ieee.hash frame) with frameLen }, frame)

/-- One that announces its length, and one that announces less. -/
theorem decoders_agree_announcing :
    let agree (d : Bytes) : Prop :=
      decodeUdpSingleChunk Crc32.ieee d =
          ((UdpFrameReassembler.new 0 0).insert Crc32.ieee d).2 ∧
        decodeUdpSingleChunkRef Crc32.ieee d =
          ((UdpFrameReassembler.new 0 0).insert Crc32.ieee d).2
    agree ((announcing 18).1.encode ++ (announcing 18).2) ∧
      ¬agree ((announcing 17).1.encode ++ (announcing 17).2) := by
  intro agree
  have hdecode (n : UInt32) : UdpChunkHeader.decode ((announcing n).1.encode ++ (announcing n).2) =
      .ok (announcing n).1 :=
    UdpChunkHeader.decode_encode_append
      ⟨rfl, show (1 : UInt16) ≠ 0 by decide, show (0 : UInt16) < 1 by decide⟩ rfl
  refine ⟨(decoders_agree_iff (hdecode 18) rfl 0 0).2 (.inl (by decide)), fun h17 => ?_⟩
  rcases (decoders_agree_iff (hdecode 17) rfl 0 0).1 h17 with hle | hsum | ⟨hle, -⟩
  · exact absurd hle (by decide)
  · exact absurd hsum (by decide +kernel)
  · exact absurd hle (by decide)

/-- **A frame that only one of them delivers**: an empty query in a datagram that announces
17 bytes of it. -/
theorem decoders_disagree : ¬∀ (d : Bytes) (h : UdpChunkHeader),
    UdpChunkHeader.decode d = .ok h → h.totalChunks = 1 →
      decodeUdpSingleChunkRef Crc32.ieee d =
        ((UdpFrameReassembler.new 0 0).insert Crc32.ieee d).2 := by
  intro hall
  have heq := hall ((announcing 17).1.encode ++ (announcing 17).2) (announcing 17).1
    (by decide +kernel) rfl
  revert heq
  decide +kernel

end Decoders

end Udp
end Clustat
