/-
# Cutting a frame into datagrams

`crates/common/src/udp.rs`: `encode_udp_chunks` cuts a frame into chunks and
gives each the checksums of its two neighbours on the ring,
`encode_udp_single_chunk` and `encode_udp_single_chunk_from_parts` build the
datagram of a frame that fits in one, and `decode_udp_single_chunk_ref` takes
such a datagram apart again.  `effective_udp_payload_capacity` says how much fits.
-/

import Clustat.Lib.Chunks
import Clustat.Udp.Chunk
import Mathlib.Data.List.TakeWhile

namespace Clustat
namespace Udp

open Chunks

def UDP_FALLBACK_MTU : ℕ := 1200

/-- `effective_udp_payload_capacity`; `routeMtu` is what `detect_route_mtu` finds. -/
def effectiveUdpPayloadCapacity (ipv4 : Bool) (configuredMtu : UInt16) (routeMtu : Option ℕ) : ℕ :=
  let mtu := if 0 < configuredMtu then configuredMtu.toNat else routeMtu.getD UDP_FALLBACK_MTU
  let ipHeader := if ipv4 then 20 else 40
  max (mtu - (ipHeader + 8 + UDP_CHUNK_HEADER_LEN)) UDP_MIN_PAYLOAD

/-- The capacity for a peer is never below `UDP_MIN_PAYLOAD`, whatever MTU is
configured and whatever the route reports. -/
theorem min_le_effectiveUdpPayloadCapacity (ipv4 : Bool) (configuredMtu : UInt16)
    (routeMtu : Option ℕ) :
    UDP_MIN_PAYLOAD ≤ effectiveUdpPayloadCapacity ipv4 configuredMtu routeMtu := le_max_right _ _

/-- The longest payload of UDP. -/
def maxUdpPayload (ipv4 : Bool) : ℕ := if ipv4 then 65507 else 65527

/-- What a socket sends of some datagrams, one after the other: `send_to` fails for one
that is longer than UDP can carry, and its caller gives up there. -/
def sendAll (ipv4 : Bool) (datagrams : List Bytes) : List Bytes :=
  datagrams.takeWhile fun d => d.length ≤ maxUdpPayload ipv4

/-- The chunk before `idx` on a ring of `total`. -/
def prevIdx (total idx : ℕ) : ℕ := if idx = 0 then total - 1 else idx - 1

/-- The chunk after `idx` on a ring of `total`. -/
def nextIdx (total idx : ℕ) : ℕ := if idx + 1 = total then 0 else idx + 1

/-- The index before stays on the ring. -/
theorem prevIdx_lt {total idx : ℕ} (h : idx < total) : prevIdx total idx < total := by
  unfold prevIdx; split_ifs <;> omega

/-- The index after stays on the ring. -/
theorem nextIdx_lt {total idx : ℕ} (h : idx < total) : nextIdx total idx < total := by
  unfold nextIdx; split_ifs <;> omega

/-- One step forward on the ring and one back; at the last index both wrap
around. -/
theorem prevIdx_nextIdx (total idx : ℕ) :
    prevIdx total (nextIdx total idx) = idx := by
  by_cases hlast : idx + 1 = total
  · rw [nextIdx, if_pos hlast, prevIdx, if_pos rfl, ← hlast, Nat.add_sub_cancel]
  · rw [nextIdx, if_neg hlast, prevIdx, if_neg (Nat.succ_ne_zero idx), Nat.add_sub_cancel]

/-- One step back on the ring and one forward; at index 0 both wrap around. -/
theorem nextIdx_prevIdx {total idx : ℕ} (h : idx < total) :
    nextIdx total (prevIdx total idx) = idx := by
  unfold nextIdx prevIdx
  split_ifs <;> omega

/-- The header `encode_udp_chunks` gives chunk `idx`. -/
def chunkHeader (crc : Crc32) (frameHeader : FrameHeader) (frameLen : ℕ) (chunks : List Bytes)
    (idx : ℕ) (payload : Bytes) : UdpChunkHeader :=
  let checksums := chunks.map crc.hash
  { version := PROTOCOL_VERSION
    frameType := frameHeader.frameType
    requestId := frameHeader.requestId
    frameLen := UInt32.ofNat frameLen
    chunkId := UInt16.ofNat idx
    totalChunks := UInt16.ofNat chunks.length
    payloadLen := UInt16.ofNat payload.length
    prevChecksum := checksums[prevIdx chunks.length idx]?.getD 0
    nextChecksum := checksums[nextIdx chunks.length idx]?.getD 0 }

/-- The loop of `encode_udp_chunks`. -/
def chunkDatagrams (crc : Crc32) (frameHeader : FrameHeader) (frameLen : ℕ)
    (chunks : List Bytes) : List Bytes :=
  chunks.mapIdx fun idx payload =>
    (chunkHeader crc frameHeader frameLen chunks idx payload).encode ++ payload

/-- `encode_udp_chunks`. -/
def encodeUdpChunks (crc : Crc32) (frame : Bytes) (maxPayload : ℕ) :
    Except UdpChunkError (List Bytes) :=
  if frame = [] then .error .emptyFrame
  else if maxPayload < UDP_MIN_PAYLOAD then .error (.payloadTooSmall maxPayload UDP_MIN_PAYLOAD)
  else
    match decodeFrame frame with
    | .error e => .error (.frame e)
    | .ok (frameHeader, _) =>
      if 2 ^ 32 ≤ frame.length then .error (.frameTooLarge frame.length)
      else if U16_MAX < divCeil frame.length maxPayload then
        .error (.tooManyChunks (divCeil frame.length maxPayload))
      else .ok (chunkDatagrams crc frameHeader frame.length (chunks maxPayload frame))

/-- The header of the only datagram of a frame. -/
def singleHeader (frameType : FrameType) (requestId : UInt64) (frameLen : ℕ) (checksum : UInt32) :
    UdpChunkHeader where
  version := PROTOCOL_VERSION
  frameType := frameType
  requestId := requestId
  frameLen := UInt32.ofNat frameLen
  chunkId := 0
  totalChunks := 1
  payloadLen := UInt16.ofNat frameLen
  prevChecksum := checksum
  nextChecksum := checksum

/-- `encode_udp_single_chunk`. -/
def encodeUdpSingleChunk (crc : Crc32) (frame : Bytes) : Except UdpChunkError Bytes :=
  if frame = [] then .error .emptyFrame
  else if U16_MAX < frame.length then .error (.payloadTooLarge frame.length U16_MAX)
  else
    match decodeFrame frame with
    | .error e => .error (.frame e)
    | .ok (frameHeader, _) =>
      if 2 ^ 32 ≤ frame.length then .error (.frameTooLarge frame.length)
      else .ok ((singleHeader frameHeader.frameType frameHeader.requestId frame.length
        (crc.hash frame)).encode ++ frame)

/-- `encode_udp_single_chunk_from_parts`: the datagram without the frame, its
checksum fed in two parts. -/
def encodeUdpSingleChunkFromParts (crc : Crc32) (frameType : FrameType) (requestId : UInt64)
    (payload : Bytes) : Except UdpChunkError Bytes :=
  if 2 ^ 32 ≤ payload.length then .error (.frameTooLarge (payload.length + FRAME_HEADER_LEN))
  else
    let frameLen := FRAME_HEADER_LEN + payload.length
    if U16_MAX < frameLen then .error (.payloadTooLarge frameLen U16_MAX)
    else
      let frameHeader := (FrameHeader.new frameType requestId (UInt32.ofNat payload.length)).encode
      let checksum := crc.finalize (crc.update (crc.update crc.new frameHeader) payload)
      .ok ((singleHeader frameType requestId frameLen checksum).encode ++ frameHeader ++ payload)

/-- `decode_udp_single_chunk_ref`; `none` for a chunk of a larger frame. -/
def decodeUdpSingleChunkRef (crc : Crc32) (datagram : Bytes) :
    Except UdpChunkError (Option Bytes) :=
  match UdpChunkHeader.decode datagram with
  | .error e => .error e
  | .ok header =>
    if header.totalChunks ≠ 1 then .ok none
    else
      let frame := payloadOf datagram
      if header.prevChecksum ≠ crc.hash frame ∨ header.nextChecksum ≠ crc.hash frame then
        .error .checksumMismatch
      else
        match decodeFrame frame with
        | .error e => .error (.frame e)
        | .ok (decoded, _) =>
          if decoded.frameType ≠ header.frameType ∨ decoded.requestId ≠ header.requestId then
            .error .metadataMismatch
          else .ok (some frame)

/-- `decode_udp_single_chunk`, which returns a copy. -/
def decodeUdpSingleChunk (crc : Crc32) (datagram : Bytes) : Except UdpChunkError (Option Bytes) :=
  match decodeUdpSingleChunkRef crc datagram with
  | .error e => .error e
  | .ok none => .ok none
  | .ok (some frame) => .ok (some frame)

/-! ### What is sent -/

section Send

variable {ipv4 : Bool} {d : Bytes} {datagrams : List Bytes}

/-- What UDP can carry is sent. -/
theorem sendAll_of_forall (h : ∀ d ∈ datagrams, d.length ≤ maxUdpPayload ipv4) :
    sendAll ipv4 datagrams = datagrams :=
  List.takeWhile_eq_self_iff.2 fun d hd => decide_eq_true (h d hd)

/-- If the first datagram is too long, nothing is. -/
theorem sendAll_cons_of_lt (h : maxUdpPayload ipv4 < d.length) :
    sendAll ipv4 (d :: datagrams) = [] :=
  List.takeWhile_cons_of_neg fun hle => Nat.not_le.2 h (of_decide_eq_true hle)

end Send

variable {crc : Crc32}

/-! ### The lengths of the datagrams -/

section Length

variable {h : FrameHeader} {frame : Bytes} {maxPayload : ℕ}

/-- A datagram is as long as the chunk header and its chunk together. -/
theorem length_getElem_chunkDatagrams {n i : ℕ} {cs : List Bytes}
    (hi : i < (chunkDatagrams crc h n cs).length) (hi' : i < cs.length) :
    ((chunkDatagrams crc h n cs)[i]).length = UDP_CHUNK_HEADER_LEN + cs[i].length := by
  simp [chunkDatagrams, List.getElem_mapIdx]

/-- No datagram is longer than a header and the capacity. -/
theorem length_le_of_mem_chunkDatagrams {n : ℕ} {d : Bytes}
    (hd : d ∈ chunkDatagrams crc h n (chunks maxPayload frame)) :
    d.length ≤ UDP_CHUNK_HEADER_LEN + maxPayload := by
  obtain ⟨i, hi, rfl⟩ := List.getElem_of_mem hd
  have hi' : i < (chunks maxPayload frame).length := by
    rwa [chunkDatagrams, List.length_mapIdx] at hi
  rw [length_getElem_chunkDatagrams hi hi']
  exact Nat.add_le_add_left (length_getElem_chunks_le hi') _

/-- The first datagram of a frame that is cut is that long. -/
theorem exists_cons_chunkDatagrams (n : ℕ) (hpos : 0 < maxPayload)
    (hlong : maxPayload < frame.length) :
    ∃ d ds, chunkDatagrams crc h n (chunks maxPayload frame) = d :: ds ∧
      d.length = UDP_CHUNK_HEADER_LEN + maxPayload := by
  have hfirst : 0 < (chunks maxPayload frame).length := by
    rw [length_chunks]
    exact divCeil_pos hpos (lt_of_le_of_lt (Nat.zero_le _) hlong)
  have hne : chunkDatagrams crc h n (chunks maxPayload frame) ≠ [] :=
    List.ne_nil_of_length_pos (by rwa [chunkDatagrams, List.length_mapIdx])
  obtain ⟨d, ds, hcons⟩ := List.exists_cons_of_ne_nil hne
  refine ⟨d, ds, hcons, ?_⟩
  have hchunk : ((chunks maxPayload frame)[0]).length = maxPayload := by
    rw [getElem_chunks, List.length_take, Nat.zero_mul, List.drop_zero, Nat.min_eq_left hlong.le]
  have hpos' : 0 < (chunkDatagrams crc h n (chunks maxPayload frame)).length :=
    List.length_pos_of_ne_nil hne
  have hhead : ((chunkDatagrams crc h n (chunks maxPayload frame))[0]).length =
      UDP_CHUNK_HEADER_LEN + maxPayload :=
    (length_getElem_chunkDatagrams _ hfirst).trans (by rw [hchunk])
  simpa only [hcons, List.getElem_cons_zero] using hhead

end Length

/-! ### What the encoders accept -/

/-- What `encode_udp_chunks` accepts, and what it then returns. -/
theorem encodeUdpChunks_eq_ok_iff {frame : Bytes} {maxPayload : ℕ} {datagrams : List Bytes} :
    encodeUdpChunks crc frame maxPayload = .ok datagrams ↔
      UDP_MIN_PAYLOAD ≤ maxPayload ∧ frame.length < 2 ^ 32 ∧
        divCeil frame.length maxPayload ≤ U16_MAX ∧ ∃ h p, decodeFrame frame = .ok (h, p) ∧
          datagrams = chunkDatagrams crc h frame.length (chunks maxPayload frame) := by
  unfold encodeUdpChunks
  by_cases hnil : frame = []
  · subst hnil
    simp [decodeFrame, FrameHeader.decode, FRAME_HEADER_LEN]
  · rw [if_neg hnil]
    by_cases hmin : maxPayload < UDP_MIN_PAYLOAD
    · simp [hmin, Nat.not_le.2 hmin]
    · rw [if_neg hmin]
      cases hd : decodeFrame frame with
      | error e => simp
      | ok hp =>
        obtain ⟨h, p⟩ := hp
        dsimp only
        split_ifs with hlen hmany
        · exact ⟨fun he => he.elim, fun he => absurd he.2.1 (Nat.not_lt.2 hlen)⟩
        · exact ⟨fun he => he.elim, fun he => absurd he.2.2.1 (Nat.not_le.2 hmany)⟩
        · constructor
          · intro he
            exact ⟨Nat.not_lt.1 hmin, Nat.not_le.1 hlen, Nat.not_lt.1 hmany, h, p, rfl,
              (Except.ok.inj he).symm⟩
          · rintro ⟨-, -, -, h', p', he, rfl⟩
            obtain ⟨rfl, rfl⟩ := Prod.mk.inj (Except.ok.inj he)
            rfl

/-- A frame that fits in one datagram is accepted by `encode_udp_single_chunk`. -/
theorem encodeUdpSingleChunk_of_decodeFrame {frame : Bytes} {h : FrameHeader} {p : Bytes}
    (hd : decodeFrame frame = .ok (h, p)) (hlen : frame.length ≤ U16_MAX) :
    encodeUdpSingleChunk crc frame =
      .ok ((singleHeader h.frameType h.requestId frame.length (crc.hash frame)).encode ++
        frame) := by
  have hnil : frame ≠ [] := by
    rintro rfl
    simp [decodeFrame, FrameHeader.decode, FRAME_HEADER_LEN] at hd
  have h32 : ¬2 ^ 32 ≤ frame.length := by
    unfold U16_MAX at hlen
    omega
  rw [encodeUdpSingleChunk, if_neg hnil, if_neg (Nat.not_lt.2 hlen), hd]
  exact if_neg h32

/-- A frame that is too long for a datagram. -/
theorem encodeUdpSingleChunk_of_long {frame : Bytes} (hlen : U16_MAX < frame.length) :
    encodeUdpSingleChunk crc frame = .error (.payloadTooLarge frame.length U16_MAX) := by
  have hnil : frame ≠ [] := by
    rintro rfl
    cases hlen
  rw [encodeUdpSingleChunk, if_neg hnil, if_pos hlen]

/-- A frame of more than 65535 bytes is refused:
`encode_udp_single_chunk_from_parts` checks the length before it writes the
16-bit `payload_len`. -/
theorem encodeUdpSingleChunkFromParts_of_long {payload : Bytes}
    (hlen : U16_MAX < FRAME_HEADER_LEN + payload.length) (frameType : FrameType)
    (requestId : UInt64) :
    ∃ e, encodeUdpSingleChunkFromParts crc frameType requestId payload = .error e := by
  unfold encodeUdpSingleChunkFromParts
  by_cases h32 : 2 ^ 32 ≤ payload.length
  · exact ⟨_, if_pos h32⟩
  · rw [if_neg h32]
    exact ⟨_, if_pos hlen⟩

/-- **The single-chunk encoder agrees with the chunking one** on a frame that
fits the capacity, and is not too long to be numbered. -/
theorem encodeUdpChunks_of_fits {frame : Bytes} {h : FrameHeader} {p : Bytes} {maxPayload : ℕ}
    (hd : decodeFrame frame = .ok (h, p)) (hmin : UDP_MIN_PAYLOAD ≤ maxPayload)
    (h32 : frame.length < 2 ^ 32) (hlen : frame.length ≤ maxPayload) :
    encodeUdpChunks crc frame maxPayload =
      .ok [(singleHeader h.frameType h.requestId frame.length (crc.hash frame)).encode ++
        frame] := by
  have hnil : frame ≠ [] := by
    rintro rfl
    simp [decodeFrame, FrameHeader.decode, FRAME_HEADER_LEN] at hd
  refine encodeUdpChunks_eq_ok_iff.2 ⟨hmin, h32, ?_, h, p, hd, ?_⟩
  · exact (divCeil_le_one hlen).trans (by decide)
  · rw [chunks_of_length_le hnil hlen]
    rfl

/-- A frame that fits the capacity is sent as one datagram, its own neighbour
on both sides of the ring. -/
theorem encodeUdpChunks_of_length_le {frame : Bytes} {h : FrameHeader} {p : Bytes} {maxPayload : ℕ}
    (hd : decodeFrame frame = .ok (h, p)) (hmin : UDP_MIN_PAYLOAD ≤ maxPayload)
    (hmax : maxPayload ≤ U16_MAX) (hlen : frame.length ≤ maxPayload) :
    encodeUdpChunks crc frame maxPayload =
      .ok [(singleHeader h.frameType h.requestId frame.length (crc.hash frame)).encode ++
        frame] := by
  refine encodeUdpChunks_of_fits hd hmin ?_ hlen
  unfold U16_MAX at hmax
  omega

/-- **The encoder that never builds the frame agrees with the one that does**,
success and error alike. -/
theorem encodeUdpSingleChunkFromParts_eq {frameType : FrameType} {requestId : UInt64}
    {payload : Bytes} (hlen : FRAME_HEADER_LEN + payload.length ≤ U16_MAX) :
    encodeUdpSingleChunkFromParts crc frameType requestId payload =
      encodeUdpSingleChunk crc (encodeFrame (FrameHeader.new frameType requestId 0) payload) := by
  have h32 : payload.length < 2 ^ 32 := by
    unfold U16_MAX at hlen
    omega
  have hdec := decodeFrame_encodeFrame (h := FrameHeader.new frameType requestId 0) rfl h32
  have hsum := crc.finalize_update
    ((FrameHeader.new frameType requestId (UInt32.ofNat payload.length)).encode ++ payload)
  rw [encodeUdpSingleChunk_of_decodeFrame hdec (by rwa [length_encodeFrame]),
    encodeUdpSingleChunkFromParts, if_neg (Nat.not_le.2 h32)]
  simp only [if_neg (Nat.not_lt.2 hlen), crc.update_update, hsum, length_encodeFrame,
    List.append_assoc]
  rfl

end Udp
end Clustat
