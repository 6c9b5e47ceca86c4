/-
# Frames on a byte stream

`read_frame` of `crates/client-backend/src/tcp_client.rs` and `read_tcp_frame` of
`crates/server/src/main.rs`: both take a frame off a TCP stream with two calls of
`read_exact`, one for the header and one for as many bytes as it announces.  How the
stream is cut into segments makes no difference to them: `readFrame` says of the
bytes read so far whether they are the whole of a frame.
-/

import Clustat.Common.Frame

namespace Clustat

/-- How far reading a frame is: short of bytes, stopped by its header, or through
with so many bytes. -/
inductive FrameRead
  | more
  | invalid (e : FrameHeaderError)
  | whole (len : ℕ)
  deriving DecidableEq, Repr

/-- Reading a frame, from the bytes there are. -/
def readFrame (bytes : Bytes) : FrameRead :=
  if bytes.length < FRAME_HEADER_LEN then .more
  else
    match FrameHeader.decode bytes with
    | .error e => .invalid e
    | .ok header =>
      let len := FRAME_HEADER_LEN + header.payloadLen.toNat
      if bytes.length < len then .more else .whole len

/-- A frame that has been read is no shorter than its header, and it was there. -/
theorem bounds_of_readFrame {bytes : Bytes} {len : ℕ} (h : readFrame bytes = .whole len) :
    FRAME_HEADER_LEN ≤ len ∧ len ≤ bytes.length := by
  unfold readFrame at h
  split_ifs at h with hshort
  cases hd : FrameHeader.decode bytes with
  | error e => simp only [hd, reduceCtorEq] at h
  | ok header =>
    simp only [hd] at h
    split_ifs at h with hpart
    obtain rfl := FrameRead.whole.inj h
    omega

section Whole

variable {frame got rest : Bytes} {header : FrameHeader} {payload : Bytes}

/-- **A frame is read off the front of the stream**, whatever follows it,
because its header says where it ends. -/
theorem readFrame_append (hd : decodeFrame frame = .ok (header, payload)) :
    readFrame (frame ++ rest) = .whole frame.length := by
  obtain ⟨hv, hlen, hframe⟩ := decodeFrame_eq_ok_iff.1 hd
  have hsize := length_of_decodeFrame hd
  have hheader : FrameHeader.decode (frame ++ rest) = .ok header := by
    rw [hframe, List.append_assoc]
    exact FrameHeader.decode_encode_append hv _
  have htotal : (frame ++ rest).length = FRAME_HEADER_LEN + payload.length + rest.length := by
    rw [List.length_append, hsize]
  unfold readFrame
  rw [if_neg (by omega), hheader]
  dsimp only
  rw [hlen, if_neg (by omega), hsize]

/-- **A part of a frame is not taken for a frame**: before its end there is more to
be read, and at its end there is not. -/
theorem readFrame_of_part (hd : decodeFrame frame = .ok (header, payload))
    (hp : got <+: frame) :
    readFrame got = if got.length < frame.length then .more else .whole frame.length := by
  obtain ⟨hv, hlen, hframe⟩ := decodeFrame_eq_ok_iff.1 hd
  have hsize := length_of_decodeFrame hd
  unfold readFrame
  by_cases hshort : got.length < FRAME_HEADER_LEN
  · rw [if_pos hshort, if_pos (by omega)]
  · have hencode : header.encode <+: got := by
      refine List.prefix_of_prefix_length_le (hframe ▸ List.prefix_append _ _) hp ?_
      rw [FrameHeader.length_encode]
      exact Nat.le_of_not_lt hshort
    obtain ⟨tail, rfl⟩ := hencode
    rw [if_neg hshort, FrameHeader.decode_encode_append hv]
    dsimp only
    rw [hlen, ← hsize]

/-- What has been read in full is the frame. -/
theorem eq_of_readFrame_whole (hd : decodeFrame frame = .ok (header, payload))
    (hp : got <+: frame) {len : ℕ} (hr : readFrame got = .whole len) : got = frame := by
  rw [readFrame_of_part hd hp] at hr
  split_ifs at hr with hshort
  exact hp.eq_of_length_le (Nat.le_of_not_lt hshort)

end Whole

end Clustat
