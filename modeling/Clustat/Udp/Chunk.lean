/-
# The chunk datagram

`crates/common/src/udp.rs`: over UDP a frame travels in datagrams, each a
32-byte header and a payload of at most `u16::MAX` bytes:

| bytes | field |
| --- | --- |
| 0..4 | magic `G4U1` |
| 4 | version |
| 5 | frame type |
| 6..14 | request id, big-endian `u64` |
| 14..18 | length of the whole frame, big-endian `u32` |
| 18..20 | chunk id, big-endian `u16` |
| 20..22 | number of chunks, big-endian `u16` |
| 22..24 | payload length of this chunk, big-endian `u16` |
| 24..28 | CRC-32 of the previous chunk's payload |
| 28..32 | CRC-32 of the next chunk's payload |

The previous chunk of the first is the last and the next chunk of the last is
the first, so the checksums close a ring.

The checksum is the crate `crc32fast`, which is not part of the repository: it
is the parameter `Crc32`, a one-shot `hash` and a streaming `Hasher` that agree.
`Crc32.ieee` is the CRC-32 that crate documents, for concrete datagrams.
-/

import Clustat.Common.Frame

namespace Clustat
namespace Udp

open BigEndian

/-- `crc32fast`: `hash`, and a `Hasher` for which feeding a byte string in
parts is feeding it whole. -/
structure Crc32 where
  Hasher : Type
  new : Hasher
  update : Hasher → Bytes → Hasher
  finalize : Hasher → UInt32
  hash : Bytes → UInt32
  update_update : ∀ s a b, update (update s a) b = update s (a ++ b)
  finalize_update : ∀ b, finalize (update new b) = hash b

/-- One bit of the reflected CRC with polynomial `0xEDB88320`. -/
def crcBit (c : ℕ) : ℕ := if c % 2 = 1 then (c / 2) ^^^ 0xEDB88320 else c / 2

def crcByte (c : ℕ) (b : UInt8) : ℕ := crcBit^[8] (c ^^^ b.toNat)

/-- CRC-32 as `crc32fast` documents it (ISO-HDLC). -/
def Crc32.ieee : Crc32 where
  Hasher := ℕ
  new := 0xFFFFFFFF
  update c bs := bs.foldl crcByte c
  finalize c := UInt32.ofNat (c ^^^ 0xFFFFFFFF)
  hash bs := UInt32.ofNat (bs.foldl crcByte 0xFFFFFFFF ^^^ 0xFFFFFFFF)
  update_update _ _ _ := (List.foldl_append ..).symm
  finalize_update _ := rfl

/-- The check value of CRC-32: the digits `1` to `9`. -/
example : Crc32.ieee.hash [0x31, 0x32, 0x33, 0x34, 0x35, 0x36, 0x37, 0x38, 0x39] = 0xCBF43926 := by
  decide +kernel

/-- ASCII `G4U1`. -/
def UDP_CHUNK_MAGIC : Bytes := [0x47, 0x34, 0x55, 0x31]

def UDP_CHUNK_HEADER_LEN : ℕ := 32

def UDP_MIN_PAYLOAD : ℕ := 256

/-- `u16::MAX as usize`. -/
def U16_MAX : ℕ := 65535

/-- `UdpChunkError`. -/
inductive UdpChunkError
  | emptyFrame
  | payloadTooSmall (got min : ℕ)
  | payloadTooLarge (len max : ℕ)
  | tooManyChunks (chunks : ℕ)
  | frameTooLarge (len : ℕ)
  | shortDatagram (got min : ℕ)
  | badMagic
  | versionMismatch (expected got : UInt8)
  | unknownFrameType (value : UInt8)
  | invalidChunkLayout
  | payloadLengthMismatch (expected actual : ℕ)
  | metadataMismatch
  | checksumMismatch
  | frame (e : FrameDecodeError)
  deriving DecidableEq, Repr

/-- `UdpChunkHeader`. -/
structure UdpChunkHeader where
  version : UInt8
  frameType : FrameType
  requestId : UInt64
  frameLen : UInt32
  chunkId : UInt16
  totalChunks : UInt16
  payloadLen : UInt16
  prevChecksum : UInt32
  nextChecksum : UInt32
  deriving DecidableEq, Repr

namespace UdpChunkHeader

/-- `UdpChunkHeader::encode`. -/
def encode (h : UdpChunkHeader) : Bytes :=
  UDP_CHUNK_MAGIC ++ [h.version, h.frameType.toU8] ++ toBytes 8 h.requestId.toNat ++
    toBytes 4 h.frameLen.toNat ++ toBytes 2 h.chunkId.toNat ++ toBytes 2 h.totalChunks.toNat ++
    toBytes 2 h.payloadLen.toNat ++ toBytes 4 h.prevChecksum.toNat ++
    toBytes 4 h.nextChecksum.toNat

/-- The fields `UdpChunkHeader::decode` reads, before the layout checks. -/
def fields (input : Bytes) (frameType : FrameType) : UdpChunkHeader where
  version := byteAt input 4
  frameType := frameType
  requestId := UInt64.ofNat (ofBytes (slice input 6 14))
  frameLen := UInt32.ofNat (ofBytes (slice input 14 18))
  chunkId := UInt16.ofNat (ofBytes (slice input 18 20))
  totalChunks := UInt16.ofNat (ofBytes (slice input 20 22))
  payloadLen := UInt16.ofNat (ofBytes (slice input 22 24))
  prevChecksum := UInt32.ofNat (ofBytes (slice input 24 28))
  nextChecksum := UInt32.ofNat (ofBytes (slice input 28 32))

/-- `UdpChunkHeader::decode`, over the whole datagram: the payload has to have
the announced length. -/
def decode (input : Bytes) : Except UdpChunkError UdpChunkHeader :=
  if input.length < UDP_CHUNK_HEADER_LEN then
    .error (.shortDatagram input.length UDP_CHUNK_HEADER_LEN)
  else if slice input 0 4 ≠ UDP_CHUNK_MAGIC then .error .badMagic
  else if byteAt input 4 ≠ PROTOCOL_VERSION then
    .error (.versionMismatch PROTOCOL_VERSION (byteAt input 4))
  else
    match FrameType.tryFrom (byteAt input 5) with
    | .error _ => .error (.unknownFrameType (byteAt input 5))
    | .ok frameType =>
      let h := fields input frameType
      if h.totalChunks = 0 then .error .invalidChunkLayout
      else if h.totalChunks ≤ h.chunkId then .error .invalidChunkLayout
      else if input.length ≠ UDP_CHUNK_HEADER_LEN + h.payloadLen.toNat then
        .error (.payloadLengthMismatch h.payloadLen.toNat (input.length - UDP_CHUNK_HEADER_LEN))
      else .ok h

/-- What every decoded header satisfies. -/
structure Valid (h : UdpChunkHeader) : Prop where
  version : h.version = PROTOCOL_VERSION
  total_pos : h.totalChunks ≠ 0
  chunk_lt : h.chunkId < h.totalChunks

/-- An encoded header has the length that `encode` gives it in advance. -/
@[simp] theorem length_encode (h : UdpChunkHeader) : h.encode.length = UDP_CHUNK_HEADER_LEN := by
  simp [encode, UDP_CHUNK_MAGIC, UDP_CHUNK_HEADER_LEN]

/-- The fields read from an encoded header are the header's. -/
theorem fields_encode_append (h : UdpChunkHeader) (p : Bytes) :
    fields (h.encode ++ p) h.frameType = h := by
  have hfield : ∀ {w i j n : ℕ}, slice (h.encode ++ p) i j = toBytes w n → n < 256 ^ w →
      ofBytes (slice (h.encode ++ p) i j) = n := by
    intro w i j n he hn
    rw [he, ofBytes_toBytes_of_lt hn]
  have hid := hfield (w := 8) (i := 6) (j := 14) rfl h.requestId.toNat_lt
  have hfl := hfield (w := 4) (i := 14) (j := 18) rfl h.frameLen.toNat_lt
  have hci := hfield (w := 2) (i := 18) (j := 20) rfl h.chunkId.toNat_lt
  have htc := hfield (w := 2) (i := 20) (j := 22) rfl h.totalChunks.toNat_lt
  have hpl := hfield (w := 2) (i := 22) (j := 24) rfl h.payloadLen.toNat_lt
  have hpc := hfield (w := 4) (i := 24) (j := 28) rfl h.prevChecksum.toNat_lt
  have hnc := hfield (w := 4) (i := 28) (j := 32) rfl h.nextChecksum.toNat_lt
  have hver : byteAt (h.encode ++ p) 4 = h.version := rfl
  rw [fields, hid, hfl, hci, htc, hpl, hpc, hnc, hver]
  simp only [UInt64.ofNat_toNat, UInt32.ofNat_toNat, UInt16.ofNat_toNat]

/-- **A datagram decodes to the header it was built from**, when the header is
valid and states the length of the payload behind it. -/
theorem decode_encode_append {h : UdpChunkHeader} (hv : h.Valid) {p : Bytes}
    (hp : h.payloadLen.toNat = p.length) : decode (h.encode ++ p) = .ok h := by
  have hlen : ¬(h.encode ++ p).length < UDP_CHUNK_HEADER_LEN := by simp
  have hmagic : slice (h.encode ++ p) 0 4 = UDP_CHUNK_MAGIC := rfl
  have hver : byteAt (h.encode ++ p) 4 = PROTOCOL_VERSION := hv.version
  have htype : byteAt (h.encode ++ p) 5 = h.frameType.toU8 := rfl
  have hchunk : ¬h.totalChunks ≤ h.chunkId := UInt16.not_le.2 hv.chunk_lt
  rw [decode, if_neg hlen, if_neg (not_not.2 hmagic), if_neg (not_not.2 hver), htype,
    FrameType.tryFrom_toU8]
  simp only [fields_encode_append, if_neg hv.total_pos, if_neg hchunk, hp, List.length_append,
    length_encode, ne_eq, not_true_eq_false, if_false]

/-- **Only such a datagram decodes**: the accepted bytes are the header's
encoding and a payload of the announced length. -/
theorem encode_of_decode {input : Bytes} {h : UdpChunkHeader} (hd : decode input = .ok h) :
    h.Valid ∧ input.length = UDP_CHUNK_HEADER_LEN + h.payloadLen.toNat ∧
      input = h.encode ++ input.drop UDP_CHUNK_HEADER_LEN := by
  unfold decode at hd
  split_ifs at hd with hlen hmagic hver
  have hlen : 32 ≤ input.length := Nat.not_lt.1 hlen
  have hmagic : slice input 0 4 = UDP_CHUNK_MAGIC := not_not.1 hmagic
  have hver : byteAt input 4 = PROTOCOL_VERSION := not_not.1 hver
  cases ht : FrameType.tryFrom (byteAt input 5) with
  | error e => rw [ht] at hd; cases hd
  | ok t =>
    simp only [ht] at hd
    split_ifs at hd with htot hchunk hpl
    obtain rfl := Except.ok.inj hd
    refine ⟨⟨hver, htot, UInt16.not_le.1 hchunk⟩, not_not.1 hpl, ?_⟩
    -- each field, read and written again, is its slice of the input
    have hfield : ∀ {w i j : ℕ}, j - i = w → j ≤ 32 → ofBytes (slice input i j) < 256 ^ w ∧
        toBytes w (ofBytes (slice input i j)) = slice input i j := by
      intro w i j hw hj
      have hlen : (slice input i j).length = w := by rw [length_slice (by omega), hw]
      exact ⟨hlen ▸ ofBytes_lt _, toBytes_ofBytes_of_length hlen⟩
    obtain ⟨hid, hid'⟩ := hfield (show 14 - 6 = 8 from rfl) (by omega)
    obtain ⟨hfl, hfl'⟩ := hfield (show 18 - 14 = 4 from rfl) (by omega)
    obtain ⟨hci, hci'⟩ := hfield (show 20 - 18 = 2 from rfl) (by omega)
    obtain ⟨htc, htc'⟩ := hfield (show 22 - 20 = 2 from rfl) (by omega)
    obtain ⟨hpl, hpl'⟩ := hfield (show 24 - 22 = 2 from rfl) (by omega)
    obtain ⟨hpc, hpc'⟩ := hfield (show 28 - 24 = 4 from rfl) (by omega)
    obtain ⟨hnc, hnc'⟩ := hfield (show 32 - 28 = 4 from rfl) (by omega)
    have hbytes : [byteAt input 4, byteAt input 5] = slice input 4 6 := by
      rw [← slice_append_slice input (show 4 ≤ 5 by omega) (show 5 ≤ 6 by omega),
        slice_succ (by omega), slice_succ (by omega)]
      rfl
    have henc : (fields input t).encode = slice input 0 32 := by
      rw [encode, fields]
      simp only [FrameType.toU8_of_tryFrom ht, UInt64.toNat_ofNat_of_lt' hid,
        UInt32.toNat_ofNat_of_lt' hfl, UInt16.toNat_ofNat_of_lt' hci,
        UInt16.toNat_ofNat_of_lt' htc, UInt16.toNat_ofNat_of_lt' hpl,
        UInt32.toNat_ofNat_of_lt' hpc, UInt32.toNat_ofNat_of_lt' hnc, hid', hfl', hci', htc',
        hpl', hpc', hnc', hbytes, ← hmagic]
      rw [slice_append_slice input (by omega) (by omega),
        slice_append_slice input (by omega) (by omega),
        slice_append_slice input (by omega) (by omega),
        slice_append_slice input (by omega) (by omega),
        slice_append_slice input (by omega) (by omega),
        slice_append_slice input (by omega) (by omega),
        slice_append_slice input (by omega) (by omega),
        slice_append_slice input (by omega) (by omega)]
    rw [henc]
    exact (List.take_append_drop 32 input).symm

/-- The grammar of a datagram: a header of the current version whose chunk number is below
its number of chunks, and as many bytes as it announces. -/
def Spells (h : UdpChunkHeader) (d : Bytes) : Prop :=
  h.version = PROTOCOL_VERSION ∧ 1 ≤ h.totalChunks ∧ h.chunkId < h.totalChunks ∧
    ∃ payload : Bytes, payload.length = h.payloadLen.toNat ∧ d = h.encode ++ payload

/-- Bytes that `decode` accepts spell the header it returns: each field is
read from its own bytes. -/
theorem spells_of_decode {h : UdpChunkHeader} {d : Bytes} (hd : decode d = .ok h) :
    h.Spells d := by
  obtain ⟨hv, hlen, hbytes⟩ := encode_of_decode hd
  refine ⟨hv.version, ?_, hv.chunk_lt, _, ?_, hbytes⟩
  · exact UInt16.not_lt.1 fun hlt => hv.total_pos (UInt16.lt_one_iff.1 hlt)
  · rw [List.length_drop, hlen, Nat.add_sub_cancel_left]

/-- Bytes that spell a valid header are accepted, and `decode` returns that
header; with `spells_of_decode` the exact characterisation of `decode`. -/
theorem decode_of_spells {h : UdpChunkHeader} {d : Bytes} (hd : h.Spells d) :
    decode d = .ok h := by
  obtain ⟨hv, hpos, hlt, payload, hlen, rfl⟩ := hd
  exact decode_encode_append ⟨hv, (UInt16.not_lt.2 hpos <| UInt16.lt_one_iff.2 ·), hlt⟩ hlen.symm

/-- **The decoder accepts exactly its grammar**, and a datagram spells one header only. -/
theorem decode_iff_spells (h : UdpChunkHeader) (d : Bytes) :
    (decode d = .ok h ↔ h.Spells d) ∧ (h.Spells d → ∀ h', h'.Spells d → h' = h) := by
  refine ⟨⟨spells_of_decode, decode_of_spells⟩, fun hd h' hd' => ?_⟩
  exact Except.ok.inj ((decode_of_spells hd').symm.trans (decode_of_spells hd))

/-- The second of three chunks, with two bytes. -/
theorem decode_iff_spells_second :
    let h : UdpChunkHeader :=
      { version := PROTOCOL_VERSION, frameType := .heartbeat, requestId := 7, frameLen := 520,
        chunkId := 1, totalChunks := 3, payloadLen := 2, prevChecksum := 5, nextChecksum := 6 }
    decode (h.encode ++ [1, 2]) = .ok h ∧ ∀ h' : UdpChunkHeader, h'.Spells (h.encode ++ [1, 2]) →
      h' = h := by
  intro h
  have hspells : h.Spells (h.encode ++ [1, 2]) := ⟨rfl, by decide, by decide, [1, 2], rfl, rfl⟩
  exact ⟨(decode_iff_spells h _).1.2 hspells, (decode_iff_spells h _).2 hspells⟩

end UdpChunkHeader

/-- The payload of a datagram, `datagram[UDP_CHUNK_HEADER_LEN..]`. -/
def payloadOf (datagram : Bytes) : Bytes := datagram.drop UDP_CHUNK_HEADER_LEN

/-- Behind an encoded header, the payload is all that follows. -/
@[simp] theorem payloadOf_encode_append (h : UdpChunkHeader) (p : Bytes) :
    payloadOf (h.encode ++ p) = p := by
  rw [payloadOf, ← h.length_encode, List.drop_left]

/-- The payload of an accepted datagram has the length that its header states,
because `decode` refuses any other length. -/
theorem length_payloadOf {d : Bytes} {h : UdpChunkHeader} (hd : UdpChunkHeader.decode d = .ok h) :
    (payloadOf d).length = h.payloadLen.toNat := by
  rw [payloadOf, List.length_drop, (UdpChunkHeader.encode_of_decode hd).2.1,
    Nat.add_sub_cancel_left]

end Udp
end Clustat
