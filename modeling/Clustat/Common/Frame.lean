/-
# The binary frame

`crates/common/src/protocol.rs`: every message of both transports is one frame,
an 18-byte header and its payload:

| bytes | field |
| --- | --- |
| 0..4 | magic `G4C1` |
| 4 | version |
| 5 | frame type |
| 6..14 | request id, big-endian `u64` |
| 14..18 | payload length, big-endian `u32` |

`decodeFrame_eq_ok_iff` is the whole codec in one statement: a byte string
decodes exactly when it is the encoding of what it decodes to, so nothing
truncated, extended or concatenated is accepted.
-/

import Clustat.Lib.BigEndian
import Mathlib.Tactic.SplitIfs

namespace Clustat

open BigEndian

abbrev Bytes := List UInt8

def PROTOCOL_VERSION : UInt8 := 1

/-- ASCII `G4C1`. -/
def FRAME_MAGIC : Bytes := [0x47, 0x34, 0x43, 0x31]

def FRAME_HEADER_LEN : ℕ := 18

/-- `MAX_PAYLOAD_LEN`, `u16::MAX`. -/
def MAX_PAYLOAD_LEN : ℕ := 65535

/-- Frame type identifiers, `#[repr(u8)]`. -/
inductive FrameType
  | discoveryQuery | discoveryAnnounce | handshakeRequest | handshakeInfo | queryRequest
  | queryResponse | dataPayload | heartbeat | disconnect | metadataPayload | runtimePayload
  deriving DecidableEq, Repr

/-- Its derived `Debug`. -/
def FrameType.debug : FrameType → String
  | .discoveryQuery => "DiscoveryQuery"
  | .discoveryAnnounce => "DiscoveryAnnounce"
  | .handshakeRequest => "HandshakeRequest"
  | .handshakeInfo => "HandshakeInfo"
  | .queryRequest => "QueryRequest"
  | .queryResponse => "QueryResponse"
  | .dataPayload => "DataPayload"
  | .heartbeat => "Heartbeat"
  | .disconnect => "Disconnect"
  | .metadataPayload => "MetadataPayload"
  | .runtimePayload => "RuntimePayload"

/-- `FrameHeaderError`. -/
inductive FrameHeaderError
  | tooShort (got min : ℕ)
  | badMagic
  | versionMismatch (expected got : UInt8)
  | unknownFrameType (value : UInt8)
  deriving DecidableEq, Repr

/-- `frame_type as u8`. -/
def FrameType.toU8 : FrameType → UInt8
  | .discoveryQuery => 1
  | .discoveryAnnounce => 2
  | .handshakeRequest => 3
  | .handshakeInfo => 4
  | .queryRequest => 5
  | .queryResponse => 6
  | .dataPayload => 7
  | .heartbeat => 8
  | .disconnect => 9
  | .metadataPayload => 10
  | .runtimePayload => 11

/-- `FrameType::try_from`. -/
def FrameType.tryFrom (value : UInt8) : Except FrameHeaderError FrameType :=
  match value with
  | 1 => .ok .discoveryQuery
  | 2 => .ok .discoveryAnnounce
  | 3 => .ok .handshakeRequest
  | 4 => .ok .handshakeInfo
  | 5 => .ok .queryRequest
  | 6 => .ok .queryResponse
  | 7 => .ok .dataPayload
  | 8 => .ok .heartbeat
  | 9 => .ok .disconnect
  | 10 => .ok .metadataPayload
  | 11 => .ok .runtimePayload
  | other => .error (.unknownFrameType other)

/-- Every frame type is recognised by its own byte. -/
@[simp] theorem FrameType.tryFrom_toU8 (t : FrameType) : tryFrom t.toU8 = .ok t := by
  cases t <;> rfl

/-- Every byte that is recognised is that of the type it stands for, so no two
bytes share a type. -/
theorem FrameType.toU8_of_tryFrom {v : UInt8} {t : FrameType} (h : tryFrom v = .ok t) :
    t.toU8 = v := by
  unfold tryFrom at h
  split at h <;> first | (rw [← Except.ok.inj h]; rfl) | exact absurd h (by simp)

/-- `FrameHeader`. -/
structure FrameHeader where
  version : UInt8
  frameType : FrameType
  requestId : UInt64
  payloadLen : UInt32
  deriving DecidableEq, Repr

namespace FrameHeader

/-- `FrameHeader::new`. -/
def new (frameType : FrameType) (requestId : UInt64) (payloadLen : UInt32) : FrameHeader :=
  { version := PROTOCOL_VERSION, frameType, requestId, payloadLen }

/-- `FrameHeader::encode`. -/
def encode (h : FrameHeader) : Bytes :=
  FRAME_MAGIC ++ [h.version, h.frameType.toU8] ++ toBytes 8 h.requestId.toNat ++
    toBytes 4 h.payloadLen.toNat

/-- `FrameHeader::decode`; bytes after the header are not looked at. -/
def decode (input : Bytes) : Except FrameHeaderError FrameHeader :=
  if input.length < FRAME_HEADER_LEN then .error (.tooShort input.length FRAME_HEADER_LEN)
  else if slice input 0 4 ≠ FRAME_MAGIC then .error .badMagic
  else if byteAt input 4 ≠ PROTOCOL_VERSION then
    .error (.versionMismatch PROTOCOL_VERSION (byteAt input 4))
  else
    match FrameType.tryFrom (byteAt input 5) with
    | .error e => .error e
    | .ok frameType => .ok
      { version := byteAt input 4
        frameType
        requestId := UInt64.ofNat (ofBytes (slice input 6 14))
        payloadLen := UInt32.ofNat (ofBytes (slice input 14 18)) }

/-- An encoded frame header has its 18 bytes. -/
@[simp] theorem length_encode (h : FrameHeader) : h.encode.length = FRAME_HEADER_LEN := by
  simp [encode, FRAME_MAGIC, FRAME_HEADER_LEN]

/-- **A header is read back** from the front of any byte string it starts;
what follows it is the payload's and is not looked at. -/
theorem decode_encode_append {h : FrameHeader} (hv : h.version = PROTOCOL_VERSION) (rest : Bytes) :
    decode (h.encode ++ rest) = .ok h := by
  have hlen : ¬(h.encode ++ rest).length < FRAME_HEADER_LEN := by simp
  have hmagic : slice (h.encode ++ rest) 0 4 = FRAME_MAGIC := rfl
  have hver : byteAt (h.encode ++ rest) 4 = h.version := rfl
  have htype : byteAt (h.encode ++ rest) 5 = h.frameType.toU8 := rfl
  have hid : slice (h.encode ++ rest) 6 14 = toBytes 8 h.requestId.toNat := rfl
  have hpl : slice (h.encode ++ rest) 14 18 = toBytes 4 h.payloadLen.toNat := rfl
  have hid' : ofBytes (toBytes 8 h.requestId.toNat) = h.requestId.toNat :=
    ofBytes_toBytes_of_lt h.requestId.toNat_lt
  have hpl' : ofBytes (toBytes 4 h.payloadLen.toNat) = h.payloadLen.toNat :=
    ofBytes_toBytes_of_lt h.payloadLen.toNat_lt
  rw [decode, if_neg hlen, if_neg (not_not.2 hmagic), if_neg (by rw [hver, hv]; simp), htype,
    FrameType.tryFrom_toU8, hver, hid, hpl, hid', hpl', UInt64.ofNat_toNat, UInt32.ofNat_toNat]

/-- **Only a header decodes to it**: the accepted bytes are the encoding, of
the current version, followed by anything. -/
theorem encode_of_decode {input : Bytes} {h : FrameHeader} (hd : decode input = .ok h) :
    h.version = PROTOCOL_VERSION ∧ FRAME_HEADER_LEN ≤ input.length ∧
      input = h.encode ++ input.drop FRAME_HEADER_LEN := by
  unfold decode at hd
  split_ifs at hd with hlen hmagic hver
  have hlen : 18 ≤ input.length := Nat.not_lt.1 hlen
  have hmagic : slice input 0 4 = FRAME_MAGIC := not_not.1 hmagic
  have hver : byteAt input 4 = PROTOCOL_VERSION := not_not.1 hver
  cases ht : FrameType.tryFrom (byteAt input 5) with
  | error e => rw [ht] at hd; cases hd
  | ok t =>
    rw [ht] at hd
    obtain rfl := Except.ok.inj hd
    refine ⟨hver, hlen, ?_⟩
    have hid : toBytes 8 (ofBytes (slice input 6 14)) = slice input 6 14 :=
      toBytes_ofBytes_of_length (length_slice (by omega))
    have hpl : toBytes 4 (ofBytes (slice input 14 18)) = slice input 14 18 :=
      toBytes_ofBytes_of_length (length_slice (by omega))
    have hidlt : ofBytes (slice input 6 14) < 2 ^ 64 := by
      simpa [length_slice (show 14 ≤ input.length by omega)] using ofBytes_lt (slice input 6 14)
    have hpllt : ofBytes (slice input 14 18) < 2 ^ 32 := by
      simpa [length_slice hlen] using ofBytes_lt (slice input 14 18)
    have hbytes : [byteAt input 4, byteAt input 5] = slice input 4 6 := by
      rw [← slice_append_slice input (show 4 ≤ 5 by omega) (show 5 ≤ 6 by omega),
        slice_succ (by omega), slice_succ (by omega)]
      rfl
    have henc : slice input 0 18 = FRAME_MAGIC ++ [byteAt input 4, byteAt input 5] ++
        slice input 6 14 ++ slice input 14 18 := by
      rw [← hmagic, hbytes, slice_append_slice input (by omega) (by omega),
        slice_append_slice input (by omega) (by omega),
        slice_append_slice input (by omega) (by omega)]
    rw [encode, FrameType.toU8_of_tryFrom ht, UInt64.toNat_ofNat_of_lt' hidlt,
      UInt32.toNat_ofNat_of_lt' hpllt, hid, hpl, ← henc]
    exact (List.take_append_drop 18 input).symm

/-- Only the first 18 bytes are looked at. -/
theorem decode_append {input : Bytes} (hlen : FRAME_HEADER_LEN ≤ input.length) (rest : Bytes) :
    decode (input ++ rest) = decode input := by
  have hlen' : FRAME_HEADER_LEN ≤ (input ++ rest).length := by
    rw [List.length_append]
    omega
  rw [FRAME_HEADER_LEN] at hlen hlen'
  rw [decode, decode, FRAME_HEADER_LEN, if_neg (Nat.not_lt.2 hlen), if_neg (Nat.not_lt.2 hlen'),
    slice_append (by omega), slice_append (by omega), slice_append (by omega),
    byteAt_append (by omega), byteAt_append (by omega)]

/-- A header that is not accepted although there are bytes enough. -/
theorem ne_tooShort_of_decode {input : Bytes} (hlen : FRAME_HEADER_LEN ≤ input.length)
    {e : FrameHeaderError} (hd : decode input = .error e) (got min : ℕ) :
    e ≠ .tooShort got min := by
  rintro rfl
  rw [decode, if_neg (Nat.not_lt.2 hlen)] at hd
  split_ifs at hd
  · cases hd
  · cases hd
  · cases ht : FrameType.tryFrom (byteAt input 5) with
    | ok t =>
      rw [ht] at hd
      cases hd
    | error e =>
      rw [ht] at hd
      obtain rfl := Except.error.inj hd
      unfold FrameType.tryFrom at ht
      split at ht <;> cases ht

end FrameHeader

/-- `FrameDecodeError`. -/
inductive FrameDecodeError
  | shortHeader (got min : ℕ)
  | badMagic
  | versionMismatch (expected got : UInt8)
  | unknownFrameType (value : UInt8)
  | payloadLengthMismatch (expected actual : ℕ)
  deriving DecidableEq, Repr

/-- `FrameDecodeError::from`. -/
def FrameDecodeError.ofHeaderError : FrameHeaderError → FrameDecodeError
  | .tooShort got min => .shortHeader got min
  | .badMagic => .badMagic
  | .versionMismatch expected got => .versionMismatch expected got
  | .unknownFrameType t => .unknownFrameType t

/-- `encode_frame`: the payload length of the header is set to the payload's,
modulo the `as u32` cast. -/
def encodeFrame (h : FrameHeader) (payload : Bytes) : Bytes :=
  { h with payloadLen := UInt32.ofNat payload.length }.encode ++ payload

/-- `decode_frame`. -/
def decodeFrame (bytes : Bytes) : Except FrameDecodeError (FrameHeader × Bytes) :=
  match FrameHeader.decode bytes with
  | .error e => .error (.ofHeaderError e)
  | .ok header =>
    let payload := bytes.drop FRAME_HEADER_LEN
    if payload.length ≠ header.payloadLen.toNat then
      .error (.payloadLengthMismatch header.payloadLen.toNat payload.length)
    else .ok (header, payload)

/-- **The frame codec**: a byte string decodes to `(h, p)` exactly when it is
`h` followed by `p`, with the current version and `p`'s length in the header. -/
theorem decodeFrame_eq_ok_iff {bytes : Bytes} {h : FrameHeader} {p : Bytes} :
    decodeFrame bytes = .ok (h, p) ↔
      h.version = PROTOCOL_VERSION ∧ h.payloadLen.toNat = p.length ∧ bytes = h.encode ++ p := by
  constructor
  · intro hd
    unfold decodeFrame at hd
    cases hh : FrameHeader.decode bytes with
    | error e => rw [hh] at hd; cases hd
    | ok h' =>
      simp only [hh] at hd
      split_ifs at hd with hlen
      obtain ⟨rfl, rfl⟩ := Prod.mk.inj (Except.ok.inj hd)
      obtain ⟨hv, -, hb⟩ := FrameHeader.encode_of_decode hh
      exact ⟨hv, (not_not.1 hlen).symm, hb⟩
  · rintro ⟨hv, hlen, rfl⟩
    have hdrop : (h.encode ++ p).drop FRAME_HEADER_LEN = p := by
      rw [← h.length_encode, List.drop_left]
    rw [decodeFrame, FrameHeader.decode_encode_append hv]
    simp only [hdrop, hlen, ne_eq, not_true_eq_false, if_false]

/-- An accepted frame is its header and its payload, and nothing behind them.
-/
theorem length_of_decodeFrame {bytes : Bytes} {h : FrameHeader} {p : Bytes}
    (hd : decodeFrame bytes = .ok (h, p)) : bytes.length = FRAME_HEADER_LEN + p.length := by
  rw [(decodeFrame_eq_ok_iff.1 hd).2.2, List.length_append, FrameHeader.length_encode]

/-- An encoded frame is its header and its payload. -/
@[simp] theorem length_encodeFrame (h : FrameHeader) (p : Bytes) :
    (encodeFrame h p).length = FRAME_HEADER_LEN + p.length := by
  rw [encodeFrame, List.length_append, FrameHeader.length_encode]

/-- **An encoded frame decodes** to its payload, its header carrying the
payload's length, as long as that fits 32 bits. -/
theorem decodeFrame_encodeFrame {h : FrameHeader} (hv : h.version = PROTOCOL_VERSION) {p : Bytes}
    (hp : p.length < 2 ^ 32) :
    decodeFrame (encodeFrame h p) =
      .ok ({ h with payloadLen := UInt32.ofNat p.length }, p) :=
  decodeFrame_eq_ok_iff.2 ⟨hv, UInt32.toNat_ofNat_of_lt' hp, rfl⟩

/-- Only an encoded frame decodes. -/
theorem eq_encodeFrame_of_decodeFrame {bytes : Bytes} {h : FrameHeader} {p : Bytes}
    (hd : decodeFrame bytes = .ok (h, p)) : bytes = encodeFrame h p := by
  obtain ⟨-, hlen, hbytes⟩ := decodeFrame_eq_ok_iff.1 hd
  have hheader : { h with payloadLen := UInt32.ofNat p.length } = h := by
    rw [← hlen, UInt32.ofNat_toNat]
  rw [encodeFrame, hheader]
  exact hbytes

/-- **The codec is a bijection onto its format.**  An encoded frame decodes to its payload,
type and request id, with the payload's length in the header; and whatever decodes is the
encoding of what it decodes to, so nothing truncated, extended or concatenated does. -/
theorem decodeFrame_bijective :
    (∀ (h : FrameHeader) (p : Bytes), h.version = PROTOCOL_VERSION → p.length < 2 ^ 32 →
      ∃ h' : FrameHeader, decodeFrame (encodeFrame h p) = .ok (h', p) ∧
        h'.frameType = h.frameType ∧ h'.requestId = h.requestId ∧
        h'.payloadLen.toNat = p.length) ∧
    ∀ (b : Bytes) (h : FrameHeader) (p : Bytes),
      decodeFrame b = .ok (h, p) → b = encodeFrame h p := by
  refine ⟨fun h p hv hp => ?_, fun b h p => eq_encodeFrame_of_decodeFrame⟩
  exact ⟨_, decodeFrame_encodeFrame hv hp, rfl, rfl, UInt32.toNat_ofNat_of_lt' hp⟩

/-- The frame of a heartbeat with two bytes. -/
theorem decodeFrame_bijective_heartbeat :
    let h := FrameHeader.new .heartbeat 7 0
    (∃ h' : FrameHeader, decodeFrame (encodeFrame h [1, 2]) = .ok (h', [1, 2]) ∧
      h'.frameType = .heartbeat ∧ h'.requestId = 7 ∧ h'.payloadLen.toNat = 2) ∧
    encodeFrame h [1, 2] = encodeFrame (FrameHeader.new .heartbeat 7 2) [1, 2] :=
  ⟨decodeFrame_bijective.1 (FrameHeader.new .heartbeat 7 0) [1, 2] rfl (by decide),
    decodeFrame_bijective.2 _ _ _ (by decide +kernel)⟩

end Clustat
