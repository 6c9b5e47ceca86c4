/-
# Payloads

`crates/common/src/protocol.rs`: what is inside a frame.  Requests and error
responses are JSON, metadata and runtime snapshots are rkyv archives of at most
`u16::MAX` bytes.  The crates `serde_json` and `rkyv` are not part of the
repository: a `Codec` is their pair of functions for one type, and `Wire` has
one for each type that is sent.  `Codec.Lawful` is the round trip the two sides
of a connection rely on.
-/

import Clustat.Common.Frame
import Clustat.Common.Snapshot

namespace Clustat

/-- `QueryRequest`. -/
structure QueryRequest where
  version : UInt8
  requestId : UInt64
  deriving DecidableEq, Repr

/-- `ResponseStatus`. -/
inductive ResponseStatus
  | ok | error
  deriving DecidableEq, Repr

/-- `QueryResponse`. -/
structure QueryResponse where
  version : UInt8
  requestId : UInt64
  status : ResponseStatus
  error : Option ErrorCode
  deriving DecidableEq, Repr

/-- `QueryResponse::error`. -/
def QueryResponse.ofError (requestId : UInt64) (error : ErrorCode) : QueryResponse where
  version := PROTOCOL_VERSION
  requestId := requestId
  status := .error
  error := some error

/-- `HandshakeRequest`. -/
structure HandshakeRequest where
  version : UInt8
  deriving DecidableEq, Repr

/-- `HandshakeRequest::current`. -/
def HandshakeRequest.current : HandshakeRequest where
  version := PROTOCOL_VERSION

/-- `validate_protocol_version`. -/
def validateProtocolVersion (version : UInt8) : Except ErrorCode Unit :=
  if version = PROTOCOL_VERSION then .ok () else .error .protocolVersionMismatch

/-- `HandshakeRequest::validate`. -/
def HandshakeRequest.validate (r : HandshakeRequest) : Except ErrorCode Unit :=
  validateProtocolVersion r.version

/-- A serialiser and a deserialiser that report failure with a message. -/
structure Codec (α : Type) where
  toBytes : α → Except String Bytes
  fromBytes : Bytes → Except String α

/-- What is serialised is not empty and is read back. -/
def Codec.Lawful {α : Type} (c : Codec α) : Prop :=
  ∀ v b, c.toBytes v = .ok b → b ≠ [] ∧ c.fromBytes b = .ok v

/-- An archiver, as far as the number of its bytes goes. -/
def Codec.ofSize {α : Type} (size : α → ℕ) : Codec α where
  toBytes v := .ok (List.replicate (size v) 0)
  fromBytes _ := .error "not read"

/-- A codec of finitely many values. -/
def Codec.table {α : Type} [DecidableEq α] (entries : List (α × Bytes)) : Codec α where
  toBytes v :=
    match entries.find? fun e => e.1 = v with
    | some e => .ok e.2
    | none => .error "not in the table"
  fromBytes b :=
    match entries.find? fun e => e.2 = b with
    | some e => .ok e.1
    | none => .error "not in the table"

/-- What a codec given by a table writes is in the table. -/
theorem Codec.mem_of_table {α : Type} [DecidableEq α] {entries : List (α × Bytes)} {v : α}
    {b : Bytes} (h : (Codec.table entries).toBytes v = .ok b) : (v, b) ∈ entries := by
  simp only [Codec.table] at h
  cases hf : entries.find? fun e => e.1 = v with
  | none => simp [hf] at h
  | some e =>
    simp only [hf] at h
    obtain rfl := Except.ok.inj h
    have hv : e.1 = v := by simpa using List.find?_some hf
    exact hv ▸ List.mem_of_find?_eq_some hf

/-- The first value of a table is written. -/
theorem Codec.toBytes_table_cons {α : Type} [DecidableEq α] (v : α) (b : Bytes)
    (entries : List (α × Bytes)) : (Codec.table ((v, b) :: entries)).toBytes v = .ok b := by
  simp [Codec.table]

/-- The first text of a table is read back. -/
theorem Codec.fromBytes_table_cons {α : Type} [DecidableEq α] (v : α) (b : Bytes)
    (entries : List (α × Bytes)) : (Codec.table ((v, b) :: entries)).fromBytes b = .ok v := by
  simp [Codec.table]

/-- A table without empty texts and without two values for one text is a codec. -/
theorem Codec.lawful_table {α : Type} [DecidableEq α] {entries : List (α × Bytes)}
    (h : ∀ e ∈ entries, e.2 ≠ [] ∧ ∀ e' ∈ entries, e'.2 = e.2 → e' = e) :
    (Codec.table entries).Lawful := by
  intro v b hb
  have hmem := Codec.mem_of_table hb
  obtain ⟨hne, huniq⟩ := h _ hmem
  refine ⟨hne, ?_⟩
  have hfind : entries.find? (fun e => e.2 = b) = some (v, b) := by
    cases hf : entries.find? fun e => e.2 = b with
    | none => exact absurd hmem fun hmem => by simpa using List.find?_eq_none.1 hf _ hmem
    | some e => rw [huniq e (List.mem_of_find?_eq_some hf) (by simpa using List.find?_some hf)]
  simp only [Codec.table, hfind]

/-- The serialisers of a node: `serde_json` for the first three types and `rkyv`
for the last two. -/
structure Wire where
  handshakeRequest : Codec HandshakeRequest
  queryRequest : Codec QueryRequest
  queryResponse : Codec QueryResponse
  metadata : Codec HostMetadata
  runtime : Codec RuntimeSnapshot

/-- The JSON text of a `QueryResponse` is short: two small integers, a status and
the name of an error code. -/
def Wire.ShortResponses (w : Wire) : Prop :=
  ∀ r b, w.queryResponse.toBytes r = .ok b → b.length ≤ 128

/-- `PayloadEncodeError`. -/
inductive PayloadEncodeError
  | payloadTooLarge (len max : ℕ)
  | serializeFailed (message : String)
  deriving DecidableEq, Repr

/-- `PayloadDecodeError`. -/
inductive PayloadDecodeError
  | empty
  | deserializeFailed (message : String)
  deriving DecidableEq, Repr

/-- `encode_rkyv_payload`. -/
def encodeRkyvPayload {α : Type} (c : Codec α) (value : α) : Except PayloadEncodeError Bytes :=
  match c.toBytes value with
  | .error message => .error (.serializeFailed message)
  | .ok bytes =>
    if MAX_PAYLOAD_LEN < bytes.length then .error (.payloadTooLarge bytes.length MAX_PAYLOAD_LEN)
    else .ok bytes

/-- `decode_rkyv_payload`. -/
def decodeRkyvPayload {α : Type} (c : Codec α) (bytes : Bytes) : Except PayloadDecodeError α :=
  if bytes = [] then .error .empty
  else
    match c.fromBytes bytes with
    | .error message => .error (.deserializeFailed message)
    | .ok value => .ok value

/-- `encode_metadata_payload`. -/
def encodeMetadataPayload (w : Wire) (metadata : HostMetadata) : Except PayloadEncodeError Bytes :=
  encodeRkyvPayload w.metadata metadata

/-- `decode_metadata_payload`. -/
def decodeMetadataPayload (w : Wire) (bytes : Bytes) : Except PayloadDecodeError HostMetadata :=
  decodeRkyvPayload w.metadata bytes

/-- `encode_runtime_payload`. -/
def encodeRuntimePayload (w : Wire) (snapshot : RuntimeSnapshot) :
    Except PayloadEncodeError Bytes :=
  encodeRkyvPayload w.runtime snapshot

/-- `decode_runtime_payload`. -/
def decodeRuntimePayload (w : Wire) (bytes : Bytes) : Except PayloadDecodeError RuntimeSnapshot :=
  decodeRkyvPayload w.runtime bytes

section Codec

variable {α : Type} {c : Codec α} {value : α} {bytes : Bytes}

/-- **When a payload is accepted**: rkyv has written it, and it is not longer
than `MAX_PAYLOAD_LEN`. -/
theorem encodeRkyvPayload_eq_ok_iff : encodeRkyvPayload c value = .ok bytes ↔
    c.toBytes value = .ok bytes ∧ bytes.length ≤ MAX_PAYLOAD_LEN := by
  unfold encodeRkyvPayload
  cases hb : c.toBytes value with
  | error message => simp
  | ok b =>
    dsimp only
    split_ifs with hlen
    · refine ⟨fun he => he.elim, ?_⟩
      rintro ⟨he, hle⟩
      obtain rfl := Except.ok.inj he
      exact absurd hlen (Nat.not_lt.2 hle)
    · refine ⟨fun he => ?_, fun he => ?_⟩
      · obtain rfl := Except.ok.inj he
        exact ⟨rfl, Nat.not_lt.1 hlen⟩
      · rw [Except.ok.inj he.1]

/-- **A payload is read back** to the value it was written from, if the
archiver reads what it writes. -/
theorem decodeRkyvPayload_encode (hc : c.Lawful) (he : encodeRkyvPayload c value = .ok bytes) :
    decodeRkyvPayload c bytes = .ok value := by
  obtain ⟨hne, hfrom⟩ := hc _ _ (encodeRkyvPayload_eq_ok_iff.1 he).1
  rw [decodeRkyvPayload, if_neg hne, hfrom]

end Codec

end Clustat
