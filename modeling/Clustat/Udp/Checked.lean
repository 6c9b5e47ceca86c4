/-
# The receiver with its panics

The functions of `crates/common/src/udp.rs` and `crates/common/src/protocol.rs` that take a
datagram apart, once more and with every slice, index and `expect` they contain: a
`..Checked` function is `none` where the source would panic.  The other modules read past
an end as zero and take the slots of a complete group for granted; here both are earned.

Nothing a datagram contains makes the decoders panic: they look at the length first
(`decodeChecked_eq`, `decodeFrameChecked_eq`).  `ChunkGroup::insert` writes to the slot the
header names, in a vector that the header of another datagram has sized, so it needs
the invariant `ChunkGroup.Sized`: as many slots as the group's number of chunks.  All
groups of a reassembler are `WellFormed` from the start and stay so, whatever is inserted
and however the insert ends (`WellFormed.insert`).
-/

import Clustat.Lib.Checked
import Clustat.Udp.Reassembler

namespace Clustat

open Checked BigEndian

/-! ### The decoders -/

/-- `FrameHeader::decode`. -/
def FrameHeader.decodeChecked (input : Bytes) : Option (Except FrameHeaderError FrameHeader) :=
  if input.length < FRAME_HEADER_LEN then
    some (.error (.tooShort input.length FRAME_HEADER_LEN))
  else do
    let magic ← range input 0 4
    if magic ≠ FRAME_MAGIC then return .error .badMagic
    else
      let version ← index input 4
      if version ≠ PROTOCOL_VERSION then
        return .error (.versionMismatch PROTOCOL_VERSION version)
      else
        match FrameType.tryFrom (← index input 5) with
        | .error e => return .error e
        | .ok frameType =>
          let requestId ← field 8 input 6 14
          let payloadLen ← field 4 input 14 18
          return .ok
            { version
              frameType
              requestId := UInt64.ofNat requestId
              payloadLen := UInt32.ofNat payloadLen }

/-- `decode_frame`. -/
def decodeFrameChecked (bytes : Bytes) :
    Option (Except FrameDecodeError (FrameHeader × Bytes)) := do
  match ← FrameHeader.decodeChecked bytes with
  | .error e => return .error (.ofHeaderError e)
  | .ok header =>
    let payload ← rangeFrom bytes FRAME_HEADER_LEN
    if payload.length ≠ header.payloadLen.toNat then
      return .error (.payloadLengthMismatch header.payloadLen.toNat payload.length)
    else return .ok (header, payload)

/-- The slices of `FrameHeader::decode` never leave the input: the length
check in front of them gives each field its bytes, whatever the bytes are. -/
theorem FrameHeader.decodeChecked_eq (input : Bytes) :
    FrameHeader.decodeChecked input = some (FrameHeader.decode input) := by
  unfold FrameHeader.decodeChecked FrameHeader.decode
  by_cases hshort : input.length < FRAME_HEADER_LEN
  · rw [if_pos hshort, if_pos hshort]
  · have hlen : 18 ≤ input.length := Nat.not_lt.1 hshort
    rw [if_neg hshort, if_neg hshort]
    simp only [range_of_le (Nat.zero_le 4) (hlen.trans' (by decide)),
      index_of_lt (show 4 < input.length by omega), index_of_lt (show 5 < input.length by omega),
      field_of_le (show 6 + 8 = 14 from rfl) (hlen.trans' (by decide)),
      field_of_le (show 14 + 4 = 18 from rfl) hlen, Option.bind_eq_bind, Option.bind_some,
      Option.pure_def]
    by_cases hmagic : slice input 0 4 ≠ FRAME_MAGIC
    · rw [if_pos hmagic, if_pos hmagic]
    · rw [if_neg hmagic, if_neg hmagic]
      by_cases hver : byteAt input 4 ≠ PROTOCOL_VERSION
      · rw [if_pos hver, if_pos hver]
      · rw [if_neg hver, if_neg hver]
        cases FrameType.tryFrom (byteAt input 5) <;> rfl

/-- **`decode_frame` does not panic**, on any bytes: the slice of the payload
is taken after the length has been compared. -/
theorem decodeFrameChecked_eq (bytes : Bytes) :
    decodeFrameChecked bytes = some (decodeFrame bytes) := by
  rw [decodeFrameChecked, FrameHeader.decodeChecked_eq, decodeFrame, Option.bind_eq_bind,
    Option.bind_some]
  cases hd : FrameHeader.decode bytes with
  | error e => rfl
  | ok header =>
    have hlen := (FrameHeader.encode_of_decode hd).2.1
    simp only [rangeFrom_of_le hlen, Option.bind_eq_bind, Option.bind_some, Option.pure_def]
    split_ifs <;> rfl

namespace Udp

/-- `UdpChunkHeader::decode`. -/
def UdpChunkHeader.decodeChecked (input : Bytes) :
    Option (Except UdpChunkError UdpChunkHeader) :=
  if input.length < UDP_CHUNK_HEADER_LEN then
    some (.error (.shortDatagram input.length UDP_CHUNK_HEADER_LEN))
  else do
    let magic ← range input 0 4
    if magic ≠ UDP_CHUNK_MAGIC then return .error .badMagic
    else
      let version ← index input 4
      if version ≠ PROTOCOL_VERSION then
        return .error (.versionMismatch PROTOCOL_VERSION version)
      else
        let value ← index input 5
        match FrameType.tryFrom value with
        | .error _ => return .error (.unknownFrameType value)
        | .ok frameType =>
          let requestId ← field 8 input 6 14
          let frameLen ← field 4 input 14 18
          let chunkId ← field 2 input 18 20
          let totalChunks ← field 2 input 20 22
          let payloadLen ← field 2 input 22 24
          let prevChecksum ← field 4 input 24 28
          let nextChecksum ← field 4 input 28 32
          let h : UdpChunkHeader :=
            { version
              frameType
              requestId := UInt64.ofNat requestId
              frameLen := UInt32.ofNat frameLen
              chunkId := UInt16.ofNat chunkId
              totalChunks := UInt16.ofNat totalChunks
              payloadLen := UInt16.ofNat payloadLen
              prevChecksum := UInt32.ofNat prevChecksum
              nextChecksum := UInt32.ofNat nextChecksum }
          -- none of the checks of the layout can panic: the subtraction saturates
          return if h.totalChunks = 0 then .error .invalidChunkLayout
            else if h.totalChunks ≤ h.chunkId then .error .invalidChunkLayout
            else if input.length ≠ UDP_CHUNK_HEADER_LEN + h.payloadLen.toNat then
              .error (.payloadLengthMismatch h.payloadLen.toNat
                (input.length - UDP_CHUNK_HEADER_LEN))
            else .ok h

/-- **The header decoder does not panic**, on any datagram: each slice lies
inside the length that it has checked first. -/
theorem UdpChunkHeader.decodeChecked_eq (input : Bytes) :
    UdpChunkHeader.decodeChecked input = some (UdpChunkHeader.decode input) := by
  unfold UdpChunkHeader.decodeChecked UdpChunkHeader.decode
  by_cases hshort : input.length < UDP_CHUNK_HEADER_LEN
  · rw [if_pos hshort, if_pos hshort]
  · have hlen : 32 ≤ input.length := Nat.not_lt.1 hshort
    rw [if_neg hshort, if_neg hshort]
    have hfield : ∀ {w i j : ℕ}, i + w = j → j ≤ 32 →
        field w input i j = some (ofBytes (slice input i j)) := fun hw hj =>
      field_of_le hw (hj.trans hlen)
    simp only [range_of_le (Nat.zero_le 4) (hlen.trans' (by decide)),
      index_of_lt (show 4 < input.length by omega), index_of_lt (show 5 < input.length by omega),
      hfield (show 6 + 8 = 14 from rfl) (by decide), hfield (show 14 + 4 = 18 from rfl) (by decide),
      hfield (show 18 + 2 = 20 from rfl) (by decide),
      hfield (show 20 + 2 = 22 from rfl) (by decide),
      hfield (show 22 + 2 = 24 from rfl) (by decide),
      hfield (show 24 + 4 = 28 from rfl) (by decide),
      hfield (show 28 + 4 = 32 from rfl) (by decide), Option.bind_eq_bind, Option.bind_some,
      Option.pure_def]
    by_cases hmagic : slice input 0 4 ≠ UDP_CHUNK_MAGIC
    · rw [if_pos hmagic, if_pos hmagic]
    · rw [if_neg hmagic, if_neg hmagic]
      by_cases hver : byteAt input 4 ≠ PROTOCOL_VERSION
      · rw [if_pos hver, if_pos hver]
      · rw [if_neg hver, if_neg hver]
        cases FrameType.tryFrom (byteAt input 5) <;> rfl

/-- `datagram[UDP_CHUNK_HEADER_LEN..]` after the header was decoded. -/
theorem rangeFrom_of_decode {datagram : Bytes} {h : UdpChunkHeader}
    (hd : UdpChunkHeader.decode datagram = .ok h) :
    rangeFrom datagram UDP_CHUNK_HEADER_LEN = some (payloadOf datagram) :=
  rangeFrom_of_le (by rw [(UdpChunkHeader.encode_of_decode hd).2.1]; omega)

/-- `decode_udp_single_chunk_ref`. -/
def decodeUdpSingleChunkRefChecked (crc : Crc32) (datagram : Bytes) :
    Option (Except UdpChunkError (Option Bytes)) := do
  match ← UdpChunkHeader.decodeChecked datagram with
  | .error e => return .error e
  | .ok header =>
    if header.totalChunks ≠ 1 then return .ok none
    else
      let frame ← rangeFrom datagram UDP_CHUNK_HEADER_LEN
      if header.prevChecksum ≠ crc.hash frame ∨ header.nextChecksum ≠ crc.hash frame then
        return .error .checksumMismatch
      else
        match ← decodeFrameChecked frame with
        | .error e => return .error (.frame e)
        | .ok (decoded, _) =>
          if decoded.frameType ≠ header.frameType ∨ decoded.requestId ≠ header.requestId then
            return .error .metadataMismatch
          else return .ok (some frame)

/-- **The single-chunk decoder does not panic**, on any datagram; it cuts the
payload out of what the header decoder has accepted. -/
theorem decodeUdpSingleChunkRefChecked_eq (crc : Crc32) (datagram : Bytes) :
    decodeUdpSingleChunkRefChecked crc datagram = some (decodeUdpSingleChunkRef crc datagram) := by
  rw [decodeUdpSingleChunkRefChecked, UdpChunkHeader.decodeChecked_eq, decodeUdpSingleChunkRef,
    Option.bind_eq_bind, Option.bind_some]
  cases hd : UdpChunkHeader.decode datagram with
  | error e => rfl
  | ok header =>
    simp only [rangeFrom_of_decode hd, decodeFrameChecked_eq, Option.bind_eq_bind,
      Option.bind_some, Option.pure_def]
    cases decodeFrame (payloadOf datagram) with
    | error e =>
      dsimp only
      split_ifs <;> rfl
    | ok decoded =>
      dsimp only
      split_ifs <;> rfl

/-! ### A group -/

/-- `if idx == 0 { total - 1 } else { idx - 1 }`. -/
def prevIdxChecked (total idx : ℕ) : Option ℕ := if idx = 0 then sub total 1 else sub idx 1

/-- The index before `idx` is computed without an underflow or a division by
zero, for an `idx` below `total`. -/
theorem prevIdxChecked_eq {total idx : ℕ} (h : idx < total) :
    prevIdxChecked total idx = some (prevIdx total idx) := by
  unfold prevIdxChecked prevIdx
  split_ifs with h0
  · exact sub_of_le (by omega)
  · exact sub_of_le (by omega)

namespace ChunkGroup

/-- One turn of the loop of `verify_all`.  `chunks[idx]` is itself an `Option`, and
`expect` of an `Option` is that `Option`. -/
def checkSlot (crc : Crc32) (g : ChunkGroup) (idx : ℕ) : Option (Except UdpChunkError Unit) := do
  let total := g.chunks.length
  let slot ← (← index g.chunks idx)
  let prevSlot ← (← index g.chunks (← prevIdxChecked total idx))
  let nextSlot ← (← index g.chunks (nextIdx total idx))
  if crc.hash prevSlot.payload ≠ slot.prevChecksum ∨
      crc.hash nextSlot.payload ≠ slot.nextChecksum then
    return .error .checksumMismatch
  else return .ok ()

/-- `ChunkGroup::verify_all`. -/
def verifyAllChecked (crc : Crc32) (g : ChunkGroup) : Option (Except UdpChunkError Unit) :=
  forEach (g.checkSlot crc) (List.range g.chunks.length)

/-- `ChunkGroup::insert` from the completeness check on. -/
def finishChecked (crc : Crc32) (g : ChunkGroup) :
    Option (Except UdpChunkError (Option Bytes)) :=
  if !g.isComplete then some (.ok none)
  else do
    match ← g.verifyAllChecked crc with
    | .error e => return .error e
    | .ok () =>
      match ← decodeFrameChecked g.assemble with
      | .error e => return .error (.frame e)
      | .ok (decoded, _) =>
        if decoded.frameType ≠ g.frameType ∨ decoded.requestId ≠ g.requestId then
          return .error .metadataMismatch
        else return .ok (some g.assemble)

/-- `ChunkGroup::insert`. -/
def insertChecked (crc : Crc32) (g : ChunkGroup) (header : UdpChunkHeader) (payload : Bytes) :
    Option (ChunkGroup × Except UdpChunkError (Option Bytes)) :=
  if ¬g.Describes header then some (g, .error .metadataMismatch)
  else do
    let slot : ChunkSlot := ⟨payload, header.prevChecksum, header.nextChecksum⟩
    let chunks ← assign g.chunks header.chunkId.toNat (some slot)
    let g := { g with chunks }
    let out ← g.finishChecked crc
    return (g, out)

/-- As many slots as chunks, and at least one. -/
structure Sized (g : ChunkGroup) : Prop where
  total_pos : 1 ≤ g.totalChunks.toNat
  length_chunks : g.chunks.length = g.totalChunks.toNat

variable {crc : Crc32} {g : ChunkGroup}

/-- An index and the `expect` after it, in a complete group. -/
theorem index_of_complete (hc : g.isComplete = true) {idx : ℕ} (hidx : idx < g.chunks.length) :
    ∃ slot, index g.chunks idx = some (some slot) ∧ g.slotAt idx = some slot := by
  obtain ⟨slot, hslot⟩ := Option.isSome_iff_exists.1 (isComplete_iff.1 hc idx hidx)
  refine ⟨slot, ?_, hslot⟩
  rw [slotAt, List.getElem?_eq_getElem hidx] at hslot
  rw [index, List.getElem?_eq_getElem hidx, show g.chunks[idx] = some slot from hslot]

/-- **Every `expect` of `verify_all` holds** in a complete group: the slot and
both of its neighbours are filled, and their indices lie on the ring. -/
theorem checkSlot_eq (hc : g.isComplete = true) {idx : ℕ} (hidx : idx < g.chunks.length) :
    g.checkSlot crc idx =
      some (if g.neighboursMatch crc idx then .ok () else .error .checksumMismatch) := by
  obtain ⟨slot, hslot, hslot'⟩ := index_of_complete hc hidx
  obtain ⟨prev, hprev, hprev'⟩ := index_of_complete hc (prevIdx_lt hidx)
  obtain ⟨next, hnext, hnext'⟩ := index_of_complete hc (nextIdx_lt hidx)
  simp only [checkSlot, neighboursMatch, hslot, hslot', prevIdxChecked_eq hidx, hprev, hprev',
    hnext, hnext', Option.bind_eq_bind, Option.bind_some, Option.pure_def, ne_eq, ← not_and_or,
    ite_not, Bool.and_eq_true, beq_iff_eq]
  split_ifs <;> rfl

/-- `verify_all` unwraps a slot and indexes its two neighbours; in a complete
group none of the three can panic, and the check is the unchecked one. -/
theorem verifyAllChecked_eq (hc : g.isComplete = true) :
    g.verifyAllChecked crc = some (g.verifyAll crc) :=
  forEach_of_checks fun _ hidx => checkSlot_eq hc (List.mem_range.1 hidx)

/-- The last steps of `insert` on a group never panic: `verify_all` and the
assembly are only reached when every slot is filled. -/
theorem finishChecked_eq (crc : Crc32) (g : ChunkGroup) :
    g.finishChecked crc = some (g.finish crc) := by
  unfold finishChecked finish
  cases hc : g.isComplete with
  | false => rfl
  | true =>
    simp only [Bool.not_true, Bool.false_eq_true, if_false, verifyAllChecked_eq hc,
      decodeFrameChecked_eq, Option.bind_eq_bind, Option.bind_some, Option.pure_def]
    cases g.verifyAll crc with
    | error e => rfl
    | ok u =>
      cases decodeFrame g.assemble with
      | error e => rfl
      | ok decoded =>
        dsimp only
        split_ifs <;> rfl

/-- **An insert does not panic** in a group that has a slot for each of its
chunks: the chunk id is below their number, and `verify_all` runs on complete
groups only. -/
theorem insertChecked_eq (hg : g.Sized) {header : UdpChunkHeader} (hv : header.Valid)
    (payload : Bytes) :
    g.insertChecked crc header payload = some (g.insert crc header payload) := by
  unfold insertChecked insert
  by_cases hdesc : g.Describes header
  · have hidx : header.chunkId.toNat < g.chunks.length := by
      rw [hg.length_chunks, ← hdesc.2.2.2]
      exact hv.chunk_lt
    have hfinish := finishChecked_eq crc (g.store header payload)
    rw [store] at hfinish
    simp only [hdesc, not_true_eq_false, if_false, if_true, assign_of_lt hidx, hfinish, store,
      Option.bind_eq_bind, Option.bind_some, Option.pure_def]
  · rw [if_pos hdesc, if_neg hdesc]

/-- A new group has a slot for each chunk its header announces, and at least
one, since a valid header announces at least one. -/
theorem Sized.new {header : UdpChunkHeader} (hv : header.Valid) :
    (ChunkGroup.new header).Sized where
  total_pos := Nat.pos_of_ne_zero fun h => hv.total_pos (UInt16.toNat_inj.1 h)
  length_chunks := List.length_replicate

/-- An insert keeps the number of slots, whether it fails or not. -/
theorem Sized.insert (hg : g.Sized) (crc : Crc32) (header : UdpChunkHeader) (payload : Bytes) :
    (g.insert crc header payload).1.Sized := by
  unfold ChunkGroup.insert
  split_ifs
  · exact ⟨hg.total_pos, List.length_set.trans hg.length_chunks⟩
  · exact hg

/-- An insert into a group leaves its request id alone. -/
theorem requestId_insert (crc : Crc32) (g : ChunkGroup) (header : UdpChunkHeader)
    (payload : Bytes) : (g.insert crc header payload).1.requestId = g.requestId := by
  unfold ChunkGroup.insert
  split_ifs <;> rfl

end ChunkGroup

/-! ### The reassembler -/

namespace UdpFrameReassembler

/-- `UdpFrameReassembler::insert`. -/
def insertChecked (crc : Crc32) (r : UdpFrameReassembler) (datagram : Bytes) :
    Option (UdpFrameReassembler × Except UdpChunkError (Option Bytes)) := do
  match ← UdpChunkHeader.decodeChecked datagram with
  | .error e => return (r, .error e)
  | .ok header =>
    let payload ← rangeFrom datagram UDP_CHUNK_HEADER_LEN
    let group := (r.groups header.requestId).getD (.new header)
    let out ← group.insertChecked crc header payload
    return ({ r with groups := Function.update r.groups header.requestId (some out.1) }, out.2)

/-- Each group is stored under its own request id and has exactly its number of slots. -/
def WellFormed (r : UdpFrameReassembler) : Prop :=
  ∀ id g, r.groups id = some g → g.requestId = id ∧ g.Sized

variable {crc : Crc32} {r : UdpFrameReassembler}

/-- A reassembler that has received nothing is well formed, as it has no
groups. -/
theorem WellFormed.new (now timeout : ℕ) : (UdpFrameReassembler.new now timeout).WellFormed :=
  fun _ _ h => nomatch h

/-- The group an insert goes to, opened if there is none. -/
theorem WellFormed.getD (hr : r.WellFormed) {header : UdpChunkHeader} (hv : header.Valid) :
    let group := (r.groups header.requestId).getD (.new header)
    group.requestId = header.requestId ∧ group.Sized := by
  intro group
  cases hg : r.groups header.requestId with
  | none =>
    have hgroup : group = .new header := by simp [group, hg]
    exact hgroup ▸ ⟨rfl, .new hv⟩
  | some g =>
    have hgroup : group = g := by simp [group, hg]
    exact hgroup ▸ hr _ _ hg

/-- **Every insert keeps the groups well-formed**, the failing ones included:
a group has the slots that its opening header announces, and is stored under
its own request id. -/
theorem WellFormed.insert (hr : r.WellFormed) (crc : Crc32) (datagram : Bytes) :
    (r.insert crc datagram).1.WellFormed := by
  unfold UdpFrameReassembler.insert
  cases hd : UdpChunkHeader.decode datagram with
  | error e => exact hr
  | ok header =>
    obtain ⟨hid, hsized⟩ := hr.getD (UdpChunkHeader.encode_of_decode hd).1
    intro id g hg
    dsimp only at hg
    by_cases hheader : id = header.requestId
    · subst hheader
      rw [Function.update_self] at hg
      obtain rfl := Option.some.inj hg
      exact ⟨(ChunkGroup.requestId_insert ..).trans hid, hsized.insert ..⟩
    · rw [Function.update_of_ne hheader] at hg
      exact hr id g hg

/-- **An insert does not panic** in a well-formed reassembler, on any datagram,
because the group it goes to has a slot for each of its chunks. -/
theorem insertChecked_eq (hr : r.WellFormed) (crc : Crc32) (datagram : Bytes) :
    r.insertChecked crc datagram = some (r.insert crc datagram) := by
  rw [insertChecked, UdpChunkHeader.decodeChecked_eq, UdpFrameReassembler.insert,
    Option.bind_eq_bind, Option.bind_some]
  cases hd : UdpChunkHeader.decode datagram with
  | error e => rfl
  | ok header =>
    have hv := (UdpChunkHeader.encode_of_decode hd).1
    simp only [rangeFrom_of_decode hd, ChunkGroup.insertChecked_eq (hr.getD hv).2 hv,
      Option.bind_eq_bind, Option.bind_some, Option.pure_def]

/-- **Every reachable reassembler is well formed**: by induction on the
datagrams it was given, whatever they hold. -/
theorem WellFormed.run (hr : r.WellFormed) (crc : Crc32) (history : List Bytes) :
    (r.run crc history).WellFormed := by
  induction history generalizing r with
  | nil => exact hr
  | cons d ds ih => exact ih (hr.insert crc d)

end UdpFrameReassembler

end Udp
end Clustat
