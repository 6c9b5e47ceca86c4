/-
# What the metadata hash covers

`metadata_hash` of `crates/common/src/protocol.rs` hashes the hostname, the driver version and
four fields of each resource with FNV-1a, and closes each of them with the byte `0xff`.  A
client fetches the metadata anew only if the hash of a runtime snapshot is another one
(`query_connected`), so the hash has to tell different metadata apart as far as 64 bits can.

The bytes that are hashed do (`metadataStream_eq_iff`): in the UTF-8 of a text there is no
`0xff`, and the index and the memory, which may have one, are fields of a fixed length.  Only
a missing driver version or uuid and an empty one are the same to it.  As the prime of FNV is
odd, a step of the hash can be undone, and metadata that differ in a single byte have different
hashes (`metadataHash_ne_of_one_byte`).
-/

import Clustat.Lib.Fields
import Clustat.Common.Snapshot
import Clustat.Common.Text

namespace Clustat

/-- In UTF-8 no byte is `0xff`. -/
theorem ff_notMem_utf8EncodeChar (c : Char) : 0xff ∉ String.utf8EncodeChar c := by
  have hbyte : (0xff : UInt8).toNat = 255 := rfl
  have hval : c.val.toNat < 0x110000 := by
    have := c.valid
    simp only [UInt32.isValidChar, Nat.isValidChar] at this
    omega
  intro h
  unfold String.utf8EncodeChar at h
  dsimp only at h
  split_ifs at h <;> simp only [List.mem_cons, List.not_mem_nil, or_false, ← UInt8.toNat_inj,
    UInt8.toNat_ofNat', hbyte] at h <;> omega

namespace HostMetadata

/-- The bytes of a string, character by character, are its UTF-8 encoding. -/
theorem asBytes_eq_utf8 (s : String) : asBytes s = utf8 s := by
  have hbytes : (utf8 s).toByteArray = s.toByteArray := String.utf8Encode_toList
  rw [asBytes, String.toUTF8_eq_toByteArray, ← hbytes, List.toList_data_toByteArray]

/-- The byte `0xff` is in no string, which makes it a separator. -/
theorem ff_notMem_asBytes (s : String) : 0xff ∉ asBytes s := by
  rw [asBytes_eq_utf8]
  intro h
  obtain ⟨c, -, hc⟩ := List.mem_flatMap.1 h
  exact ff_notMem_utf8EncodeChar c hc

/-- Different strings have different bytes. -/
theorem asBytes_inj {s t : String} : asBytes s = asBytes t ↔ s = t := by
  refine ⟨fun h => ?_, congrArg asBytes⟩
  rw [asBytes_eq_utf8, asBytes_eq_utf8] at h
  exact Option.some.inj (by rw [← fromUtf8_utf8 s, h, fromUtf8_utf8])

/-- A number is known from its bytes. -/
theorem mod_eq_of_bytes {w m n : ℕ}
    (h : ∀ i < w, m / 256 ^ i % 256 = n / 256 ^ i % 256) : m % 256 ^ w = n % 256 ^ w := by
  induction w with
  | zero => rw [Nat.pow_zero, Nat.mod_one, Nat.mod_one]
  | succ w ih =>
    rw [Nat.mod_pow_succ, Nat.mod_pow_succ, h w (Nat.lt_succ_self w),
      ih fun i hi => h i (Nat.lt_succ_of_lt hi)]

/-- Different numbers have different little-endian bytes. -/
theorem toLeBytes_inj {m n : UInt64} : toLeBytes m = toLeBytes n ↔ m = n := by
  refine ⟨fun h => ?_, congrArg toLeBytes⟩
  have hbyte : ∀ i < 8, m.toNat / 256 ^ i % 256 = n.toNat / 256 ^ i % 256 := by
    intro i hi
    have := List.map_inj_left.1 h i (List.mem_range.2 hi)
    simpa only [← UInt8.toNat_inj, UInt8.toNat_ofNat'] using this
  have hmod := mod_eq_of_bytes hbyte
  have hsize : 256 ^ 8 = 2 ^ 64 := rfl
  rw [hsize, Nat.mod_eq_of_lt m.toNat_lt, Nat.mod_eq_of_lt n.toNat_lt] at hmod
  exact UInt64.toNat_inj.1 hmod

/-! ### The stream -/

/-- The fields of a resource that are hashed. -/
def gresFields (g : GresStaticInfo) : List (List UInt8) :=
  [[g.index], asBytes g.name, asBytes (g.uuid.getD ""), toLeBytes g.memoryTotalMb]

/-- The fields that are hashed. -/
def hashedFields (m : HostMetadata) : List (List UInt8) :=
  asBytes m.hostname :: asBytes (m.driverVersion.getD "") :: m.gres.flatMap gresFields

/-- The bytes that are hashed. -/
def metadataStream (m : HostMetadata) : List UInt8 := Fields.close 0xff m.hashedFields

/-- `write_bytes` hashes the bytes of a field and then the separator. -/
theorem writeBytes_eq (hash : UInt64) (bytes : List UInt8) :
    writeBytes hash bytes = (bytes ++ [0xff]).foldl fnvByte hash := by
  rw [List.foldl_append]
  rfl

/-- Hashing the fields one after the other is hashing one stream of bytes, in
which each field is closed by the separator. -/
theorem foldl_writeBytes (hash : UInt64) (fields : List (List UInt8)) :
    fields.foldl writeBytes hash = (Fields.close 0xff fields).foldl fnvByte hash := by
  rw [Fields.close, List.foldl_flatMap]
  exact List.foldl_ext _ _ _ fun h f _ => writeBytes_eq h f

/-- **The hash is FNV-1a of the stream**: `metadata_hash` feeds it field by
field, and each field is closed by `0xff`. -/
theorem metadataHash_eq_foldl (m : HostMetadata) :
    m.metadataHash = m.metadataStream.foldl fnvByte 0xcbf29ce484222325 := by
  rw [metadataStream, ← foldl_writeBytes, hashedFields, List.foldl_cons, List.foldl_cons,
    List.foldl_flatMap]
  rfl

end HostMetadata

/-- The resource, a missing uuid an empty one. -/
def GresStaticInfo.fillMissing (g : GresStaticInfo) : GresStaticInfo :=
  { g with uuid := some (g.uuid.getD "") }

/-- The metadata, a missing driver version or uuid an empty one. -/
def HostMetadata.fillMissing (m : HostMetadata) : HostMetadata :=
  { m with
    driverVersion := some (m.driverVersion.getD "")
    gres := m.gres.map GresStaticInfo.fillMissing }

namespace HostMetadata

open Fields (append_separator_inj)

/-- A resource is read off the stream: its texts by their separators, its index and its memory
by their lengths. -/
theorem readOff_gresFields :
    Fields.ReadOff (fun g => Fields.close 0xff (gresFields g))
      fun g h => g.fillMissing = h.fillMissing where
  ne_nil _ := List.cons_ne_nil _ _
  append_eq_iff g h x y := by
    have hword : ∀ (g : GresStaticInfo) x, Fields.close 0xff (gresFields g) ++ x =
        g.index :: 0xff :: (asBytes g.name ++ 0xff :: (asBytes (g.uuid.getD "") ++
          0xff :: (toLeBytes g.memoryTotalMb ++ 0xff :: x))) := by
      intro g x
      simp [Fields.close, gresFields]
    have hmemory : toLeBytes g.memoryTotalMb ++ 0xff :: x = toLeBytes h.memoryTotalMb ++ 0xff :: y ↔
        g.memoryTotalMb = h.memoryTotalMb ∧ x = y := by
      constructor
      · intro he
        obtain ⟨hbytes, hrest⟩ := List.append_inj he rfl
        exact ⟨toLeBytes_inj.1 hbytes, List.tail_eq_of_cons_eq hrest⟩
      · rintro ⟨hm, rfl⟩
        rw [hm]
    rw [hword, hword, List.cons.injEq, List.cons_inj_right,
      append_separator_inj (ff_notMem_asBytes _) (ff_notMem_asBytes _),
      append_separator_inj (ff_notMem_asBytes _) (ff_notMem_asBytes _), hmemory, asBytes_inj,
      asBytes_inj]
    simp only [GresStaticInfo.fillMissing, GresStaticInfo.mk.injEq, Option.some.injEq]
    tauto

/-- **The stream covers the fields unambiguously**: it is what is hashed, and of metadata that
differ in more than what is missing or empty it is another one. -/
theorem metadataStream_eq_iff :
    (∀ m : HostMetadata, m.metadataHash = m.metadataStream.foldl fnvByte 0xcbf29ce484222325) ∧
    ∀ m m' : HostMetadata,
      m.metadataStream = m'.metadataStream ↔ m.fillMissing = m'.fillMissing := by
  refine ⟨metadataHash_eq_foldl, fun m m' => ?_⟩
  have hstream : ∀ m : HostMetadata, m.metadataStream = asBytes m.hostname ++ 0xff ::
      (asBytes (m.driverVersion.getD "") ++ 0xff ::
        m.gres.flatMap fun g => Fields.close 0xff (gresFields g)) := by
    intro m
    simp [metadataStream, hashedFields, Fields.close, List.flatMap_assoc]
  have hgres : m.gres.map GresStaticInfo.fillMissing = m'.gres.map GresStaticInfo.fillMissing ↔
      List.Forall₂ (fun g h => g.fillMissing = h.fillMissing) m.gres m'.gres := by
    rw [← List.forall₂_eq_eq_eq, List.forall₂_map_left_iff, List.forall₂_map_right_iff]
  rw [hstream, hstream, append_separator_inj (ff_notMem_asBytes _) (ff_notMem_asBytes _),
    append_separator_inj (ff_notMem_asBytes _) (ff_notMem_asBytes _), asBytes_inj, asBytes_inj,
    readOff_gresFields.flatMap_eq_iff, ← hgres]
  simp only [fillMissing, HostMetadata.mk.injEq, Option.some.injEq]

/-! ### One byte -/

/-- The prime of FNV has an inverse, as it is odd. -/
theorem fnvByte_injective_hash (byte : UInt8) : Function.Injective (fnvByte · byte) := by
  intro h h' he
  have hinv : (0x100000001b3 : UInt64) * 0xce965057aff6957b = 1 := by decide
  have hmul := congrArg (· * (0xce965057aff6957b : UInt64)) he
  simp only [fnvByte, UInt64.mul_assoc, hinv, UInt64.mul_one] at hmul
  exact (UInt64.xor_left_inj _).1 hmul

/-- From one state of the hash, different bytes lead to different states: both
operations of FNV-1a can be undone. -/
theorem fnvByte_injective_byte (hash : UInt64) : Function.Injective (fnvByte hash) := by
  intro b b' he
  have hxor : hash ^^^ b.toUInt64 = hash ^^^ b'.toUInt64 :=
    fnvByte_injective_hash 0 (by simpa [fnvByte] using he)
  exact UInt8.toUInt64_inj.1 ((UInt64.xor_right_inj _).1 hxor)

/-- **A change of one byte is never missed**: metadata whose hashed fields have the same
lengths and differ in one byte of one field have different hashes. -/
theorem metadataHash_ne_of_one_byte {m m' : HostMetadata}
    (hlen : m.hashedFields.map List.length = m'.hashedFields.map List.length)
    (hone : ∃! p : ℕ × ℕ,
      Fields.letter? m.hashedFields p.1 p.2 ≠ Fields.letter? m'.hashedFields p.1 p.2) :
    m.metadataHash ≠ m'.metadataHash := by
  obtain ⟨front, b, b', rest, hm, hm', hb⟩ := Fields.exists_exchange_close 0xff hlen hone
  rw [metadataHash_eq_foldl, metadataHash_eq_foldl, metadataStream, metadataStream, hm, hm']
  exact Fields.foldl_ne_of_exchange fnvByte_injective_hash fnvByte_injective_byte hb _ _ _

/-- A resource with another index. -/
theorem metadataHash_ne_of_one_byte_index :
    metadataHash ⟨"node1", some "550", [⟨0, "A100", none, 40960⟩]⟩ ≠
      metadataHash ⟨"node1", some "550", [⟨1, "A100", none, 40960⟩]⟩ := by
  refine metadataHash_ne_of_one_byte rfl ⟨(2, 0), by simp [hashedFields, gresFields,
    Fields.letter?], ?_⟩
  rintro ⟨i, j⟩ h
  obtain _ | _ | _ | i := i
  · exact absurd rfl h
  · exact absurd rfl h
  · cases j with
    | zero => rfl
    | succ j => exact absurd rfl h
  · exact absurd rfl h

end HostMetadata
end Clustat
