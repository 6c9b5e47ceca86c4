/-
# A frame sent again after failures

What a failing insert leaves in its slot stays there, in `UdpFrameReassembler` of
`crates/common/src/udp.rs`: the payload of a corrupted chunk is not thrown away with the
error.  It does not have to be.  A slot holds the last chunk of its number (`latest`), so
whatever was there before is gone once all chunks of a frame have been inserted
again, in any order and between any datagrams of other frames (`insert_resent`).

The group that takes them has to be one of the frame's description, and the
chunks have to be accepted: `encode_udp_chunks` makes chunks that are not, when the capacity
and the frame are both above 65535 bytes (`recovers_iff`).
-/

import Clustat.Udp.Fields
import Clustat.Udp.Soundness

namespace Clustat
namespace Udp

open Chunks

variable {crc : Crc32}

/-- A slot that is filled again does not see what was there before. -/
theorem latest_append_of_filled {h₀ : UdpChunkHeader} {old new : List Arrival} {i : ℕ}
    (hfilled : ∃ x ∈ new, fillsSlot h₀ i x) :
    latest h₀ (old ++ new) i = latest h₀ new i := by
  obtain ⟨s, hs⟩ := Option.isSome_iff_exists.1 (latest_isSome_iff.2 hfilled)
  obtain ⟨x, hx, -⟩ := Option.map_eq_some_iff.1 hs
  rw [latest, latest, List.reverse_append, List.find?_append, hx]
  rfl

/-- **No residue**: a group to which all chunks of a frame were sent delivers the frame,
whatever it held before. -/
theorem finish_resent (s : Sent crc) (k : ℕ) {old new : List Arrival}
    (hnew : ∀ x ∈ new, ∃ j < s.total, x = s.arrivalAt j)
    (hall : ∀ i < s.total, s.arrivalAt i ∈ new) :
    (groupFrom (s.headerAt k) (old ++ new)).finish crc = .ok (some s.frame) := by
  have hchunks : (List.range (s.headerAt k).totalChunks.toNat).map
      (latest (s.headerAt k) (old ++ new)) =
        (List.range (s.headerAt k).totalChunks.toNat).map (latest (s.headerAt k) new) := by
    refine List.map_congr_left fun i hi => latest_append_of_filled ?_
    have hi : i < s.total := s.totalChunks_headerAt k ▸ List.mem_range.1 hi
    exact ⟨_, hall i hi, by rw [s.fillsSlot_arrivalAt hi]; exact decide_eq_true rfl⟩
  have hgroup : groupFrom (s.headerAt k) (old ++ new) = groupFrom (s.headerAt k) new := by
    rw [groupFrom, groupFrom, hchunks]
  rw [hgroup]
  exact (finish_of_genuine s k hnew).1 hall

/-- The group of the frame's request id, if there is one, is of the frame's description. -/
def Sent.Fits (s : Sent crc) (r : UdpFrameReassembler) : Prop :=
  ∀ g, r.groups s.requestId = some g → g.Describes (s.headerAt 0)

/-- The header that opens the group of the next chunk of the frame. -/
theorem Sent.Fits.opening {s : Sent crc} {now timeout : ℕ} {history : List Bytes}
    (hfits : s.Fits ((UdpFrameReassembler.new now timeout).run crc history))
    {new : List Arrival} (hnew : ∀ x ∈ new, ∃ j < s.total, x = s.arrivalAt j) (i : ℕ) :
    SameFrame (Udp.opening (received s.requestId history ++ new) (s.arrivalAt i))
      (s.headerAt i) := by
  cases hold : received s.requestId history with
  | nil =>
    cases new with
    | nil => exact .refl _
    | cons x new =>
      obtain ⟨j, -, rfl⟩ := hnew x List.mem_cons_self
      exact s.sameFrame_headerAt j i
  | cons x old =>
    have hgroup := groups_run crc now timeout history s.requestId
    rw [hold] at hgroup
    exact hfits _ hgroup

/-- **A frame that is sent again is delivered** by the insert that completes it: the group
was absent or of the frame's description, and since then only chunks of the frame have been
inserted for its request id, and all of them. -/
theorem insert_resent {s : Sent crc} {now timeout : ℕ} {history : List Bytes}
    (hfits : s.Fits ((UdpFrameReassembler.new now timeout).run crc history))
    {before : List Bytes} {i : ℕ} (hi : i < s.datagrams.length)
    (hnew : ∀ x ∈ received s.requestId before, ∃ j < s.total, x = s.arrivalAt j)
    (hall : ∀ j < s.total, j ≠ i → s.arrivalAt j ∈ received s.requestId before) :
    (((UdpFrameReassembler.new now timeout).run crc (history ++ before)).insert crc
      s.datagrams[i]).2 = .ok (some s.frame) := by
  have hins := insert_run crc now timeout (history ++ before) (s.decode_datagram hi)
  have hrec : received s.requestId (history ++ before) =
      received s.requestId history ++ received s.requestId before := List.filterMap_append
  dsimp only at hins
  rw [s.payloadOf_datagram hi, Sent.requestId_headerAt, hrec] at hins
  have hopen : SameFrame (Udp.opening (received s.requestId history ++
      received s.requestId before) (s.headerAt i, s.chunk i)) (s.headerAt i) := hfits.opening hnew i
  rw [if_pos hopen, groupFrom_congr hopen, List.append_assoc] at hins
  refine hins.trans (finish_resent s i (fun x hx => ?_) fun j hj => ?_)
  · rcases List.mem_append.1 hx with hx | hx
    · exact hnew x hx
    · exact ⟨i, s.length_datagrams ▸ hi, List.mem_singleton.1 hx⟩
  · by_cases hji : j = i
    · exact List.mem_append_right _ (List.mem_singleton.2 (by rw [hji]; rfl))
    · exact List.mem_append_left _ (hall j hj hji)

/-! ### Any capacity -/

/-- What is inserted while a frame is sent again: one of its chunks, or another datagram. -/
def resent (datagrams : List Bytes) : Fin datagrams.length ⊕ Bytes → Bytes :=
  Sum.elim datagrams.get id

/-- Reassembly recovers: from every state in which the group of the frame's request id is
absent or has the frame's type, length and number of chunks, inserting all its chunks once
each, in any order and between datagrams that are not for its request id, delivers the frame
with the last of them. -/
def Recovers (crc : Crc32) (frame : Bytes) (header : FrameHeader) (datagrams : List Bytes) :
    Prop :=
  ∀ (now timeout : ℕ) (history : List Bytes),
    (∀ g, ((UdpFrameReassembler.new now timeout).run crc history).groups header.requestId =
      some g → g.frameType = header.frameType ∧ g.frameLen.toNat = frame.length ∧
        g.totalChunks.toNat = datagrams.length) →
    ∀ (before : List (Fin datagrams.length ⊕ Bytes)) (last : Fin datagrams.length),
      (before.filterMap Sum.getLeft? ++ [last]).Perm (List.finRange _) →
      (∀ other, .inr other ∈ before → arrival header.requestId other = none) →
      (((UdpFrameReassembler.new now timeout).run crc
        (history ++ before.map (resent datagrams))).insert crc (datagrams.get last)).2 =
          .ok (some frame)

/-- What arrives for the frame's request id meanwhile. -/
theorem mem_received_resent (s : Sent crc) {before : List (Fin s.datagrams.length ⊕ Bytes)}
    (hother : ∀ other, .inr other ∈ before → arrival s.requestId other = none) {x : Arrival} :
    x ∈ received s.requestId (before.map (resent s.datagrams)) ↔
      ∃ i : Fin s.datagrams.length, .inl i ∈ before ∧ x = s.arrivalAt i := by
  simp only [received, List.mem_filterMap, List.mem_map, exists_exists_and_eq_and]
  constructor
  · rintro ⟨i | other, hmem, hx⟩
    · refine ⟨i, hmem, ?_⟩
      have ha : arrival s.requestId s.datagrams[i] = some (s.arrivalAt i) :=
        (s.arrival_datagram i.isLt s.requestId).trans (if_pos rfl)
      exact Option.some.inj (hx.symm.trans ha)
    · exact absurd ((hother other hmem).symm.trans hx) (by simp)
  · rintro ⟨i, hmem, rfl⟩
    exact ⟨.inl i, hmem, (s.arrival_datagram i.isLt s.requestId).trans (if_pos rfl)⟩

/-- The chunks the decoder accepts are enough. -/
theorem Sent.recovers (s : Sent crc) : Recovers crc s.frame s.frameHeader s.datagrams := by
  intro now timeout history hgroup before last hperm hother
  have hmem := fun x => mem_received_resent s hother (x := x)
  refine insert_resent (fun g hg => ?_) last.isLt (fun x hx => ?_) fun j hj hne => ?_
  · obtain ⟨ht, hlen, htotal⟩ := hgroup g hg
    have hid : g.requestId = s.requestId := by
      have hrun := groups_run crc now timeout history s.requestId
      rw [hg] at hrun
      cases hrec : received s.requestId history with
      | nil => rw [hrec] at hrun; cases hrun
      | cons x old =>
        rw [hrec] at hrun
        obtain rfl := Option.some.inj hrun
        have hx : x ∈ received s.requestId history := hrec ▸ List.mem_cons_self
        obtain ⟨d, -, hd⟩ := List.mem_filterMap.1 hx
        exact (arrival_eq_some_iff.1 hd).2.1
    refine ⟨ht.symm, hid.symm, ?_, ?_⟩
    · exact UInt32.toNat_inj.1 ((s.frameLen_headerAt 0).trans hlen.symm)
    · refine UInt16.toNat_inj.1 ((s.totalChunks_headerAt 0).trans ?_)
      rw [htotal, s.length_datagrams]
  · obtain ⟨i, -, rfl⟩ := (hmem x).1 hx
    exact ⟨i, s.length_datagrams ▸ i.isLt, rfl⟩
  · have hj' : j < s.datagrams.length := s.length_datagrams ▸ hj
    have hin : (⟨j, hj'⟩ : Fin _) ∈ before.filterMap Sum.getLeft? ++ [last] :=
      hperm.mem_iff.2 (List.mem_finRange _)
    rcases List.mem_append.1 hin with hin | hin
    · obtain ⟨item, hitem, hleft⟩ := List.mem_filterMap.1 hin
      refine (hmem _).2 ⟨⟨j, hj'⟩, ?_, rfl⟩
      rwa [← Sum.getLeft?_eq_some_iff.1 hleft]
    · exact absurd (congrArg Fin.val (List.mem_singleton.1 hin)) hne

/-- Whatever the capacity, a frame of at most 65535 bytes. -/
theorem exists_sent_of_encode {frame : Bytes} {header : FrameHeader} {p : Bytes} {maxPayload : ℕ}
    {datagrams : List Bytes} (hd : decodeFrame frame = .ok (header, p))
    (hok : encodeUdpChunks crc frame maxPayload = .ok datagrams)
    (hshort : maxPayload ≤ U16_MAX ∨ frame.length ≤ U16_MAX) :
    ∃ s : Sent crc, s.frame = frame ∧ s.datagrams = datagrams ∧ s.frameHeader = header := by
  have hsent : ∀ s : Sent crc, s.frame = frame → s.frameHeader = header := fun s hs =>
    s.frameHeader_eq (by rw [hs, hd])
  rcases Nat.lt_or_ge U16_MAX maxPayload with hmax | hmax
  · have hlen : frame.length ≤ U16_MAX := hshort.resolve_left (Nat.not_le.2 hmax)
    obtain ⟨hmin, h32, -, -⟩ := encodeUdpChunks_eq_ok_iff.1 hok
    rw [encodeUdpChunks_of_fits hd hmin h32 (hlen.trans hmax.le)] at hok
    let s : Sent crc := .single crc hd (by decide) le_rfl hlen
    exact ⟨s, rfl, Except.ok.inj hok, hsent s rfl⟩
  · let s : Sent crc := { frame, maxPayload, datagrams, maxPayload_le := hmax, encoded := hok }
    exact ⟨s, rfl, rfl, hsent s rfl⟩

/-- An accepted datagram has the chunk number that was written. -/
theorem chunkId_of_decode {h x : UdpChunkHeader} {p : Bytes}
    (hd : UdpChunkHeader.decode (h.encode ++ p) = .ok x) : x.chunkId = h.chunkId := by
  have hbytes := (UdpChunkHeader.encode_of_decode hd).2.2
  calc x.chunkId
      = (UdpChunkHeader.fields (x.encode ++ (h.encode ++ p).drop UDP_CHUNK_HEADER_LEN)
          x.frameType).chunkId := by rw [UdpChunkHeader.fields_encode_append]
    _ = (UdpChunkHeader.fields (h.encode ++ p) h.frameType).chunkId := by rw [← hbytes]; rfl
    _ = h.chunkId := by rw [UdpChunkHeader.fields_encode_append]

/-- Chunk 0 of a long frame is not accepted when the capacity is above 65535, and no other
chunk has its number. -/
theorem chunkId_ne_zero_of_long {header : FrameHeader} {frame : Bytes} {maxPayload : ℕ}
    (hmax : U16_MAX < maxPayload) (hlen : U16_MAX < frame.length)
    (hcount : divCeil frame.length maxPayload ≤ U16_MAX) {d : Bytes}
    (hmem : d ∈ chunkDatagrams crc header frame.length (chunks maxPayload frame))
    {x : UdpChunkHeader} (hd : UdpChunkHeader.decode d = .ok x) : x.chunkId.toNat ≠ 0 := by
  obtain ⟨i, hi, rfl⟩ := List.getElem_of_mem hmem
  have hi' : i < (chunks maxPayload frame).length := by
    rwa [chunkDatagrams, List.length_mapIdx] at hi
  have hsmall : i < 2 ^ 16 := by
    rw [length_chunks] at hi'
    rw [U16_MAX] at hcount
    omega
  intro hzero
  have hbytes : (chunkDatagrams crc header frame.length (chunks maxPayload frame))[i] =
      (chunkHeader crc header frame.length (chunks maxPayload frame) i
        (chunks maxPayload frame)[i]).encode ++ (chunks maxPayload frame)[i] := by
    simp only [chunkDatagrams, List.getElem_mapIdx]
  rw [hbytes] at hd
  have hid : x.chunkId = UInt16.ofNat i := chunkId_of_decode hd
  rw [hid, UInt16.toNat_ofNat_of_lt' hsmall] at hzero
  subst hzero
  -- its length does not fit in the field
  have hsize := (UdpChunkHeader.encode_of_decode hd).2.1
  have hu16 := x.payloadLen.toNat_lt
  rw [List.length_append, UdpChunkHeader.length_encode, getElem_chunks, List.length_take,
    List.length_drop] at hsize
  rw [U16_MAX] at hmax hlen
  omega

/-- A long frame cut for a capacity above 65535 is never delivered. -/
theorem not_recovers {frame : Bytes} {header : FrameHeader} {p : Bytes} {maxPayload : ℕ}
    {datagrams : List Bytes} (hd : decodeFrame frame = .ok (header, p))
    (hok : encodeUdpChunks crc frame maxPayload = .ok datagrams)
    (hmax : U16_MAX < maxPayload) (hlen : U16_MAX < frame.length) :
    ¬Recovers crc frame header datagrams := by
  obtain ⟨-, -, hcount, h, p', hd', rfl⟩ := encodeUdpChunks_eq_ok_iff.1 hok
  obtain ⟨rfl, rfl⟩ := Prod.mk.inj (Except.ok.inj (hd.symm.trans hd'))
  intro hrec
  generalize hdatagrams : chunkDatagrams crc header frame.length (chunks maxPayload frame) =
    datagrams at hrec
  have hne : List.finRange datagrams.length ≠ [] := by
    rw [Ne, List.finRange_eq_nil_iff, ← hdatagrams, chunkDatagrams, List.length_mapIdx,
      length_chunks]
    exact (divCeil_pos (lt_of_le_of_lt (Nat.zero_le _) hmax)
      (lt_of_le_of_lt (Nat.zero_le _) hlen)).ne'
  -- the chunks in order, at a new reassembler
  let before : List (Fin datagrams.length ⊕ Bytes) := (List.finRange _).dropLast.map .inl
  let last := (List.finRange datagrams.length).getLast hne
  have hperm : (before.filterMap Sum.getLeft? ++ [last]).Perm (List.finRange _) := by
    have hleft : before.filterMap Sum.getLeft? = (List.finRange _).dropLast := by
      simp only [before, List.filterMap_map, Function.comp_def, Sum.getLeft?_inl,
        List.filterMap_some]
    rw [hleft, List.dropLast_append_getLast]
  have hother : ∀ other, .inr other ∈ before → arrival header.requestId other = none := by
    intro other hmem
    obtain ⟨i, -, hi⟩ := List.mem_map.1 hmem
    cases hi
  have hdelivered := hrec 0 0 [] (fun _ hg => by cases hg) before last hperm hother
  obtain ⟨x, hx, payloads, hchunks, -⟩ := reassembly_sound crc 0 0 _ _ _ hdelivered
  have htotal : 0 < x.totalChunks.toNat := Nat.pos_of_ne_zero fun h0 =>
    (UdpChunkHeader.encode_of_decode hx).1.total_pos (UInt16.toNat_inj.1 h0)
  obtain ⟨before', d, after, y, hsplit, hy, -, hy0, -⟩ := hchunks 0 htotal
  have hmem : d ∈ datagrams := by
    have hd : d ∈ ([] ++ before.map (resent datagrams)) ++ [datagrams.get last] :=
      hsplit ▸ List.mem_append_right _ List.mem_cons_self
    rcases List.mem_append.1 hd with hd | hd
    · simp only [before, List.nil_append, List.map_map, List.mem_map] at hd
      obtain ⟨i, -, rfl⟩ := hd
      exact List.get_mem _ _
    · exact List.mem_singleton.1 hd ▸ List.get_mem _ _
  rw [← hdatagrams] at hmem
  exact chunkId_ne_zero_of_long hmax hlen hcount hmem hy hy0

/-- **When reassembly recovers from corruption.**  Whatever was inserted before and whatever
of it failed, as long as the group of the frame's request id is absent or of the frame's
description, all chunks of the frame inserted once more deliver it; except for the frames
whose chunks are not accepted at all, those of more than 65535 bytes cut for a capacity of
more than 65535. -/
theorem recovers_iff (crc : Crc32) {frame : Bytes} {header : FrameHeader} {p : Bytes}
    {maxPayload : ℕ} {datagrams : List Bytes} (hd : decodeFrame frame = .ok (header, p))
    (hok : encodeUdpChunks crc frame maxPayload = .ok datagrams) :
    Recovers crc frame header datagrams ↔ maxPayload ≤ U16_MAX ∨ frame.length ≤ U16_MAX := by
  constructor
  · intro hrec
    by_contra hnot
    rw [not_or, Nat.not_le, Nat.not_le] at hnot
    exact not_recovers hd hok hnot.1 hnot.2 hrec
  · intro hshort
    obtain ⟨s, rfl, rfl, rfl⟩ := exists_sent_of_encode hd hok hshort
    exact s.recovers

/-- A frame in two chunks. -/
theorem recovers_iff_twoChunks :
    Recovers Crc32.ieee (longFrame .heartbeat 7)
      (.new .heartbeat 7 (UInt32.ofNat zeros.length)) (twoChunks .heartbeat 7).datagrams :=
  (recovers_iff Crc32.ieee (decodeFrame_longFrame .heartbeat 7)
    (twoChunks .heartbeat 7).encoded).2 (.inl (by decide))

/-- **A frame that no retransmission delivers**: 65554 bytes, cut for a
capacity of 65536. The length of its first chunk does not fit the 16 bits of
`payload_len`, so the receiver refuses it each time. -/
theorem long_not_recovered : ¬∀ (frame : Bytes) (header : FrameHeader) (p : Bytes)
    (maxPayload : ℕ) (datagrams : List Bytes), decodeFrame frame = .ok (header, p) →
      encodeUdpChunks Crc32.ieee frame maxPayload = .ok datagrams →
        Recovers Crc32.ieee frame header datagrams := by
  intro hall
  obtain ⟨header, p, hd⟩ := decodeFrame_heartbeat (show 65536 < 2 ^ 32 by decide)
  have hlen : (heartbeat 65536).length = 65554 := length_heartbeat 65536
  have hok : encodeUdpChunks Crc32.ieee (heartbeat 65536) 65536 = .ok _ :=
    encodeUdpChunks_eq_ok_iff.2 ⟨by decide, hlen ▸ by decide, hlen ▸ by decide, header, p, hd, rfl⟩
  exact not_recovers hd hok (by decide) (hlen ▸ by decide) (hall _ _ _ _ _ hd hok)

end Udp
end Clustat
