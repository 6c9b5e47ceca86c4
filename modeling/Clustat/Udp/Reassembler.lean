/-
# The reassembler

`UdpFrameReassembler` of `crates/common/src/udp.rs`: one `ChunkGroup` per
request id, each a vector of chunk slots that are filled as datagrams arrive
and checked against each other, around the ring, once all are there.

What a reassembler holds is a function of what was inserted.  The groups do not
see each other (`groups_run`), the first datagram of a request id fixes the
frame type, the frame length and the number of chunks of its group, and slot
`i` holds the last datagram of the same description with chunk id `i`
(`latest`).  `insert_run` therefore gives the answer to any insert after any
history: the check `finish` of the group `groupFrom` describes.
-/

import Clustat.Udp.Encode
import Mathlib.Data.List.Induction
import Mathlib.Data.List.ReduceOption
import Mathlib.Logic.Function.Basic

namespace Clustat
namespace Udp

/-- `ChunkSlot`. -/
structure ChunkSlot where
  payload : Bytes
  prevChecksum : UInt32
  nextChecksum : UInt32
  deriving DecidableEq, Repr

/-- `ChunkGroup`. -/
structure ChunkGroup where
  frameType : FrameType
  requestId : UInt64
  frameLen : UInt32
  totalChunks : UInt16
  chunks : List (Option ChunkSlot)
  deriving DecidableEq, Repr

namespace ChunkGroup

/-- `ChunkGroup::new`, of the header that opens the group. -/
def new (header : UdpChunkHeader) : ChunkGroup where
  frameType := header.frameType
  requestId := header.requestId
  frameLen := header.frameLen
  totalChunks := header.totalChunks
  chunks := List.replicate header.totalChunks.toNat none

/-- `ChunkGroup::is_complete`. -/
def isComplete (g : ChunkGroup) : Bool := g.chunks.all Option.isSome

/-- `self.chunks[idx].as_ref()`. -/
def slotAt (g : ChunkGroup) (idx : ℕ) : Option ChunkSlot := g.chunks[idx]?.join

/-- One turn of the loop of `verify_all`; the `None` a missing slot would give
is the `expect` the caller has excluded. -/
def neighboursMatch (crc : Crc32) (g : ChunkGroup) (idx : ℕ) : Bool :=
  match g.slotAt (prevIdx g.chunks.length idx), g.slotAt idx,
    g.slotAt (nextIdx g.chunks.length idx) with
  | some prev, some slot, some next =>
    crc.hash prev.payload == slot.prevChecksum && crc.hash next.payload == slot.nextChecksum
  | _, _, _ => false

/-- `ChunkGroup::verify_all`. -/
def verifyAll (crc : Crc32) (g : ChunkGroup) : Except UdpChunkError Unit :=
  if (List.range g.chunks.length).all (g.neighboursMatch crc) then .ok ()
  else .error .checksumMismatch

/-- The payloads in order, cut off after `frame_len` bytes. -/
def assemble (g : ChunkGroup) : Bytes :=
  ((g.chunks.reduceOption.map ChunkSlot.payload).flatten).take g.frameLen.toNat

/-- `ChunkGroup::insert` from the completeness check on. -/
def finish (crc : Crc32) (g : ChunkGroup) : Except UdpChunkError (Option Bytes) :=
  if !g.isComplete then .ok none
  else
    match g.verifyAll crc with
    | .error e => .error e
    | .ok () =>
      match decodeFrame g.assemble with
      | .error e => .error (.frame e)
      | .ok (decoded, _) =>
        if decoded.frameType ≠ g.frameType ∨ decoded.requestId ≠ g.requestId then
          .error .metadataMismatch
        else .ok (some g.assemble)

/-- The header describes the frame this group is collecting. -/
def Describes (g : ChunkGroup) (header : UdpChunkHeader) : Prop :=
  header.frameType = g.frameType ∧ header.requestId = g.requestId ∧
    header.frameLen = g.frameLen ∧ header.totalChunks = g.totalChunks

instance (g : ChunkGroup) (header : UdpChunkHeader) : Decidable (g.Describes header) :=
  inferInstanceAs (Decidable (_ ∧ _ ∧ _ ∧ _))

/-- `self.chunks[idx] = Some(ChunkSlot { .. })`. -/
def store (g : ChunkGroup) (header : UdpChunkHeader) (payload : Bytes) : ChunkGroup :=
  let slot : ChunkSlot := ⟨payload, header.prevChecksum, header.nextChecksum⟩
  { g with chunks := g.chunks.set header.chunkId.toNat (some slot) }

/-- `ChunkGroup::insert`. -/
def insert (crc : Crc32) (g : ChunkGroup) (header : UdpChunkHeader) (payload : Bytes) :
    ChunkGroup × Except UdpChunkError (Option Bytes) :=
  if g.Describes header then (g.store header payload, (g.store header payload).finish crc)
  else (g, .error .metadataMismatch)

end ChunkGroup

/-- `UdpFrameReassembler`; instants are nanoseconds of a monotone clock. -/
structure UdpFrameReassembler where
  deadline : ℕ
  groups : UInt64 → Option ChunkGroup

namespace UdpFrameReassembler

/-- `UdpFrameReassembler::new` at instant `now`. -/
def new (now timeout : ℕ) : UdpFrameReassembler :=
  { deadline := now + timeout, groups := fun _ => none }

/-- `UdpFrameReassembler::is_expired` at instant `now`. -/
def isExpired (r : UdpFrameReassembler) (now : ℕ) : Bool := r.deadline ≤ now

/-- `UdpFrameReassembler::insert`. -/
def insert (crc : Crc32) (r : UdpFrameReassembler) (datagram : Bytes) :
    UdpFrameReassembler × Except UdpChunkError (Option Bytes) :=
  match UdpChunkHeader.decode datagram with
  | .error e => (r, .error e)
  | .ok header =>
    let group := (r.groups header.requestId).getD (.new header)
    let out := group.insert crc header (payloadOf datagram)
    ({ r with groups := Function.update r.groups header.requestId (some out.1) }, out.2)

/-- The reassembler after a list of inserts. -/
def run (crc : Crc32) : UdpFrameReassembler → List Bytes → UdpFrameReassembler
  | r, [] => r
  | r, d :: ds => run crc (r.insert crc d).1 ds

/-- Two runs one after the other are one run. -/
theorem run_append (crc : Crc32) (r : UdpFrameReassembler) (ds es : List Bytes) :
    run crc r (ds ++ es) = run crc (run crc r ds) es := by
  induction ds generalizing r with
  | nil => rfl
  | cons d ds ih => exact ih _

/-- Inserts leave the deadline as it is. -/
theorem deadline_run (crc : Crc32) (r : UdpFrameReassembler) (ds : List Bytes) :
    (r.run crc ds).deadline = r.deadline := by
  induction ds generalizing r with
  | nil => rfl
  | cons d ds ih =>
    rw [run, ih, insert]
    split <;> rfl

end UdpFrameReassembler

/-! ### The state as a function of the history -/

/-- A chunk that arrived: its header and its payload. -/
abbrev Arrival := UdpChunkHeader × Bytes

/-- The chunk a datagram brings for request id `r`, if any. -/
def arrival (r : UInt64) (datagram : Bytes) : Option Arrival :=
  match UdpChunkHeader.decode datagram with
  | .error _ => none
  | .ok h => if h.requestId = r then some (h, payloadOf datagram) else none

/-- The chunks a history brings for request id `r`. -/
def received (r : UInt64) (history : List Bytes) : List Arrival := history.filterMap (arrival r)

/-- What arrives for request `r`: the header and the payload of a datagram
that decodes and carries this request id. -/
theorem arrival_eq_some_iff {r : UInt64} {d : Bytes} {x : Arrival} :
    arrival r d = some x ↔
      UdpChunkHeader.decode d = .ok x.1 ∧ x.1.requestId = r ∧ x.2 = payloadOf d := by
  unfold arrival
  cases hd : UdpChunkHeader.decode d with
  | error e => simp
  | ok h =>
    dsimp only
    constructor
    · intro he
      split_ifs at he with hr
      obtain rfl := Option.some.inj he
      exact ⟨rfl, hr, rfl⟩
    · rintro ⟨he, hr, hp⟩
      obtain rfl := Except.ok.inj he
      rw [if_pos hr, ← hp]

/-- Two headers describe the same frame. -/
def SameFrame (h₀ h : UdpChunkHeader) : Prop :=
  h.frameType = h₀.frameType ∧ h.requestId = h₀.requestId ∧
    h.frameLen = h₀.frameLen ∧ h.totalChunks = h₀.totalChunks

instance (h₀ h : UdpChunkHeader) : Decidable (SameFrame h₀ h) :=
  inferInstanceAs (Decidable (_ ∧ _ ∧ _ ∧ _))

/-- A header belongs to its own frame. -/
theorem SameFrame.refl (h : UdpChunkHeader) : SameFrame h h := ⟨rfl, rfl, rfl, rfl⟩

/-- The slot a chunk is stored as. -/
def Arrival.slot (x : Arrival) : ChunkSlot := ⟨x.2, x.1.prevChecksum, x.1.nextChecksum⟩

/-- The arrivals that can be in slot `i` of the group opened by `h₀`. -/
def fillsSlot (h₀ : UdpChunkHeader) (i : ℕ) (x : Arrival) : Bool :=
  decide (SameFrame h₀ x.1) && x.1.chunkId.toNat == i

/-- What slot `i` of the group opened by `h₀` holds after `arrivals`. -/
def latest (h₀ : UdpChunkHeader) (arrivals : List Arrival) (i : ℕ) : Option ChunkSlot :=
  (arrivals.reverse.find? (fillsSlot h₀ i)).map Arrival.slot

/-- One more arrival takes over the slot that it fills and leaves the others
alone: the last write wins, as in `insert`. -/
theorem latest_append_singleton (h₀ : UdpChunkHeader) (arrivals : List Arrival) (x : Arrival)
    (i : ℕ) : latest h₀ (arrivals ++ [x]) i =
      if fillsSlot h₀ i x then some x.slot else latest h₀ arrivals i := by
  unfold latest
  rw [List.reverse_append, List.reverse_singleton, List.singleton_append, List.find?_cons]
  cases fillsSlot h₀ i x <;> rfl

/-- The group opened by `h₀` after `arrivals`. -/
def groupFrom (h₀ : UdpChunkHeader) (arrivals : List Arrival) : ChunkGroup where
  frameType := h₀.frameType
  requestId := h₀.requestId
  frameLen := h₀.frameLen
  totalChunks := h₀.totalChunks
  chunks := (List.range h₀.totalChunks.toNat).map (latest h₀ arrivals)

/-- A new group is one that nothing has arrived for. -/
theorem new_eq_groupFrom (h : UdpChunkHeader) : ChunkGroup.new h = groupFrom h [] := by
  have hnone : latest h [] = fun _ => none := rfl
  simp [ChunkGroup.new, groupFrom, hnone, List.map_const']

/-- **Storing a chunk** overwrites its slot and no other, so the group is
again the one made by its arrivals. -/
theorem store_groupFrom {h₀ : UdpChunkHeader} (arrivals : List Arrival) {x : Arrival}
    (hs : SameFrame h₀ x.1) :
    (groupFrom h₀ arrivals).store x.1 x.2 = groupFrom h₀ (arrivals ++ [x]) := by
  have hchunks : ((List.range h₀.totalChunks.toNat).map (latest h₀ arrivals)).set
      x.1.chunkId.toNat (some x.slot) =
        (List.range h₀.totalChunks.toNat).map (latest h₀ (arrivals ++ [x])) := by
    apply List.ext_getElem
    · simp
    · intro i _ _
      simp only [List.getElem_set, List.getElem_map, List.getElem_range, latest_append_singleton,
        fillsSlot, hs, decide_true, Bool.true_and, beq_iff_eq]
  simp only [ChunkGroup.store, groupFrom, ← hchunks]
  rfl

/-- A chunk that does not describe the group's frame changes nothing. -/
theorem groupFrom_append_of_not {h₀ : UdpChunkHeader} (arrivals : List Arrival) {x : Arrival}
    (hs : ¬SameFrame h₀ x.1) : groupFrom h₀ (arrivals ++ [x]) = groupFrom h₀ arrivals := by
  have hl : latest h₀ (arrivals ++ [x]) = latest h₀ arrivals := by
    funext i
    simp [latest_append_singleton, fillsSlot, hs]
  rw [groupFrom, groupFrom, hl]

/-- One insert into the group of a history. -/
theorem insert_groupFrom (crc : Crc32) (h₀ : UdpChunkHeader) (arrivals : List Arrival)
    (x : Arrival) : (groupFrom h₀ arrivals).insert crc x.1 x.2 =
      (groupFrom h₀ (arrivals ++ [x]),
        if SameFrame h₀ x.1 then (groupFrom h₀ (arrivals ++ [x])).finish crc
        else .error .metadataMismatch) := by
  have hiff : (groupFrom h₀ arrivals).Describes x.1 ↔ SameFrame h₀ x.1 := Iff.rfl
  unfold ChunkGroup.insert
  by_cases hs : SameFrame h₀ x.1
  · rw [if_pos (hiff.2 hs), if_pos hs, store_groupFrom arrivals hs]
  · rw [if_neg (mt hiff.1 hs), if_neg hs, groupFrom_append_of_not arrivals hs]

/-- Headers of one frame open the same group. -/
theorem groupFrom_congr {h₀ h : UdpChunkHeader} (hs : SameFrame h₀ h) (arrivals : List Arrival) :
    groupFrom h₀ arrivals = groupFrom h arrivals := by
  obtain ⟨ht, hid, hl, hn⟩ := hs
  have hfills : ∀ i, fillsSlot h₀ i = fillsSlot h i := fun i => by
    funext x
    have hiff : SameFrame h₀ x.1 ↔ SameFrame h x.1 := by
      simp only [SameFrame, ht, hid, hl, hn]
    rw [fillsSlot, fillsSlot, decide_eq_decide.2 hiff]
  have hlatest : latest h₀ arrivals = latest h arrivals := by
    funext i
    rw [latest, latest, hfills]
  simp only [groupFrom, hlatest, ht, hid, hl, hn]

/-- The group of a request id after its arrivals; the first one opens it. -/
def groupAfter : List Arrival → Option ChunkGroup
  | [] => none
  | x :: arrivals => some (groupFrom x.1 (x :: arrivals))

/-- The header that opens the group, when `x` is the next arrival. -/
def opening (arrivals : List Arrival) (x : Arrival) : UdpChunkHeader :=
  (arrivals.head?.getD x).1

/-- The group an arrival is stored in: the one there is, or a new one for its
header. Either way it is the group of the arrivals so far, under the opening
header. -/
theorem groupAfter_getD (arrivals : List Arrival) (x : Arrival) :
    (groupAfter arrivals).getD (.new x.1) = groupFrom (opening arrivals x) arrivals := by
  cases arrivals with
  | nil => exact new_eq_groupFrom x.1
  | cons y arrivals => rfl

/-- The group after one more arrival, by the arrivals alone: this is what the
induction over the datagrams carries. -/
theorem groupAfter_append (arrivals : List Arrival) (x : Arrival) :
    groupAfter (arrivals ++ [x]) = some (groupFrom (opening arrivals x) (arrivals ++ [x])) := by
  cases arrivals <;> rfl

variable (crc : Crc32)

/-- **One insert, on a reassembler described by a history**: it answers by the
arrivals for the request id of the datagram, and by nothing else of the
history. -/
theorem insert_of_groups {r : UdpFrameReassembler} {history : List Bytes}
    (hr : ∀ id, r.groups id = groupAfter (received id history)) {d : Bytes} {h : UdpChunkHeader}
    (hd : UdpChunkHeader.decode d = .ok h) :
    (r.insert crc d).2 =
        (let arrivals := received h.requestId history
         let x : Arrival := (h, payloadOf d)
         if SameFrame (opening arrivals x) h then
           (groupFrom (opening arrivals x) (arrivals ++ [x])).finish crc
         else .error .metadataMismatch) ∧
      ∀ id, (r.insert crc d).1.groups id = groupAfter (received id (history ++ [d])) := by
  have hx : arrival h.requestId d = some (h, payloadOf d) :=
    arrival_eq_some_iff.2 ⟨hd, rfl, rfl⟩
  have hins := insert_groupFrom crc (opening (received h.requestId history) (h, payloadOf d))
    (received h.requestId history) (h, payloadOf d)
  unfold UdpFrameReassembler.insert
  simp only [hd, hr, groupAfter_getD _ (h, payloadOf d), hins, true_and]
  intro id
  have happ : received id (history ++ [d]) = received id history ++ received id [d] :=
    List.filterMap_append
  rw [happ]
  by_cases hid : id = h.requestId
  · subst hid
    have hone : received h.requestId [d] = [(h, payloadOf d)] := by simp [received, hx]
    rw [Function.update_self, hone, groupAfter_append]
  · have hnone : arrival id d = none := by
      simp only [arrival, hd, if_neg (Ne.symm hid)]
    have hone : received id [d] = [] := by simp [received, hnone]
    rw [Function.update_of_ne hid, hone, List.append_nil, hr]

/-- **The groups after a history**: each is the group its own arrivals give,
whatever was inserted for other request ids or not decoded at all. -/
theorem groups_run (now timeout : ℕ) (history : List Bytes) :
    ∀ id, ((UdpFrameReassembler.new now timeout).run crc history).groups id =
      groupAfter (received id history) := by
  induction history using List.reverseRecOn with
  | nil => intro id; rfl
  | append_singleton history d ih =>
      intro id
      rw [UdpFrameReassembler.run_append]
      cases hd : UdpChunkHeader.decode d with
      | error e =>
        have hnone : arrival id d = none := by simp only [arrival, hd]
        have hrec : received id (history ++ [d]) = received id history := by
          simp [received, hnone]
        simp only [UdpFrameReassembler.run, UdpFrameReassembler.insert, hd, ih, hrec]
      | ok h => exact (insert_of_groups crc ih hd).2 id

/-- **The answer to an insert after a history**: what the group of its request
id comes to, made by all arrivals for it so far. -/
theorem insert_run (now timeout : ℕ) (history : List Bytes) {d : Bytes} {h : UdpChunkHeader}
    (hd : UdpChunkHeader.decode d = .ok h) :
    (((UdpFrameReassembler.new now timeout).run crc history).insert crc d).2 =
      (let arrivals := received h.requestId history
       let x : Arrival := (h, payloadOf d)
       if SameFrame (opening arrivals x) h then
         (groupFrom (opening arrivals x) (arrivals ++ [x])).finish crc
       else .error .metadataMismatch) :=
  (insert_of_groups crc (groups_run crc now timeout history) hd).1

/-! ### The check of a full group -/

/-- Every slot carries the checksums of its two neighbours' payloads. -/
def RingOk (crc : Crc32) (n : ℕ) (slots : ℕ → ChunkSlot) : Prop :=
  ∀ i < n, crc.hash (slots (prevIdx n i)).payload = (slots i).prevChecksum ∧
    crc.hash (slots (nextIdx n i)).payload = (slots i).nextChecksum

variable {crc}

/-- Whether the checksums close the ring depends on the slots of the ring
only. -/
theorem RingOk.congr {n : ℕ} {slots slots' : ℕ → ChunkSlot} (h : RingOk crc n slots)
    (heq : ∀ i < n, slots i = slots' i) : RingOk crc n slots' := fun i hi => by
  rw [← heq i hi, ← heq _ (prevIdx_lt hi), ← heq _ (nextIdx_lt hi)]
  exact h i hi

/-- A group is complete when each of its slots is filled. -/
theorem isComplete_iff {g : ChunkGroup} :
    g.isComplete = true ↔ ∀ i < g.chunks.length, (g.slotAt i).isSome := by
  unfold ChunkGroup.isComplete ChunkGroup.slotAt
  rw [List.all_eq_true]
  constructor
  · intro h i hi
    rw [List.getElem?_eq_getElem hi]
    exact h _ (List.getElem_mem hi)
  · intro h x hx
    obtain ⟨i, hi, rfl⟩ := List.getElem_of_mem hx
    simpa [List.getElem?_eq_getElem hi] using h i hi

/-- A full group, read as a function of the slot number. -/
theorem exists_slots {g : ChunkGroup} (h : g.isComplete = true) :
    ∃ slots : ℕ → ChunkSlot,
      g.chunks = (List.range g.chunks.length).map fun i => some (slots i) := by
  refine ⟨fun i => (g.slotAt i).getD ⟨[], 0, 0⟩, List.ext_getElem (by simp) fun i hi _ => ?_⟩
  obtain ⟨s, hs⟩ := Option.isSome_iff_exists.1 (isComplete_iff.1 h i hi)
  have hi' : g.chunks[i] = some s := by
    rw [ChunkGroup.slotAt, List.getElem?_eq_getElem hi] at hs
    exact hs
  simp [hi', hs]

section Full

variable {g : ChunkGroup} {n : ℕ} {slots : ℕ → ChunkSlot}

/-- In a group whose slots are all known, slot `i` is the known one. -/
theorem slotAt_of_full (hg : g.chunks = (List.range n).map fun i => some (slots i)) {i : ℕ}
    (hi : i < n) : g.slotAt i = some (slots i) := by
  simp [ChunkGroup.slotAt, hg, List.getElem?_range hi]

/-- **`verify_all` checks the ring and nothing else**: on a full group it
succeeds exactly when each chunk has the checksum that both of its neighbours
state. -/
theorem verifyAll_of_full (hg : g.chunks = (List.range n).map fun i => some (slots i)) :
    g.verifyAll crc = .ok () ↔ RingOk crc n slots := by
  have hlen : g.chunks.length = n := by simp [hg]
  have hall : ((List.range g.chunks.length).all (g.neighboursMatch crc)) = true ↔
      RingOk crc n slots := by
    rw [List.all_eq_true]
    have hmatch : ∀ i < n, (g.neighboursMatch crc i = true ↔
        crc.hash (slots (prevIdx n i)).payload = (slots i).prevChecksum ∧
          crc.hash (slots (nextIdx n i)).payload = (slots i).nextChecksum) := by
      intro i hi
      simp only [ChunkGroup.neighboursMatch, hlen, slotAt_of_full hg hi,
        slotAt_of_full hg (prevIdx_lt hi), slotAt_of_full hg (nextIdx_lt hi), Bool.and_eq_true,
        beq_iff_eq]
    exact ⟨fun h i hi => (hmatch i hi).1 (h i (by rw [hlen]; exact List.mem_range.2 hi)),
      fun h i hi => (hmatch i (by rw [hlen] at hi; exact List.mem_range.1 hi)).2
        (h i (by rw [hlen] at hi; exact List.mem_range.1 hi))⟩
  unfold ChunkGroup.verifyAll
  split_ifs with h
  · exact ⟨fun _ => hall.1 h, fun _ => rfl⟩
  · exact ⟨fun he => by simp at he, fun hr => absurd (hall.2 hr) h⟩

/-- What is put together from a full group: the payloads in order, cut off at
the announced `frame_len`. -/
theorem assemble_of_full (hg : g.chunks = (List.range n).map fun i => some (slots i)) :
    g.assemble =
      ((List.range n).map fun i => (slots i).payload).flatten.take g.frameLen.toNat := by
  have hred : g.chunks.reduceOption = (List.range n).map slots := by
    rw [hg]
    induction List.range n with
    | nil => rfl
    | cons i is ih => simp [List.reduceOption_cons_of_some, ih]
  rw [ChunkGroup.assemble, hred, List.map_map]
  rfl

/-- **When a full group delivers**: the ring closes and the assembled bytes are
a frame of the group's type and request id; then they are what is delivered. -/
theorem finish_of_full (hg : g.chunks = (List.range n).map fun i => some (slots i)) {f : Bytes} :
    g.finish crc = .ok (some f) ↔
      RingOk crc n slots ∧ f = g.assemble ∧ ∃ h p, decodeFrame g.assemble = .ok (h, p) ∧
        h.frameType = g.frameType ∧ h.requestId = g.requestId := by
  have hcomp : g.isComplete = true := by
    simp [ChunkGroup.isComplete, hg]
  unfold ChunkGroup.finish
  rw [hcomp]
  simp only [Bool.not_true, Bool.false_eq_true, if_false]
  by_cases hring : RingOk crc n slots
  · rw [(verifyAll_of_full hg).2 hring]
    simp only [hring, true_and]
    cases hd : decodeFrame g.assemble with
    | error e => simp
    | ok hp =>
      obtain ⟨h, p⟩ := hp
      dsimp only
      split_ifs with hmeta
      · refine ⟨fun he => he.elim, ?_⟩
        rintro ⟨-, h', p', he, ht, hid⟩
        obtain ⟨rfl, rfl⟩ := Prod.mk.inj (Except.ok.inj he)
        exact absurd hmeta (by simp [ht, hid])
      · rw [not_or, not_not, not_not] at hmeta
        refine ⟨fun he => ⟨?_, h, p, rfl, hmeta⟩, fun he => by rw [he.1]⟩
        exact (Option.some.inj (Except.ok.inj he)).symm
  · cases hv : g.verifyAll crc with
    | error e => simp [hring]
    | ok u => exact absurd ((verifyAll_of_full hg).1 hv) hring

end Full

/-- Only a full group delivers. -/
theorem isComplete_of_finish {g : ChunkGroup} {f : Bytes} (h : g.finish crc = .ok (some f)) :
    g.isComplete = true := by
  cases hc : g.isComplete with
  | true => rfl
  | false => simp [ChunkGroup.finish, hc] at h

/-- A group that lacks a chunk gives nothing, and no error either. -/
theorem finish_of_not_complete {g : ChunkGroup} (h : g.isComplete = false) :
    g.finish crc = .ok none := by
  simp [ChunkGroup.finish, h]

end Udp
end Clustat
