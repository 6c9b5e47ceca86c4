/-
# The contract of a collector

`validate_gres_node_snapshot_contract` of `crates/server/src/collector.rs`, which every collector
is tested with, and the contract of `DEV.md` that it is to check.  The loop over the resources
carries the index that the next one has to have, a `u8`, and the set of the uuids so far.

The index is advanced as soon as one is seen, and not when there is another resource.  So the
last index that a `u8` can hold is refused: the validator accepts the contract for up to 255
resources, and of 256 it says that the index overflows (`contract_iff`).
-/

import Clustat.Common.Text
import Clustat.Lib.Guards
import Clustat.Server.Collector

namespace Clustat
namespace Server

open Guards

/-- A number in a message. -/
def inText (n : UInt8) : String := toString n.toNat

/-- The checks of one process. -/
def validateProcess (resource : GresResource) (process : GresProcess) : Except String Unit := do
  refuseIf (process.pid = 0)
    ("resource " ++ inText resource.index ++ " process pid must not be zero")
  refuseIf (resource.memoryTotalMb < process.usedMemoryMb)
    ("resource " ++ inText resource.index ++ " process " ++ toString process.pid.toNat ++
      " used memory exceeds resource total memory")

/-- What the loop carries: `expected_index` and `uuids`. -/
structure ContractLoop where
  expectedIndex : UInt8 := 0
  uuids : List String := []

/-- `expected_index.checked_add(1)`. -/
def nextIndex (index : UInt8) : Except String UInt8 :=
  if index = 255 then .error "resource index overflow" else .ok (index + 1)

/-- `uuids.insert`, if there is a uuid. -/
def insertUuid (resource : GresResource) (uuids : List String) : Except String (List String) :=
  match resource.uuid with
  | none => .ok uuids
  | some uuid => do
    refuseIf (trim uuid = "")
      ("resource " ++ inText resource.index ++ " uuid must be omitted instead of empty")
    refuseIf (uuid ∈ uuids) ("resource uuid " ++ uuid ++ " is duplicated")
    .ok (uuid :: uuids)

/-- One turn of the loop. -/
def validateResource (loop : ContractLoop) (resource : GresResource) :
    Except String ContractLoop := do
  let named := "resource " ++ inText resource.index
  refuseIf (resource.index ≠ loop.expectedIndex)
    ("resource indices must be dense and zero-based; expected " ++ inText loop.expectedIndex ++
      ", got " ++ inText resource.index)
  let expectedIndex ← nextIndex loop.expectedIndex
  refuseIf (trim resource.name = "") (named ++ " name must not be empty")
  refuseIf (resource.memoryTotalMb = 0) (named ++ " memory_total_mb must be greater than zero")
  refuseIf (resource.memoryTotalMb < resource.memoryUsedMb)
    (named ++ " memory_used_mb must not exceed memory_total_mb")
  refuseIf (100 < resource.utilizationGresPercent)
    (named ++ " utilization_gres_percent must be <= 100")
  refuseIf (100 < resource.utilizationMemoryPercent)
    (named ++ " utilization_memory_percent must be <= 100")
  let uuids ← insertUuid resource loop.uuids
  resource.processes.forM (validateProcess resource)
  .ok { expectedIndex, uuids }

/-- `validate_gres_node_snapshot_contract`. -/
def validateGresNodeSnapshotContract (snapshot : GresNodeSnapshot) : Except String Unit := do
  refuseIf (trim snapshot.hostname = "") "hostname must not be empty"
  refuseIf (∃ version ∈ snapshot.driverVersion, trim version = "")
    "driver_version must be omitted instead of empty"
  let _ ← snapshot.resources.foldlM validateResource {}
  .ok ()

/-! ### The contract -/

/-- What a resource has to be on its own. -/
structure GresResource.Sound (r : GresResource) : Prop where
  name : trim r.name ≠ ""
  total : 0 < r.memoryTotalMb
  used : r.memoryUsedMb ≤ r.memoryTotalMb
  gresPercent : r.utilizationGresPercent ≤ 100
  memoryPercent : r.utilizationMemoryPercent ≤ 100
  uuid : ∀ uuid ∈ r.uuid, trim uuid ≠ ""
  processes : ∀ p ∈ r.processes, p.pid ≠ 0 ∧ p.usedMemoryMb ≤ r.memoryTotalMb

/-- The contract of a collector. -/
structure GresNodeSnapshot.Contract (s : GresNodeSnapshot) : Prop where
  hostname : trim s.hostname ≠ ""
  driverVersion : ∀ version ∈ s.driverVersion, trim version ≠ ""
  index : ∀ i (h : i < s.resources.length), s.resources[i].index.toNat = i
  resources : ∀ r ∈ s.resources, r.Sound
  uuids : (s.resources.filterMap GresResource.uuid).Nodup

/-! ### What the checks accept -/

/-- A process passes with a pid and no more memory than its device has. -/
theorem validateProcess_eq_ok {r : GresResource} {p : GresProcess} :
    validateProcess r p = .ok () ↔ p.pid ≠ 0 ∧ p.usedMemoryMb ≤ r.memoryTotalMb := by
  simp only [validateProcess, bind_eq_ok, refuseIf_eq_ok, exists_const, UInt64.not_lt, ne_eq]

/-- The next index exists up to 255, and is one more. -/
theorem nextIndex_eq_ok {index next : UInt8} :
    nextIndex index = .ok next ↔ index ≠ 255 ∧ next = index + 1 := by
  rw [nextIndex]
  split_ifs with h
  · exact iff_of_false nofun fun ⟨hne, _⟩ => hne h
  · exact ⟨fun hok => ⟨h, (Except.ok.inj hok).symm⟩, fun ⟨_, hnext⟩ => hnext ▸ rfl⟩

/-- A UUID, where there is one, passes if it is not blank and has not been
seen; then it has been. -/
theorem insertUuid_eq_ok {r : GresResource} {uuids uuids' : List String} :
    insertUuid r uuids = .ok uuids' ↔
      (∀ uuid ∈ r.uuid, trim uuid ≠ "" ∧ uuid ∉ uuids) ∧ uuids' = r.uuid.toList ++ uuids := by
  rw [insertUuid]
  cases r.uuid with
  | none => exact ⟨fun h => ⟨nofun, (Except.ok.inj h).symm⟩, fun ⟨_, h⟩ => h ▸ rfl⟩
  | some uuid =>
    simp only [bind_eq_ok, refuseIf_eq_ok, exists_const, Except.ok.injEq, Option.mem_def,
      Option.some.injEq, forall_eq', Option.toList_some, List.singleton_append, ne_eq, and_assoc,
      @eq_comm _ uuids']

/-- **What one turn accepts**, and what it then carries: the next index, and
the UUIDs that it has seen. -/
theorem validateResource_eq_ok {loop loop' : ContractLoop} {r : GresResource} :
    validateResource loop r = .ok loop' ↔
      (r.index = loop.expectedIndex ∧ loop.expectedIndex ≠ 255) ∧ r.Sound ∧
        (∀ uuid ∈ r.uuid, uuid ∉ loop.uuids) ∧
        loop' = { expectedIndex := loop.expectedIndex + 1
                  uuids := r.uuid.toList ++ loop.uuids } := by
  simp only [validateResource, bind_eq_ok, refuseIf_eq_ok, exists_const, nextIndex_eq_ok,
    insertUuid_eq_ok, forM_eq_ok, validateProcess_eq_ok, not_not, ne_eq, UInt64.not_lt,
    UInt8.not_lt]
  constructor
  · rintro ⟨hindex, _, ⟨hlast, rfl⟩, hname, htotal, hused, hgres, hmemory, _, ⟨huuid, rfl⟩,
      hprocesses, hloop⟩
    exact ⟨⟨hindex, hlast⟩,
      ⟨hname, UInt64.pos_iff_ne_zero.2 htotal, hused, hgres, hmemory, fun u hu => (huuid u hu).1,
        hprocesses⟩,
      fun u hu => (huuid u hu).2, (Except.ok.inj hloop).symm⟩
  · rintro ⟨⟨hindex, hlast⟩, hsound, huuid, rfl⟩
    exact ⟨hindex, _, ⟨hlast, rfl⟩, hsound.name, UInt64.pos_iff_ne_zero.1 hsound.total, hsound.used,
      hsound.gresPercent, hsound.memoryPercent, _,
      ⟨fun u hu => ⟨hsound.uuid u hu, huuid u hu⟩, rfl⟩, hsound.processes, rfl⟩

/-- The uuids that the loop goes on with differ from each other and from those it carries. -/
theorem uuids_cons (r : GresResource) (resources : List GresResource) (seen : List String) :
    ((r :: resources).filterMap GresResource.uuid).Nodup ∧
        (∀ uuid ∈ (r :: resources).filterMap GresResource.uuid, uuid ∉ seen) ↔
      (∀ uuid ∈ r.uuid, uuid ∉ seen) ∧ (resources.filterMap GresResource.uuid).Nodup ∧
        ∀ uuid ∈ resources.filterMap GresResource.uuid, uuid ∉ r.uuid.toList ++ seen := by
  cases huuid : r.uuid with
  | none => simp [List.filterMap_cons_none huuid]
  | some uuid =>
    rw [List.filterMap_cons_some huuid, List.nodup_cons, List.forall_mem_cons]
    have hsplit : (∀ u ∈ resources.filterMap GresResource.uuid, u ∉ uuid :: seen) ↔
        uuid ∉ resources.filterMap GresResource.uuid ∧
          ∀ u ∈ resources.filterMap GresResource.uuid, u ∉ seen := by
      simp only [List.mem_cons, not_or, forall_and, ← ne_eq, List.forall_mem_ne']
    simp only [Option.mem_def, Option.some.injEq, forall_eq', Option.toList_some,
      List.singleton_append, hsplit]
    tauto

/-- The index of a turn, and those of the turns behind it. -/
theorem indices_cons (index : UInt8) (r : GresResource) (resources : List GresResource) :
    (r.index = index ∧ index ≠ 255) ∧
        (resources.map (·.index.toNat) = List.range' (index + 1).toNat resources.length ∧
          (index + 1).toNat + resources.length ≤ 255) ↔
      (r :: resources).map (·.index.toNat) =
          List.range' index.toNat (r :: resources).length ∧
        index.toNat + (r :: resources).length ≤ 255 := by
  rw [List.length_cons, List.map_cons, List.range'_succ, List.cons.injEq, UInt8.toNat_inj]
  by_cases hlast : index = 255
  · subst hlast
    refine iff_of_false (fun h => h.1.2 rfl) fun h => ?_
    have hbound := h.2
    have hnat : (255 : UInt8).toNat = 255 := rfl
    omega
  · have hlt : index.toNat < 255 := by
      have hne : index.toNat ≠ 255 := fun h => hlast (UInt8.toNat_inj.1 h)
      have hmax := index.toNat_lt
      omega
    have hnext : (index + 1).toNat = index.toNat + 1 := by
      rw [UInt8.toNat_add]
      exact Nat.mod_eq_of_lt (Nat.succ_lt_succ hlt)
    rw [hnext]
    constructor
    · rintro ⟨⟨hindex, -⟩, hindices, hbound⟩
      exact ⟨⟨hindex, hindices⟩, by omega⟩
    · rintro ⟨⟨hindex, hindices⟩, hbound⟩
      exact ⟨⟨hindex, hlast⟩, hindices, by omega⟩

/-- **What the loop accepts**: resources whose indices go up from the one it carries and leave
room for another, each sound, with uuids that differ from each other and from those it carries. -/
theorem foldlM_validateResource {loop : ContractLoop} {resources : List GresResource} :
    (∃ loop', resources.foldlM validateResource loop = .ok loop') ↔
      (resources.map (·.index.toNat) = List.range' loop.expectedIndex.toNat resources.length ∧
        loop.expectedIndex.toNat + resources.length ≤ 255) ∧ (∀ r ∈ resources, r.Sound) ∧
        (resources.filterMap GresResource.uuid).Nodup ∧
        ∀ uuid ∈ resources.filterMap GresResource.uuid, uuid ∉ loop.uuids := by
  induction resources generalizing loop with
  | nil =>
    have hlt : loop.expectedIndex.toNat < 256 := loop.expectedIndex.toNat_lt
    exact iff_of_true ⟨loop, rfl⟩
      ⟨⟨rfl, Nat.le_of_lt_succ hlt⟩, List.forall_mem_nil _, List.nodup_nil, List.forall_mem_nil _⟩
  | cons r resources ih =>
    have hstep : (∃ loop', (r :: resources).foldlM validateResource loop = .ok loop') ↔
        ∃ next, validateResource loop r = .ok next ∧
          ∃ loop', resources.foldlM validateResource next = .ok loop' := by
      simp only [List.foldlM_cons, bind_eq_ok]
      exact ⟨fun ⟨loop', next, h, h'⟩ => ⟨next, h, loop', h'⟩,
        fun ⟨next, h, loop', h'⟩ => ⟨loop', next, h, h'⟩⟩
    rw [hstep, List.forall_mem_cons, uuids_cons, ← indices_cons]
    simp only [validateResource_eq_ok, ih]
    constructor
    · rintro ⟨_, ⟨hnext, hsound, huuid, rfl⟩, hrest, hsounds, huuids⟩
      exact ⟨⟨hnext, hrest⟩, ⟨hsound, hsounds⟩, huuid, huuids⟩
    · rintro ⟨⟨hnext, hrest⟩, ⟨hsound, hsounds⟩, huuid, huuids⟩
      exact ⟨_, ⟨hnext, hsound, huuid, rfl⟩, hrest, hsounds, huuids⟩

/-! ### The validator and the contract -/

/-- The indices are dense from zero exactly when each resource has the index
of its place. -/
theorem map_index_eq_iff (resources : List GresResource) :
    resources.map (·.index.toNat) = List.range' 0 resources.length ↔
      ∀ i (h : i < resources.length), resources[i].index.toNat = i := by
  rw [List.ext_getElem_iff]
  simp

/-- **The validator accepts** the contract, for up to 255 resources: the index
of a 256th would have no successor. -/
theorem validate_eq_ok (s : GresNodeSnapshot) :
    validateGresNodeSnapshotContract s = .ok () ↔ s.Contract ∧ s.resources.length ≤ 255 := by
  have hloop := @foldlM_validateResource {} s.resources
  simp only [validateGresNodeSnapshotContract, bind_eq_ok, refuseIf_eq_ok, exists_const,
    and_true, hloop]
  have hzero : (0 : UInt8).toNat = 0 := rfl
  rw [hzero, map_index_eq_iff, Nat.zero_add]
  constructor
  · rintro ⟨hhostname, hversion, ⟨hindex, hlength⟩, hsound, huuids, -⟩
    exact ⟨⟨hhostname, fun v hv h => hversion ⟨v, hv, h⟩, hindex, hsound, huuids⟩, hlength⟩
  · rintro ⟨h, hlength⟩
    exact ⟨h.hostname, fun ⟨v, hv, he⟩ => h.driverVersion v hv he, ⟨h.index, hlength⟩,
      h.resources, h.uuids, fun _ _ => List.not_mem_nil⟩

/-- The indices of the contract are those of a `u8`. -/
theorem GresNodeSnapshot.Contract.length_le {s : GresNodeSnapshot} (h : s.Contract) :
    s.resources.length ≤ 256 := by
  by_contra hlong
  have hbound : 256 < s.resources.length := Nat.lt_of_not_le hlong
  have hindex := h.index 256 hbound
  have hlt := s.resources[256].index.toNat_lt
  omega

/-- **Where the validator decides the contract**: everywhere but at 256
resources that meet it, where the index after the last overflows. -/
theorem contract_iff (s : GresNodeSnapshot) :
    (validateGresNodeSnapshotContract s = .ok () ↔ s.Contract) ↔
      s.resources.length ≠ 256 ∨ ¬s.Contract := by
  rw [validate_eq_ok]
  constructor
  · intro hiff
    by_cases hcontract : s.Contract
    · have hshort := (hiff.2 hcontract).2
      exact .inl (by omega)
    · exact .inr hcontract
  · rintro (hlength | hcontract)
    · refine ⟨And.left, fun h => ⟨h, ?_⟩⟩
      have hle := h.length_le
      omega
    · exact iff_of_false (fun h => hcontract h.1) hcontract

/-- The index that the loop expects after some resources. -/
theorem expectedIndex_of_foldlM {loop loop' : ContractLoop} {resources : List GresResource}
    (h : resources.foldlM validateResource loop = .ok loop') :
    loop'.expectedIndex = loop.expectedIndex + .ofNat resources.length := by
  induction resources generalizing loop with
  | nil =>
    obtain rfl := Except.ok.inj h
    exact (UInt8.add_zero _).symm
  | cons r resources ih =>
    obtain ⟨next, hnext, hrest⟩ := bind_eq_ok.1 h
    obtain ⟨-, -, -, rfl⟩ := validateResource_eq_ok.1 hnext
    rw [ih hrest, List.length_cons, UInt8.ofNat_add, UInt8.add_assoc, UInt8.add_comm 1]
    rfl

/-- The index is advanced before anything else of a resource is looked at. -/
theorem validateResource_overflow {loop : ContractLoop} {r : GresResource}
    (hindex : r.index = loop.expectedIndex) (hlast : loop.expectedIndex = 255) :
    validateResource loop r = .error "resource index overflow" := by
  rw [validateResource, refuseIf, if_neg (not_not.2 hindex), nextIndex, if_pos hlast]
  rfl

/-- **A full node overflows the index**: 256 resources that meet the contract are refused with the
last. -/
theorem validate_of_length {s : GresNodeSnapshot} (h : s.Contract)
    (hlength : s.resources.length = 256) :
    validateGresNodeSnapshotContract s = .error "resource index overflow" := by
  obtain ⟨front, last, hsplit⟩ : ∃ front last, s.resources = front ++ [last] :=
    ⟨s.resources.dropLast, s.resources.getLast (by rw [← List.length_pos_iff]; omega),
      (List.dropLast_append_getLast _).symm⟩
  have hfront : front.length = 255 := by
    rw [hsplit, List.length_append, List.length_singleton] at hlength
    omega
  have hindices := (map_index_eq_iff s.resources).2 h.index
  rw [hsplit, List.map_append, List.length_append, ← List.range'_append_1] at hindices
  obtain ⟨hbefore, hlast⟩ := List.append_inj hindices (by simp)
  obtain ⟨loop, hloop⟩ : ∃ loop, front.foldlM validateResource {} = .ok loop := by
    refine foldlM_validateResource.2
      ⟨⟨hbefore, ?_⟩, fun r hr => ?_, ?_, fun _ _ => List.not_mem_nil⟩
    · rw [hfront]
      rfl
    · exact h.resources r (by rw [hsplit]; exact List.mem_append_left _ hr)
    · have huuids := h.uuids
      rw [hsplit, List.filterMap_append] at huuids
      exact huuids.of_append_left
  have hexpected : loop.expectedIndex = 255 := by
    rw [expectedIndex_of_foldlM hloop, hfront]
    rfl
  have hindex : last.index = loop.expectedIndex := by
    rw [hexpected, ← UInt8.toNat_inj, ← List.singleton_inj]
    simpa [hfront] using hlast
  have hversion : ¬∃ version ∈ s.driverVersion, trim version = "" :=
    fun ⟨version, hmem, hempty⟩ => h.driverVersion version hmem hempty
  rw [validateGresNodeSnapshotContract, refuseIf, if_neg h.hostname, refuseIf, if_neg hversion,
    hsplit, List.foldlM_append, hloop]
  change [last].foldlM validateResource loop >>= _ = _
  rw [List.foldlM_cons, validateResource_overflow hindex hexpected]
  rfl

/-- A resource with an index. -/
def plainResource (index : ℕ) : GresResource where
  kind := .nvml
  index := .ofNat index
  name := "GPU"
  uuid := none
  temperatureC := none
  memoryUsedMb := 0
  memoryTotalMb := 1
  utilizationGresPercent := 0
  utilizationMemoryPercent := 0
  processes := []

/-- A node with as many resources as a `u8` can number. -/
def fullNode : GresNodeSnapshot where
  hostname := "node-a"
  driverVersion := none
  resources := (List.range 256).map plainResource

/-- The node meets the contract and is refused. -/
theorem full_node_refused :
    fullNode.Contract ∧
      validateGresNodeSnapshotContract fullNode = .error "resource index overflow" := by
  have hlength : fullNode.resources.length = 256 := by
    rw [fullNode, List.length_map, List.length_range]
  have hcontract : fullNode.Contract := by
    refine ⟨by decide, nofun, fun i hi => ?_, fun r hr => ?_, ?_⟩
    · rw [hlength] at hi
      simp [fullNode, plainResource, UInt8.toNat_ofNat_of_lt' (show i < UInt8.size from hi)]
    · obtain ⟨i, -, rfl⟩ := List.mem_map.1 hr
      have hname : trim "GPU" ≠ "" := by decide
      exact ⟨hname, UInt64.zero_lt_one, UInt64.zero_le, UInt8.zero_le, UInt8.zero_le, nofun,
        List.forall_mem_nil _⟩
    · have hnone : fullNode.resources.filterMap GresResource.uuid = [] := by
        refine List.filterMap_eq_nil_iff.2 fun r hr => ?_
        obtain ⟨i, -, rfl⟩ := List.mem_map.1 hr
        rfl
      rw [hnone]
      exact List.nodup_nil
  exact ⟨hcontract, validate_of_length hcontract hlength⟩

end Server
end Clustat
