/-
# What a collector returns

`crates/server/src/collector.rs`: a collector describes its node by a
`GresNodeSnapshot`, and `collect_gres_snapshot` turns that into the snapshot of
the protocol.  A node snapshot has no room for the command of a process, so the
conversion from a protocol snapshot and back is `omit_process_commands`
(`intoGresSnapshot_fromGresSnapshot`), and two snapshots have one node snapshot
exactly if they differ in nothing but commands (`fromGresSnapshot_eq_iff`).
-/

import Clustat.Common.Snapshot
import Mathlib.Data.List.Forall2

namespace Clustat
namespace Server

/-- `GresResourceKind`. -/
inductive GresResourceKind
  | nvml
  deriving DecidableEq, Repr

/-- `GresProcess`. -/
structure GresProcess where
  pid : UInt32
  uid : UInt32
  usedMemoryMb : UInt64
  deriving DecidableEq, Repr

/-- `GresResource`. -/
structure GresResource where
  kind : GresResourceKind
  index : UInt8
  name : String
  uuid : Option String
  temperatureC : Option UInt32
  memoryUsedMb : UInt64
  memoryTotalMb : UInt64
  utilizationGresPercent : UInt8
  utilizationMemoryPercent : UInt8
  processes : List GresProcess
  deriving DecidableEq, Repr

/-- `GresNodeSnapshot`. -/
structure GresNodeSnapshot where
  hostname : String
  driverVersion : Option String
  resources : List GresResource
  deriving DecidableEq, Repr

/-- A process of `from_gres_snapshot`. -/
def GresProcess.ofInfo (p : GresProcessInfo) : GresProcess where
  pid := p.pid
  uid := p.uid
  usedMemoryMb := p.usedMemoryMb

/-- A process of `into_gres_snapshot`. -/
def GresProcess.toInfo (p : GresProcess) : GresProcessInfo where
  pid := p.pid
  uid := p.uid
  command := none
  usedMemoryMb := p.usedMemoryMb

/-- A resource of `from_gres_snapshot`. -/
def GresResource.ofInfo (g : GresInfo) : GresResource where
  kind := .nvml
  index := g.index
  name := g.name
  uuid := g.uuid
  temperatureC := g.temperatureC
  memoryUsedMb := g.memory.usedMb
  memoryTotalMb := g.memory.totalMb
  utilizationGresPercent := g.utilization.gresPercent
  utilizationMemoryPercent := g.utilization.memoryPercent
  processes := g.processes.map GresProcess.ofInfo

/-- A resource of `into_gres_snapshot`. -/
def GresResource.toInfo (r : GresResource) : GresInfo where
  index := r.index
  name := r.name
  temperatureC := r.temperatureC
  uuid := r.uuid
  memory := { usedMb := r.memoryUsedMb, totalMb := r.memoryTotalMb }
  utilization :=
    { gresPercent := r.utilizationGresPercent, memoryPercent := r.utilizationMemoryPercent }
  processes := r.processes.map GresProcess.toInfo

/-- `GresNodeSnapshot::from_gres_snapshot`. -/
def GresNodeSnapshot.fromGresSnapshot (s : ServerGresSnapshot) : GresNodeSnapshot where
  hostname := s.hostname
  driverVersion := s.driverVersion
  resources := s.gres.map GresResource.ofInfo

/-- `GresNodeSnapshot::into_gres_snapshot`. -/
def GresNodeSnapshot.intoGresSnapshot (n : GresNodeSnapshot) : ServerGresSnapshot where
  hostname := n.hostname
  driverVersion := n.driverVersion
  gres := n.resources.map GresResource.toInfo

/-- `GresCollector::collect_gres_snapshot`, of what `collect_gres` returns. -/
def collectGresSnapshot (collected : Except ErrorCode GresNodeSnapshot) :
    Except ErrorCode ServerGresSnapshot :=
  collected.map GresNodeSnapshot.intoGresSnapshot

/-- **There and back**, a snapshot has lost the commands of its processes,
which the resources of a node do not have. -/
theorem intoGresSnapshot_fromGresSnapshot (s : ServerGresSnapshot) :
    (GresNodeSnapshot.fromGresSnapshot s).intoGresSnapshot = omitProcessCommands s := by
  have hgres : ∀ g : GresInfo, (GresResource.ofInfo g).toInfo = g.omitCommands := by
    intro g
    simp only [GresResource.ofInfo, GresResource.toInfo, List.map_map]
    rfl
  simp only [GresNodeSnapshot.intoGresSnapshot, GresNodeSnapshot.fromGresSnapshot, List.map_map]
  exact congrArg _ (List.map_congr_left fun g _ => hgres g)

/-- A resource, made a resource of the protocol and back. -/
theorem GresResource.ofInfo_toInfo (r : GresResource) : GresResource.ofInfo r.toInfo = r := by
  have hprocs : ∀ p : GresProcess, GresProcess.ofInfo p.toInfo = p := fun _ => rfl
  simp only [GresResource.ofInfo, GresResource.toInfo, List.map_map, Function.comp_def, hprocs,
    List.map_id']

/-- **Back and there**, a node snapshot has lost nothing: each of its fields
has a place in the snapshot. -/
theorem fromGresSnapshot_intoGresSnapshot (n : GresNodeSnapshot) :
    GresNodeSnapshot.fromGresSnapshot n.intoGresSnapshot = n := by
  simp only [GresNodeSnapshot.fromGresSnapshot, GresNodeSnapshot.intoGresSnapshot, List.map_map,
    Function.comp_def, GresResource.ofInfo_toInfo, List.map_id']

/-- So it has no commands to lose. -/
theorem omitProcessCommands_intoGresSnapshot (n : GresNodeSnapshot) :
    omitProcessCommands n.intoGresSnapshot = n.intoGresSnapshot := by
  rw [← intoGresSnapshot_fromGresSnapshot, fromGresSnapshot_intoGresSnapshot]

/-- **Split into metadata and runtime and put together again**, a snapshot with distinct
indices has lost the commands of its processes and nothing else.  The snapshot of a collector
is what it was, and so is the node snapshot made of it. -/
theorem split_rebuilds :
    (∀ s : ServerGresSnapshot, (s.gres.map GresInfo.index).Nodup →
      (RuntimeSnapshot.fromSnapshot s).toSnapshot (HostMetadata.fromSnapshot s) =
        { s with gres := s.gres.map fun g =>
          { g with processes := g.processes.map fun p => { p with command := none } } }) ∧
    ∀ n : GresNodeSnapshot, (n.resources.map GresResource.index).Nodup →
      let s := n.intoGresSnapshot
      let rebuilt := (RuntimeSnapshot.fromSnapshot s).toSnapshot (HostMetadata.fromSnapshot s)
      rebuilt = s ∧ GresNodeSnapshot.fromGresSnapshot rebuilt = n := by
  refine ⟨fun s hs => toSnapshot_fromSnapshot hs, fun n hn => ?_⟩
  intro s rebuilt
  have hdistinct : s.DistinctIndices := by
    have hindex : s.gres.map GresInfo.index = n.resources.map GresResource.index := by
      have hgres : s.gres = n.resources.map GresResource.toInfo := rfl
      rw [hgres, List.map_map]
      rfl
    rwa [ServerGresSnapshot.DistinctIndices, hindex]
  have hrebuilt : rebuilt = s :=
    (toSnapshot_fromSnapshot hdistinct).trans (omitProcessCommands_intoGresSnapshot n)
  exact ⟨hrebuilt, by rw [hrebuilt, fromGresSnapshot_intoGresSnapshot]⟩

/-- A resource with one process. -/
def busyResource (index : UInt8) : GresResource where
  kind := .nvml
  index := index
  name := "A100"
  uuid := none
  temperatureC := some 40
  memoryUsedMb := 1
  memoryTotalMb := 2
  utilizationGresPercent := 3
  utilizationMemoryPercent := 4
  processes := [⟨5, 6, 7⟩]

/-- A node with two of them. -/
def busyNode : GresNodeSnapshot := ⟨"node1", some "550", [busyResource 1, busyResource 0]⟩

/-- A snapshot with a command. -/
def trainSnapshot : ServerGresSnapshot where
  hostname := "node1"
  driverVersion := none
  gres := [⟨3, "A100", none, none, ⟨1, 2⟩, ⟨3, 4⟩, [⟨5, 6, some "train", 7⟩]⟩]

/-- The snapshot of a train, split and rebuilt, has lost its command; what the
collector of the busy node has made comes back as it was. -/
theorem split_rebuilds_busy :
    (RuntimeSnapshot.fromSnapshot trainSnapshot).toSnapshot
        (HostMetadata.fromSnapshot trainSnapshot) =
      { trainSnapshot with gres := trainSnapshot.gres.map fun g =>
        { g with processes := g.processes.map fun p => { p with command := none } } } ∧
    let s := busyNode.intoGresSnapshot
    let rebuilt := (RuntimeSnapshot.fromSnapshot s).toSnapshot (HostMetadata.fromSnapshot s)
    rebuilt = s ∧ GresNodeSnapshot.fromGresSnapshot rebuilt = busyNode :=
  ⟨split_rebuilds.1 _ (by decide), split_rebuilds.2 _ (by decide)⟩

/-! ### Snapshots that differ in commands -/

/-- The same process, but for its command. -/
structure SameProcess (p q : GresProcessInfo) : Prop where
  pid : p.pid = q.pid
  uid : p.uid = q.uid
  usedMemoryMb : p.usedMemoryMb = q.usedMemoryMb

/-- The same resource, but for the commands of its processes. -/
structure SameGres (g h : GresInfo) : Prop where
  index : g.index = h.index
  name : g.name = h.name
  temperatureC : g.temperatureC = h.temperatureC
  uuid : g.uuid = h.uuid
  memory : g.memory = h.memory
  utilization : g.utilization = h.utilization
  processes : List.Forall₂ SameProcess g.processes h.processes

/-- The same snapshot, but for the commands of its processes. -/
structure SameSnapshot (s t : ServerGresSnapshot) : Prop where
  hostname : s.hostname = t.hostname
  driverVersion : s.driverVersion = t.driverVersion
  gres : List.Forall₂ SameGres s.gres t.gres

/-- Lists have one image exactly if their members have. -/
theorem map_eq_map_iff {α β : Type*} {f : α → β} {R : α → α → Prop}
    (hf : ∀ a b, f a = f b ↔ R a b) {as bs : List α} :
    as.map f = bs.map f ↔ List.Forall₂ R as bs := by
  rw [← List.forall₂_eq_eq_eq, List.forall₂_map_left_iff, List.forall₂_map_right_iff]
  simp only [hf]

/-- Two processes are sent as one exactly when they are the same but for the
command. -/
theorem GresProcess.ofInfo_eq_iff (p q : GresProcessInfo) : ofInfo p = ofInfo q ↔
    SameProcess p q := by
  constructor
  · intro h
    obtain ⟨hpid, huid, hmem⟩ := GresProcess.mk.inj h
    exact ⟨hpid, huid, hmem⟩
  · rintro ⟨hpid, huid, hmem⟩
    rw [ofInfo, hpid, huid, hmem, ofInfo]

/-- Two devices are taken for one exactly when all is the same but what a
resource does not have. -/
theorem GresResource.ofInfo_eq_iff (g h : GresInfo) : ofInfo g = ofInfo h ↔ SameGres g h := by
  constructor
  · intro he
    obtain ⟨-, hindex, hname, huuid, htemp, hused, htotal, hgres, hmem, hprocs⟩ :=
      GresResource.mk.inj he
    have hmemory : g.memory = h.memory := by
      cases hg : g.memory
      cases hh : h.memory
      simp_all
    have hutil : g.utilization = h.utilization := by
      cases hg : g.utilization
      cases hh : h.utilization
      simp_all
    exact ⟨hindex, hname, htemp, huuid, hmemory, hutil,
      (map_eq_map_iff GresProcess.ofInfo_eq_iff).1 hprocs⟩
  · rintro ⟨hindex, hname, htemp, huuid, hmemory, hutil, hprocs⟩
    rw [ofInfo, ofInfo, hindex, hname, htemp, huuid, hmemory, hutil,
      (map_eq_map_iff GresProcess.ofInfo_eq_iff).2 hprocs]

/-- **A node snapshot is a snapshot but for the commands**: two snapshots make
one node snapshot exactly if they differ in nothing else. -/
theorem fromGresSnapshot_eq_iff (s t : ServerGresSnapshot) :
    GresNodeSnapshot.fromGresSnapshot s = GresNodeSnapshot.fromGresSnapshot t ↔
      SameSnapshot s t := by
  constructor
  · intro h
    obtain ⟨hhost, hdriver, hgres⟩ := GresNodeSnapshot.mk.inj h
    exact ⟨hhost, hdriver, (map_eq_map_iff GresResource.ofInfo_eq_iff).1 hgres⟩
  · rintro ⟨hhost, hdriver, hgres⟩
    rw [GresNodeSnapshot.fromGresSnapshot, GresNodeSnapshot.fromGresSnapshot, hhost, hdriver,
      (map_eq_map_iff GresResource.ofInfo_eq_iff).2 hgres]

/-- What is the same but for the commands is the same without them. -/
theorem SameSnapshot.omit_eq {s t : ServerGresSnapshot} (h : SameSnapshot s t) :
    omitProcessCommands s = omitProcessCommands t := by
  rw [← intoGresSnapshot_fromGresSnapshot, (fromGresSnapshot_eq_iff s t).2 h,
    intoGresSnapshot_fromGresSnapshot]

end Server
end Clustat
