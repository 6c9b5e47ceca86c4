/-
# Snapshots, and how they are split for the wire

`crates/common/src/protocol.rs`: a `ServerGresSnapshot` is what a server
collects.  On the wire it is split in two: the `HostMetadata` that rarely
change, fetched by a handshake and kept by the client, and the
`RuntimeSnapshot` of every query.  A runtime snapshot names the metadata it
belongs to by their hash, and the client joins the two again by the index of
each resource (`RuntimeSnapshot.toSnapshot`).

The join gives back the snapshot less the commands of its processes
(`toSnapshot_fromSnapshot`), which the server's cache has dropped before
(`omit_process_commands` of `crates/server/src/cache.rs`).
-/

import Mathlib.Algebra.Group.Nat.Defs
import Mathlib.Data.List.Basic
import Mathlib.Data.List.Nodup

namespace Clustat

/-- `ErrorCode` of `crates/common/src/error.rs`. -/
inductive ErrorCode
  | nvmlUnavailable | configInvalid | portExhausted | multicastFailed | transportInitFailed
  | heartbeatTimeout | connectionClosed | queryTimeout | invalidFilter | protocolVersionMismatch
  | internal
  deriving DecidableEq, Repr

/-- Its `Display`. -/
def ErrorCode.display : ErrorCode → String
  | .nvmlUnavailable => "nvml unavailable"
  | .configInvalid => "configuration invalid"
  | .portExhausted => "port range exhausted"
  | .multicastFailed => "multicast setup failed"
  | .transportInitFailed => "transport initialization failed"
  | .heartbeatTimeout => "heartbeat timeout"
  | .connectionClosed => "connection closed"
  | .queryTimeout => "query timeout"
  | .invalidFilter => "invalid filter"
  | .protocolVersionMismatch => "protocol version mismatch"
  | .internal => "internal error"

/-- `GresMemory`, in MiB. -/
structure GresMemory where
  usedMb : UInt64
  totalMb : UInt64
  deriving DecidableEq, Repr

/-- `GresUtilization`, in percent. -/
structure GresUtilization where
  gresPercent : UInt8
  memoryPercent : UInt8
  deriving DecidableEq, Repr

/-- `GresProcessInfo`. -/
structure GresProcessInfo where
  pid : UInt32
  uid : UInt32
  command : Option String
  usedMemoryMb : UInt64
  deriving DecidableEq, Repr

/-- `GresInfo`. -/
structure GresInfo where
  index : UInt8
  name : String
  temperatureC : Option UInt32
  uuid : Option String
  memory : GresMemory
  utilization : GresUtilization
  processes : List GresProcessInfo
  deriving DecidableEq, Repr

/-- `ServerGresSnapshot`. -/
structure ServerGresSnapshot where
  hostname : String
  driverVersion : Option String
  gres : List GresInfo
  deriving DecidableEq, Repr

/-- `GresStaticInfo`. -/
structure GresStaticInfo where
  index : UInt8
  name : String
  uuid : Option String
  memoryTotalMb : UInt64
  deriving DecidableEq, Repr

/-- `HostMetadata`. -/
structure HostMetadata where
  hostname : String
  driverVersion : Option String
  gres : List GresStaticInfo
  deriving DecidableEq, Repr

/-- `GresProcessRuntimeInfo`. -/
structure GresProcessRuntimeInfo where
  pid : UInt32
  uid : UInt32
  usedMemoryMb : UInt64
  deriving DecidableEq, Repr

/-- `GresRuntimeInfo`. -/
structure GresRuntimeInfo where
  index : UInt8
  temperatureC : Option UInt32
  memoryUsedMb : UInt64
  utilization : GresUtilization
  processes : List GresProcessRuntimeInfo
  deriving DecidableEq, Repr

/-- `RuntimeSnapshot`. -/
structure RuntimeSnapshot where
  metadataHash : UInt64
  gres : List GresRuntimeInfo
  deriving DecidableEq, Repr

/-! ### Splitting -/

/-- The static part of a resource. -/
def GresInfo.staticInfo (g : GresInfo) : GresStaticInfo where
  index := g.index
  name := g.name
  uuid := g.uuid
  memoryTotalMb := g.memory.totalMb

/-- The part of a process that is sent. -/
def GresProcessInfo.runtimeInfo (p : GresProcessInfo) : GresProcessRuntimeInfo where
  pid := p.pid
  uid := p.uid
  usedMemoryMb := p.usedMemoryMb

/-- The runtime part of a resource. -/
def GresInfo.runtimeInfo (g : GresInfo) : GresRuntimeInfo where
  index := g.index
  temperatureC := g.temperatureC
  memoryUsedMb := g.memory.usedMb
  utilization := g.utilization
  processes := g.processes.map GresProcessInfo.runtimeInfo

namespace HostMetadata

/-- `HostMetadata::from_snapshot`. -/
def fromSnapshot (s : ServerGresSnapshot) : HostMetadata where
  hostname := s.hostname
  driverVersion := s.driverVersion
  gres := s.gres.map GresInfo.staticInfo

/-- One step of the FNV-1a hash. -/
def fnvByte (hash : UInt64) (byte : UInt8) : UInt64 := (hash ^^^ byte.toUInt64) * 0x100000001b3

/-- `write_bytes` of `metadata_hash`: a field is closed by the byte `0xff`. -/
def writeBytes (hash : UInt64) (bytes : List UInt8) : UInt64 :=
  fnvByte (bytes.foldl fnvByte hash) 0xff

/-- `as_bytes`. -/
def asBytes (s : String) : List UInt8 := s.toUTF8.data.toList

/-- `to_le_bytes` of a `u64`. -/
def toLeBytes (n : UInt64) : List UInt8 :=
  (List.range 8).map fun i => UInt8.ofNat (n.toNat / 256 ^ i)

/-- The fields of one resource in `metadata_hash`. -/
def writeGres (hash : UInt64) (g : GresStaticInfo) : UInt64 :=
  let hash := writeBytes hash [g.index]
  let hash := writeBytes hash (asBytes g.name)
  let hash := writeBytes hash (asBytes (g.uuid.getD ""))
  writeBytes hash (toLeBytes g.memoryTotalMb)

/-- `HostMetadata::metadata_hash`. -/
def metadataHash (m : HostMetadata) : UInt64 :=
  let hash := writeBytes 0xcbf29ce484222325 (asBytes m.hostname)
  let hash := writeBytes hash (asBytes (m.driverVersion.getD ""))
  m.gres.foldl writeGres hash

end HostMetadata

namespace RuntimeSnapshot

/-- `RuntimeSnapshot::from_snapshot`. -/
def fromSnapshot (s : ServerGresSnapshot) : RuntimeSnapshot where
  metadataHash := (HostMetadata.fromSnapshot s).metadataHash
  gres := s.gres.map GresInfo.runtimeInfo

/-- A process as the client shows it. -/
def restoreProcess (p : GresProcessRuntimeInfo) : GresProcessInfo where
  pid := p.pid
  uid := p.uid
  command := none
  usedMemoryMb := p.usedMemoryMb

/-- One resource of `to_snapshot`: the runtime part with what the metadata say
about its index. -/
def restoreGres (metadata : HostMetadata) (runtime : GresRuntimeInfo) : GresInfo :=
  let staticInfo := metadata.gres.find? fun g => g.index == runtime.index
  { index := runtime.index
    name := (staticInfo.map GresStaticInfo.name).getD "unknown"
    temperatureC := runtime.temperatureC
    uuid := staticInfo.bind GresStaticInfo.uuid
    memory :=
      { usedMb := runtime.memoryUsedMb
        totalMb := (staticInfo.map GresStaticInfo.memoryTotalMb).getD 0 }
    utilization := runtime.utilization
    processes := runtime.processes.map restoreProcess }

/-- `RuntimeSnapshot::to_snapshot`. -/
def toSnapshot (r : RuntimeSnapshot) (metadata : HostMetadata) : ServerGresSnapshot where
  hostname := metadata.hostname
  driverVersion := metadata.driverVersion
  gres := r.gres.map (restoreGres metadata)

end RuntimeSnapshot

/-- A process without its command. -/
def GresProcessInfo.omitCommand (p : GresProcessInfo) : GresProcessInfo :=
  { p with command := none }

/-- A resource without the commands of its processes. -/
def GresInfo.omitCommands (g : GresInfo) : GresInfo :=
  { g with processes := g.processes.map GresProcessInfo.omitCommand }

/-- `omit_process_commands`. -/
def omitProcessCommands (s : ServerGresSnapshot) : ServerGresSnapshot :=
  { s with gres := s.gres.map GresInfo.omitCommands }

/-- The indices of the resources are pairwise distinct. -/
def ServerGresSnapshot.DistinctIndices (s : ServerGresSnapshot) : Prop :=
  (s.gres.map GresInfo.index).Nodup

instance (s : ServerGresSnapshot) : Decidable s.DistinctIndices :=
  inferInstanceAs (Decidable (List.Nodup _))

/-! ### Joining -/

open RuntimeSnapshot

/-- Leaving out the commands does not change what is static about a device. -/
theorem staticInfo_omitCommands (g : GresInfo) : g.omitCommands.staticInfo = g.staticInfo := rfl

/-- The runtime part of a device never has the commands, so leaving them out
does not change it. -/
theorem runtimeInfo_omitCommands (g : GresInfo) : g.omitCommands.runtimeInfo = g.runtimeInfo := by
  simp only [GresInfo.runtimeInfo, GresInfo.omitCommands, List.map_map]
  rfl

/-- The commands are in neither half. -/
theorem metadata_omitProcessCommands (s : ServerGresSnapshot) :
    HostMetadata.fromSnapshot (omitProcessCommands s) = HostMetadata.fromSnapshot s := by
  simp only [HostMetadata.fromSnapshot, omitProcessCommands, List.map_map]
  rfl

/-- What is sent at runtime is the same with and without the commands. -/
theorem runtime_omitProcessCommands (s : ServerGresSnapshot) :
    RuntimeSnapshot.fromSnapshot (omitProcessCommands s) = RuntimeSnapshot.fromSnapshot s := by
  simp only [RuntimeSnapshot.fromSnapshot, metadata_omitProcessCommands]
  simp only [omitProcessCommands, List.map_map]
  exact congrArg _ (List.map_congr_left fun g _ => runtimeInfo_omitCommands g)

/-- The metadata of a snapshot say of an index what its resource says. -/
theorem find?_metadata {gs : List GresInfo} (hnodup : (gs.map GresInfo.index).Nodup)
    {g : GresInfo} (hg : g ∈ gs) :
    (gs.map GresInfo.staticInfo).find? (fun i => i.index == g.index) = some g.staticInfo := by
  induction gs with
  | nil => cases hg
  | cons a gs ih =>
    rw [List.map_cons, List.nodup_cons] at hnodup
    rw [List.map_cons]
    by_cases ha : a.index = g.index
    · have hag : g = a := by
        rcases List.mem_cons.1 hg with h | h
        · exact h
        · exact absurd (List.mem_map.2 ⟨g, h, ha.symm⟩) hnodup.1
      exact List.find?_cons_of_pos (by rw [hag]; exact beq_self_eq_true _) |>.trans (by rw [hag])
    · rw [List.find?_cons_of_neg (by simpa [GresInfo.staticInfo] using ha)]
      rcases List.mem_cons.1 hg with h | h
      · exact absurd (congrArg GresInfo.index h.symm) ha
      · exact ih hnodup.2 h

/-- What metadata say of an index, with the defaults of `to_snapshot` for an
index they do not know. -/
def HostMetadata.staticOf (m : HostMetadata) (index : UInt8) : GresStaticInfo :=
  (m.gres.find? fun g => g.index == index).getD
    { index, name := "unknown", uuid := none, memoryTotalMb := 0 }

/-- The static part that goes with an index has that index, even where the
metadata do not know it. -/
theorem index_staticOf (m : HostMetadata) (index : UInt8) : (m.staticOf index).index = index := by
  unfold HostMetadata.staticOf
  cases hf : m.gres.find? fun g => g.index == index with
  | none => rfl
  | some g => simpa using List.find?_some hf

/-- `restoreGres` in terms of what the metadata say. -/
theorem restoreGres_eq (m : HostMetadata) (r : GresRuntimeInfo) :
    restoreGres m r =
      { index := r.index
        name := (m.staticOf r.index).name
        temperatureC := r.temperatureC
        uuid := (m.staticOf r.index).uuid
        memory := { usedMb := r.memoryUsedMb, totalMb := (m.staticOf r.index).memoryTotalMb }
        utilization := r.utilization
        processes := r.processes.map restoreProcess } := by
  unfold restoreGres HostMetadata.staticOf
  cases m.gres.find? fun g => g.index == r.index <;> rfl

/-- The static part of a restored device is the one the metadata have for its
index. -/
@[simp] theorem staticInfo_restoreGres (m : HostMetadata) (r : GresRuntimeInfo) :
    (restoreGres m r).staticInfo = m.staticOf r.index := by
  have hidx := index_staticOf m r.index
  rw [restoreGres_eq, GresInfo.staticInfo]
  generalize m.staticOf r.index = g at hidx
  rw [← hidx]

/-- The runtime part of a restored device is the one it was restored from. -/
@[simp] theorem runtimeInfo_restoreGres (m : HostMetadata) (r : GresRuntimeInfo) :
    (restoreGres m r).runtimeInfo = r := by
  have hprocs : (r.processes.map restoreProcess).map GresProcessInfo.runtimeInfo = r.processes := by
    rw [List.map_map]
    exact List.map_id _
  rw [restoreGres_eq, GresInfo.runtimeInfo]
  simp only [hprocs]

/-- A resource is restored from its runtime half exactly when the metadata say
of its index what its static half says. -/
theorem restoreGres_runtimeInfo_iff {m : HostMetadata} {g : GresInfo} :
    restoreGres m g.runtimeInfo = g.omitCommands ↔ g.staticInfo = m.staticOf g.index := by
  have hprocs : g.runtimeInfo.processes.map restoreProcess = g.omitCommands.processes :=
    List.map_map
  constructor
  · intro h
    rw [← staticInfo_omitCommands, ← h, staticInfo_restoreGres]
    rfl
  · intro h
    have hs : m.staticOf g.runtimeInfo.index = g.staticInfo := h.symm
    rw [restoreGres_eq, hs, hprocs]
    rfl

/-- **When the join is a given snapshot**: when it has the readings of the one
and the inventory of the other half. -/
theorem toSnapshot_eq_omit_iff {s a : ServerGresSnapshot} {m : HostMetadata} :
    (RuntimeSnapshot.fromSnapshot a).toSnapshot m = omitProcessCommands s ↔
      s.gres.map GresInfo.runtimeInfo = a.gres.map GresInfo.runtimeInfo ∧
        s.hostname = m.hostname ∧ s.driverVersion = m.driverVersion ∧
          ∀ g ∈ s.gres, g.staticInfo = m.staticOf g.index := by
  have hruntime : ∀ gs : List GresInfo, (gs.map GresInfo.omitCommands).map GresInfo.runtimeInfo =
      gs.map GresInfo.runtimeInfo := fun gs => by
    rw [List.map_map]
    exact List.map_congr_left fun g _ => runtimeInfo_omitCommands g
  constructor
  · intro h
    have hgres : (a.gres.map GresInfo.runtimeInfo).map (restoreGres m) =
        s.gres.map GresInfo.omitCommands := congrArg ServerGresSnapshot.gres h
    have hread : s.gres.map GresInfo.runtimeInfo = a.gres.map GresInfo.runtimeInfo := by
      have := congrArg (List.map GresInfo.runtimeInfo) hgres
      rw [hruntime, List.map_map] at this
      rw [← this]
      exact (List.map_congr_left fun r _ => runtimeInfo_restoreGres m r).trans (List.map_id _)
    refine ⟨hread, (congrArg ServerGresSnapshot.hostname h).symm,
      (congrArg ServerGresSnapshot.driverVersion h).symm, fun g hg => ?_⟩
    rw [← hread, List.map_map, List.map_inj_left] at hgres
    exact restoreGres_runtimeInfo_iff.1 (hgres g hg)
  · rintro ⟨hread, hhost, hdriver, hstatic⟩
    have hgres : (a.gres.map GresInfo.runtimeInfo).map (restoreGres m) =
        s.gres.map GresInfo.omitCommands := by
      rw [← hread, List.map_map]
      exact List.map_congr_left fun g hg => restoreGres_runtimeInfo_iff.2 (hstatic g hg)
    rw [toSnapshot, RuntimeSnapshot.fromSnapshot, hgres, ← hhost, ← hdriver]
    rfl

/-- **Split and joined again**, a snapshot is itself without the commands of
its processes: its metadata know each index once, so each device finds its own
static part. -/
theorem toSnapshot_fromSnapshot {s : ServerGresSnapshot} (hs : s.DistinctIndices) :
    (RuntimeSnapshot.fromSnapshot s).toSnapshot (HostMetadata.fromSnapshot s) =
      omitProcessCommands s := by
  refine toSnapshot_eq_omit_iff.2 ⟨rfl, rfl, rfl, fun g hg => ?_⟩
  rw [HostMetadata.staticOf, HostMetadata.fromSnapshot, find?_metadata hs hg]
  rfl

end Clustat
