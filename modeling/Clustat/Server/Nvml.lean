/-
# The NVML collector

`NvmlCollector` of `crates/server/src/collector.rs`, which every server runs that has not been
built for tests: it asks the driver for its devices one after the other, and `/proc` for the
processes on them.  What the driver and `/proc` answer is not in its hand, and is a parameter here.

The contract of a collector is tested on the collector for tests only.  This one keeps it exactly
where the driver's answers make sense (`Nvml.Healthy`): its indices are dense, its percentages are
cut off at 100 and no process is listed twice, whatever the driver says (`nvml_collects`).
-/

import Clustat.Common.Number
import Clustat.Lib.Keyed
import Clustat.Server.Contract

namespace Clustat
namespace Server

open Guards Keyed

/-! ### The driver -/

/-- `Utilization`, in percent. -/
structure Utilization where
  gpu : UInt32
  memory : UInt32

/-- `MemoryInfo`, in bytes. -/
structure MemoryInfo where
  used : UInt64
  total : UInt64

/-- `UsedGpuMemory`. -/
inductive UsedGpuMemory
  | used (bytes : UInt64)
  | unavailable

/-- `ProcessInfo`. -/
structure NvmlProcess where
  pid : UInt32
  usedGpuMemory : UsedGpuMemory

/-- What a `Device` answers. -/
structure Device where
  utilizationRates : Except String Utilization
  memoryInfo : Except String MemoryInfo
  temperature : Except String UInt32
  runningComputeProcesses : Except String (List NvmlProcess)
  runningGraphicsProcesses : Except String (List NvmlProcess)
  name : Except String String
  uuid : Except String String

/-- What an `Nvml` answers. -/
structure Nvml where
  deviceCount : Except String UInt32
  deviceByIndex : ℕ → Except String Device
  sysDriverVersion : Except String String

/-- What can be read of `/proc/{pid}/comm` and `/proc/{pid}/status`. -/
structure ProcFs where
  comm : UInt32 → Option String
  status : UInt32 → Option String

/-! ### Processes -/

/-- `str::lines`. -/
def textLines : List Char → List (List Char)
  | [] => []
  | '\r' :: '\n' :: s => [] :: textLines s
  | '\n' :: s => [] :: textLines s
  | c :: s =>
    match textLines s with
    | [] => [[c]]
    | l :: ls => (c :: l) :: ls

/-- `str::split_whitespace`. -/
def splitWhitespace (s : List Char) : List (List Char) :=
  (s.splitOnP isWhitespace).filter (· ≠ [])

/-- `uid_for_pid`, of the text of the status. -/
def uidForPid (status : Option String) : Option UInt32 := do
  let line ← (textLines (← status).toList).find? ("Uid:".toList.isPrefixOf ·)
  let raw ← (splitWhitespace line)[1]?
  (parseUInt (2 ^ 32) raw).toOption.map UInt32.ofNat

/-- `command_for_pid`, of the text of the command. -/
def commandForPid (comm : Option String) : Option String := (comm.map trim).filter (· ≠ "")

/-- `used_gres_memory_mb`. -/
def usedGresMemoryMb : UsedGpuMemory → UInt64
  | .used bytes => bytes / 1024 / 1024
  | .unavailable => 0

/-- The processes that are listed, those that compute before those of the graphics. -/
def Device.listed (device : Device) : List NvmlProcess :=
  device.runningComputeProcesses.toOption.getD [] ++
    device.runningGraphicsProcesses.toOption.getD []

/-- The processes of `collect_processes`: the first with each pid. -/
def Device.processes (device : Device) : List NvmlProcess := firsts NvmlProcess.pid [] device.listed

/-- `collect_processes`. -/
def collectProcesses (proc : ProcFs) (device : Device) : List GresProcessInfo :=
  device.processes.map fun process =>
    { pid := process.pid
      uid := (uidForPid (proc.status process.pid)).getD 0xFFFFFFFF
      command := commandForPid (proc.comm process.pid)
      usedMemoryMb := usedGresMemoryMb process.usedGpuMemory }

/-! ### The collector -/

/-- An error of the driver is logged, and all that is left of it is the code. -/
def orUnavailable {α : Type} (answer : Except String α) : Except ErrorCode α :=
  answer.mapError fun _ => .nvmlUnavailable

/-- A turn of the loop over the devices. -/
def collectDevice (nvml : Nvml) (proc : ProcFs) (index : ℕ) : Except ErrorCode GresInfo := do
  let device ← orUnavailable (nvml.deviceByIndex index)
  let utilization ← orUnavailable device.utilizationRates
  let memory ← orUnavailable device.memoryInfo
  .ok
    { index := .ofNat index
      name := device.name.toOption.getD "unknown"
      temperatureC := device.temperature.toOption
      uuid := device.uuid.toOption
      memory := { usedMb := memory.used / 1024 / 1024, totalMb := memory.total / 1024 / 1024 }
      utilization :=
        { gresPercent := (min utilization.gpu 100).toUInt8
          memoryPercent := (min utilization.memory 100).toUInt8 }
      processes := collectProcesses proc device }

/-- `RealNvmlCollector::collect_gres_snapshot`. -/
def realCollectGresSnapshot (hostname : String) (nvml : Nvml) (proc : ProcFs) :
    Except ErrorCode ServerGresSnapshot := do
  let count ← orUnavailable nvml.deviceCount
  let gres ← (List.range (min count.toNat 255)).mapM (collectDevice nvml proc)
  .ok { hostname, driverVersion := nvml.sysDriverVersion.toOption, gres }

/-- `RealNvmlCollector::collect_gres`. -/
def nvmlCollectGres (hostname : String) (nvml : Nvml) (proc : ProcFs) :
    Except ErrorCode GresNodeSnapshot :=
  (realCollectGresSnapshot hostname nvml proc).map GresNodeSnapshot.fromGresSnapshot

/-- `env_truthy`, of the value of the variable. -/
def envTruthy (value : Option String) : Bool :=
  value.any fun v =>
    v = "1" || toAsciiLowercase v = "true" || toAsciiLowercase v = "yes"

/-- `NvmlCollector::new`, with the driver that is found in a library, or by default. -/
def newNvmlCollector (simulateNvmlMissing : Option String)
    (init : Option String → Except String Nvml) (nvmlLibPath : Option String) :
    Except ErrorCode Nvml :=
  if envTruthy simulateNvmlMissing then .error .nvmlUnavailable
  else orUnavailable (init ((nvmlLibPath.map trim).filter (· ≠ "")))

/-! ### What the driver is to answer -/

/-- The driver answers what the collector cannot do without. -/
def Nvml.Answers (nvml : Nvml) (count : ℕ) : Prop :=
  ∀ i < count, ∃ device utilization memory, nvml.deviceByIndex i = .ok device ∧
    device.utilizationRates = .ok utilization ∧ device.memoryInfo = .ok memory

/-- A device answers what makes sense: its memory comes to a MiB or more, and neither what is used
of it nor what one of its processes uses is more; it has a name and an id that are not empty, if
it has them; and no process is the process 0. -/
structure Device.Healthy (device : Device) : Prop where
  name : ∀ name, device.name = .ok name → trim name ≠ ""
  uuid : ∀ uuid, device.uuid = .ok uuid → trim uuid ≠ ""
  memory : ∀ memory, device.memoryInfo = .ok memory →
    0 < memory.total / 1024 / 1024 ∧ memory.used / 1024 / 1024 ≤ memory.total / 1024 / 1024 ∧
      ∀ p ∈ device.processes, p.pid ≠ 0 ∧
        usedGresMemoryMb p.usedGpuMemory ≤ memory.total / 1024 / 1024

/-- The driver answers what makes sense of the devices that are collected. -/
structure Nvml.Healthy (nvml : Nvml) (hostname : String) (count : ℕ) : Prop where
  hostname : trim hostname ≠ ""
  driverVersion : ∀ version, nvml.sysDriverVersion = .ok version → trim version ≠ ""
  devices : ∀ i < count, ∀ device, nvml.deviceByIndex i = .ok device → device.Healthy
  uuids : ∀ i < count, ∀ j < count, ∀ device device' uuid, nvml.deviceByIndex i = .ok device →
    nvml.deviceByIndex j = .ok device' → device.uuid = .ok uuid → device'.uuid = .ok uuid → i = j

/-- A resource has the processes of a device, each pid once. -/
structure Device.Listed (device : Device) (r : GresResource) : Prop where
  nodup : (r.processes.map GresProcess.pid).Nodup
  mem : ∀ pid, pid ∈ r.processes.map GresProcess.pid ↔ pid ∈ device.listed.map NvmlProcess.pid

/-! ### What is collected -/

section Collect

variable {nvml : Nvml} {proc : ProcFs} {hostname : String}

/-- An answer of NVML that is there is passed on. -/
theorem orUnavailable_eq_ok {α : Type} {answer : Except String α} {a : α} :
    orUnavailable answer = .ok a ↔ answer = .ok a :=
  mapError_eq_ok

/-- One that is not there becomes `NvmlUnavailable`, whatever NVML says. -/
theorem orUnavailable_eq_error {α : Type} {answer : Except String α} {e : ErrorCode}
    (h : orUnavailable answer = .error e) : e = .nvmlUnavailable := by
  obtain ⟨_, -, rfl⟩ := mapError_eq_error.1 h
  rfl

/-- Ignoring the error, what is left is a success. -/
theorem toOption_eq_some {ε α : Type} {x : Except ε α} {a : α} :
    x.toOption = some a ↔ x = .ok a := by
  cases x <;> simp [Except.toOption]

/-- What a device comes to. -/
structure IsCollected (proc : ProcFs) (index : ℕ) (device : Device) (g : GresInfo) : Prop where
  index : g.index = .ofNat index
  name : g.name = device.name.toOption.getD "unknown"
  uuid : g.uuid = device.uuid.toOption
  memory : ∃ memory, device.memoryInfo = .ok memory ∧
    g.memory = { usedMb := memory.used / 1024 / 1024, totalMb := memory.total / 1024 / 1024 }
  percent : g.utilization.gresPercent ≤ 100 ∧ g.utilization.memoryPercent ≤ 100
  processes : g.processes = collectProcesses proc device

/-- A percentage is cut off. -/
theorem percent_le (n : UInt32) : (min n 100).toUInt8 ≤ 100 := by
  change (if n ≤ 100 then n else 100).toUInt8 ≤ 100
  split_ifs with h
  · rw [UInt8.le_iff_toNat_le, UInt32.toNat_toUInt8]
    exact (Nat.mod_le _ _).trans (UInt32.le_iff_toNat_le.1 h)
  · decide

/-- **A turn of the loop** needs the device, its utilization and its memory;
what it makes of them is the resource of the device. -/
theorem collectDevice_eq_ok {index : ℕ} {g : GresInfo}
    (h : collectDevice nvml proc index = .ok g) :
    (∃ device utilization memory, nvml.deviceByIndex index = .ok device ∧
      device.utilizationRates = .ok utilization ∧ device.memoryInfo = .ok memory) ∧
    ∃ device, nvml.deviceByIndex index = .ok device ∧ IsCollected proc index device g := by
  obtain ⟨device, hdevice, h⟩ := bind_eq_ok.1 h
  obtain ⟨utilization, hutilization, h⟩ := bind_eq_ok.1 h
  obtain ⟨memory, hmemory, h⟩ := bind_eq_ok.1 h
  rw [orUnavailable_eq_ok] at hdevice hutilization hmemory
  obtain rfl := Except.ok.inj h
  exact ⟨⟨device, utilization, memory, hdevice, hutilization, hmemory⟩, device, hdevice,
    ⟨rfl, rfl, rfl, ⟨memory, hmemory, rfl⟩, ⟨percent_le _, percent_le _⟩, rfl⟩⟩

/-- **A device is collected** as soon as its handle, its utilization and its
memory are answered; all else may be missing. -/
theorem exists_collectDevice {index : ℕ} {device : Device} {utilization : Utilization}
    {memory : MemoryInfo} (hdevice : nvml.deviceByIndex index = .ok device)
    (hutilization : device.utilizationRates = .ok utilization)
    (hmemory : device.memoryInfo = .ok memory) :
    ∃ g, collectDevice nvml proc index = .ok g :=
  ⟨_, bind_eq_ok.2 ⟨device, orUnavailable_eq_ok.2 hdevice,
    bind_eq_ok.2 ⟨utilization, orUnavailable_eq_ok.2 hutilization,
      bind_eq_ok.2 ⟨memory, orUnavailable_eq_ok.2 hmemory, rfl⟩⟩⟩⟩

/-- A device that is not collected fails with `NvmlUnavailable`. -/
theorem collectDevice_eq_error {index : ℕ} {e : ErrorCode}
    (h : collectDevice nvml proc index = .error e) : e = .nvmlUnavailable := by
  rcases bind_eq_error.1 h with h | ⟨device, -, h⟩
  · exact orUnavailable_eq_error h
  · rcases bind_eq_error.1 h with h | ⟨utilization, -, h⟩
    · exact orUnavailable_eq_error h
    · rcases bind_eq_error.1 h with h | ⟨memory, -, h⟩
      · exact orUnavailable_eq_error h
      · cases h

/-- **A resource is sound** exactly if the device answers what makes sense: a
name, a memory that holds what is used of it, processes with pids. -/
theorem IsCollected.sound_iff {index : ℕ} {device : Device} {g : GresInfo}
    (h : IsCollected proc index device g) :
    (GresResource.ofInfo g).Sound ↔ device.Healthy := by
  obtain ⟨memory, hmemory, hg⟩ := h.memory
  have hused : (GresResource.ofInfo g).memoryUsedMb = memory.used / 1024 / 1024 :=
    congrArg GresMemory.usedMb hg
  have htotal : (GresResource.ofInfo g).memoryTotalMb = memory.total / 1024 / 1024 :=
    congrArg GresMemory.totalMb hg
  have hname : trim g.name ≠ "" ↔ ∀ name, device.name = .ok name → trim name ≠ "" := by
    rw [h.name]
    cases device.name with
    | error e =>
      have hunknown : trim "unknown" ≠ "" := by decide
      exact iff_of_true hunknown nofun
    | ok name => exact ⟨fun hne _ heq => Except.ok.inj heq ▸ hne, fun hall => hall name rfl⟩
  have huuid : (∀ uuid ∈ g.uuid, trim uuid ≠ "") ↔
      ∀ uuid, device.uuid = .ok uuid → trim uuid ≠ "" := by
    rw [h.uuid]
    exact forall_congr' fun uuid => by rw [Option.mem_def, toOption_eq_some]
  have hprocesses : (∀ p ∈ (GresResource.ofInfo g).processes,
      p.pid ≠ 0 ∧ p.usedMemoryMb ≤ memory.total / 1024 / 1024) ↔
        ∀ p ∈ device.processes, p.pid ≠ 0 ∧
          usedGresMemoryMb p.usedGpuMemory ≤ memory.total / 1024 / 1024 := by
    have hlist : (GresResource.ofInfo g).processes =
        (collectProcesses proc device).map GresProcess.ofInfo := congrArg _ h.processes
    rw [hlist, List.forall_mem_map, collectProcesses, List.forall_mem_map]
    rfl
  constructor
  · intro hs
    refine ⟨hname.1 hs.name, huuid.1 hs.uuid, fun memory' hmemory' => ?_⟩
    obtain rfl := Except.ok.inj (hmemory.symm.trans hmemory')
    refine ⟨htotal ▸ hs.total, ?_, hprocesses.1 (htotal ▸ hs.processes)⟩
    rw [← hused, ← htotal]
    exact hs.used
  · intro hd
    obtain ⟨hpos, hle, hall⟩ := hd.memory memory hmemory
    refine ⟨hname.2 hd.name, htotal ▸ hpos, ?_, h.percent.1, h.percent.2, huuid.2 hd.uuid, ?_⟩
    · rw [hused, htotal]
      exact hle
    · rw [htotal]
      exact hprocesses.2 hall

/-- **No process is left out**, and none is there twice, whether it computes,
draws or does both. -/
theorem IsCollected.listed {index : ℕ} {device : Device} {g : GresInfo}
    (h : IsCollected proc index device g) : device.Listed (.ofInfo g) := by
  have hpids : (GresResource.ofInfo g).processes.map GresProcess.pid =
      device.processes.map NvmlProcess.pid := by
    have hlist : (GresResource.ofInfo g).processes =
        (collectProcesses proc device).map GresProcess.ofInfo := congrArg _ h.processes
    rw [hlist, collectProcesses, List.map_map, List.map_map]
    rfl
  refine ⟨?_, fun pid => ?_⟩
  · rw [hpids]
    exact nodup_firsts NvmlProcess.pid [] device.listed
  · rw [hpids]
    exact mem_map_firsts NvmlProcess.pid

/-- **What is collected** is a resource for each device, up to 255, in the
order of their indices. -/
theorem nvmlCollectGres_eq_ok {node : GresNodeSnapshot}
    (h : nvmlCollectGres hostname nvml proc = .ok node) :
    ∃ count gres, nvml.deviceCount = .ok count ∧
      node = .fromGresSnapshot
        { hostname, driverVersion := nvml.sysDriverVersion.toOption, gres } ∧
      List.Forall₂ (fun i g => collectDevice nvml proc i = .ok g)
        (List.range (min count.toNat 255)) gres := by
  rw [nvmlCollectGres] at h
  cases hreal : realCollectGresSnapshot hostname nvml proc with
  | error e =>
    rw [hreal] at h
    cases h
  | ok s =>
    rw [hreal] at h
    obtain ⟨count, hcount, hreal⟩ := bind_eq_ok.1 hreal
    obtain ⟨gres, hgres, hreal⟩ := bind_eq_ok.1 hreal
    refine ⟨count, gres, orUnavailable_eq_ok.1 hcount, ?_, mapM_eq_ok.1 hgres⟩
    rw [← Except.ok.inj h, ← Except.ok.inj hreal]

/-- **Collecting fails** only for want of an answer, and always with one code,
`NvmlUnavailable`. -/
theorem nvmlCollectGres_eq_error {e : ErrorCode}
    (h : nvmlCollectGres hostname nvml proc = .error e) : e = .nvmlUnavailable := by
  rw [nvmlCollectGres] at h
  cases hreal : realCollectGresSnapshot hostname nvml proc with
  | ok s =>
    rw [hreal] at h
    cases h
  | error e' =>
    rw [hreal] at h
    obtain rfl := Except.error.inj h
    rcases bind_eq_error.1 hreal with hcount | ⟨count, -, hreal⟩
    · exact orUnavailable_eq_error hcount
    · rcases bind_eq_error.1 hreal with hgres | ⟨gres, -, hreal⟩
      · obtain ⟨i, -, hi⟩ := mapM_eq_error hgres
        exact collectDevice_eq_error hi
      · cases hreal

/-- Who is asked for all its devices, and answers, is collected. -/
theorem exists_nvmlCollectGres {count : UInt32} (hcount : nvml.deviceCount = .ok count)
    (h : nvml.Answers (min count.toNat 255)) :
    ∃ node, nvmlCollectGres hostname nvml proc = .ok node := by
  have hgres : ∃ gres, (List.range (min count.toNat 255)).mapM (collectDevice nvml proc) =
      .ok gres := by
    cases hmap : (List.range (min count.toNat 255)).mapM (collectDevice nvml proc) with
    | ok gres => exact ⟨gres, rfl⟩
    | error e =>
      obtain ⟨i, hi, he⟩ := mapM_eq_error hmap
      obtain ⟨device, utilization, memory, hdevice, hutilization, hmemory⟩ :=
        h i (List.mem_range.1 hi)
      obtain ⟨g, hg⟩ := @exists_collectDevice nvml proc i device utilization memory hdevice
        hutilization hmemory
      rw [hg] at he
      cases he
  obtain ⟨gres, hgres⟩ := hgres
  have hreal : realCollectGresSnapshot hostname nvml proc =
      .ok { hostname, driverVersion := nvml.sysDriverVersion.toOption, gres } :=
    bind_eq_ok.2 ⟨count, orUnavailable_eq_ok.2 hcount, bind_eq_ok.2 ⟨gres, hgres, rfl⟩⟩
  exact ⟨_, by rw [nvmlCollectGres, hreal]; rfl⟩

/-- What is known of each resource. -/
theorem exists_device {count : ℕ} {gres : List GresInfo}
    (h : List.Forall₂ (fun i g => collectDevice nvml proc i = .ok g) (List.range count) gres) :
    gres.length = count ∧ ∀ i (hi : i < gres.length), ∃ device,
      nvml.deviceByIndex i = .ok device ∧ IsCollected proc i device gres[i] := by
  have hlength : gres.length = count := by rw [← h.length_eq, List.length_range]
  refine ⟨hlength, fun i hi => ?_⟩
  have hget := h.get (i := i) (by rw [List.length_range]; omega) hi
  rw [List.get_eq_getElem, List.getElem_range] at hget
  exact (collectDevice_eq_ok hget).2

/-- The resources of some devices, of which there are not too many for a `u8`. -/
structure AreCollected (nvml : Nvml) (proc : ProcFs) (gres : List GresInfo) : Prop where
  short : gres.length ≤ 255
  device : ∀ i (h : i < gres.length), ∃ device, nvml.deviceByIndex i = .ok device ∧
    IsCollected proc i device gres[i]

/-- Their indices are dense. -/
theorem AreCollected.index {gres : List GresInfo} (h : AreCollected nvml proc gres) {i : ℕ}
    (hi : i < gres.length) : gres[i].index.toNat = i := by
  obtain ⟨device, -, hcollected⟩ := h.device i hi
  have hshort := h.short
  rw [hcollected.index, UInt8.toNat_ofNat', Nat.mod_eq_of_lt (by omega)]

/-- Collected devices have different indices, because the loop goes through
the indices once. -/
theorem AreCollected.distinct {gres : List GresInfo} (h : AreCollected nvml proc gres) :
    (gres.map GresInfo.index).Nodup := by
  refine List.pairwise_map.2 (List.pairwise_iff_getElem.2 fun i j hi hj hlt heq => ?_)
  have hsame := congrArg UInt8.toNat heq
  rw [h.index hi, h.index hj] at hsame
  omega

/-- Their ids are distinct exactly if those of the devices are. -/
theorem AreCollected.uuids_iff {gres : List GresInfo} (h : AreCollected nvml proc gres) :
    (gres.filterMap GresInfo.uuid).Nodup ↔
      ∀ i < gres.length, ∀ j < gres.length, ∀ device device' uuid,
        nvml.deviceByIndex i = .ok device → nvml.deviceByIndex j = .ok device' →
          device.uuid = .ok uuid → device'.uuid = .ok uuid → i = j := by
  have huuid (i : ℕ) (hi : i < gres.length) (device : Device)
      (hdevice : nvml.deviceByIndex i = .ok device) (uuid : String) :
      gres[i].uuid = some uuid ↔ device.uuid = .ok uuid := by
    obtain ⟨device', hdevice', hcollected⟩ := h.device i hi
    obtain rfl := Except.ok.inj (hdevice.symm.trans hdevice')
    rw [hcollected.uuid, toOption_eq_some]
  rw [List.Nodup, List.pairwise_filterMap, List.pairwise_iff_getElem]
  constructor
  · intro hne i hi j hj device device' uuid hdevice hdevice' hu hu'
    have hi' := (huuid i hi device hdevice uuid).2 hu
    have hj' := (huuid j hj device' hdevice' uuid).2 hu'
    rcases Nat.lt_trichotomy i j with hlt | heq | hlt
    · exact absurd rfl (hne i j hi hj hlt uuid hi' uuid hj')
    · exact heq
    · exact absurd rfl (hne j i hj hi hlt uuid hj' uuid hi')
  · rintro hinj i j hi hj hlt uuid hi' _ hj' rfl
    obtain ⟨device, hdevice, -⟩ := h.device i hi
    obtain ⟨device', hdevice', -⟩ := h.device j hj
    have heq := hinj i hi j hj device device' uuid hdevice hdevice'
      ((huuid i hi device hdevice uuid).1 hi') ((huuid j hj device' hdevice' uuid).1 hj')
    omega

/-- **The contract** is met exactly if the driver's answers make sense, each
device on its own and their UUIDs together. -/
theorem AreCollected.accepted_iff {gres : List GresInfo} (h : AreCollected nvml proc gres) :
    (GresNodeSnapshot.fromGresSnapshot
      { hostname, driverVersion := nvml.sysDriverVersion.toOption, gres }).Contract ↔
        nvml.Healthy hostname gres.length := by
  have hversion : (∀ version ∈ nvml.sysDriverVersion.toOption, trim version ≠ "") ↔
      ∀ version, nvml.sysDriverVersion = .ok version → trim version ≠ "" :=
    forall_congr' fun version => by rw [Option.mem_def, toOption_eq_some]
  have huuids : (gres.map GresResource.ofInfo).filterMap GresResource.uuid =
      gres.filterMap GresInfo.uuid := List.filterMap_map
  have hsound : (∀ r ∈ gres.map GresResource.ofInfo, r.Sound) ↔
      ∀ i < gres.length, ∀ device, nvml.deviceByIndex i = .ok device → device.Healthy := by
    rw [List.forall_mem_map]
    constructor
    · intro hall i hi device hdevice
      obtain ⟨device', hdevice', hcollected⟩ := h.device i hi
      obtain rfl := Except.ok.inj (hdevice.symm.trans hdevice')
      exact hcollected.sound_iff.1 (hall _ (List.getElem_mem hi))
    · intro hall g hg
      obtain ⟨i, hi, rfl⟩ := List.mem_iff_getElem.1 hg
      obtain ⟨device, hdevice, hcollected⟩ := h.device i hi
      exact hcollected.sound_iff.2 (hall i hi device hdevice)
  constructor
  · intro hcontract
    refine ⟨hcontract.hostname, hversion.1 hcontract.driverVersion, hsound.1 hcontract.resources,
      h.uuids_iff.1 ?_⟩
    rw [← huuids]
    exact hcontract.uuids
  · intro hhealthy
    refine ⟨hhealthy.hostname, hversion.2 hhealthy.driverVersion, fun i hi => ?_,
      hsound.2 hhealthy.devices, ?_⟩
    · have hi' : i < gres.length := by simpa [GresNodeSnapshot.fromGresSnapshot] using hi
      simpa [GresNodeSnapshot.fromGresSnapshot, GresResource.ofInfo] using h.index hi'
    · exact huuids ▸ h.uuids_iff.2 hhealthy.uuids

/-- **The NVML collector and the contract.**  Collecting comes to something exactly if the driver
answers, and else to the code of a missing driver.  What it comes to is accepted by the validator
exactly if the driver's answers make sense; in any case each resource has the processes of its
device, each once, and the whole is put together again from its metadata and its runtime
snapshot. -/
theorem nvml_collects (hostname : String) (nvml : Nvml) (proc : ProcFs) :
    ((∃ node, nvmlCollectGres hostname nvml proc = .ok node) ↔
      ∃ count, nvml.deviceCount = .ok count ∧ nvml.Answers (min count.toNat 255)) ∧
    (∀ e, nvmlCollectGres hostname nvml proc = .error e → e = .nvmlUnavailable) ∧
    ∀ node, nvmlCollectGres hostname nvml proc = .ok node →
      (validateGresNodeSnapshotContract node = .ok () ↔
        nvml.Healthy hostname node.resources.length) ∧
      (∀ i (h : i < node.resources.length), ∃ device, nvml.deviceByIndex i = .ok device ∧
        device.Listed node.resources[i]) ∧
      let s := node.intoGresSnapshot
      (RuntimeSnapshot.fromSnapshot s).toSnapshot (HostMetadata.fromSnapshot s) = s := by
  refine ⟨⟨?_, ?_⟩, fun e => nvmlCollectGres_eq_error, fun node hnode => ?_⟩
  · rintro ⟨node, hnode⟩
    obtain ⟨count, gres, hcount, -, hgres⟩ := nvmlCollectGres_eq_ok hnode
    refine ⟨count, hcount, fun i hi => ?_⟩
    have hlength : gres.length = min count.toNat 255 := (exists_device hgres).1
    have hget := hgres.get (i := i) (by rw [List.length_range]; exact hi) (by omega)
    rw [List.get_eq_getElem, List.getElem_range] at hget
    exact (collectDevice_eq_ok hget).1
  · rintro ⟨count, hcount, hanswers⟩
    exact exists_nvmlCollectGres hcount hanswers
  · obtain ⟨count, gres, -, rfl, hgres⟩ := nvmlCollectGres_eq_ok hnode
    obtain ⟨hlength, hdevice⟩ := exists_device hgres
    have hcollected : AreCollected nvml proc gres :=
      ⟨hlength ▸ Nat.min_le_right _ _, hdevice⟩
    have hresources : (GresNodeSnapshot.fromGresSnapshot
        { hostname, driverVersion := nvml.sysDriverVersion.toOption, gres }).resources.length =
          gres.length := List.length_map _
    refine ⟨?_, fun i hi => ?_, ?_⟩
    · rw [validate_eq_ok, hresources, and_iff_left hcollected.short, hcollected.accepted_iff]
    · obtain ⟨device, hdevice, hg⟩ := hcollected.device i (by rwa [hresources] at hi)
      have hget : (GresNodeSnapshot.fromGresSnapshot
          { hostname, driverVersion := nvml.sysDriverVersion.toOption, gres }).resources[i] =
            .ofInfo gres[i] := List.getElem_map _
      exact ⟨device, hdevice, hget ▸ hg.listed⟩
    · intro s
      have hdistinct : s.DistinctIndices := by
        have hindex : s.gres.map GresInfo.index = gres.map GresInfo.index := by
          have hgres' : s.gres = (gres.map GresResource.ofInfo).map GresResource.toInfo := rfl
          rw [hgres', List.map_map, List.map_map]
          rfl
        rw [ServerGresSnapshot.DistinctIndices, hindex]
        exact hcollected.distinct
      exact (toSnapshot_fromSnapshot hdistinct).trans (omitProcessCommands_intoGresSnapshot _)

end Collect

end Server
end Clustat
