/-
# The start of a server

`run` of `crates/server/src/main.rs`, up to its loops: the configuration is read and checked, a
port of each protocol is picked, and the collector is opened.  The first step that fails is what
the server stops with.  The environment (the file, the resolver, the sockets, the clock, the driver)
is not in its hand, and is a parameter.

Two of the checks are made a second time on the way, of the values that the loops get.  No step
panics, and a server that starts has two different ports that could be bound, a group to announce
itself in and a driver, and the name of its host is not empty (`startup_outcome`).
-/

import Clustat.Backend.Address
import Clustat.Server.LogSize
import Clustat.Server.Nvml

namespace Clustat
namespace Server

open Backend (IpAddr SocketAddr octets parseIpv4Addr segments)
open Guards

/-! ### The configuration -/

/-- `ConnectingConfig`. -/
structure ConnectingConfig where
  portRange : UInt16 × UInt16
  multicastAddr : String
  tcpPort : UInt16 := 0
  udpPort : UInt16 := 0
  udpMtu : UInt16 := 0
  protocol : String := "udp"
  heartbeatInterval : UInt64 := 5
  connectionIdleTimeout : UInt64 := 10
  maxConnections : UInt64 := 64
  discoverWaitSecs : UInt64 := 5
  multicastRetryLimit : UInt32 := 5
  multicastOutboundIp : List String := []

/-- `LogConfig`. -/
structure LogConfig where
  maxSize : String := "5mb"

/-- `ServicesConfig`, as far as the server reads it. -/
structure ServicesConfig where
  cacheTtlMs : UInt64 := 40
  collectorIntervalMs : UInt64 := 25

/-- `RuntimeConfig`. -/
structure RuntimeConfig where
  nvmlLibPath : Option String := none
  testInventoryPath : Option String := none
  testRuntimePath : Option String := none

/-- `Config`. -/
structure Config where
  connecting : ConnectingConfig
  log : LogConfig
  services : ServicesConfig
  runtime : RuntimeConfig := {}

/-- What a server meets when it starts. -/
structure StartupEnv where
  configPath : String
  readConfig : Except String String
  parseConfig : String → Except String Config
  toSocketAddrs : String → Except String (List SocketAddr)
  udpBindable : UInt16 → Bool
  udpNanos : UInt32
  tcpBindable : UInt16 → Bool
  tcpNanos : UInt32
  hostnameVar : Option String
  kernelHostname : Option String
  etcHostname : Option String
  simulateNvmlMissing : Option String
  nvmlInit : Option String → Except String Nvml

/-! ### Its checks -/

/-- `IpAddr::is_multicast`. -/
def isMulticast : IpAddr → Bool
  | .v4 ip => (octets ip).headD 0 / 16 = 14
  | .v6 ip => (segments ip).headD 0 / 256 = 255

/-- `validate_multicast_addr`. -/
def validateMulticastAddr (env : StartupEnv) (raw : String) : Except StartupError SocketAddr := do
  let failed (message : String) : StartupError :=
    { code := .multicastFailed, message := "invalid multicast_addr '" ++ raw ++ "': " ++ message }
  let addrs ← (env.toSocketAddrs raw).mapError failed
  let addr ← okOr (failed "no resolved address") addrs.head?
  refuseIf (isMulticast addr.ip = false) (failed "IP is not multicast")
  .ok addr

/-- `validate_protocol`. -/
def validateProtocol (raw : String) : Except StartupError Unit :=
  let other := toAsciiLowercase (trim raw)
  refuseIf (other ≠ "udp" ∧ other ≠ "tcp")
    (configInvalid ("invalid connecting.protocol '" ++ other ++ "': expected 'udp' or 'tcp'"))

/-- `validate_positive`. -/
def validatePositive (name : String) (value : ℕ) : Except StartupError Unit :=
  refuseIf (value = 0) (configInvalid ("invalid " ++ name ++ ": must be > 0"))

/-- `validate_multicast_outbound_ips`. -/
def validateMulticastOutboundIps (raw : List String) : Except StartupError (List UInt32) :=
  ((raw.map trim).filter (· ≠ "")).mapM fun item =>
    okOr (configInvalid ("invalid connecting.multicast_outbound_ip entry '" ++ item ++
      "': expected IPv4 address, got invalid IPv4 address syntax")) (parseIpv4Addr item)

/-- The values that have to be positive, in the order of their checks. -/
def Config.positives (config : Config) : List (String × ℕ) :=
  [("cache_ttl_ms", config.services.cacheTtlMs.toNat),
    ("collector_interval_ms", config.services.collectorIntervalMs.toNat),
    ("heartbeat_interval", config.connecting.heartbeatInterval.toNat),
    ("connection_idle_timeout", config.connecting.connectionIdleTimeout.toNat),
    ("max_connections", config.connecting.maxConnections.toNat),
    ("discover_wait_secs", config.connecting.discoverWaitSecs.toNat),
    ("multicast_retry_limit", config.connecting.multicastRetryLimit.toNat)]

/-- A step that can fail, or panic. -/
abbrev Startup := ExceptT StartupError Option

/-- A step that does not panic. -/
def Startup.of {α : Type} (x : Except StartupError α) : Startup α := ExceptT.mk (some x)

/-- `validate_config`. -/
def validateConfig (env : StartupEnv) (config : Config) : Startup Unit := do
  .of (validatePortRange config.connecting.portRange.1 config.connecting.portRange.2)
  let _ ← .of (validateMulticastAddr env config.connecting.multicastAddr)
  .of (validateProtocol config.connecting.protocol)
  .of (config.positives.forM fun (name, value) => validatePositive name value)
  let _ ← .of (validateMulticastOutboundIps config.connecting.multicastOutboundIp)
  let _ ← (.mk (parseLogSizeBytes config.log.maxSize) : Startup UInt64)

/-- `load_config`. -/
def loadConfig (env : StartupEnv) : Startup Config := do
  let raw ← .of (env.readConfig.mapError fun e =>
    configInvalid ("read config failed at " ++ env.configPath ++ ": " ++ e))
  let config ← .of ((env.parseConfig raw).mapError fun e =>
    configInvalid ("parse config failed at " ++ env.configPath ++ ": " ++ e))
  validateConfig env config
  pure config

/-! ### Its ports, its host and its collector -/

/-- `detect_hostname`, with `read_hostname_file`. -/
def detectHostname (env : StartupEnv) : String :=
  let nonempty (value : Option String) := (value.map trim).filter (· ≠ "")
  (((nonempty env.hostnameVar).or (nonempty env.kernelHostname)).or
    (nonempty env.etcHostname)).getD "unknown-host"

/-- `nvml_startup_error_message`, of the path without white space. -/
def nvmlStartupErrorMessage : Option String → String
  | some path =>
    "NVML collector init failed while loading configured runtime.nvml_lib_path='" ++ path ++ "'"
  | none =>
    "NVML collector init failed while loading default libnvidia-ml.so; configure " ++
      "[runtime].nvml_lib_path if this host only provides a versioned NVML library"

/-- `nvml_startup_hint`, of the path without white space. -/
def nvmlStartupHint : Option String → String
  | some _ =>
    "Verify the configured NVML library path exists, is readable by the clustat service user, " ++
      "and is a real NVIDIA runtime library, not the CUDA stubs library."
  | none =>
    "This host may only provide a versioned NVML library such as " ++
      "/usr/lib/x86_64-linux-gnu/libnvidia-ml.so.1. Set [runtime].nvml_lib_path in " ++
      "/etc/clustat/server.toml, then run: systemctl reset-failed clustat-server && " ++
      "systemctl restart clustat-server. Do not use CUDA stubs/libnvidia-ml.so."

/-- `build_collector`, of a server that is not built for tests. -/
def buildCollector (env : StartupEnv) (config : Config) : Except StartupError Nvml := do
  refuseIf (config.runtime.testInventoryPath.isSome ∨ config.runtime.testRuntimePath.isSome)
    (configInvalid ("runtime.test_inventory_path/runtime.test_runtime_path require building the " ++
      "server with --features debug"))
  let path := (config.runtime.nvmlLibPath.map trim).filter (· ≠ "")
  (newNvmlCollector env.simulateNvmlMissing env.nvmlInit config.runtime.nvmlLibPath).mapError
    fun code =>
      { code, message := nvmlStartupErrorMessage path, hint := some (nvmlStartupHint path) }

/-- What the loops of a server are started with. -/
structure Started where
  udpPort : UInt16
  tcpPort : UInt16
  multicast : SocketAddr
  hostname : String
  nvml : Nvml
  outboundIps : List UInt32
  config : Config

/-- `run`, up to `start_runtime_loops`. -/
def run (env : StartupEnv) : Startup Started := do
  let config ← loadConfig env
  let connecting := config.connecting
  let (start, stop) := connecting.portRange
  let multicast ← .of (validateMulticastAddr env connecting.multicastAddr)
  let outboundIps ← .of (validateMulticastOutboundIps connecting.multicastOutboundIp)
  let udpPort ← .mk (pickUdpPort env.udpBindable start stop connecting.udpPort env.udpNanos)
  let tcpPort ← .mk (pickTcpPort env.tcpBindable start stop connecting.tcpPort (some udpPort)
    env.tcpNanos)
  let hostname := detectHostname env
  let nvml ← .of (buildCollector env config)
  pure { udpPort, tcpPort, multicast, hostname, nvml, outboundIps, config }

/-! ### What is asked of a configuration -/

/-- The group resolves, and to an address of a group. -/
def Multicasts (env : StartupEnv) (raw : String) (addr : SocketAddr) : Prop :=
  ∃ rest, env.toSocketAddrs raw = .ok (addr :: rest) ∧ isMulticast addr.ip = true

/-- A configuration that a server can run with. -/
structure Config.Valid (env : StartupEnv) (config : Config) : Prop where
  portRange : 1 ≤ config.connecting.portRange.1 ∧
    config.connecting.portRange.1 ≤ config.connecting.portRange.2
  multicastAddr : ∃ addr, Multicasts env config.connecting.multicastAddr addr
  protocol : toAsciiLowercase (trim config.connecting.protocol) = "udp" ∨
    toAsciiLowercase (trim config.connecting.protocol) = "tcp"
  positives : ∀ x ∈ config.positives, 0 < x.2
  outboundIps : ∀ item ∈ (config.connecting.multicastOutboundIp.map trim).filter (· ≠ ""),
    (parseIpv4Addr item).isSome
  maxSize : ∃ bytes : UInt64, IsLogSize config.log.maxSize bytes.toNat

/-- What an invalid configuration is refused with. -/
def Config.Refused (env : StartupEnv) (config : Config) (e : StartupError) : Prop :=
  ¬config.Valid env ∧ (e.code = .configInvalid ∨
    e.code = .multicastFailed ∧ ∀ addr, ¬Multicasts env config.connecting.multicastAddr addr)

section Checks

variable {env : StartupEnv}

/-- A port range that is refused is an error of the configuration. -/
theorem code_of_validatePortRange {start stop : UInt16} {e : StartupError}
    (h : validatePortRange start stop = .error e) : e.code = .configInvalid := by
  rw [validatePortRange] at h
  split_ifs at h
  exact Except.error.inj h ▸ rfl

/-- The multicast address that is accepted is one that the machine can
multicast to. -/
theorem validateMulticastAddr_eq_ok {raw : String} {addr : SocketAddr} :
    validateMulticastAddr env raw = .ok addr ↔ Multicasts env raw addr := by
  simp only [validateMulticastAddr, bind_eq_ok, mapError_eq_ok, okOr_eq_ok, refuseIf_eq_ok,
    Except.ok.injEq, exists_const, Bool.not_eq_false]
  constructor
  · rintro ⟨addrs, haddrs, _, hhead, hmulticast, rfl⟩
    obtain ⟨rest, rfl⟩ := List.head?_eq_some_iff.1 hhead
    exact ⟨rest, haddrs, hmulticast⟩
  · rintro ⟨rest, haddrs, hmulticast⟩
    exact ⟨_, haddrs, addr, rfl, hmulticast, rfl⟩

/-- One that is refused is an error of multicast. -/
theorem code_of_validateMulticastAddr {raw : String} {e : StartupError}
    (h : validateMulticastAddr env raw = .error e) : e.code = .multicastFailed := by
  rcases bind_eq_error.1 h with h | ⟨addrs, -, h⟩
  · obtain ⟨_, -, rfl⟩ := mapError_eq_error.1 h
    rfl
  · rcases bind_eq_error.1 h with h | ⟨addr, -, h⟩
    · exact (okOr_eq_error.1 h).2 ▸ rfl
    · rcases bind_eq_error.1 h with h | ⟨_, -, h⟩
      · exact (refuseIf_eq_error.1 h).2 ▸ rfl
      · cases h

/-- The protocols are `udp` and `tcp`, in any case and with spaces around
them. -/
theorem validateProtocol_eq_ok {raw : String} {u : Unit} : validateProtocol raw = .ok u ↔
    toAsciiLowercase (trim raw) = "udp" ∨ toAsciiLowercase (trim raw) = "tcp" := by
  unfold validateProtocol
  generalize toAsciiLowercase (trim raw) = other
  rw [refuseIf_eq_ok]
  tauto

/-- A number that has to be positive passes when it is. -/
theorem validatePositive_eq_ok {name : String} {value : ℕ} {u : Unit} :
    validatePositive name value = .ok u ↔ 0 < value :=
  refuseIf_eq_ok.trans Nat.pos_iff_ne_zero.symm

/-- The outbound addresses pass when each that is not blank is an IPv4
address. -/
theorem validateMulticastOutboundIps_eq_ok {raw : List String} :
    (∃ ips, validateMulticastOutboundIps raw = .ok ips) ↔
      ∀ item ∈ (raw.map trim).filter (· ≠ ""), (parseIpv4Addr item).isSome := by
  simp only [validateMulticastOutboundIps, exists_mapM_eq_ok, okOr_eq_ok,
    Option.isSome_iff_exists]

/-- Outbound addresses that are refused are an error of the configuration. -/
theorem code_of_validateMulticastOutboundIps {raw : List String} {e : StartupError}
    (h : validateMulticastOutboundIps raw = .error e) : e.code = .configInvalid := by
  obtain ⟨item, -, hitem⟩ := mapM_eq_error h
  exact (okOr_eq_error.1 hitem).2 ▸ rfl

/-- The size of a log is read, or it is the configuration that is wrong. -/
theorem parseLogSizeBytes_outcome (raw : String) :
    Guards.Outcome (fun bytes => IsLogSize raw bytes.toNat)
      (fun e => e.code = .configInvalid ∧ ¬∃ bytes : UInt64, IsLogSize raw bytes.toNat)
      (.mk (parseLogSizeBytes raw)) := by
  have hread : ∀ bytes, parseLogSizeBytes raw = some (.ok bytes) ↔ IsLogSize raw bytes.toNat :=
    fun _ => parseLogSizeBytes_eq_ok
  rw [parseLogSizeBytes_eq] at hread ⊢
  dsimp only at hread ⊢
  refine .of_iff (fun bytes => Option.some_inj.symm.trans (hread bytes)) fun e he hnone =>
    ⟨?_, fun ⟨bytes, hbytes⟩ => hnone bytes hbytes⟩
  split_ifs at he with hempty
  · exact Except.error.inj he ▸ rfl
  · exact code_of_readLogSize he

/-- **The configuration is checked** as a whole: it is let through if every value of it can be
worked with, and it is only for a group that is none that another code is given. -/
theorem validateConfig_outcome (env : StartupEnv) (config : Config) :
    Guards.Outcome (fun _ => config.Valid env) (config.Refused env)
      (validateConfig env config) := by
  have hrefuse : ∀ {e : StartupError}, e.code = .configInvalid → ¬config.Valid env →
      config.Refused env e := fun hcode hvalid => ⟨hvalid, .inl hcode⟩
  refine .bind (.of_iff (fun _ => validatePortRange_eq_ok) fun e he hnone => ?_) fun _ hrange => ?_
  · exact hrefuse (code_of_validatePortRange he) fun h => hnone () h.portRange
  refine .bind (.of_iff (fun _ => validateMulticastAddr_eq_ok) fun e he hnone => ?_)
    fun addr haddr => ?_
  · exact ⟨fun h => h.multicastAddr.elim hnone, .inr ⟨code_of_validateMulticastAddr he, hnone⟩⟩
  refine .bind (.of_iff (fun _ => validateProtocol_eq_ok) fun e he hnone => ?_)
    fun _ hprotocol => ?_
  · exact hrefuse ((refuseIf_eq_error.1 he).2 ▸ rfl) fun h => hnone () h.protocol
  refine .bind (.of (fun _ h => forM_eq_ok.1 h) fun e he => ?_) fun _ hpositives => ?_
  · obtain ⟨x, hx, hrefused⟩ := forM_eq_error he
    obtain ⟨hzero, rfl⟩ := refuseIf_eq_error.1 hrefused
    exact hrefuse rfl fun h => (h.positives x hx).ne' hzero
  refine .bind (.of (fun ips h => validateMulticastOutboundIps_eq_ok.1 ⟨ips, h⟩) fun e he => ?_)
    fun _ hips => ?_
  · refine hrefuse (code_of_validateMulticastOutboundIps he) fun h => ?_
    obtain ⟨ips, hips⟩ := validateMulticastOutboundIps_eq_ok.2 h.outboundIps
    exact nomatch he.symm.trans hips
  refine .bind ((parseLogSizeBytes_outcome _).imp (fun _ h => h) fun e he => ?_)
    fun bytes hbytes => .ok ?_
  · exact hrefuse he.1 fun h => he.2 h.maxSize
  exact { portRange := hrange
          multicastAddr := ⟨addr, haddr⟩
          protocol := hprotocol
          positives := fun x hx => validatePositive_eq_ok.1 (hpositives x hx)
          outboundIps := hips
          maxSize := ⟨bytes, hbytes⟩ }

/-- **The defaults are valid**: a configuration that gives a range and a group, and nothing else,
is valid if these are. -/
theorem valid_default_iff {portRange : UInt16 × UInt16} {multicastAddr : String} :
    ({ connecting := { portRange, multicastAddr }, log := {}, services := {} } : Config).Valid env ↔
      (1 ≤ portRange.1 ∧ portRange.1 ≤ portRange.2) ∧
        ∃ addr, Multicasts env multicastAddr addr := by
  refine ⟨fun h => ⟨h.portRange, h.multicastAddr⟩, fun ⟨hrange, hgroup⟩ => ?_⟩
  have hsize : parseLogSizeBytes "5mb" = some (.ok 5242880) := by decide
  exact { portRange := hrange
          multicastAddr := hgroup
          protocol := .inl (show toAsciiLowercase (trim "udp") = "udp" by decide)
          positives := by simp [Config.positives]
          outboundIps := List.forall_mem_nil _
          maxSize := ⟨5242880, parseLogSizeBytes_eq_ok.1 hsize⟩ }

end Checks

/-! ### What a server is started with -/

/-- A port that the configuration lets a picker take. -/
def Allows (range : UInt16 × UInt16) (requested port : UInt16) : Prop :=
  if requested ≠ 0 then port = requested else range.1 ≤ port ∧ port ≤ range.2

/-- **A picker** comes to a port that it may take, or there is none that could
be bound. -/
theorem pickPort_outcome (texts : PortTexts) (bindable : UInt16 → Bool) {start stop : UInt16}
    (h : start ≤ stop) (requested : UInt16) (exclude : Option UInt16) (nanos : UInt32) :
    Guards.Outcome
      (fun p => Allows (start, stop) requested p ∧ bindable p = true ∧ some p ≠ exclude)
      (fun e => e.code = .portExhausted ∧
        ∀ p, Allows (start, stop) requested p → some p ≠ exclude → bindable p = false)
      (.mk (pickPort texts bindable start stop requested exclude nanos)) := by
  by_cases hzero : requested = 0
  · obtain ⟨hreturns, hport, herror⟩ := picksFrom_pickPort texts bindable h exclude nanos
    subst hzero
    have hallows : ∀ p, Allows (start, stop) 0 p ↔ start ≤ p ∧ p ≤ stop := fun p => by
      rw [Allows, if_neg (not_not_intro rfl)]
    simp only [hallows]
    obtain ⟨picked, hpicked⟩ := Option.ne_none_iff_exists'.1 hreturns
    rw [hpicked] at hport herror ⊢
    refine .of (fun p hp => ?_) fun e he => ?_
    · obtain ⟨hbind, hstart, hstop, hne⟩ := hport p (congrArg some hp)
      exact ⟨⟨hstart, hstop⟩, hbind, hne⟩
    · obtain ⟨hcode, hnone⟩ := herror e (congrArg some he)
      exact ⟨hcode, fun p hp => hnone p hp.1 hp.2⟩
  · have hallows : ∀ p, Allows (start, stop) requested p ↔ p = requested := fun p => by
      rw [Allows, if_pos hzero]
    simp only [hallows]
    rw [pickPort, if_pos hzero]
    dsimp only
    split_ifs with hexclude hbind
    · exact .error ⟨rfl, by rintro p rfl hne; exact absurd hexclude hne⟩
    · exact .ok ⟨rfl, hbind, hexclude⟩
    · exact .error ⟨rfl, by rintro p rfl -; simpa using hbind⟩

/-- **A host has a name**, and one without white space around it: the last
thing it tries is a fixed word. -/
theorem detectHostname_spec (env : StartupEnv) :
    detectHostname env ≠ "" ∧ trim (detectHostname env) = detectHostname env := by
  have hsome : ∀ {value : Option String} {name : String},
      (value.map trim).filter (· ≠ "") = some name → name ≠ "" ∧ trim name = name := by
    intro value name h
    obtain ⟨h, hne⟩ := Option.filter_eq_some_iff.1 h
    obtain ⟨raw, -, rfl⟩ := Option.map_eq_some_iff.1 h
    exact ⟨by simpa using hne, trim_trim raw⟩
  unfold detectHostname
  dsimp only
  generalize hname : Option.or _ _ = name
  cases name with
  | none => exact ⟨by decide, by decide⟩
  | some name =>
    rw [Option.getD_some]
    rcases Option.or_eq_some_iff.1 hname with h | ⟨-, h⟩
    · rcases Option.or_eq_some_iff.1 h with h | ⟨-, h⟩ <;> exact hsome h
    · exact hsome h

/-- The configuration is read, and from a text that can be parsed. -/
def Configured (env : StartupEnv) (config : Config) : Prop :=
  ∃ raw, env.readConfig = .ok raw ∧ env.parseConfig raw = .ok config

/-- The configuration asks for a collector of the tests. -/
def Config.Tests (config : Config) : Prop :=
  config.runtime.testInventoryPath.isSome ∨ config.runtime.testRuntimePath.isSome

/-- The driver that is configured is there. -/
def Drives (env : StartupEnv) (config : Config) (nvml : Nvml) : Prop :=
  envTruthy env.simulateNvmlMissing = false ∧
    env.nvmlInit ((config.runtime.nvmlLibPath.map trim).filter (· ≠ "")) = .ok nvml

/-- The collector is there exactly when NVML starts and is not made to be
missing. -/
theorem newNvmlCollector_eq_ok {env : StartupEnv} {config : Config} {nvml : Nvml} :
    newNvmlCollector env.simulateNvmlMissing env.nvmlInit config.runtime.nvmlLibPath = .ok nvml ↔
      Drives env config nvml := by
  rw [newNvmlCollector, Drives]
  split_ifs with h
  · exact iff_of_false nofun fun hdrives => nomatch h.symm.trans hdrives.1
  · rw [orUnavailable, mapError_eq_ok, Bool.eq_false_iff]
    exact (and_iff_right h).symm

/-- Without it the error is `NvmlUnavailable`. -/
theorem code_of_newNvmlCollector {simulate : Option String}
    {init : Option String → Except String Nvml} {path : Option String} {code : ErrorCode}
    (h : newNvmlCollector simulate init path = .error code) : code = .nvmlUnavailable := by
  rw [newNvmlCollector] at h
  split_ifs at h
  · exact (Except.error.inj h).symm
  · obtain ⟨_, -, rfl⟩ := mapError_eq_error.1 h
    rfl

/-- The collector is that of the driver, unless another one is asked for. -/
theorem buildCollector_outcome (env : StartupEnv) (config : Config) :
    Guards.Outcome (fun nvml => ¬config.Tests ∧ Drives env config nvml)
      (fun e => e.code = .configInvalid ∧ config.Tests ∨
        e.code = .nvmlUnavailable ∧ ∀ nvml, ¬Drives env config nvml)
      (Startup.of (buildCollector env config)) := by
  refine .of (fun nvml h => ?_) fun e he => ?_
  · obtain ⟨_, htests, hnew⟩ := bind_eq_ok.1 h
    exact ⟨fun h => refuseIf_eq_ok.1 htests h, newNvmlCollector_eq_ok.1 (mapError_eq_ok.1 hnew)⟩
  · rcases bind_eq_error.1 he with h | ⟨_, -, h⟩
    · obtain ⟨htests, rfl⟩ := refuseIf_eq_error.1 h
      exact .inl ⟨rfl, htests⟩
    · obtain ⟨code, hnew, rfl⟩ := mapError_eq_error.1 h
      exact .inr ⟨code_of_newNvmlCollector hnew, fun nvml hdrives =>
        nomatch hnew.symm.trans (newNvmlCollector_eq_ok.2 hdrives)⟩

/-- What is true of a server that starts. -/
structure Starts (env : StartupEnv) (started : Started) : Prop where
  configured : Configured env started.config
  valid : started.config.Valid env
  release : ¬started.config.Tests
  multicast : Multicasts env started.config.connecting.multicastAddr started.multicast
  outboundIps : List.Forall₂ (fun item ip => parseIpv4Addr item = some ip)
    ((started.config.connecting.multicastOutboundIp.map trim).filter (· ≠ "")) started.outboundIps
  udpPort : Allows started.config.connecting.portRange started.config.connecting.udpPort
    started.udpPort ∧ env.udpBindable started.udpPort = true
  tcpPort : Allows started.config.connecting.portRange started.config.connecting.tcpPort
    started.tcpPort ∧ env.tcpBindable started.tcpPort = true
  ports : started.tcpPort ≠ started.udpPort
  hostname : started.hostname ≠ "" ∧ trim started.hostname = started.hostname
  nvml : Drives env started.config started.nvml

/-- Why a server does not start. -/
inductive Fails (env : StartupEnv) (e : StartupError) : Prop
  | unconfigured (hcode : e.code = .configInvalid) (hnone : ∀ config, ¬Configured env config)
  | refused {config : Config} (hconfig : Configured env config) (hrefused : config.Refused env e)
  | noUdpPort {config : Config} (hconfig : Configured env config) (hvalid : config.Valid env)
      (hcode : e.code = .portExhausted)
      (hnone : ∀ p, Allows config.connecting.portRange config.connecting.udpPort p →
        env.udpBindable p = false)
  | noTcpPort {config : Config} (hconfig : Configured env config) (hvalid : config.Valid env)
      (hcode : e.code = .portExhausted) (udpPort : UInt16)
      (hudp : Allows config.connecting.portRange config.connecting.udpPort udpPort ∧
        env.udpBindable udpPort = true)
      (hnone : ∀ p, Allows config.connecting.portRange config.connecting.tcpPort p →
        p ≠ udpPort → env.tcpBindable p = false)
  | tests {config : Config} (hconfig : Configured env config) (hvalid : config.Valid env)
      (hcode : e.code = .configInvalid) (htests : config.Tests)
  | noDriver {config : Config} (hconfig : Configured env config) (hvalid : config.Valid env)
      (hcode : e.code = .nvmlUnavailable) (hnone : ∀ nvml, ¬Drives env config nvml)

/-- The configuration that is loaded is the one that is there, and a valid one. -/
theorem loadConfig_outcome (env : StartupEnv) :
    Guards.Outcome (fun config => Configured env config ∧ config.Valid env) (Fails env)
      (loadConfig env) := by
  refine .bind (.of (fun raw h => mapError_eq_ok.1 h) fun e he => ?_) fun raw hraw => ?_
  · obtain ⟨_, hread, rfl⟩ := mapError_eq_error.1 he
    exact .unconfigured rfl fun _ h => h.elim fun _ h => nomatch hread.symm.trans h.1
  refine .bind (.of (fun config h => mapError_eq_ok.1 h) fun e he => ?_) fun config hconfig => ?_
  · obtain ⟨_, hparse, rfl⟩ := mapError_eq_error.1 he
    refine .unconfigured rfl fun config ⟨raw', hraw', h⟩ => ?_
    obtain rfl := Except.ok.inj (hraw.symm.trans hraw')
    exact nomatch hparse.symm.trans h
  have hconfigured : Configured env config := ⟨raw, hraw, hconfig⟩
  exact .bind ((validateConfig_outcome env config).imp (fun _ h => h) fun _ => .refused hconfigured)
    fun _ hvalid => .ok ⟨hconfigured, hvalid⟩

/-- **A server starts, or says why not.**  Whatever the configuration, the host and its clock are,
the start does not panic.  It comes to a server only if its configuration can be read and is valid
in each of its values; and then its two ports are different, can be bound and are ones that the
configuration allows, its group is one, its name is not empty and its driver is there.  An error
has the code of what is missing, and that is missing. -/
theorem startup_outcome (env : StartupEnv) :
    Guards.Outcome (Starts env) (Fails env) (run env) := by
  refine .bind (loadConfig_outcome env) fun config ⟨hconfig, hvalid⟩ => ?_
  refine .bind (.of_iff (fun _ => validateMulticastAddr_eq_ok) fun e _ hnone => ?_)
    fun multicast hmulticast => ?_
  · obtain ⟨addr, haddr⟩ := hvalid.multicastAddr
    exact (hnone addr haddr).elim
  refine .bind (.of (fun _ h => h) fun e he => ?_) fun outboundIps hips => ?_
  · obtain ⟨ips, hips⟩ := validateMulticastOutboundIps_eq_ok.2 hvalid.outboundIps
    exact nomatch he.symm.trans hips
  refine .bind ((pickPort_outcome _ _ hvalid.portRange.2 _ _ _).imp (fun _ h => h)
    fun e he => .noUdpPort hconfig hvalid he.1 fun p hp => he.2 p hp nofun)
    fun udpPort ⟨hudpAllows, hudpBind, _⟩ => ?_
  refine .bind ((pickPort_outcome _ _ hvalid.portRange.2 _ _ _).imp (fun _ h => h)
    fun e he => .noTcpPort hconfig hvalid he.1 udpPort ⟨hudpAllows, hudpBind⟩
      fun p hp hne => he.2 p hp fun h => hne (Option.some.inj h))
    fun tcpPort ⟨htcpAllows, htcpBind, hports⟩ => ?_
  refine .bind ((buildCollector_outcome env config).imp (fun _ h => h) fun e he => ?_)
    fun nvml ⟨hrelease, hdrives⟩ => .ok ?_
  · exact he.elim (fun h => .tests hconfig hvalid h.1 h.2) fun h => .noDriver hconfig hvalid h.1 h.2
  exact { configured := hconfig
          valid := hvalid
          release := hrelease
          multicast := hmulticast
          outboundIps := mapM_eq_ok.1 hips |>.imp fun _ _ h => okOr_eq_ok.1 h
          udpPort := ⟨hudpAllows, hudpBind⟩
          tcpPort := ⟨htcpAllows, htcpBind⟩
          ports := fun h => hports (congrArg some h)
          hostname := detectHostname_spec env
          nvml := hdrives }

end Server
end Clustat
