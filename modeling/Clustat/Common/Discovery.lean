/-
# The messages of discovery

`DiscoveryQuery` and `DiscoveryAnnounce` of `crates/common/src/protocol.rs`.  Both
go as JSON objects over one group and port, with nothing that says which is which.
An announce has every field of a query, so that it is read as one
(`DiscoveryQuery.fromJson_announce`); a query is not read as an announce.
-/

import Clustat.Common.Json

namespace Clustat

/-- `DiscoveryQuery`. -/
structure DiscoveryQuery where
  version : UInt8
  deriving DecidableEq, Repr

/-- `DiscoveryAnnounce`. -/
structure DiscoveryAnnounce where
  version : UInt8
  hostname : String
  ip : String
  port : UInt16
  tcpPort : Option UInt16
  kcpPort : Option UInt16
  udpPort : Option UInt16
  ttl : Option UInt16
  load : Option UInt8
  degraded : Option Bool
  deriving DecidableEq, Repr

/-- How a query is written. -/
def DiscoveryQuery.toJson (q : DiscoveryQuery) : Json :=
  .obj [("version", .posInt q.version.toUInt64)]

/-- How a query is read. -/
def DiscoveryQuery.fromJson (v : Json) : Option DiscoveryQuery :=
  if v.holds 1 then do
    let version ← v.required 0 "version" Json.u8
    some { version }
  else none

/-- How an announce is written. -/
def DiscoveryAnnounce.toJson (a : DiscoveryAnnounce) : Json :=
  .obj [("version", .posInt a.version.toUInt64), ("hostname", .str a.hostname), ("ip", .str a.ip),
    ("port", .posInt a.port.toUInt64),
    ("tcp_port", Json.ofOption (fun port => .posInt port.toUInt64) a.tcpPort),
    ("kcp_port", Json.ofOption (fun port => .posInt port.toUInt64) a.kcpPort),
    ("udp_port", Json.ofOption (fun port => .posInt port.toUInt64) a.udpPort),
    ("ttl", Json.ofOption (fun ttl => .posInt ttl.toUInt64) a.ttl),
    ("load", Json.ofOption (fun load => .posInt load.toUInt64) a.load),
    ("degraded", Json.ofOption .bool a.degraded)]

/-- How an announce is read. -/
def DiscoveryAnnounce.fromJson (v : Json) : Option DiscoveryAnnounce :=
  if v.holds 10 then do
    let version ← v.required 0 "version" Json.u8
    let hostname ← v.required 1 "hostname" Json.str?
    let ip ← v.required 2 "ip" Json.str?
    let port ← v.required 3 "port" Json.u16
    let tcpPort ← v.defaulted 4 "tcp_port" none (Json.option Json.u16)
    let kcpPort ← v.defaulted 5 "kcp_port" none (Json.option Json.u16)
    let udpPort ← v.defaulted 6 "udp_port" none (Json.option Json.u16)
    let ttl ← v.defaulted 7 "ttl" none (Json.option Json.u16)
    let load ← v.defaulted 8 "load" none (Json.option Json.u8)
    let degraded ← v.defaulted 9 "degraded" none (Json.option Json.bool?)
    some { version, hostname, ip, port, tcpPort, kcpPort, udpPort, ttl, load, degraded }
  else none

/-- A query is read as it was written. -/
theorem DiscoveryQuery.fromJson_toJson (q : DiscoveryQuery) : fromJson q.toJson = some q := by
  simp [fromJson, toJson, Json.holds, Json.required, Json.values]

/-- An announce is read as it was written. -/
theorem DiscoveryAnnounce.fromJson_toJson (a : DiscoveryAnnounce) :
    fromJson a.toJson = some a := by
  have h16 := Json.option_ofOption Json.u16_posInt nofun
  have h8 := Json.option_ofOption Json.u8_posInt nofun
  have hbool : ∀ o, Json.option Json.bool? (Json.ofOption .bool o) = some o :=
    Json.option_ofOption (fun _ => rfl) nofun
  simp [fromJson, toJson, Json.holds, Json.required, Json.defaulted, Json.values, Json.str?,
    h16, h8, hbool]

/-- What the text of an announce has, if it is read as one. -/
structure DiscoveryAnnounce.ReadFrom (v : Json) (a : DiscoveryAnnounce) : Prop where
  version : v.field 0 "version" = some (.posInt a.version.toUInt64)
  hostname : v.field 1 "hostname" = some (.str a.hostname)
  port : v.field 3 "port" = some (.posInt a.port.toUInt64)
  tcpPort : (v.given 4 "tcp_port").map Json.u16 = a.tcpPort.map some
  udpPort : (v.given 6 "udp_port").map Json.u16 = a.udpPort.map some

/-- What `from_json` accepts as an announce is read off the fields of the
value, each by its own type. -/
theorem DiscoveryAnnounce.readFrom_of_fromJson {v : Json} {a : DiscoveryAnnounce}
    (h : fromJson v = some a) : ReadFrom v a := by
  unfold fromJson at h
  split_ifs at h
  obtain ⟨version, hversion, h⟩ := Option.bind_eq_some_iff.1 h
  obtain ⟨hostname, hhostname, h⟩ := Option.bind_eq_some_iff.1 h
  obtain ⟨ip, -, h⟩ := Option.bind_eq_some_iff.1 h
  obtain ⟨port, hport, h⟩ := Option.bind_eq_some_iff.1 h
  obtain ⟨tcpPort, htcp, h⟩ := Option.bind_eq_some_iff.1 h
  obtain ⟨kcpPort, -, h⟩ := Option.bind_eq_some_iff.1 h
  obtain ⟨udpPort, hudp, h⟩ := Option.bind_eq_some_iff.1 h
  obtain ⟨ttl, -, h⟩ := Option.bind_eq_some_iff.1 h
  obtain ⟨load, -, h⟩ := Option.bind_eq_some_iff.1 h
  obtain ⟨degraded, -, h⟩ := Option.bind_eq_some_iff.1 h
  obtain rfl := Option.some.inj h
  obtain ⟨x, hx, hread⟩ := Json.field_of_required hversion
  obtain ⟨y, hy, hready⟩ := Json.field_of_required hhostname
  obtain ⟨z, hz, hreadz⟩ := Json.field_of_required hport
  exact
    { version := Json.u8_eq_some.1 hread ▸ hx
      hostname := Json.str?_eq_some.1 hready ▸ hy
      port := Json.u16_eq_some.1 hreadz ▸ hz
      tcpPort := Json.given_of_defaulted htcp
      udpPort := Json.given_of_defaulted hudp }

/-- **Every announce is a query**, of its version: a query has no field that
an announce lacks, and the fields that it does not know are passed over. -/
theorem DiscoveryQuery.fromJson_announce (a : DiscoveryAnnounce) :
    fromJson a.toJson = some { version := a.version } := by
  simp [fromJson, DiscoveryAnnounce.toJson, Json.holds, Json.required, Json.values]

end Clustat
