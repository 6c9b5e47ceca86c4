/-
# Announces

`parse_announce_for_protocol` of `crates/client-backend/src/discovery.rs`.  An announce is read as
a `DiscoveryAnnounce`, and if it is none, once more field by field (`parse_legacy_announce`), which
older servers need: they send no version.  The second reading takes a field that it cannot read
for one that is not there, and gives it the default.

So an announce is refused whose version is 2, but not one whose version is 256 or a text: that is
no `u8`, the first reading fails, and the second puts `PROTOCOL_VERSION` in its place.  In the same
way a port of a protocol that is no `u16` is replaced by the port of the announce
(`announce_iff`).
-/

import Clustat.Backend.Cache
import Clustat.Common.Discovery
import Clustat.Common.Text

namespace Clustat
namespace Backend

/-- `SocketAddr::new`. -/
def SocketAddr.new (ip : IpAddr) (port : UInt16) : SocketAddr :=
  match ip with
  | .v4 ip => .v4 ip port
  | .v6 ip => .v6 ip port 0 0

/-- `u8::try_from`. -/
def tryU8 (n : UInt64) : Option UInt8 := if n.toNat < 2 ^ 8 then some n.toUInt8 else none

/-- `u16::try_from`. -/
def tryU16 (n : UInt64) : Option UInt16 := if n.toNat < 2 ^ 16 then some n.toUInt16 else none

/-- The announce that `parse_legacy_announce` makes of a `Value`. -/
def legacyAnnounce (raw : Json) : Option DiscoveryAnnounce := do
  let hostname ← (← raw.get? "hostname").str?
  let ip ← (← raw.get? "ip").str?
  let port ← tryU16 (← (← raw.get? "port").u64)
  some
    { version := (((raw.get? "version").bind Json.u64).bind tryU8).getD PROTOCOL_VERSION
      hostname
      ip
      port
      tcpPort := ((raw.get? "tcp_port").bind Json.u64).bind tryU16
      udpPort := ((raw.get? "udp_port").bind Json.u64).bind tryU16
      kcpPort := none
      ttl := ((raw.get? "ttl").bind Json.u64).bind tryU16
      load := ((raw.get? "load").bind Json.u64).bind tryU8
      degraded := (raw.get? "degraded").bind Json.bool? }

/-- `parse_legacy_announce`. -/
def parseLegacyAnnounce (serde : SerdeValue) (msg : String) : Option DiscoveryAnnounce :=
  (serde.value msg).bind legacyAnnounce

/-- What `parse_announce_for_protocol` returns for an announce. -/
def announcedNode (ann : DiscoveryAnnounce) (src : SocketAddr) (protocol : String)
    (nowMs : Int64) : Option DiscoveredNode :=
  if ann.version ≠ PROTOCOL_VERSION then none
  else
    let port :=
      match toAsciiLowercase (trim protocol) with
      | "tcp" => ann.tcpPort.getD ann.port
      | "udp" => ann.udpPort.getD ann.port
      | _ => ann.udpPort.getD ann.port
    some { hostname := ann.hostname, addr := .new src.ip port, tsMs := nowMs }

/-- `parse_announce_for_protocol`. -/
def parseAnnounceForProtocol (serde : SerdeValue) (msg : String) (src : SocketAddr)
    (protocol : String) (nowMs : Int64) : Option DiscoveredNode := do
  let ann ←
    match serde.fromStr "DiscoveryAnnounce" DiscoveryAnnounce.fromJson msg with
    | .ok ann => some ann
    | .error _ => parseLegacyAnnounce serde msg
  announcedNode ann src protocol nowMs

/-! ### What an announce says -/

/-- The protocol is `tcp`. -/
def isTcp (protocol : String) : Bool := toAsciiLowercase (trim protocol) = "tcp"

/-- The port of the protocol in an announce, if it is given. -/
def protocolPort (protocol : String) (v : Json) : Option Json :=
  if isTcp protocol then v.given 4 "tcp_port" else v.given 6 "udp_port"

/-- An object with a version that is not the number `PROTOCOL_VERSION`. -/
def OtherVersion (v : Json) : Prop :=
  ∃ x, v.get? "version" = some x ∧ x ≠ .posInt PROTOCOL_VERSION.toUInt64

/-- A node is what an announce says: its hostname at the address of the source, and the port of
the protocol, or else the port of the announce. -/
structure IsAnnounced (protocol : String) (src : SocketAddr) (v : Json) (node : DiscoveredNode) :
    Prop where
  hostname : v.field 1 "hostname" = some (.str node.hostname)
  ip : node.addr.ip = src.ip
  port : (protocolPort protocol v).or (v.field 3 "port") =
    some (.posInt node.addr.port.toUInt64)

/-- An announce is accepted by the protocol: none of another version, and no node that it does
not say. -/
structure AcceptedByProtocol (serde : SerdeValue) (msg : String) (src : SocketAddr)
    (protocol : String) (nowMs : Int64) : Prop where
  version : ∀ v, serde.parse msg = some v → OtherVersion v →
    parseAnnounceForProtocol serde msg src protocol nowMs = none
  node : ∀ node, parseAnnounceForProtocol serde msg src protocol nowMs = some node →
    ∃ v, serde.parse msg = some v ∧ IsAnnounced protocol src v node

/-- The second reading finds what it asks for. -/
def Legacy (v : Json) : Prop :=
  (∃ s, v.get? "hostname" = some (.str s)) ∧ (∃ s, v.get? "ip" = some (.str s)) ∧
    ∃ n : UInt16, v.get? "port" = some (.posInt n.toUInt64)

/-- The second reading gives a field the default that is there: a version that is no `u8`, or
in an announce of this version, or of none, the port of the protocol. -/
def Defaulted (protocol : String) (v : Json) : Prop :=
  Legacy v ∧
    ((∃ x, v.get? "version" = some x ∧ x.u8 = none) ∨
      (¬OtherVersion v ∧ ∃ x, protocolPort protocol v = some x ∧ x.u16 = none))

/-! ### The two readings -/

/-- Reading a `u64` and converting it is reading a `u8`. -/
theorem bind_u64_tryU8 (v : Json) : v.u64.bind tryU8 = v.u8 := by cases v <;> rfl

/-- Reading a `u64` and converting it is reading a `u16`. -/
theorem bind_u64_tryU16 (v : Json) : v.u64.bind tryU16 = v.u16 := by cases v <;> rfl

/-- The port of the protocol that an announce has. -/
def chosenPort (protocol : String) (ann : DiscoveryAnnounce) : Option UInt16 :=
  if isTcp protocol then ann.tcpPort else ann.udpPort

/-- What an announce comes to: a node at the address it was sent from, with
the announced port, if the version is the current one. -/
theorem announcedNode_eq (ann : DiscoveryAnnounce) (src : SocketAddr) (protocol : String)
    (nowMs : Int64) : announcedNode ann src protocol nowMs =
      if ann.version = PROTOCOL_VERSION then
        some
          { hostname := ann.hostname
            addr := .new src.ip ((chosenPort protocol ann).getD ann.port)
            tsMs := nowMs }
      else none := by
  rw [announcedNode, ite_not, chosenPort, isTcp]
  generalize toAsciiLowercase (trim protocol) = name
  congr 2
  split
  · rfl
  · rfl
  · rename_i htcp _
    rw [if_neg (by simpa using htcp)]

/-- The IP of an address is the one it was made of. -/
theorem ip_new (ip : IpAddr) (port : UInt16) : (SocketAddr.new ip port).ip = ip := by
  cases ip <;> rfl

/-- The port of an address is the one it was made of. -/
theorem port_new (ip : IpAddr) (port : UInt16) : (SocketAddr.new ip port).port = port := by
  cases ip <;> rfl

/-- The first reading finds the port of the protocol where it is given. -/
theorem map_protocolPort_of_readFrom {protocol : String} {v : Json} {ann : DiscoveryAnnounce}
    (h : ann.ReadFrom v) :
    (protocolPort protocol v).map Json.u16 = (chosenPort protocol ann).map some := by
  rw [protocolPort, chosenPort]
  split_ifs
  · exact h.tcpPort
  · exact h.udpPort

/-- What the first reading finds is what the announce says. -/
theorem isAnnounced_of_readFrom {protocol : String} {src : SocketAddr} {v : Json}
    {ann : DiscoveryAnnounce} (h : ann.ReadFrom v) (nowMs : Int64) :
    IsAnnounced protocol src v
      { hostname := ann.hostname
        addr := .new src.ip ((chosenPort protocol ann).getD ann.port)
        tsMs := nowMs } := by
  have hgiven : (protocolPort protocol v).map Json.u16 = (chosenPort protocol ann).map some :=
    map_protocolPort_of_readFrom h
  refine ⟨h.hostname, ip_new _ _, ?_⟩
  rw [port_new]
  cases hchosen : chosenPort protocol ann with
  | none =>
    rw [hchosen, Option.map_none, Option.map_eq_none_iff] at hgiven
    rw [hgiven, Option.none_or, h.port, Option.getD_none]
  | some port =>
    rw [hchosen] at hgiven
    obtain ⟨x, hx, hread⟩ := Option.map_eq_some_iff.1 hgiven
    rw [hx, Option.some_or, Json.u16_eq_some.1 hread, Option.getD_some]

/-- What the second reading finds. -/
structure LegacyFrom (v : Json) (ann : DiscoveryAnnounce) : Prop where
  version : ann.version = ((v.get? "version").bind Json.u8).getD PROTOCOL_VERSION
  hostname : v.get? "hostname" = some (.str ann.hostname)
  port : v.get? "port" = some (.posInt ann.port.toUInt64)
  tcpPort : ann.tcpPort = (v.get? "tcp_port").bind Json.u16
  udpPort : ann.udpPort = (v.get? "udp_port").bind Json.u16

/-- What the second reading accepts has the fields it needs, and is read from
them. -/
theorem legacyFrom_of_legacyAnnounce {v : Json} {ann : DiscoveryAnnounce}
    (h : legacyAnnounce v = some ann) : Legacy v ∧ LegacyFrom v ann := by
  simp only [legacyAnnounce, Option.bind_eq_bind, Option.bind_eq_some_iff, Option.some.injEq] at h
  obtain ⟨x, hx, hostname, hhostname, y, hy, ip, hip, z, hz, n, hn, port, hport, rfl⟩ := h
  have hread : z.u16 = some port := by rw [← bind_u64_tryU16, hn, Option.bind_some, hport]
  rw [Json.str?_eq_some.1 hhostname] at hx
  rw [Json.str?_eq_some.1 hip] at hy
  rw [Json.u16_eq_some.1 hread] at hz
  refine ⟨⟨⟨hostname, hx⟩, ⟨ip, hy⟩, port, hz⟩, ?_, hx, hz, ?_, ?_⟩
  all_goals simp only [Option.bind_assoc, bind_u64_tryU8, bind_u64_tryU16]

/-- With those fields the second reading succeeds: it has a default for all
others. -/
theorem exists_legacyAnnounce {v : Json} (h : Legacy v) : ∃ ann, legacyAnnounce v = some ann := by
  obtain ⟨⟨hostname, hhostname⟩, ⟨ip, hip⟩, port, hport⟩ := h
  have htry : tryU16 port.toUInt64 = some port := Json.u16_posInt port
  simp [legacyAnnounce, hhostname, hip, hport, Json.str?, Json.u64, htry]

/-- The port of the protocol is the one that is given, if it can be read. -/
theorem LegacyFrom.chosenPort {v : Json} {ann : DiscoveryAnnounce} (h : LegacyFrom v ann)
    (protocol : String) : chosenPort protocol ann = (protocolPort protocol v).bind Json.u16 := by
  obtain ⟨fields, rfl⟩ := Json.exists_obj h.hostname
  have hnull (o : Option Json) : (o.filter fun x => !x.isNull).bind Json.u16 = o.bind Json.u16 := by
    cases o with
    | none => rfl
    | some x => cases x <;> rfl
  rw [Backend.chosenPort, protocolPort]
  split_ifs
  · rw [h.tcpPort, Json.given, hnull]
    rfl
  · rw [h.udpPort, Json.given, hnull]
    rfl

/-- Where no other version is stated, the second reading takes the current
one. -/
theorem LegacyFrom.version_eq {v : Json} {ann : DiscoveryAnnounce} (h : LegacyFrom v ann)
    (hversion : ¬OtherVersion v) : ann.version = PROTOCOL_VERSION := by
  rw [h.version]
  cases hx : v.get? "version" with
  | none => rfl
  | some x =>
    have hthis : x = .posInt PROTOCOL_VERSION.toUInt64 := by
      by_contra hne
      exact hversion ⟨x, hx, hne⟩
    rw [hthis, Option.bind_some, Json.u8_posInt, Option.getD_some]

/-- What the second reading finds is what the announce says, if it can read the port of the
protocol where that is given. -/
theorem LegacyFrom.isAnnounced {protocol : String} {src : SocketAddr} {v : Json}
    {ann : DiscoveryAnnounce} (h : LegacyFrom v ann) (nowMs : Int64)
    (hport : ∀ x, protocolPort protocol v = some x → x.u16 ≠ none) :
    IsAnnounced protocol src v
      { hostname := ann.hostname
        addr := .new src.ip ((Backend.chosenPort protocol ann).getD ann.port)
        tsMs := nowMs } := by
  have hfield : v.field 1 "hostname" = v.get? "hostname" ∧ v.field 3 "port" = v.get? "port" := by
    obtain ⟨fields, rfl⟩ := Json.exists_obj h.hostname
    exact ⟨rfl, rfl⟩
  refine ⟨by rw [hfield.1, h.hostname], ip_new _ _, ?_⟩
  rw [port_new, h.chosenPort protocol, hfield.2, h.port]
  cases hgiven : protocolPort protocol v with
  | none => rfl
  | some x =>
    obtain ⟨port, hu16⟩ := Option.ne_none_iff_exists'.1 (hport x hgiven)
    rw [Option.some_or, Option.bind_some, hu16, Option.getD_some, Json.u16_eq_some.1 hu16]

/-- The second reading finds the version that is there, if it is a `u8`. -/
theorem LegacyFrom.eq_version {v x : Json} {ann : DiscoveryAnnounce} (h : LegacyFrom v ann)
    (hx : v.get? "version" = some x) (hu8 : x.u8 ≠ none) : x = .posInt ann.version.toUInt64 := by
  obtain ⟨n, hn⟩ := Option.ne_none_iff_exists'.1 hu8
  rw [h.version, hx, Option.bind_some, hn, Option.getD_some]
  exact Json.u8_eq_some.1 hn

section Parse

variable (serde : SerdeValue) (msg : String) (src : SocketAddr) (protocol : String)
  (nowMs : Int64)

/-- **The two readings**: the announce as it is defined, or else the second
one; what comes of either has to be of the current version. -/
theorem parseAnnounceForProtocol_eq :
    parseAnnounceForProtocol serde msg src protocol nowMs =
      (((serde.parse msg).bind DiscoveryAnnounce.fromJson).or
        ((serde.value msg).bind legacyAnnounce)).bind fun ann =>
          announcedNode ann src protocol nowMs := by
  rw [parseAnnounceForProtocol, SerdeJson.fromStr, parseLegacyAnnounce]
  cases (serde.parse msg).bind DiscoveryAnnounce.fromJson <;> rfl

/-- An announce is accepted, if the version that is read is the one that is there and the node,
where there is to be one, is what the announce says. -/
theorem accepted_of_announcedNode {v : Json} {ann : DiscoveryAnnounce}
    (hv : serde.parse msg = some v)
    (hparse : parseAnnounceForProtocol serde msg src protocol nowMs =
      announcedNode ann src protocol nowMs)
    (hversion : ∀ x, v.get? "version" = some x → x = .posInt ann.version.toUInt64)
    (hannounced : ¬OtherVersion v → IsAnnounced protocol src v
      { hostname := ann.hostname
        addr := .new src.ip ((chosenPort protocol ann).getD ann.port)
        tsMs := nowMs }) :
    AcceptedByProtocol serde msg src protocol nowMs := by
  rw [announcedNode_eq] at hparse
  refine ⟨fun w hw hother => ?_, fun node hnode => ⟨v, hv, ?_⟩⟩
  · obtain rfl := Option.some.inj (hv.symm.trans hw)
    obtain ⟨x, hx, hne⟩ := hother
    have hmismatch : ann.version ≠ PROTOCOL_VERSION := fun h => hne (by rw [hversion x hx, h])
    rw [hparse, if_neg hmismatch]
  · rw [hparse, Option.ite_none_right_eq_some] at hnode
    obtain ⟨hthis, hnode⟩ := hnode
    obtain rfl := Option.some.inj hnode
    refine hannounced ?_
    rintro ⟨x, hx, hne⟩
    exact hne (by rw [hversion x hx, hthis])

/-- **The first reading keeps to the protocol**: what it reads is an announce
of the protocol, and no field is given a default in the place of what is
there. -/
theorem accepted_of_fromJson {v : Json} {ann : DiscoveryAnnounce} (hv : serde.parse msg = some v)
    (hann : DiscoveryAnnounce.fromJson v = some ann) :
    AcceptedByProtocol serde msg src protocol nowMs ∧ ¬Defaulted protocol v := by
  have hread := DiscoveryAnnounce.readFrom_of_fromJson hann
  have hversion (x : Json) (hx : v.get? "version" = some x) :
      x = .posInt ann.version.toUInt64 := by
    obtain ⟨fields, rfl⟩ := Json.exists_obj hx
    exact Option.some.inj (hx.symm.trans hread.version)
  have hparse : parseAnnounceForProtocol serde msg src protocol nowMs =
      announcedNode ann src protocol nowMs := by
    rw [parseAnnounceForProtocol_eq, hv, Option.bind_some, hann]
    rfl
  refine ⟨accepted_of_announcedNode serde msg src protocol nowMs hv hparse hversion
    fun _ => isAnnounced_of_readFrom hread nowMs, ?_⟩
  rintro ⟨-, ⟨x, hx, hu8⟩ | ⟨-, x, hx, hu16⟩⟩
  · rw [hversion x hx, Json.u8_posInt] at hu8
    cases hu8
  · have hgiven : (protocolPort protocol v).map Json.u16 = (chosenPort protocol ann).map some :=
      map_protocolPort_of_readFrom hread
    rw [hx, Option.map_some, hu16] at hgiven
    cases hchosen : chosenPort protocol ann <;> rw [hchosen] at hgiven <;> cases hgiven

/-- **A default is taken for what is there**: with one, the announce is not
accepted, since no announce of the protocol reads from the same fields. -/
theorem not_defaulted_of_accepted {v : Json} {ann : DiscoveryAnnounce}
    (hv : serde.parse msg = some v)
    (hparse : parseAnnounceForProtocol serde msg src protocol nowMs =
      announcedNode ann src protocol nowMs)
    (hread : LegacyFrom v ann) (haccepted : AcceptedByProtocol serde msg src protocol nowMs) :
    ¬Defaulted protocol v := by
  rw [announcedNode_eq] at hparse
  rintro ⟨-, ⟨x, hx, hu8⟩ | ⟨hversion, x, hx, hu16⟩⟩
  · -- The version is taken for this one.
    have hdefault : ann.version = PROTOCOL_VERSION := by
      rw [hread.version, hx, Option.bind_some, hu8, Option.getD_none]
    have hother : OtherVersion v := ⟨x, hx, by
      rintro rfl
      cases hu8⟩
    rw [haccepted.version v hv hother, if_pos hdefault] at hparse
    cases hparse
  · -- The port is taken for that of the announce.
    rw [if_pos (hread.version_eq hversion)] at hparse
    obtain ⟨w, hw, hnode⟩ := haccepted.node _ hparse
    obtain rfl := Option.some.inj (hv.symm.trans hw)
    have hannounced := hnode.port
    rw [hx, Option.some_or, Option.some_inj] at hannounced
    rw [hannounced, Json.u16_posInt] at hu16
    cases hu16

/-- **The second reading keeps to the protocol** where it gives no field that is there the
default. -/
theorem accepted_of_legacyAnnounce {v : Json} {ann : DiscoveryAnnounce}
    (hv : serde.parse msg = some v)
    (hparse : parseAnnounceForProtocol serde msg src protocol nowMs =
      announcedNode ann src protocol nowMs)
    (hlegacy : Legacy v) (hread : LegacyFrom v ann) :
    AcceptedByProtocol serde msg src protocol nowMs ↔ ¬Defaulted protocol v := by
  refine ⟨not_defaulted_of_accepted serde msg src protocol nowMs hv hparse hread, fun h => ?_⟩
  refine accepted_of_announcedNode serde msg src protocol nowMs hv hparse (fun x hx => ?_)
    fun hthis => hread.isAnnounced nowMs fun x hx hu16 => ?_
  · exact hread.eq_version hx fun hu8 => h ⟨hlegacy, .inl ⟨x, hx, hu8⟩⟩
  · exact h ⟨hlegacy, .inr ⟨hthis, x, hx, hu16⟩⟩

/-- **When an announce is accepted by the protocol**: when the second reading, should it come to
that, gives no field that is there the default. -/
theorem announce_iff : AcceptedByProtocol serde msg src protocol nowMs ↔
    ∀ v, serde.value msg = some v → ¬Defaulted protocol v := by
  have hvalue (v : Json) (h : serde.value msg = some v) : serde.parse msg = some v := by
    rw [SerdeValue.value, Option.ite_none_right_eq_some] at h
    exact h.2
  have hparse := parseAnnounceForProtocol_eq serde msg src protocol nowMs
  have hnone (h : parseAnnounceForProtocol serde msg src protocol nowMs = none) :
      AcceptedByProtocol serde msg src protocol nowMs :=
    ⟨fun _ _ _ => h, fun node hnode => nomatch h.symm.trans hnode⟩
  cases hfirst : (serde.parse msg).bind DiscoveryAnnounce.fromJson with
  | some ann =>
    obtain ⟨v, hv, hann⟩ := Option.bind_eq_some_iff.1 hfirst
    obtain ⟨haccepted, hdefaulted⟩ := accepted_of_fromJson serde msg src protocol nowMs hv hann
    refine iff_of_true haccepted fun w hw => ?_
    rwa [← Option.some.inj (hv.symm.trans (hvalue w hw))]
  | none =>
    rw [hfirst, Option.none_or] at hparse
    cases hsecond : serde.value msg with
    | none =>
      rw [hsecond] at hparse
      exact iff_of_true (hnone hparse) nofun
    | some v =>
      rw [hsecond, Option.bind_some] at hparse
      simp only [Option.some.injEq, forall_eq']
      by_cases hlegacy : Legacy v
      · obtain ⟨ann, hann⟩ := exists_legacyAnnounce hlegacy
        rw [hann, Option.bind_some] at hparse
        exact accepted_of_legacyAnnounce serde msg src protocol nowMs (hvalue v hsecond) hparse
          hlegacy (legacyFrom_of_legacyAnnounce hann).2
      · have hread : legacyAnnounce v = none :=
          Option.eq_none_iff_forall_ne_some.2 fun ann hann =>
            hlegacy (legacyFrom_of_legacyAnnounce hann).1
        rw [hread] at hparse
        exact iff_of_true (hnone hparse) fun h => hlegacy h.1

end Parse

/-- An announce of version 256. -/
def announce256 : Json :=
  .obj [("version", .posInt 256), ("hostname", .str "node-a"), ("ip", .str "10.1.2.3"),
    ("port", .posInt 30001)]

/-- A reader of the text of one tree. -/
def readerOf (v : Json) : SerdeValue where
  parse s := if s = v.text then some v else none
  message _ s := s
  fits _ := true

/-- The reader of one tree reads its text. -/
theorem parse_readerOf (v : Json) : (readerOf v).parse v.text = some v := by simp [readerOf]

/-- The announce of version 256 is accepted. -/
theorem version_256_accepted :
    announce256.text = "\x7b\"version\":256,\"hostname\":\"node-a\",\"ip\":\"10.1.2.3\"," ++
      "\"port\":30001\x7d" ∧
    parseAnnounceForProtocol (readerOf announce256) announce256.text
      (.v4 0xC0000263 40000) "udp" 0 =
        some { hostname := "node-a", addr := .v4 0xC0000263 30001, tsMs := 0 } ∧
    ¬AcceptedByProtocol (readerOf announce256) announce256.text (.v4 0xC0000263 40000) "udp" 0 := by
  have hread : (readerOf announce256).parse announce256.text = some announce256 :=
    parse_readerOf announce256
  have hvalue : (readerOf announce256).value announce256.text = some announce256 := hread
  have hnode : parseAnnounceForProtocol (readerOf announce256) announce256.text
      (.v4 0xC0000263 40000) "udp" 0 =
        some { hostname := "node-a", addr := .v4 0xC0000263 30001, tsMs := 0 } := by
    rw [parseAnnounceForProtocol_eq, hread, hvalue]
    decide
  refine ⟨by decide, hnode, fun h => ?_⟩
  have hother : OtherVersion announce256 := ⟨.posInt 256, rfl, nofun⟩
  rw [h.version announce256 hread hother] at hnode
  cases hnode

end Backend
end Clustat
