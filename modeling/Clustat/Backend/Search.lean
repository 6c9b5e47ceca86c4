/-
# The search for servers

`discover_nodes` of `crates/client-backend/src/discovery.rs`: a client asks the group on every
outbound interface, reads what comes until its time is up, and keeps a node for each address, the
last one that was announced.

It is put together here with the servers that answer (`discoverySystem`).  Whatever else happens
in the group, and in whatever order and however often the answers arrive, the search returns the
servers that are heard: each once, at the address it answers from with the port of the protocol,
and no node that is not one of them (`discover_nodes_hears`).
-/

import Clustat.Backend.Announce
import Clustat.Backend.Discovery
import Clustat.Lib.Guards
import Clustat.Server.Discovery

namespace Clustat
namespace Backend

open Guards Server

/-! ### Sockets -/

/-- An `io::Error`: its text and its `raw_os_error`. -/
structure IoError where
  text : String
  rawOsError : Option Int32

/-- What the calls on the socket for an interface return. -/
structure SocketEnv where
  created : Except String Unit
  readTimeout : Except String Unit
  sent : Except IoError Unit

/-- What `recv_from` returns: a datagram and its source, no datagram in time, or an error.  A node
has the time at which its datagram is read. -/
inductive Reception
  | datagram (bytes : Bytes) (src : SocketAddr) (nowMs : Int64)
  | timeout
  | failed (error : String)

/-- What a search meets: what addresses resolve to, the sockets, what they receive one after the
other until the time is up, and the order of the hash map. -/
structure SearchEnv where
  toSocketAddrs : String → Except String (List SocketAddr)
  sockets : ℕ → SocketEnv
  receptions : List Reception
  order : Iteration String DiscoveredNode

/-- `resolve_addr`. -/
def SearchEnv.resolveAddr (env : SearchEnv) (raw : String) : Except String SocketAddr := do
  let addrs ← (env.toSocketAddrs raw).mapError fun e =>
    "resolve address '" ++ raw ++ "' failed: " ++ e
  okOr ("no resolved address for '" ++ raw ++ "'") addrs.head?

/-- `parse_multicast_outbound_ips`. -/
def parseMulticastOutboundIps (raw : List String) : Except String (List UInt32) :=
  ((raw.map trim).filter (· ≠ "")).mapM fun item =>
    okOr ("invalid multicast_outbound_ip '" ++ item ++ "': invalid IPv4 address syntax")
      (parseIpv4Addr item)

/-- `multicast_route_hint`. -/
def multicastRouteHint (message : String) (error : IoError) : String :=
  if error.rawOsError = some 101 ∨ error.rawOsError = some 19 then
    message ++ "; multicast route/interface is unavailable, configure " ++
      "[connecting].multicast_outbound_ip with one or more local IPv4 addresses"
  else message

/-- The sockets that have sent the query, and the first error of one that has not. -/
structure OpenSockets where
  count : ℕ := 0
  firstSendError : Option String := none

/-- The socket for an interface. -/
def openSocket (target : SocketAddr) (env : ℕ → SocketEnv) (sockets : OpenSockets)
    (x : Option UInt32 × ℕ) : Except String OpenSockets := do
  let socket := env x.2
  socket.created.mapError ("udp bind failed: " ++ ·)
  socket.readTimeout.mapError ("set read timeout failed: " ++ ·)
  match socket.sent with
  | .ok () => .ok { sockets with count := sockets.count + 1 }
  | .error e =>
    let message := multicastRouteHint
      ("send query to " ++ target.printed ++ " failed: " ++ e.text) e
    .ok { sockets with firstSendError := sockets.firstSendError.or (some message) }

/-- The node of a datagram, of which the buffer takes 2048 bytes. -/
def heardNode (serde : SerdeValue) (protocol : String) : Reception → Option DiscoveredNode
  | .datagram bytes src nowMs =>
    parseAnnounceForProtocol serde (fromUtf8Lossy (bytes.take 2048)) src protocol nowMs
  | .timeout | .failed _ => none

/-- What one `recv_from` does to the map. -/
def hear (serde : SerdeValue) (protocol : String) (map : Table String DiscoveredNode)
    (reception : Reception) : Except String (Table String DiscoveredNode) :=
  match reception with
  | .failed e => .error ("recv announce failed: " ++ e)
  | reception =>
    match heardNode serde protocol reception with
    | some node => .ok (map.insert node.addr.printed node)
    | none => .ok map

/-- `discover_nodes`. -/
def discoverNodes (serde : SerdeValue) (env : SearchEnv) (multicastAddr : String)
    (outboundIps : List String) (protocol : String) : Except String (List DiscoveredNode) := do
  let target ← env.resolveAddr multicastAddr
  let outbound ← parseMulticastOutboundIps outboundIps
  let interfaces := if outbound.isEmpty then [none] else outbound.map some
  let sockets ← interfaces.zipIdx.foldlM (openSocket target env.sockets) {}
  refuseIf (sockets.count = 0) (sockets.firstSendError.getD
    ("send query to " ++ target.printed ++ " failed on every outbound IP"))
  let map ← env.receptions.foldlM (hear serde protocol) ∅
  .ok (((env.order.entries map).map Prod.snd).mergeSort fun a b =>
    a.addr.printed ≤ b.addr.printed)

/-! ### What is heard -/

/-- A reader gets the tree of a text from the text, and none from a part of it, which the buffer
may have cut off in a character. -/
structure Legible (serde : SerdeValue) (v : Json) : Prop where
  whole : serde.Decodes v
  part : ∀ n < v.toVec.length, serde.parse (fromUtf8Lossy (v.toVec.take n)) = none

section Hear

variable {serde : SerdeValue} {protocol : String}

/-- What is received without an error is in the map, the last of each address. -/
theorem foldlM_hear (rs : List Reception) (map map' : Table String DiscoveredNode)
    (h : rs.foldlM (hear serde protocol) map = .ok map') :
    map' = (rs.filterMap (heardNode serde protocol)).foldl
      (fun map node => map.insert node.addr.printed node) map := by
  induction rs generalizing map with
  | nil => exact (Except.ok.inj h).symm
  | cons r rs ih =>
    rw [List.foldlM_cons] at h
    obtain ⟨map₁, hr, hrs⟩ := bind_eq_ok.1 h
    rw [ih map₁ hrs, List.filterMap_cons]
    cases r with
    | failed e => cases hr
    | timeout =>
      obtain rfl := Except.ok.inj hr
      rfl
    | datagram bytes src nowMs =>
      dsimp only [hear] at hr
      split at hr
      · rename_i node hnode
        obtain rfl := Except.ok.inj hr
        rw [hnode, List.foldl_cons]
      · rename_i hnone
        obtain rfl := Except.ok.inj hr
        rw [hnone]

/-- **A search merges what it hears**: the nodes of all receptions, with none
from the configuration. -/
theorem discoverNodes_eq_ok {env : SearchEnv} {multicastAddr : String} {outboundIps : List String}
    {nodes : List DiscoveredNode}
    (h : discoverNodes serde env multicastAddr outboundIps protocol = .ok nodes) :
    nodes = mergeDiscoveredNodes env.order
      (env.receptions.filterMap (heardNode serde protocol)) [] := by
  obtain ⟨target, -, h⟩ := bind_eq_ok.1 h
  obtain ⟨outbound, -, h⟩ := bind_eq_ok.1 h
  obtain ⟨sockets, -, h⟩ := bind_eq_ok.1 h
  obtain ⟨_, -, h⟩ := bind_eq_ok.1 h
  obtain ⟨map, hmap, h⟩ := bind_eq_ok.1 h
  rw [← Except.ok.inj h, foldlM_hear _ _ _ hmap, mergeDiscoveredNodes, List.append_nil]

/-- A search with a socket that has sent, in which nothing fails, returns something. -/
theorem isOk_discoverNodes {env : SearchEnv} {multicastAddr : String} {outboundIps : List String}
    {target : SocketAddr} {outbound : List UInt32} {sockets : OpenSockets}
    (htarget : env.resolveAddr multicastAddr = .ok target)
    (houtbound : parseMulticastOutboundIps outboundIps = .ok outbound)
    (hsockets : (if outbound.isEmpty then [none] else outbound.map some).zipIdx.foldlM
      (openSocket target env.sockets) {} = .ok sockets)
    (hcount : sockets.count ≠ 0) (hreceptions : ∀ e, .failed e ∉ env.receptions) :
    ∃ nodes, discoverNodes serde env multicastAddr outboundIps protocol = .ok nodes := by
  have hmap : ∀ (rs : List Reception) (map : Table String DiscoveredNode),
      (∀ e, .failed e ∉ rs) → ∃ map', rs.foldlM (hear serde protocol) map = .ok map' := by
    intro rs
    induction rs with
    | nil => exact fun map _ => ⟨map, rfl⟩
    | cons r rs ih =>
      intro map hrs
      have hone : ∃ map', hear serde protocol map r = .ok map' := by
        cases r with
        | failed e => exact absurd List.mem_cons_self (hrs e)
        | timeout => exact ⟨_, rfl⟩
        | datagram bytes src nowMs =>
          dsimp only [hear]
          split
          · exact ⟨_, rfl⟩
          · exact ⟨_, rfl⟩
      obtain ⟨map₁, hmap₁⟩ := hone
      obtain ⟨map', hmap'⟩ := ih map₁ fun e he => hrs e (List.mem_cons_of_mem _ he)
      exact ⟨map', List.foldlM_cons.trans (bind_eq_ok.2 ⟨map₁, hmap₁, hmap'⟩)⟩
  obtain ⟨map, hmap⟩ := hmap env.receptions ∅ hreceptions
  exact ⟨_, bind_eq_ok.2 ⟨target, htarget, bind_eq_ok.2 ⟨outbound, houtbound,
    bind_eq_ok.2 ⟨sockets, hsockets, bind_eq_ok.2 ⟨(), refuseIf_eq_ok.2 hcount,
      bind_eq_ok.2 ⟨map, hmap, rfl⟩⟩⟩⟩⟩⟩

/-- What is heard has a last node of its address. -/
theorem exists_latest {l : List DiscoveredNode} {node : DiscoveredNode} (h : node ∈ l) :
    ∃ node', Keyed.latest DiscoveredNode.printed l node.printed = some node' := by
  have hmem : node ∈ l.filter (·.printed = node.printed) :=
    List.mem_filter.2 ⟨h, decide_eq_true rfl⟩
  exact ⟨_, List.getLast?_eq_some_getLast (List.ne_nil_of_mem hmem)⟩

/-- The text of a tree, as the buffer has it. -/
theorem parse_take {v : Json} (h : Legible serde v) :
    serde.parse (fromUtf8Lossy (v.toVec.take 2048)) =
      if v.toVec.length ≤ 2048 then some v else none := by
  split_ifs with hfits
  · have htext : v.toVec = utf8 v.text := by rw [utf8, Json.text, String.toList_ofList]; rfl
    rw [List.take_of_length_le hfits, htext, fromUtf8Lossy_utf8]
    exact h.whole
  · exact h.part 2048 (Nat.lt_of_not_le hfits)

/-- **An announce is heard** if it fits the buffer of 2048 bytes, as a node at
its address and its port of the protocol; a longer one is not. -/
theorem heardNode_announce {a : DiscoveryAnnounce} (h : Legible serde a.toJson)
    (hversion : a.version = PROTOCOL_VERSION) (src : SocketAddr) (nowMs : Int64) :
    heardNode serde protocol (.datagram a.toJson.toVec src nowMs) =
      if a.toJson.toVec.length ≤ 2048 then
        some
          { hostname := a.hostname
            addr := .new src.ip ((chosenPort protocol a).getD a.port)
            tsMs := nowMs }
      else none := by
  rw [heardNode, parseAnnounceForProtocol_eq, SerdeValue.value, parse_take h]
  by_cases hfits : a.toJson.toVec.length ≤ 2048
  · rw [if_pos hfits, if_pos hfits, Option.bind_some, DiscoveryAnnounce.fromJson_toJson,
      Option.some_or, Option.bind_some, announcedNode_eq, if_pos hversion]
  · rw [if_neg hfits, if_neg hfits, ite_self]
    rfl

end Hear

/-! ### The servers of a group -/

section Group

variable {ι : Type*} [DecidableEq ι] {read : Bytes → Option Json} {servers : ι → DiscoveryConfig}
  {s s' : DiscoveryState ι} {a : DiscoveryAct ι}

/-- The announce of a server that answers. -/
def answerOf (c : DiscoveryConfig) : DiscoveryAnnounce :=
  discoveryAnnounce c.hostname c.ip c.udpPort c.tcpPort

/-- What is sent to one socket is the answer of a server that was handed a datagram of it. -/
def Answered (servers : ι → DiscoveryConfig) (s : DiscoveryState ι) : Prop :=
  ∀ d ∈ s.sent, ∀ x, d.dst = some x → ∃ i cause, d.src = .loop i ∧
    d.message = .announce (answerOf (servers i)) ∧ cause.src = x ∧ (i, cause) ∈ s.delivered

/-- **Every step keeps the answers**: what is sent to one socket is the
announce of a server that was handed a datagram of it. -/
theorem answered_step (h : Answered servers s) (hs : s.step read servers a = some s') :
    Answered servers s' := by
  cases a with
  | startup i attempts =>
    obtain rfl := Option.some.inj hs
    intro d hd x hx
    rcases List.mem_append.1 hd with hd | hd
    · obtain ⟨announce, -, rfl⟩ := List.mem_map.1 hd
      cases hx
    · exact h d hd x hx
  | query client q =>
    obtain rfl := Option.some.inj hs
    intro d hd x hx
    rcases List.mem_cons.1 hd with rfl | hd
    · cases hx
    · exact h d hd x hx
  | deliver i d =>
    simp only [DiscoveryState.step] at hs
    split_ifs at hs
    obtain rfl := Option.some.inj hs
    have hold (e : Datagram ι) (he : e ∈ s.sent) (x : DiscoverySocket ι) (hx : e.dst = some x) :
        ∃ j cause, e.src = .loop j ∧ e.message = .announce (answerOf (servers j)) ∧
          cause.src = x ∧ (j, cause) ∈ (i, d) :: s.delivered := by
      obtain ⟨j, cause, hsrc, hmessage, hcause, hmem⟩ := h e he x hx
      exact ⟨j, cause, hsrc, hmessage, hcause, List.mem_cons_of_mem _ hmem⟩
    unfold DiscoveryState.deliver
    dsimp only
    split
    · exact hold
    · rename_i announce hloop
      have hannounce : announce = answerOf (servers i) := by
        unfold discoveryQueryLoop at hloop
        dsimp only at hloop
        split_ifs at hloop
        exact (Option.some.inj hloop).symm
      intro e he x hx
      rcases List.mem_cons.1 he with rfl | he
      · exact ⟨i, d, rfl, congrArg _ hannounce, Option.some.inj hx, List.mem_cons_self⟩
      · exact hold e he x hx

/-- All runs keep the answers. -/
theorem answered_of_reachable (h : (discoverySystem read servers).Reachable s) :
    Answered servers s := by
  refine h.invariant (I := Answered servers) ?_ fun s a s' hi hs => answered_step hi hs
  rintro s rfl
  exact List.forall_mem_nil _

/-- Where a server is to be reached with a protocol, if its answers come from there. -/
def serverAddr (protocol : String) (src : SocketAddr) (c : DiscoveryConfig) : SocketAddr :=
  .new src.ip (if isTcp protocol then c.tcpPort else c.udpPort)

/-- A server is heard by a client: its answer to a socket of the client is received, and fits the
buffer. -/
def HeardBy (addr : DiscoverySocket ι → SocketAddr) (s : DiscoveryState ι) (clients : Set ℕ)
    (receptions : List Reception) (i : ι) : Prop :=
  ∃ d ∈ s.sent, d.src = .loop i ∧ (∃ n ∈ clients, d.dst = some (.client n)) ∧
    d.message.text.length ≤ 2048 ∧ ∃ nowMs, .datagram d.message.text (addr d.src) nowMs ∈ receptions

/-- An address made of an IP and a port has no flow information to lose. -/
theorem withoutFlowinfo_new (ip : IpAddr) (port : UInt16) :
    (SocketAddr.new ip port).withoutFlowinfo = .new ip port := by
  cases ip <;> rfl

omit [DecidableEq ι] in
/-- The node of an answer. -/
theorem heardNode_answer {serde : SerdeValue} (addr : DiscoverySocket ι → SocketAddr)
    (hanswered : Answered servers s) (hlegible : ∀ d ∈ s.sent, Legible serde d.message.toJson)
    {d : Datagram ι} (hd : d ∈ s.sent) {x : DiscoverySocket ι} (hdst : d.dst = some x)
    (protocol : String) (nowMs : Int64) :
    ∃ i, d.src = .loop i ∧ (∃ cause, (i, cause) ∈ s.delivered ∧ cause.src = x) ∧
      heardNode serde protocol (.datagram d.message.text (addr d.src) nowMs) =
        if d.message.text.length ≤ 2048 then
          some
            { hostname := (servers i).hostname
              addr := serverAddr protocol (addr (.loop i)) (servers i)
              tsMs := nowMs }
        else none := by
  obtain ⟨i, cause, hsrc, hmessage, hcause, hmem⟩ := hanswered d hd x hdst
  have hread : Legible serde (answerOf (servers i)).toJson := by
    have hd' := hlegible d hd
    rwa [hmessage] at hd'
  refine ⟨i, hsrc, ⟨cause, hmem, hcause⟩, ?_⟩
  rw [DiscoveryMessage.text, hmessage, hsrc, DiscoveryMessage.toJson, heardNode_announce hread rfl]
  have hport : (chosenPort protocol (answerOf (servers i))).getD (answerOf (servers i)).port =
      if isTcp protocol then (servers i).tcpPort else (servers i).udpPort := by
    rw [chosenPort]
    split_ifs <;> rfl
  rw [hport]
  rfl

/-- **The search finds the servers that are heard.**  In every run of the group, whatever comes in
and however often: the nodes are sorted by their addresses, which are distinct; each is a server
that is heard, and was handed a datagram of the client, with its hostname, where it answers from
and at its port of the protocol; and each server that is heard is found there. -/
theorem discover_nodes_hears {serde : SerdeValue} {env : SearchEnv} {multicastAddr : String}
    {outboundIps : List String} {protocol : String} {nodes : List DiscoveredNode}
    {addr : DiscoverySocket ι → SocketAddr} {clients : Set ℕ}
    (h : (discoverySystem read servers).Reachable s)
    (hlegible : ∀ d ∈ s.sent, Legible serde d.message.toJson)
    (hreceived : ∀ bytes src nowMs, .datagram bytes src nowMs ∈ env.receptions →
      ∃ d ∈ s.sent, (∃ n ∈ clients, d.dst = some (.client n)) ∧ bytes = d.message.text ∧
        src = addr d.src)
    (hok : discoverNodes serde env multicastAddr outboundIps protocol = .ok nodes) :
    let heard := HeardBy addr s clients env.receptions
    let at' := fun i => serverAddr protocol (addr (.loop i)) (servers i)
    nodes.Pairwise (fun a b => a.addr.printed < b.addr.printed) ∧
      (∀ node ∈ nodes, ∃ i, heard i ∧
        (∃ cause, (i, cause) ∈ s.delivered ∧ ∃ n ∈ clients, cause.src = .client n) ∧
          node.hostname = (servers i).hostname ∧ node.addr = at' i) ∧
      ∀ i, heard i → ∃ node ∈ nodes, node.addr = at' i := by
  intro heard at'
  have hanswered := answered_of_reachable h
  rw [discoverNodes_eq_ok hok]
  have hnode (node : DiscoveredNode)
      (hnode : node ∈ env.receptions.filterMap (heardNode serde protocol)) :
      ∃ i, heard i ∧ (∃ cause, (i, cause) ∈ s.delivered ∧ ∃ n ∈ clients, cause.src = .client n) ∧
        node.hostname = (servers i).hostname ∧ node.addr = at' i := by
    obtain ⟨r, hr, hheard⟩ := List.mem_filterMap.1 hnode
    cases r with
    | timeout | failed e => cases hheard
    | datagram bytes src nowMs =>
      obtain ⟨d, hd, ⟨n, hn, hdst⟩, rfl, rfl⟩ := hreceived _ _ _ hr
      obtain ⟨i, hsrc, ⟨cause, hmem, hcause⟩, heq⟩ :=
        heardNode_answer addr hanswered hlegible hd hdst protocol nowMs
      rw [heq] at hheard
      split_ifs at hheard with hfits
      obtain rfl := Option.some.inj hheard
      exact ⟨i, ⟨d, hd, hsrc, ⟨n, hn, hdst⟩, hfits, nowMs, hr⟩, ⟨cause, hmem, n, hn, hcause⟩,
        rfl, rfl⟩
  refine ⟨pairwise_mergeDiscoveredNodes _ _ _, fun node hmem => ?_, ?_⟩
  · rw [mem_mergeDiscoveredNodes] at hmem
    exact hnode node (Keyed.latest_eq_some hmem).1
  · rintro i ⟨d, hd, hsrc, ⟨n, hn, hdst⟩, hfits, nowMs, hr⟩
    obtain ⟨j, hsrc', -, heq⟩ :=
      heardNode_answer addr hanswered hlegible hd hdst protocol nowMs
    obtain rfl : i = j := DiscoverySocket.loop.inj (hsrc.symm.trans hsrc')
    rw [if_pos hfits] at heq
    -- The last node that is heard of this address is in its place.
    have hmem := List.mem_filterMap.2 ⟨_, hr, heq⟩
    obtain ⟨node, hlatest⟩ := exists_latest hmem
    obtain ⟨hheard, hprinted⟩ := Keyed.latest_eq_some hlatest
    obtain ⟨j, -, -, -, haddr⟩ := hnode node hheard
    refine ⟨node, (mem_mergeDiscoveredNodes _ _ _).2 (hprinted ▸ hlatest), ?_⟩
    have hsame := (printed_eq_iff _ _).1 hprinted
    rw [haddr] at hsame ⊢
    exact ((withoutFlowinfo_new _ _).symm.trans hsame).trans (withoutFlowinfo_new _ _)

end Group

/-! ### Two servers -/

/-- A reader of texts of ASCII, by their bytes. -/
def bytesReader (read : Bytes → Option Json) : SerdeValue where
  parse s := read (utf8 s)
  message _ s := s
  fits _ := true

/-- A reader by the bytes reads the text of an ASCII value that it reads the
bytes of. -/
theorem legible_bytesReader {read : Bytes → Option Json} {v : Json} (h : v.ReadBy read)
    (hascii : ∀ b ∈ v.toVec, b < 0x80) : Legible (bytesReader read) v := by
  have htext : utf8 v.text = v.toVec := by rw [utf8, Json.text, String.toList_ofList]; rfl
  refine ⟨?_, fun n hn => ?_⟩
  · exact (congrArg read htext).trans h.1
  · refine (congrArg read (utf8_fromUtf8Lossy fun b hb => ?_)).trans (h.2 n hn)
    exact hascii b (List.mem_of_mem_take hb)

/-- The sockets of the two servers and their client. -/
def groupAddr : DiscoverySocket Bool → SocketAddr
  | .loop i | .startup i => .v4 (if i then 2 else 1) 7000
  | .client _ => .v4 3 40000

/-- The answers arrive in another order than they were sent, and one of them twice. -/
def hearingBoth : SearchEnv where
  toSocketAddrs _ := .ok [.v4 0xEF000001 7000]
  sockets _ := { created := .ok (), readTimeout := .ok (), sent := .ok () }
  receptions :=
    [.datagram (announceOf true).text (groupAddr (.loop true)) 5, .timeout,
      .datagram (announceOf false).text (groupAddr (.loop false)) 6,
      .datagram (announceOf true).text (groupAddr (.loop true)) 7]
  order := .list _ _

/-- Both are found, at their ports of TCP. -/
theorem discover_nodes_hears_both :
    ∃ nodes, discoverNodes (bytesReader (messageReader groupMessages)) hearingBoth
        "239.0.0.1:7000" [] "tcp" = .ok nodes ∧
      (∃ node ∈ nodes, node.addr = .v4 1 30004) ∧ ∃ node ∈ nodes, node.addr = .v4 2 30002 := by
  let step := DiscoveryState.step (messageReader groupMessages) twoServers
  let answer (i : Bool) : Datagram Bool :=
    { src := .loop i, dst := some (.client 0), message := announceOf i }
  have hrun : (Lts.exec step {} Server.queryRun).map (fun s => s.sent) =
      some [answer false, answer true, answer false, clientQuery] := by decide +kernel
  obtain ⟨s, hs, hsent⟩ := Option.map_eq_some_iff.1 hrun
  have hascii : ∀ m ∈ groupMessages, ∀ b ∈ m.toJson.toVec, b < 0x80 := by decide +kernel
  have hlegible : ∀ d ∈ s.sent,
      Legible (bytesReader (messageReader groupMessages)) d.message.toJson := by
    have hmem : ∀ d ∈ s.sent, d.message ∈ groupMessages := by
      rw [hsent]
      decide
    exact fun d hd => legible_bytesReader (readBy_groupMessages (hmem d hd)) (hascii _ (hmem d hd))
  have hanswer (i : Bool) : answer i ∈ s.sent := by
    rw [hsent]
    cases i <;> decide
  have hreceived : ∀ bytes src nowMs, .datagram bytes src nowMs ∈ hearingBoth.receptions →
      ∃ d ∈ s.sent, (∃ n ∈ ({0} : Set ℕ), d.dst = some (.client n)) ∧ bytes = d.message.text ∧
        src = groupAddr d.src := by
    intro bytes src nowMs hr
    have hi : ∃ i, bytes = (announceOf i).text ∧ src = groupAddr (.loop i) := by
      simp only [hearingBoth, List.mem_cons, Reception.datagram.injEq, reduceCtorEq, false_or,
        List.not_mem_nil, or_false] at hr
      rcases hr with ⟨rfl, rfl, -⟩ | ⟨rfl, rfl, -⟩ | ⟨rfl, rfl, -⟩ <;> exact ⟨_, rfl, rfl⟩
    obtain ⟨i, rfl, rfl⟩ := hi
    exact ⟨answer i, hanswer i, ⟨0, rfl, rfl⟩, rfl, rfl⟩
  obtain ⟨nodes, hnodes⟩ := @isOk_discoverNodes (bytesReader (messageReader groupMessages)) "tcp"
    hearingBoth "239.0.0.1:7000" [] (.v4 0xEF000001 7000) [] { count := 1 } rfl rfl rfl
    (by decide) (by simp [hearingBoth])
  have hreach : (discoverySystem (messageReader groupMessages) twoServers).Reachable s :=
    ⟨{}, Server.queryRun, rfl, Lts.run_of_exec hs⟩
  obtain ⟨-, -, hfound⟩ := discover_nodes_hears hreach hlegible hreceived hnodes
  have hheard (i : Bool) (nowMs : Int64) (hr : .datagram (announceOf i).text (groupAddr (.loop i))
      nowMs ∈ hearingBoth.receptions) :
      HeardBy groupAddr s {0} hearingBoth.receptions i := by
    refine ⟨answer i, hanswer i, rfl, ⟨0, rfl, rfl⟩, ?_, nowMs, hr⟩
    cases i <;> decide +kernel
  exact ⟨nodes, hnodes, hfound false (hheard false 6 (by simp [hearingBoth])),
    hfound true (hheard true 5 (by simp [hearingBoth]))⟩

end Backend
end Clustat
