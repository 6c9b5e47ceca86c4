/-
# Discovery

`crates/server/src/main.rs`: a server announces itself to the multicast group when it
starts (`announce_startup_once`), and answers to the source of every datagram of the
group that it can read as a `DiscoveryQuery` (`discovery_query_loop`).  It looks
neither at the version of the query nor at what else the datagram says, so that it
answers queries of other versions and the startup announces of all servers as well.

The system has any servers and clients, and a network that hands over what has been
sent any number of times and in any order.  Answers go to sockets that only listen, so
that none is ever answered, and a datagram is answered at most once each time it is
handed over.  The answers are all to queries of the version of the protocol exactly
in the runs in which nothing else is handed over that fits the buffer
(`discovery_bounded_iff`).
-/

import Mathlib.Data.List.Count
import Clustat.Common.Discovery
import Clustat.Lib.Lts

namespace Clustat
namespace Server

/-- What a server says of itself. -/
structure DiscoveryConfig where
  hostname : String
  ip : String
  udpPort : UInt16
  tcpPort : UInt16
  multicastOutboundIp : List String

/-- `discovery_announce`. -/
def discoveryAnnounce (hostname ip : String) (udpPort tcpPort : UInt16) : DiscoveryAnnounce where
  version := PROTOCOL_VERSION
  hostname
  ip
  port := udpPort
  tcpPort := some tcpPort
  udpPort := some udpPort
  kcpPort := none
  ttl := none
  load := none
  degraded := some false

/-- The interfaces that a server announces itself on. -/
def DiscoveryConfig.interfaces (c : DiscoveryConfig) : List (Option String) :=
  if c.multicastOutboundIp.isEmpty then [none] else c.multicastOutboundIp.map some

/-- `announce_startup_once`, by what comes of its attempts: whether there is a socket
for an interface, and it sends.  The first attempt that sends anything is the last. -/
def announceStartupOnce (c : DiscoveryConfig) :
    List (Option String → Bool) → List DiscoveryAnnounce
  | [] => []
  | sends :: attempts =>
    let sent := (c.interfaces.filter sends).map fun interface =>
      discoveryAnnounce c.hostname (interface.getD c.ip) c.udpPort c.tcpPort
    if sent.isEmpty then announceStartupOnce c attempts else sent

/-- A turn of `discovery_query_loop`: the answer to a datagram, of which the buffer
takes 2048 bytes. -/
def discoveryQueryLoop (read : Bytes → Option Json) (c : DiscoveryConfig) (datagram : Bytes) :
    Option DiscoveryAnnounce :=
  let buf := datagram.take 2048
  if ((read buf).bind DiscoveryQuery.fromJson).isSome then
    some (discoveryAnnounce c.hostname c.ip c.udpPort c.tcpPort)
  else none

/-! ### The group -/

/-- What is sent. -/
inductive DiscoveryMessage
  | query (q : DiscoveryQuery)
  | announce (a : DiscoveryAnnounce)
  deriving DecidableEq

/-- How it is written. -/
def DiscoveryMessage.toJson : DiscoveryMessage → Json
  | .query q => q.toJson
  | .announce a => a.toJson

/-- The text of a message. -/
def DiscoveryMessage.text (m : DiscoveryMessage) : Bytes := m.toJson.toVec

/-- A socket: the one of the loop of a server, on the port of the group, and those of
a startup announce or a query of a client, on ports of their own. -/
inductive DiscoverySocket (ι : Type*)
  | loop (i : ι)
  | startup (i : ι)
  | client (n : ℕ)
  deriving DecidableEq

/-- A datagram, to a socket or to the group. -/
structure Datagram (ι : Type*) where
  src : DiscoverySocket ι
  dst : Option (DiscoverySocket ι)
  message : DiscoveryMessage
  deriving DecidableEq

/-- An answer, and the datagram it is to. -/
structure Answer (ι : Type*) where
  server : ι
  cause : Datagram ι
  datagram : Datagram ι
  deriving DecidableEq

/-- What has been sent and handed over, and the answers of the servers. -/
structure DiscoveryState (ι : Type*) where
  sent : List (Datagram ι) := []
  delivered : List (ι × Datagram ι) := []
  answers : List (Answer ι) := []

/-- What happens. -/
inductive DiscoveryAct (ι : Type*)
  /-- A server starts. -/
  | startup (i : ι) (attempts : List (Option String → Bool))
  /-- A client asks the group. -/
  | query (client : ℕ) (q : DiscoveryQuery)
  /-- A server is handed a datagram. -/
  | deliver (i : ι) (d : Datagram ι)

section System

variable {ι : Type*} [DecidableEq ι]

/-- A datagram for the loop of a server: one to the group, or to its socket. -/
def Datagram.reaches (d : Datagram ι) (i : ι) : Bool :=
  d.dst = none || d.dst = some (.loop i)

/-- What the loop of a server does with a datagram. -/
def DiscoveryState.deliver (read : Bytes → Option Json) (c : DiscoveryConfig)
    (s : DiscoveryState ι) (i : ι) (d : Datagram ι) : DiscoveryState ι :=
  let delivered := (i, d) :: s.delivered
  match discoveryQueryLoop read c d.message.text with
  | none => { s with delivered }
  | some announce =>
    let datagram : Datagram ι :=
      { src := .loop i, dst := some d.src, message := .announce announce }
    { sent := datagram :: s.sent
      delivered
      answers := { server := i, cause := d, datagram } :: s.answers }

/-- One step. -/
def DiscoveryState.step (read : Bytes → Option Json) (servers : ι → DiscoveryConfig)
    (s : DiscoveryState ι) : DiscoveryAct ι → Option (DiscoveryState ι)
  | .startup i attempts =>
    let datagrams := (announceStartupOnce (servers i) attempts).map fun a =>
      { src := .startup i, dst := none, message := .announce a }
    some { s with sent := datagrams ++ s.sent }
  | .query client q =>
    some { s with sent := { src := .client client, dst := none, message := .query q } :: s.sent }
  | .deliver i d =>
    if d ∈ s.sent ∧ d.reaches i then some (s.deliver read (servers i) i d) else none

/-- The servers of a group, and any clients. -/
def discoverySystem (read : Bytes → Option Json) (servers : ι → DiscoveryConfig) :
    Lts (DiscoveryState ι) (DiscoveryAct ι) :=
  Lts.ofFn {} (DiscoveryState.step read servers)

end System

/-! ### What is answered -/

/-- A query of the version of the protocol. -/
def currentQuery : DiscoveryMessage := .query { version := PROTOCOL_VERSION }

/-- **What a server answers**: everything that fits its buffer, an announce as well as
a query of any version. -/
theorem isSome_discoveryQueryLoop {read : Bytes → Option Json} {c : DiscoveryConfig}
    {m : DiscoveryMessage} (hread : m.toJson.ReadBy read) :
    (discoveryQueryLoop read c m.text).isSome ↔ m.text.length ≤ 2048 := by
  have hquery : (DiscoveryQuery.fromJson m.toJson).isSome = true := by
    cases m with
    | query q => exact (congrArg Option.isSome (DiscoveryQuery.fromJson_toJson q)).trans rfl
    | announce a => exact (congrArg Option.isSome (DiscoveryQuery.fromJson_announce a)).trans rfl
  have hwhole : read m.text = some m.toJson := hread.1
  have hpart : ∀ n < m.text.length, read (m.text.take n) = none := hread.2
  unfold discoveryQueryLoop
  dsimp only
  constructor
  · intro h
    by_contra hlong
    rw [hpart 2048 (Nat.lt_of_not_le hlong)] at h
    exact absurd h (by simp)
  · intro hfits
    rw [List.take_of_length_le hfits, hwhole, Option.bind_some, if_pos hquery]
    rfl

/-- Answers are to queries of the version of the protocol; a server has answered a
datagram at most as often as it was handed it; and no answer has been answered. -/
structure DiscoveryState.Bounded {ι : Type*} [DecidableEq ι] (s : DiscoveryState ι) : Prop where
  only : ∀ r ∈ s.answers, r.cause.message = currentQuery
  single : ∀ i d, s.answers.countP (fun r => r.server = i ∧ r.cause = d) ≤
    s.delivered.count (i, d)
  final : ∀ r ∈ s.answers, ∀ r' ∈ s.answers, r'.cause ≠ r.datagram

/-- A server is handed nothing that fits its buffer but queries of the version of the
protocol. -/
def OnlyQueries {ι : Type*} (_ : DiscoveryState ι) : DiscoveryAct ι → Prop
  | .deliver _ d => d.message = currentQuery ∨ 2048 < d.message.text.length
  | _ => True

section Runs

variable {ι : Type*} [DecidableEq ι] {read : Bytes → Option Json} {servers : ι → DiscoveryConfig}
  {s s' : DiscoveryState ι} {a : DiscoveryAct ι}

/-- **What a step can be**: a server that starts or a client sends something,
or a server is handed a datagram of those that were sent. -/
theorem DiscoveryState.step_cases (h : s.step read servers a = some s') :
    (∃ datagrams, s' = { s with sent := datagrams ++ s.sent } ∧
      (∀ d ∈ datagrams, d.dst = none ∧ ∀ i, d.src ≠ .loop i) ∧ ∀ i d, a ≠ .deliver i d) ∨
    ∃ i d, a = .deliver i d ∧ d ∈ s.sent ∧ d.reaches i ∧ s' = s.deliver read (servers i) i d := by
  cases a with
  | startup i attempts =>
    obtain rfl := Option.some.inj h
    refine .inl ⟨_, rfl, fun d hd => ?_, fun _ _ heq => by cases heq⟩
    obtain ⟨announce, -, rfl⟩ := List.mem_map.1 hd
    exact ⟨rfl, nofun⟩
  | query client q =>
    obtain rfl := Option.some.inj h
    refine .inl ⟨[_], rfl, fun d hd => ?_, fun _ _ heq => by cases heq⟩
    obtain rfl := List.mem_singleton.1 hd
    exact ⟨rfl, nofun⟩
  | deliver i d =>
    simp only [step] at h
    split_ifs at h with hd
    exact .inr ⟨i, d, rfl, hd.1, hd.2, (Option.some.inj h).symm⟩

omit [DecidableEq ι] in
/-- What a server that is handed a datagram can do. -/
theorem DiscoveryState.deliver_cases (c : DiscoveryConfig) (i : ι) (d : Datagram ι) :
    (discoveryQueryLoop read c d.message.text = none ∧
      s.deliver read c i d = { s with delivered := (i, d) :: s.delivered }) ∨
    ∃ datagram, (discoveryQueryLoop read c d.message.text).isSome ∧ datagram.dst = some d.src ∧
      s.deliver read c i d =
        { sent := datagram :: s.sent
          delivered := (i, d) :: s.delivered
          answers := { server := i, cause := d, datagram } :: s.answers } := by
  unfold deliver
  cases hloop : discoveryQueryLoop read c d.message.text with
  | none => exact .inl ⟨rfl, rfl⟩
  | some announce => exact .inr ⟨_, rfl, rfl, rfl⟩

/-- What has been sent, and answered, stays so. -/
theorem DiscoveryState.subset_step (h : s.step read servers a = some s') :
    s.sent ⊆ s'.sent ∧ s.answers ⊆ s'.answers := by
  rcases step_cases h with ⟨datagrams, rfl, -, -⟩ | ⟨i, d, rfl, -, -, rfl⟩
  · exact ⟨List.subset_append_right _ _, List.Subset.refl _⟩
  · rcases s.deliver_cases (servers i) i d with ⟨-, heq⟩ | ⟨_, -, -, heq⟩ <;> rw [heq]
    · exact ⟨List.Subset.refl _, List.Subset.refl _⟩
    · exact ⟨List.subset_cons_self _ _, List.subset_cons_self _ _⟩

/-- The invariant of the addresses: what goes to the group does not come from the
loop of a server, nothing goes to one alone, and an answer goes to where the datagram
came from. -/
structure Addressed (s : DiscoveryState ι) : Prop where
  sent : ∀ d ∈ s.sent, (d.dst = none → ∀ i, d.src ≠ .loop i) ∧ ∀ i, d.dst ≠ some (.loop i)
  answers : ∀ r ∈ s.answers, r.cause.dst = none ∧ r.datagram.dst ≠ none

/-- **Every step keeps the addresses**: the socket of a server's loop sends
nothing to the group and is sent nothing itself, and an answer is to a
datagram for the group. -/
theorem addressed_step (h : Addressed s) (hs : s.step read servers a = some s') :
    Addressed s' := by
  rcases DiscoveryState.step_cases hs with ⟨datagrams, rfl, hnew, -⟩ | ⟨i, d, rfl, hd, hi, rfl⟩
  · refine ⟨fun d hd => ?_, h.answers⟩
    rcases List.mem_append.1 hd with hd | hd
    · obtain ⟨hdst, hsrc⟩ := hnew d hd
      exact ⟨fun _ => hsrc, by rw [hdst]; exact nofun⟩
    · exact h.sent d hd
  · obtain ⟨hgroup, hloop⟩ := h.sent d hd
    have hdst : d.dst = none := by
      have hor : d.dst = none ∨ d.dst = some (.loop i) := by
        simpa only [Datagram.reaches, Bool.or_eq_true, decide_eq_true_eq] using hi
      exact hor.resolve_right (hloop i)
    rcases s.deliver_cases (servers i) i d with ⟨-, heq⟩ | ⟨reply, -, hreply, heq⟩ <;> rw [heq]
    · exact ⟨h.sent, h.answers⟩
    · refine ⟨fun e he => ?_, fun r hr => ?_⟩
      · rcases List.mem_cons.1 he with rfl | he
        · refine ⟨fun hnone => ?_, fun j hj => ?_⟩
          · rw [hreply] at hnone
            cases hnone
          · exact hgroup hdst j (Option.some.inj (hreply.symm.trans hj))
        · exact h.sent e he
      · rcases List.mem_cons.1 hr with rfl | hr
        · exact ⟨hdst, by rw [hreply]; exact nofun⟩
        · exact h.answers r hr

/-- The invariant of the counts: one answer at most for each time a datagram is
handed over. -/
def Counted (s : DiscoveryState ι) : Prop :=
  ∀ i d, s.answers.countP (fun r => r.server = i ∧ r.cause = d) ≤ s.delivered.count (i, d)

/-- **Every step keeps the counts**: a server that is handed a datagram
answers it once at most. -/
theorem counted_step (h : Counted s) (hs : s.step read servers a = some s') : Counted s' := by
  rcases DiscoveryState.step_cases hs with ⟨datagrams, rfl, -, -⟩ | ⟨i, d, rfl, -, -, rfl⟩
  · exact h
  · intro j e
    have hbefore := h j e
    rcases s.deliver_cases (servers i) i d with ⟨-, heq⟩ | ⟨reply, -, -, heq⟩ <;> rw [heq]
    · exact hbefore.trans (List.count_le_count_cons)
    · by_cases hsame : i = j ∧ d = e
      · obtain ⟨rfl, rfl⟩ := hsame
        rw [List.countP_cons_of_pos (by simp), List.count_cons_self]
        exact Nat.succ_le_succ hbefore
      · rw [List.countP_cons_of_neg (by simpa using hsame)]
        exact hbefore.trans List.count_le_count_cons

/-- All runs keep the addresses and the counts. -/
theorem addressed_and_counted (h : (discoverySystem read servers).Reachable s) :
    Addressed s ∧ Counted s := by
  refine h.invariant (I := fun s => Addressed s ∧ Counted s) ?_ fun s a s' hi hs =>
    ⟨addressed_step hi.1 hs, counted_step hi.2 hs⟩
  rintro s rfl
  exact ⟨⟨List.forall_mem_nil _, List.forall_mem_nil _⟩, fun _ _ => Nat.zero_le _⟩

/-- What has been sent, and answered, at the end of a run. -/
theorem subset_run {as : List (DiscoveryAct ι)} (h : (discoverySystem read servers).Run s as s') :
    s.sent ⊆ s'.sent ∧ s.answers ⊆ s'.answers := by
  induction h with
  | nil => exact ⟨List.Subset.refl _, List.Subset.refl _⟩
  | cons hs _ ih =>
    have hstep := DiscoveryState.subset_step hs
    exact ⟨List.Subset.trans hstep.1 ih.1, List.Subset.trans hstep.2 ih.2⟩

/-- **A step that hands over anything else** adds an answer to it, so where
all answers are to queries it handed over a query. -/
theorem onlyQueries_of_answers (hs : s.step read servers a = some s')
    (hread : ∀ d ∈ s.sent, d.message.toJson.ReadBy read)
    (honly : ∀ r ∈ s'.answers, r.cause.message = currentQuery) : OnlyQueries s a := by
  rcases DiscoveryState.step_cases hs with ⟨-, -, -, hother⟩ | ⟨i, d, rfl, hd, -, rfl⟩
  · cases a with
    | startup | query => trivial
    | deliver i d => exact absurd rfl (hother i d)
  · by_cases hfits : d.message.text.length ≤ 2048
    · have hanswer := (isSome_discoveryQueryLoop (c := servers i) (hread d hd)).2 hfits
      rcases s.deliver_cases (servers i) i d with ⟨hnone, -⟩ | ⟨_, -, -, heq⟩
      · rw [hnone] at hanswer
        cases hanswer
      · rw [heq] at honly
        exact .inl (honly _ List.mem_cons_self)
    · exact .inr (Nat.lt_of_not_le hfits)

/-- **A step that hands over nothing else** adds no answer to it: all answers
are to queries of the version of the protocol still. -/
theorem answers_of_onlyQueries (hs : s.step read servers a = some s')
    (hread : ∀ d ∈ s.sent, d.message.toJson.ReadBy read) (hC : OnlyQueries s a)
    (honly : ∀ r ∈ s.answers, r.cause.message = currentQuery) :
    ∀ r ∈ s'.answers, r.cause.message = currentQuery := by
  rcases DiscoveryState.step_cases hs with ⟨-, rfl, -, -⟩ | ⟨i, d, rfl, hd, -, rfl⟩
  · exact honly
  · rcases s.deliver_cases (servers i) i d with ⟨-, heq⟩ | ⟨_, hanswer, -, heq⟩ <;> rw [heq]
    · exact honly
    · have hfits := (isSome_discoveryQueryLoop (hread d hd)).1 hanswer
      intro r hr
      rcases List.mem_cons.1 hr with rfl | hr
      · exact hC.resolve_right (Nat.not_lt_of_le hfits)
      · exact honly r hr

/-- A run that ends without an answer to anything else has handed over nothing else. -/
theorem run_onlyQueries {as : List (DiscoveryAct ι)}
    (h : (discoverySystem read servers).Run s as s')
    (hread : ∀ d ∈ s'.sent, d.message.toJson.ReadBy read)
    (honly : ∀ r ∈ s'.answers, r.cause.message = currentQuery) :
    ((discoverySystem read servers).restrict OnlyQueries).Run s as s' := by
  induction h with
  | nil s => exact .nil s
  | cons hs hr ih =>
    have hsent := (subset_run (.cons hs hr)).1
    have hC := onlyQueries_of_answers hs (fun d hd => hread d (hsent hd))
      fun r hmem => honly r ((subset_run hr).2 hmem)
    exact .cons ⟨hs, hC⟩ (ih hread honly)

/-- A run that hands over nothing else adds no answer to it. -/
theorem answers_of_run_onlyQueries {as : List (DiscoveryAct ι)}
    (h : ((discoverySystem read servers).restrict OnlyQueries).Run s as s')
    (hread : ∀ d ∈ s'.sent, d.message.toJson.ReadBy read)
    (honly : ∀ r ∈ s.answers, r.cause.message = currentQuery) :
    ∀ r ∈ s'.answers, r.cause.message = currentQuery := by
  induction h with
  | nil => exact honly
  | @cons s t u a as hs hr ih =>
    have hrun : (discoverySystem read servers).Run s (a :: as) u :=
      Lts.Run.mono (.cons hs hr) fun _ _ _ _ hstep => hstep.1
    have hsent := (subset_run hrun).1
    exact ih hread (answers_of_onlyQueries hs.1 (fun d hd => hread d (hsent hd)) hs.2 honly)

/-- **Discovery traffic.**  In a run of any servers and clients, with datagrams handed
over in any order and any number of times, the answers are to queries of the version
of the protocol, at most one each time a server is handed a datagram, and none to an
answer, exactly if the servers are handed nothing that fits their buffers but queries
of the version of the protocol. -/
theorem discovery_bounded_iff {as : List (DiscoveryAct ι)}
    (hr : (discoverySystem read servers).Run {} as s)
    (hread : ∀ d ∈ s.sent, d.message.toJson.ReadBy read) :
    s.Bounded ↔ ((discoverySystem read servers).restrict OnlyQueries).Run {} as s := by
  obtain ⟨haddr, hcount⟩ := addressed_and_counted ⟨_, as, rfl, hr⟩
  have hfinal : ∀ r ∈ s.answers, ∀ r' ∈ s.answers, r'.cause ≠ r.datagram := by
    intro r hr r' hr' heq
    exact (haddr.answers r hr).2 (heq ▸ (haddr.answers r' hr').1)
  exact ⟨fun h => run_onlyQueries hr hread h.only, fun h =>
    ⟨answers_of_run_onlyQueries h hread (List.forall_mem_nil _), hcount, hfinal⟩⟩

end Runs

/-! ### Two servers -/

/-- The reader of finitely many messages. -/
def messageReader (messages : List DiscoveryMessage) (text : Bytes) : Option Json :=
  (messages.find? fun m => m.text = text).map DiscoveryMessage.toJson

/-- It reads them if none of their texts begins with another. -/
theorem readBy_messageReader {messages : List DiscoveryMessage}
    (h : ∀ m ∈ messages, ∀ m' ∈ messages, m'.text <+: m.text → m' = m) {m : DiscoveryMessage}
    (hm : m ∈ messages) : m.toJson.ReadBy (messageReader messages) := by
  constructor
  · have hfind : messages.find? (fun m' => m'.text = m.text) = some m := by
      cases hf : messages.find? (fun m' => m'.text = m.text) with
      | none => exact absurd hm fun hm => by simpa using List.find?_eq_none.1 hf m hm
      | some m' =>
        have htext : m'.text = m.text := by simpa using List.find?_some hf
        rw [h m hm m' (List.mem_of_find?_eq_some hf) (htext ▸ List.prefix_refl _)]
    exact congrArg (Option.map DiscoveryMessage.toJson) hfind
  · intro n hn
    refine Option.map_eq_none_iff.2 (List.find?_eq_none.2 fun m' hm' hfound => ?_)
    have htext : m'.text = m.text.take n := of_decide_eq_true hfound
    obtain rfl := h m hm m' hm' (htext ▸ List.take_prefix n _)
    have hlength : m'.text.length = n := by
      refine (congrArg List.length htext).trans ?_
      rw [List.length_take, Nat.min_eq_left (show n ≤ m'.text.length from hn.le)]
    exact absurd hlength (show n < m'.text.length from hn).ne'

/-- Two servers of one host. -/
def twoServers (i : Bool) : DiscoveryConfig where
  hostname := "a"
  ip := "10.0.0.1"
  udpPort := if i then 30001 else 30003
  tcpPort := if i then 30002 else 30004
  multicastOutboundIp := []

/-- The announce of a server. -/
def announceOf (i : Bool) : DiscoveryMessage :=
  .announce (discoveryAnnounce "a" "10.0.0.1" (twoServers i).udpPort (twoServers i).tcpPort)

/-- All they send, and the query of a client. -/
def groupMessages : List DiscoveryMessage := [currentQuery, announceOf false, announceOf true]

/-- Each message of the group is read from the bytes it is sent as. -/
theorem readBy_groupMessages {m : DiscoveryMessage} (hm : m ∈ groupMessages) :
    m.toJson.ReadBy (messageReader groupMessages) :=
  readBy_messageReader (by decide +kernel) hm

/-- The query of a client. -/
def clientQuery : Datagram Bool := { src := .client 0, dst := none, message := currentQuery }

/-- A query is handed over to both servers, and to one of them once more. -/
def queryRun : List (DiscoveryAct Bool) :=
  [.query 0 { version := PROTOCOL_VERSION }, .deliver false clientQuery, .deliver true clientQuery,
    .deliver false clientQuery]

instance OnlyQueries.decidable (s : DiscoveryState Bool) : ∀ a, Decidable (OnlyQueries s a)
  | .startup _ _ => .isTrue trivial
  | .query _ _ => .isTrue trivial
  | .deliver _ d => inferInstanceAs
    (Decidable (d.message = currentQuery ∨ 2048 < d.message.text.length))

/-- It is answered three times. -/
theorem discovery_bounded_iff_queryRun :
    ∃ s, (discoverySystem (messageReader groupMessages) twoServers).Run {} queryRun s ∧
      s.answers.length = 3 ∧ s.Bounded := by
  let step := DiscoveryState.step (messageReader groupMessages) twoServers
  have hrun : (Lts.exec (fun s a => if OnlyQueries s a then step s a else none) {} queryRun).map
      (fun s => (s.answers.length, s.sent.all fun d => d.message ∈ groupMessages)) =
        some (3, true) := by decide +kernel
  obtain ⟨s, hs, hview⟩ := Option.map_eq_some_iff.1 hrun
  obtain ⟨hlength, hsent⟩ := Prod.mk.inj hview
  have hrestrict : ((Lts.ofFn {} step).restrict OnlyQueries).Run {} queryRun s :=
    Lts.run_restrict_of_exec hs
  have hr : (Lts.ofFn {} step).Run {} queryRun s := hrestrict.mono fun _ _ _ _ h => h.1
  have hread : ∀ d ∈ s.sent, d.message.toJson.ReadBy (messageReader groupMessages) :=
    fun d hd => readBy_groupMessages (by simpa using List.all_eq_true.1 hsent d hd)
  exact ⟨s, hr, hlength, (discovery_bounded_iff hr hread).2 hrestrict⟩

/-- One server starts, and the other is handed its announce. -/
def startupRun : List (DiscoveryAct Bool) :=
  [.startup false [fun _ => true],
    .deliver true { src := .startup false, dst := none, message := announceOf false }]

/-- **An announce is answered**: one server starts, the other is handed its
announce, reads it as a query, and answers. -/
theorem announce_answered :
    ¬ ∀ (as : List (DiscoveryAct Bool)) (s : DiscoveryState Bool),
      (discoverySystem (messageReader groupMessages) twoServers).Run {} as s →
        (∀ d ∈ s.sent, d.message.toJson.ReadBy (messageReader groupMessages)) → s.Bounded := by
  intro h
  let step := DiscoveryState.step (messageReader groupMessages) twoServers
  have hrun : (Lts.exec step {} startupRun).map
      (fun s => (s.answers.map fun r => r.cause.message,
        s.sent.all fun d => d.message ∈ groupMessages)) = some ([announceOf false], true) := by
    decide +kernel
  obtain ⟨s, hs, hview⟩ := Option.map_eq_some_iff.1 hrun
  obtain ⟨hanswers, hsent⟩ := Prod.mk.inj hview
  have hr : (Lts.ofFn {} step).Run {} startupRun s := Lts.run_of_exec hs
  have hbounded := h startupRun s hr
    fun d hd => readBy_groupMessages (by simpa using List.all_eq_true.1 hsent d hd)
  obtain ⟨r, hr, hcause⟩ := List.mem_map.1 (hanswers ▸ List.mem_singleton_self (announceOf false))
  exact absurd ((hbounded.only r hr).symm.trans hcause) (by decide)

end Server
end Clustat
