/-
# One query, next to a server that keeps collecting

`query_connected` of `tcp_client.rs` and `udp_client.rs`
(`crates/client-backend/src`) asks for the runtime half of the newest snapshot,
and, if its hash is not that of the metadata the client holds, asks for the
metadata half with a handshake and joins the two.  The two requests are served
one after the other from whatever entry is the newest at the time, and the
server may collect at any moment: `step` is one step of the whole, the server
with its collections and the client with its two exchanges.

A query without a refresh shows a snapshot the server collected.  With a refresh
it shows the readings of the snapshot that served the query under the inventory
of the one that served the refresh, whose hash is not looked at again
(`Joined`).  `query_shows_collected` says when that is a snapshot of the server.
-/

import Clustat.Client.Transport
import Clustat.Lib.Lts

namespace Clustat
namespace Client

open RuntimeSnapshot

/-- The two clients, with the ids of their two requests: the TCP client always
uses 2 and 3, the UDP client counts. -/
inductive ConnectedNode
  | tcp
  | udp (queryId refreshId : UInt64)
  deriving DecidableEq, Repr

/-- The id of the query. -/
def ConnectedNode.queryId : ConnectedNode → UInt64
  | .tcp => 2
  | .udp queryId _ => queryId

/-- The id of the metadata refresh. -/
def ConnectedNode.refreshId : ConnectedNode → UInt64
  | .tcp => 3
  | .udp _ refreshId => refreshId

/-- The frame of the query; that of `send_empty_query` has no payload. -/
def ConnectedNode.queryFrame (w : Wire) (c : ConnectedNode) : Except TransportError Bytes :=
  match c with
  | .tcp => buildQueryRequestFrame w c.queryId
  | .udp .. => .ok (encodeFrame (FrameHeader.new .queryRequest c.queryId 0) [])

/-- Whether the client takes the frame for the reply to the request: `recv_frame`
looks at the id, `read_frame` does not. -/
def ConnectedNode.takes (c : ConnectedNode) (requestId : UInt64) (frame : Bytes) : Bool :=
  match c with
  | .tcp => true
  | .udp .. =>
    match decodeFrame frame with
    | .error _ => false
    | .ok (header, _) => header.requestId == requestId

/-- The error of a query whose reply is not a runtime snapshot. -/
def ConnectedNode.queryFailure (w : Wire) (c : ConnectedNode) (metadata : HostMetadata)
    (frame : Bytes) (e : TransportError) : Except ClientError ServerGresSnapshot :=
  match c with
  | .tcp => parseQueryReply w frame metadata
  | .udp .. =>
    match parseQueryReply w frame { hostname := "", driverVersion := none, gres := [] } with
    | .ok _ => .error (.transport e)
    | .error e' => .error e'

/-- Where the query is.  The snapshots that served the two requests are kept to
speak about; the client does not see them. -/
inductive Phase
  | idle
  | querySent (request : Bytes)
  | queryServed (reply : Bytes) (source : Option ServerGresSnapshot)
  | refreshSent (runtime : RuntimeSnapshot) (source : Option ServerGresSnapshot) (request : Bytes)
  | refreshServed (runtime : RuntimeSnapshot) (source : Option ServerGresSnapshot) (reply : Bytes)
      (refreshed : Option ServerGresSnapshot)
  | done (result : Except ClientError ServerGresSnapshot)
      (source refreshed : Option ServerGresSnapshot)
  deriving DecidableEq

/-- The snapshots collected so far, the oldest first; the metadata the client
holds; and the query. -/
structure QueryState where
  collected : List ServerGresSnapshot
  metadata : HostMetadata
  phase : Phase
  deriving DecidableEq

/-- What happens: the server collects a snapshot, or serves a pending request
(`code` is the collector's error, should there be no entry yet); the client
sends, receives, or gives up (a timeout or any other I/O error). -/
inductive Act
  | collect (snapshot : ServerGresSnapshot)
  | send
  | serve (code : ErrorCode)
  | receive
  | giveUp

/-- The newest snapshot. -/
def QueryState.newest (st : QueryState) : Option ServerGresSnapshot := st.collected.getLast?

/-- What the cache answers a handler: the newest entry, less its commands. -/
def QueryState.latest (st : QueryState) (code : ErrorCode) : Server.Latest :=
  match st.newest with
  | none => .error code
  | some snapshot => .ok (omitProcessCommands snapshot)

/-- The client's next phase after the reply to its query. -/
def afterQuery (w : Wire) (c : ConnectedNode) (metadata : HostMetadata) (reply : Bytes)
    (source : Option ServerGresSnapshot) : Phase :=
  match parseRuntimePayloadFrame w reply with
  | .error e => .done (c.queryFailure w metadata reply e) source none
  | .ok runtime =>
    if runtime.metadataHash ≠ 0 ∧ runtime.metadataHash ≠ metadata.metadataHash then
      match buildHandshakeRequestFrame w c.refreshId with
      | .error e => .done (.error (.transport e)) source none
      | .ok request => .refreshSent runtime source request
    else .done (.ok (runtime.toSnapshot metadata)) source none

/-- One step of the server and the client. -/
def step (w : Wire) (c : ConnectedNode) (st : QueryState) : Act → Option QueryState
  | .collect snapshot => some { st with collected := st.collected ++ [snapshot] }
  | .send =>
    match st.phase with
    | .idle =>
      match c.queryFrame w with
      | .error e => some { st with phase := .done (.error (.transport e)) none none }
      | .ok request => some { st with phase := .querySent request }
    | _ => none
  | .serve code =>
    match st.phase with
    | .querySent request =>
      match Server.handleFrame w (st.latest code) request with
      | .error _ => none
      | .ok reply => some { st with phase := .queryServed reply st.newest }
    | .refreshSent runtime source request =>
      match Server.handleFrame w (st.latest code) request with
      | .error _ => none
      | .ok reply => some { st with phase := .refreshServed runtime source reply st.newest }
    | _ => none
  | .receive =>
    match st.phase with
    | .queryServed reply source =>
      if c.takes c.queryId reply then
        some { st with phase := afterQuery w c st.metadata reply source }
      else none
    | .refreshServed runtime source reply refreshed =>
      if c.takes c.refreshId reply then
        match parseHandshakeReply w reply with
        | .error e => some { st with phase := .done (.error e) source refreshed }
        | .ok metadata =>
          some { st with
            metadata := metadata
            phase := .done (.ok (runtime.toSnapshot metadata)) source refreshed }
      else none
    | _ => none
  | .giveUp =>
    match st.phase with
    | .done .. => none
    | _ => some { st with phase := .done (.error .io) none none }

/-- **What a step can do**: the server collects, or serves the request; the
client sends one, or receives the reply to it. -/
theorem step_cases {w : Wire} {c : ConnectedNode} {st st' : QueryState} {a : Act}
    (h : step w c st a = some st') :
    (∃ snapshot, a = .collect snapshot ∧
        st' = { st with collected := st.collected ++ [snapshot] }) ∨
      (∃ e source refreshed, st' = { st with phase := .done (.error e) source refreshed }) ∨
      (∃ request, st.phase = .idle ∧ st' = { st with phase := .querySent request }) ∨
      (∃ code request reply, a = .serve code ∧ st.phase = .querySent request ∧
        Server.handleFrame w (st.latest code) request = .ok reply ∧
          st' = { st with phase := .queryServed reply st.newest }) ∨
      (∃ code runtime source request reply, a = .serve code ∧
        st.phase = .refreshSent runtime source request ∧
          Server.handleFrame w (st.latest code) request = .ok reply ∧
            st' = { st with phase := .refreshServed runtime source reply st.newest }) ∨
      (∃ reply source, st.phase = .queryServed reply source ∧
        st' = { st with phase := afterQuery w c st.metadata reply source }) ∨
      ∃ runtime source reply refreshed metadata,
        st.phase = .refreshServed runtime source reply refreshed ∧
          parseHandshakeReply w reply = .ok metadata ∧
            st' = { st with
              metadata := metadata
              phase := .done (.ok (runtime.toSnapshot metadata)) source refreshed } := by
  cases a with
  | collect snapshot => exact .inl ⟨snapshot, rfl, (Option.some.inj h).symm⟩
  | send =>
    simp only [step] at h
    split at h
    · rename_i hphase
      split at h
      · exact .inr (.inl ⟨_, _, _, (Option.some.inj h).symm⟩)
      · exact .inr (.inr (.inl ⟨_, hphase, (Option.some.inj h).symm⟩))
    · cases h
  | serve code =>
    simp only [step] at h
    split at h
    · rename_i request hphase
      split at h
      · cases h
      · rename_i reply hreply
        exact .inr (.inr (.inr (.inl ⟨code, request, reply, rfl, hphase, hreply,
          (Option.some.inj h).symm⟩)))
    · rename_i runtime source request hphase
      split at h
      · cases h
      · rename_i reply hreply
        exact .inr (.inr (.inr (.inr (.inl ⟨code, runtime, source, request, reply, rfl, hphase,
          hreply, (Option.some.inj h).symm⟩))))
    · cases h
  | receive =>
    simp only [step] at h
    split at h
    · rename_i reply source hphase
      split_ifs at h
      exact .inr (.inr (.inr (.inr (.inr (.inl ⟨reply, source, hphase,
        (Option.some.inj h).symm⟩)))))
    · rename_i runtime source reply refreshed hphase
      split_ifs at h
      split at h
      · exact .inr (.inl ⟨_, _, _, (Option.some.inj h).symm⟩)
      · rename_i metadata hparse
        exact .inr (.inr (.inr (.inr (.inr (.inr ⟨runtime, source, reply, refreshed, metadata,
          hphase, hparse, (Option.some.inj h).symm⟩)))))
    · cases h
  | giveUp =>
    simp only [step] at h
    split at h
    · cases h
    · exact .inr (.inl ⟨_, _, _, (Option.some.inj h).symm⟩)

/-- The queries of a client that holds `metadata`, at a server whose collector
returns snapshots of `returns`. -/
def querySystem (w : Wire) (c : ConnectedNode) (metadata : HostMetadata)
    (returns : Set ServerGresSnapshot) : Lts QueryState Act :=
  (Lts.ofFn { collected := [], metadata, phase := .idle } (step w c)).restrict
    fun _ a => ∀ snapshot, a = .collect snapshot → snapshot ∈ returns

/-! ### What the replies carry -/

section Replies

variable {w : Wire} {latest : Server.Latest} {request reply : Bytes}

/-- An archive in a reply is one of the handler's own type, of the entry it got. -/
theorem parse_replyFrame {α : Type} {decode : Bytes → Except PayloadDecodeError α}
    {okType t : FrameType} {requestId : UInt64}
    {encode : ServerGresSnapshot → Except PayloadEncodeError Bytes} {value : α}
    (h : Server.replyFrame requestId (Server.replyParts w latest okType encode requestId) =
      .ok reply) (ht : t ≠ .queryResponse) (hp : parsePayloadFrame decode t reply = .ok value) :
    okType = t ∧ ∃ entry payload, latest = .ok entry ∧ encode entry = .ok payload ∧
      reply = Server.encodeTransportFrame t requestId payload := by
  unfold Server.replyParts at h
  cases latest with
  | error code =>
    dsimp only at h
    cases hj : w.queryResponse.toBytes (.ofError requestId code) with
    | error message => rw [hj] at h; cases h
    | ok payload =>
      rw [hj] at h
      obtain rfl := Except.ok.inj h
      exact absurd hp (parsePayloadFrame_of_ne ht.symm)
  | ok entry =>
    dsimp only at h
    cases he : encode entry with
    | error e => rw [he] at h; cases h
    | ok payload =>
      rw [he] at h
      obtain rfl := Except.ok.inj h
      have htype : okType = t := by
        by_contra hne
        exact parsePayloadFrame_of_ne hne hp
      exact ⟨htype, entry, payload, rfl, he, by rw [htype]⟩

/-- **A runtime snapshot in a reply** is the runtime half of the entry served,
for any request that is answered with one. -/
theorem runtime_of_handleFrame (hw : w.runtime.Lawful)
    (h : Server.handleFrame w latest request = .ok reply) {runtime : RuntimeSnapshot}
    (hp : parseRuntimePayloadFrame w reply = .ok runtime) :
    ∃ entry, latest = .ok entry ∧ runtime = RuntimeSnapshot.fromSnapshot entry := by
  obtain ⟨requestId, hr | hr⟩ := Server.handleFrame_cases h
  · exact absurd (parse_replyFrame hr (by decide) hp).1 (by decide)
  · obtain ⟨-, entry, payload, hl, he, rfl⟩ := parse_replyFrame hr (by decide) hp
    exact ⟨entry, hl, Except.ok.inj (hp.symm.trans (parsePayloadFrame_of_encode hw he))⟩

/-- **Metadata in a reply** are the metadata of the entry served, for any
request that is answered with them. -/
theorem metadata_of_handleFrame (hw : w.metadata.Lawful)
    (h : Server.handleFrame w latest request = .ok reply) {metadata : HostMetadata}
    (hp : parseHandshakeReply w reply = .ok metadata) :
    ∃ entry, latest = .ok entry ∧ metadata = HostMetadata.fromSnapshot entry := by
  have hp : parseMetadataPayloadFrame w reply = .ok metadata := by
    unfold parseHandshakeReply at hp
    split at hp
    · rename_i m hm
      rw [hm, ← Except.ok.inj hp]
    · cases hp
    · cases hp
  obtain ⟨requestId, hr | hr⟩ := Server.handleFrame_cases h
  · obtain ⟨-, entry, payload, hl, he, rfl⟩ := parse_replyFrame hr (by decide) hp
    exact ⟨entry, hl, Except.ok.inj (hp.symm.trans (parsePayloadFrame_of_encode hw he))⟩
  · exact absurd (parse_replyFrame hr (by decide) hp).1 (by decide)

end Replies

/-- What the cache gives out is the newest snapshot it has collected, without
the commands. -/
theorem latest_eq_ok {st : QueryState} {code : ErrorCode} {entry : ServerGresSnapshot}
    (h : st.latest code = .ok entry) :
    ∃ snapshot ∈ st.collected, st.newest = some snapshot ∧
      entry = omitProcessCommands snapshot := by
  unfold QueryState.latest at h
  cases hn : st.newest with
  | none => rw [hn] at h; cases h
  | some snapshot =>
    rw [hn] at h
    exact ⟨snapshot, List.mem_of_getLast? hn, rfl, (Except.ok.inj h).symm⟩

/-! ### What a query shows -/

/-- The assumptions on a collector and on the metadata the client holds:
distinct indices in a snapshot, no hash that is zero, and none that the client's
metadata share with others. -/
structure Assumptions (metadata : HostMetadata) (returns : Set ServerGresSnapshot) : Prop where
  distinct : ∀ s ∈ returns, s.DistinctIndices
  nonzero : ∀ s ∈ returns, (HostMetadata.fromSnapshot s).metadataHash ≠ 0
  noCollision : ∀ s ∈ returns,
    (HostMetadata.fromSnapshot s).metadataHash = metadata.metadataHash →
      HostMetadata.fromSnapshot s = metadata

/-- What a phase knows of the snapshots that served it. -/
def Phase.Sourced (w : Wire) (collected : List ServerGresSnapshot) : Phase → Prop
  | .queryServed reply source =>
    ∀ runtime, parseRuntimePayloadFrame w reply = .ok runtime →
      ∃ a ∈ collected, source = some a ∧ runtime = fromSnapshot a
  | .refreshSent runtime source _ => ∃ a ∈ collected, source = some a ∧ runtime = fromSnapshot a
  | .refreshServed runtime source reply refreshed =>
    (∃ a ∈ collected, source = some a ∧ runtime = fromSnapshot a) ∧
      ∀ metadata, parseHandshakeReply w reply = .ok metadata →
        ∃ b ∈ collected, refreshed = some b ∧ metadata = HostMetadata.fromSnapshot b
  | .done (.ok s) source none => ∃ a ∈ collected, source = some a ∧ s = omitProcessCommands a
  | .done (.ok s) source (some b) =>
    ∃ a ∈ collected, source = some a ∧ b ∈ collected ∧
      s = (fromSnapshot a).toSnapshot (HostMetadata.fromSnapshot b)
  | _ => True

/-- The invariant of a query. -/
structure Joined (w : Wire) (metadata : HostMetadata) (returns : Set ServerGresSnapshot)
    (st : QueryState) : Prop where
  collected : ∀ s ∈ st.collected, s ∈ returns
  metadata : st.metadata = metadata ∨ ∃ r a b, st.phase = .done r a b
  phase : st.phase.Sourced w st.collected

/-- What comes from some snapshots comes from more snapshots too. -/
theorem Phase.Sourced.mono {w : Wire} {collected collected' : List ServerGresSnapshot}
    (hsub : ∀ s ∈ collected, s ∈ collected') {phase : Phase} (h : phase.Sourced w collected) :
    phase.Sourced w collected' := by
  match phase, h with
  | .idle, _ => trivial
  | .querySent _, _ => trivial
  | .queryServed _ _, h =>
    intro runtime hp
    obtain ⟨a, ha, hr⟩ := h runtime hp
    exact ⟨a, hsub a ha, hr⟩
  | .refreshSent _ _ _, ⟨a, ha, hr⟩ => exact ⟨a, hsub a ha, hr⟩
  | .refreshServed _ _ _ _, ⟨⟨a, ha, hr⟩, h⟩ =>
    refine ⟨⟨a, hsub a ha, hr⟩, fun metadata hp => ?_⟩
    obtain ⟨b, hb, hm⟩ := h metadata hp
    exact ⟨b, hsub b hb, hm⟩
  | .done (.ok _) _ none, ⟨a, ha, hr⟩ => exact ⟨a, hsub a ha, hr⟩
  | .done (.ok _) _ (some _), ⟨a, ha, hs, hb, hr⟩ => exact ⟨a, hsub a ha, hs, hsub _ hb, hr⟩
  | .done (.error _) _ _, _ => trivial

section Invariant

variable {w : Wire} {c : ConnectedNode} {metadata : HostMetadata}
  {returns : Set ServerGresSnapshot}

/-- A reply that is not a runtime snapshot ends the query with an error. -/
theorem queryFailure_eq_error {reply : Bytes} {e : TransportError}
    (he : parseRuntimePayloadFrame w reply = .error e) :
    ∃ e', c.queryFailure w metadata reply e = .error e' := by
  cases c with
  | tcp => exact parseQueryReply_eq_error he metadata
  | udp q r =>
    obtain ⟨e', h⟩ :=
      parseQueryReply_eq_error he { hostname := "", driverVersion := none, gres := [] }
    exact ⟨e', by rw [ConnectedNode.queryFailure, h]⟩

/-- **The reply to the query**: without a refresh the metadata held are those of
the snapshot that served it. -/
theorem sourced_afterQuery (hA : Assumptions metadata returns)
    {collected : List ServerGresSnapshot} (hcol : ∀ s ∈ collected, s ∈ returns) {reply : Bytes}
    {source : Option ServerGresSnapshot}
    (h : (Phase.queryServed reply source).Sourced w collected) :
    (afterQuery w c metadata reply source).Sourced w collected := by
  unfold afterQuery
  cases hp : parseRuntimePayloadFrame w reply with
  | error e =>
    obtain ⟨e', he⟩ : ∃ e', c.queryFailure w metadata reply e = .error e' :=
      queryFailure_eq_error hp
    dsimp only
    rw [he]
    trivial
  | ok runtime =>
    obtain ⟨a, ha, rfl, rfl⟩ := h runtime hp
    dsimp only
    split_ifs with hhash
    · cases buildHandshakeRequestFrame w c.refreshId with
      | error e => trivial
      | ok request => exact ⟨a, ha, rfl, rfl⟩
    · have heq : HostMetadata.fromSnapshot a = metadata := by
        refine hA.noCollision a (hcol a ha) ?_
        by_contra hne
        exact hhash ⟨hA.nonzero a (hcol a ha), hne⟩
      exact ⟨a, ha, rfl, by rw [← heq, toSnapshot_fromSnapshot (hA.distinct a (hcol a ha))]⟩

/-- A served request has been served from the newest snapshot. -/
theorem source_of_latest {st : QueryState} {code : ErrorCode} {entry : ServerGresSnapshot}
    (h : st.latest code = .ok entry) :
    ∃ a ∈ st.collected, st.newest = some a ∧ fromSnapshot entry = fromSnapshot a ∧
      HostMetadata.fromSnapshot entry = HostMetadata.fromSnapshot a := by
  obtain ⟨a, ha, hn, rfl⟩ := latest_eq_ok h
  exact ⟨a, ha, hn, runtime_omitProcessCommands a, metadata_omitProcessCommands a⟩

/-- **Every step keeps the invariant**: what the client has comes from what
the server has collected so far. -/
theorem joined_step (hw : w.runtime.Lawful) (hw' : w.metadata.Lawful)
    (hA : Assumptions metadata returns) {st st' : QueryState} {a : Act}
    (hret : ∀ snapshot, a = .collect snapshot → snapshot ∈ returns)
    (h : Joined w metadata returns st) (hs : step w c st a = some st') :
    Joined w metadata returns st' := by
  obtain ⟨hcol, hmeta, hphase⟩ := h
  have hheld : (∀ r a b, st.phase ≠ .done r a b) → st.metadata = metadata := fun hne =>
    hmeta.resolve_right fun ⟨r, a, b, h⟩ => hne r a b h
  obtain ⟨snapshot, rfl, rfl⟩ | ⟨e, source, refreshed, rfl⟩ | ⟨request, hp, rfl⟩ |
    ⟨code, request, reply, rfl, hp, hreply, rfl⟩ |
    ⟨code, runtime, source, request, reply, rfl, hp, hreply, rfl⟩ | ⟨reply, source, hp, rfl⟩ |
    ⟨runtime, source, reply, refreshed, m, hp, hparse, rfl⟩ := step_cases hs
  · refine ⟨fun s hmem => ?_, hmeta, hphase.mono fun s hmem => List.mem_append_left _ hmem⟩
    rcases List.mem_append.1 hmem with hmem | hmem
    · exact hcol s hmem
    · exact List.mem_singleton.1 hmem ▸ hret snapshot rfl
  · refine ⟨hcol, .inr ⟨_, _, _, rfl⟩, ?_⟩
    cases refreshed <;> trivial
  · exact ⟨hcol, .inl (hheld (by simp [hp])), trivial⟩
  · refine ⟨hcol, .inl (hheld (by simp [hp])), fun runtime hr => ?_⟩
    obtain ⟨entry, hl, rfl⟩ := runtime_of_handleFrame hw hreply hr
    obtain ⟨a, ha, hn, hrt, -⟩ := source_of_latest hl
    exact ⟨a, ha, hn, hrt⟩
  · rw [hp] at hphase
    refine ⟨hcol, .inl (hheld (by simp [hp])), hphase, fun m hm => ?_⟩
    obtain ⟨entry, hl, rfl⟩ := metadata_of_handleFrame hw' hreply hm
    obtain ⟨b, hb, hn, -, hmd⟩ := source_of_latest hl
    exact ⟨b, hb, hn, hmd⟩
  · rw [hp] at hphase
    have hm := hheld (by simp [hp])
    have hnext := sourced_afterQuery (c := c) hA hcol hphase
    rw [← hm] at hnext
    exact ⟨hcol, .inl hm, hnext⟩
  · rw [hp] at hphase
    obtain ⟨⟨a, ha, hsource, rfl⟩, hm⟩ := hphase
    obtain ⟨b, hb, rfl, rfl⟩ := hm m hparse
    exact ⟨hcol, .inr ⟨_, _, _, rfl⟩, a, ha, hsource, hb, rfl⟩

/-- **The invariant of a query in every reachable state**, by induction on the
run; it holds at the start, where nothing is collected. -/
theorem joined_of_reachable (hw : w.runtime.Lawful) (hw' : w.metadata.Lawful)
    (hA : Assumptions metadata returns) {st : QueryState}
    (h : (querySystem w c metadata returns).Reachable st) : Joined w metadata returns st := by
  refine h.invariant ?_ fun s a t hs hst => joined_step hw hw' hA hst.2 hs hst.1
  rintro _ rfl
  exact ⟨by simp, .inl rfl, trivial⟩

end Invariant

/-- The same readings: index, temperature, memory in use, utilization and
processes of every resource. -/
def SameReadings (s a : ServerGresSnapshot) : Prop :=
  s.gres.map GresInfo.runtimeInfo = a.gres.map GresInfo.runtimeInfo

/-- The inventory of `s` is what the metadata of `b` say: host, driver, and name,
uuid and memory of every resource. -/
def SameInventory (s b : ServerGresSnapshot) : Prop :=
  s.hostname = b.hostname ∧ s.driverVersion = b.driverVersion ∧
    ∀ g ∈ s.gres, g.staticInfo = (HostMetadata.fromSnapshot b).staticOf g.index

/-- A metadata refresh is served while the inventory is that of the snapshot
which served the query. -/
def KeepsInventory (st : QueryState) (a : Act) : Prop :=
  match a, st.phase, st.newest with
  | .serve _, .refreshSent _ (some source) _, some refreshed =>
    HostMetadata.fromSnapshot refreshed = HostMetadata.fromSnapshot source
  | _, _, _ => True

instance (st : QueryState) (a : Act) : Decidable (KeepsInventory st a) := by
  unfold KeepsInventory
  split <;> infer_instance

/-- The snapshots behind a joined reply have one inventory. -/
def Phase.OneInventory : Phase → Prop
  | .refreshServed _ (some a) _ (some b) =>
    HostMetadata.fromSnapshot b = HostMetadata.fromSnapshot a
  | .done (.ok _) (some a) (some b) => HostMetadata.fromSnapshot b = HostMetadata.fromSnapshot a
  | _ => True

/-- A step that meets the condition keeps the client and the server at one
inventory of devices. -/
theorem oneInventory_step {w : Wire} {c : ConnectedNode} {st st' : QueryState} {a : Act}
    (hk : KeepsInventory st a) (h : st.phase.OneInventory) (hs : step w c st a = some st') :
    st'.phase.OneInventory := by
  obtain ⟨snapshot, rfl, rfl⟩ | ⟨e, source, refreshed, rfl⟩ | ⟨request, hp, rfl⟩ |
    ⟨code, request, reply, rfl, hp, hreply, rfl⟩ |
    ⟨code, runtime, source, request, reply, rfl, hp, hreply, rfl⟩ | ⟨reply, source, hp, rfl⟩ |
    ⟨runtime, source, reply, refreshed, m, hp, hparse, rfl⟩ := step_cases hs
  · exact h
  · trivial
  · trivial
  · trivial
  · cases hn : st.newest with
    | none => cases source <;> trivial
    | some b =>
      cases source with
      | none => trivial
      | some a =>
        unfold KeepsInventory at hk
        rw [hp, hn] at hk
        exact hk
  · have hnone : ∀ r, (Phase.done r source none).OneInventory := fun r => by
      cases r <;> cases source <;> trivial
    change (afterQuery w c st.metadata reply source).OneInventory
    unfold afterQuery
    split
    · exact hnone _
    · split_ifs
      · split
        · exact hnone _
        · trivial
      · exact hnone _
  · rw [hp] at h
    cases source <;> cases refreshed <;> trivial

/-- **When a query shows a snapshot of the server.**  In every run in which each
metadata refresh is served while the inventory is still that of the snapshot
which served the query, a query that succeeds shows a snapshot the server
collected, less its commands.  In any run, it does so exactly when there was no
refresh, or some collected snapshot has the readings of the snapshot that served
the query and the inventory of the one that served the refresh. -/
theorem query_shows_collected {w : Wire} {c : ConnectedNode} {metadata : HostMetadata}
    {returns : Set ServerGresSnapshot} (hw : w.runtime.Lawful) (hw' : w.metadata.Lawful)
    (hA : Assumptions metadata returns) {st : QueryState} {s : ServerGresSnapshot}
    {source refreshed : Option ServerGresSnapshot}
    (hdone : st.phase = .done (.ok s) source refreshed) :
    (((querySystem w c metadata returns).restrict KeepsInventory).Reachable st →
      ∃ t ∈ st.collected, s = omitProcessCommands t) ∧
    ((querySystem w c metadata returns).Reachable st →
      ((∃ t ∈ st.collected, s = omitProcessCommands t) ↔
        refreshed = none ∨ ∃ a b, source = some a ∧ refreshed = some b ∧
          ∃ t ∈ st.collected, SameReadings t a ∧ SameInventory t b)) := by
  have hiff : (querySystem w c metadata returns).Reachable st →
      ((∃ t ∈ st.collected, s = omitProcessCommands t) ↔
        refreshed = none ∨ ∃ a b, source = some a ∧ refreshed = some b ∧
          ∃ t ∈ st.collected, SameReadings t a ∧ SameInventory t b) := by
    intro hreach
    have hphase := (joined_of_reachable hw hw' hA hreach).phase
    rw [hdone] at hphase
    cases refreshed with
    | none =>
      obtain ⟨a, ha, -, hs⟩ := hphase
      exact ⟨fun _ => .inl rfl, fun _ => ⟨a, ha, hs⟩⟩
    | some b =>
      obtain ⟨a, ha, rfl, hb, rfl⟩ := hphase
      have hshow : ∀ t, (fromSnapshot a).toSnapshot (HostMetadata.fromSnapshot b) =
          omitProcessCommands t ↔ SameReadings t a ∧ SameInventory t b := fun t =>
        toSnapshot_eq_omit_iff
      simp only [hshow]
      simp
  refine ⟨fun hreach => ?_, hiff⟩
  have hone : st.phase.OneInventory :=
    hreach.invariant (by rintro _ rfl; trivial) fun s a t h hst =>
      oneInventory_step hst.2 h hst.1.1
  have hjoined := joined_of_reachable hw hw' hA hreach.of_restrict
  have hphase := hjoined.phase
  rw [hdone] at hphase hone
  cases refreshed with
  | none => exact (hiff hreach.of_restrict).2 (.inl rfl)
  | some b =>
    obtain ⟨a, ha, rfl, hb, rfl⟩ := hphase
    have hone : HostMetadata.fromSnapshot b = HostMetadata.fromSnapshot a := hone
    exact ⟨a, ha, by rw [hone, toSnapshot_fromSnapshot (hA.distinct a (hjoined.collected a ha))]⟩

/-! ### Two runs -/

/-- A node with one resource. -/
def oneGres (name : String) (usedMb : UInt64) : ServerGresSnapshot where
  hostname := "node"
  driverVersion := none
  gres :=
    [{ index := 0, name, temperatureC := none, uuid := none,
       memory := { usedMb, totalMb := 10 },
       utilization := { gresPercent := 0, memoryPercent := 0 }, processes := [] }]

/-- The metadata of a client that has seen the node without resources. -/
def noGres : HostMetadata where
  hostname := "node"
  driverVersion := none
  gres := []

/-- What the collector of the two runs returns. -/
def twoSnapshots : Set ServerGresSnapshot := {oneGres "a" 1, oneGres "b" 2}

/-- Archives for the two snapshots. -/
def twoSnapshotWire : Wire where
  handshakeRequest := .table [(.current, HostMetadata.asBytes "\x7b\"version\":1\x7d")]
  queryRequest := .table []
  queryResponse := .table []
  metadata := .table [(HostMetadata.fromSnapshot (oneGres "a" 1), [1]),
    (HostMetadata.fromSnapshot (oneGres "b" 2), [2])]
  runtime := .table [(fromSnapshot (oneGres "a" 1), [1]), (fromSnapshot (oneGres "b" 2), [2])]

/-- The wire reads what it has written. -/
theorem lawful_twoSnapshotWire :
    twoSnapshotWire.runtime.Lawful ∧ twoSnapshotWire.metadata.Lawful :=
  ⟨Codec.lawful_table (by decide +kernel), Codec.lawful_table (by decide +kernel)⟩

/-- The two snapshots are as the query assumes them to be: their indices
differ, and so do the hashes of their metadata. -/
theorem assumptions_twoSnapshots : Assumptions noGres twoSnapshots where
  distinct := by simpa [twoSnapshots] using by decide +kernel
  nonzero := by simpa [twoSnapshots] using by decide +kernel
  noCollision := by simpa [twoSnapshots] using by decide +kernel

/-- The client before its query. -/
def idleState : QueryState where
  collected := []
  metadata := noGres
  phase := .idle

/-- The server collects again between the query and the refresh of the metadata. -/
def mixingRun : List Act :=
  [.collect (oneGres "a" 1), .send, .serve .internal, .receive, .collect (oneGres "b" 2),
    .serve .internal, .receive]

/-- The server collects again after the refresh. -/
def keepingRun : List Act :=
  [.collect (oneGres "a" 1), .send, .serve .internal, .receive, .serve .internal,
    .collect (oneGres "b" 2), .receive]

/-- The two runs collect these snapshots and no other. -/
theorem mem_twoSnapshots {a : Act} (ha : a ∈ mixingRun ++ keepingRun)
    (snapshot : ServerGresSnapshot) (h : a = .collect snapshot) : snapshot ∈ twoSnapshots := by
  subst h
  have ha : snapshot = oneGres "a" 1 ∨ snapshot = oneGres "b" 2 ∨ snapshot = oneGres "a" 1 ∨
      snapshot = oneGres "b" 2 := by simpa [mixingRun, keepingRun] using ha
  rw [twoSnapshots, Set.mem_insert_iff, Set.mem_singleton_iff]
  tauto

/-- A query that shows the snapshot which served it, after a refresh. -/
theorem query_shows_collected_keeping :
    ∃ t ∈ [oneGres "a" 1, oneGres "b" 2], oneGres "a" 1 = omitProcessCommands t := by
  have hexec : Lts.exec (fun s a => if KeepsInventory s a then
      step twoSnapshotWire (.udp 2 3) s a else none) idleState keepingRun =
        some { collected := [oneGres "a" 1, oneGres "b" 2]
               metadata := HostMetadata.fromSnapshot (oneGres "a" 1)
               phase := .done (.ok (oneGres "a" 1)) (some (oneGres "a" 1))
                 (some (oneGres "a" 1)) } := by
    decide +kernel
  have hrun := (Lts.run_restrict_of_exec hexec : ((Lts.ofFn idleState _).restrict _).Run _ _ _)
  refine (query_shows_collected lawful_twoSnapshotWire.1 lawful_twoSnapshotWire.2
    assumptions_twoSnapshots rfl).1 ⟨idleState, keepingRun, rfl, hrun.mono fun a ha s t hs =>
      ⟨⟨hs.1, mem_twoSnapshots (List.mem_append_right _ ha)⟩, hs.2⟩⟩

/-- The client shows the memory in use of the first resource under the name of
the second. -/
theorem query_mixes : ∃ st,
    (querySystem twoSnapshotWire (.udp 2 3) noGres twoSnapshots).Reachable st ∧
      st.phase = .done (.ok (oneGres "b" 1)) (some (oneGres "a" 1)) (some (oneGres "b" 2)) ∧
      ∀ t ∈ st.collected, oneGres "b" 1 ≠ omitProcessCommands t := by
  have hexec : Lts.exec (step twoSnapshotWire (.udp 2 3)) idleState mixingRun =
      some { collected := [oneGres "a" 1, oneGres "b" 2]
             metadata := HostMetadata.fromSnapshot (oneGres "b" 2)
             phase := .done (.ok (oneGres "b" 1)) (some (oneGres "a" 1))
               (some (oneGres "b" 2)) } := by
    decide +kernel
  have hrun := (Lts.run_of_exec hexec : (Lts.ofFn idleState _).Run _ _ _)
  exact ⟨_, ⟨idleState, mixingRun, rfl, hrun.mono fun a ha s t hs =>
    ⟨hs, mem_twoSnapshots (List.mem_append_left _ ha)⟩⟩, rfl, by decide +kernel⟩

end Client
end Clustat
