/-
# The commands of processes stay in the server

The server as its clients see it (`crates/server/src/transport.rs` over
`crates/server/src/cache.rs`): a thread takes a request, asks the cache with
`get_latest_or_refresh`, and sends what the handler makes of the answer; the
threads of `background_refresh_loop` ask the cache and send nothing.

Secrecy is a statement about two runs.  They take the same steps, but the
snapshots the collector returns may differ in the commands of processes
(`SameSnapshot`).  `get_or_refresh` drops the commands as soon as the collector
has returned, so that the runs then pass through the same states
(`run_of_same`), and nothing in the cache or in a reply tells them apart
(`commands_never_leave`).
-/

import Clustat.Server.Cache
import Clustat.Server.Collector
import Clustat.Server.Transport

namespace Clustat
namespace Server

open Udp

/-- A request, by the handler that is given it. -/
inductive Request
  /-- For `handle_frame`. -/
  | frame (bytes : Bytes)
  /-- For `handle_empty_query_udp_datagram`. -/
  | emptyQuery (requestId : UInt64) (maxPayload : ℕ)
  /-- For `handle_udp_metadata_datagram`. -/
  | metadata (requestId : UInt64) (payload : Bytes) (maxPayload : ℕ)
  deriving DecidableEq

/-- What a handler returns; `handle_frame` always has a reply or an error. -/
abbrev Reply := Except TransportError (Option Bytes)

/-- What the handler returns when the cache answers `latest`. -/
def Request.reply (w : Wire) (crc : Crc32) (latest : Latest) : Request → Reply
  | .frame bytes => (handleFrame w latest bytes).map some
  | .emptyQuery requestId maxPayload =>
    handleEmptyQueryUdpDatagram w crc latest requestId maxPayload
  | .metadata requestId payload maxPayload =>
    handleUdpMetadataDatagram w crc latest requestId payload maxPayload

/-- The error a `Result` holds. -/
def error? {ε α : Type} : Except ε α → Option ε
  | .ok _ => none
  | .error e => some e

/-- What `handle_query` checks before it asks the cache. -/
def parseQuery (w : Wire) (payload : Bytes) : Except TransportError Unit :=
  if payload = [] then .ok ()
  else
    match w.queryRequest.fromBytes payload with
    | .error message => .error (.json message)
    | .ok request =>
      match validateProtocolVersion request.version with
      | .error code => .error (.protocol code)
      | .ok () => .ok ()

/-- The error of a handler that does not ask the cache. -/
def Request.refused? (w : Wire) : Request → Option TransportError
  | .frame bytes =>
    match decodeTransportFrame bytes with
    | .error e => some e
    | .ok (header, payload) =>
      match header.frameType with
      | .handshakeRequest => error? (parseHandshake w payload)
      | .queryRequest => error? (parseQuery w payload)
      | frameType => some (.unexpectedFrameType frameType)
  | .emptyQuery .. => none
  | .metadata _ payload _ => error? (parseHandshake w payload)

/-- The error of a result is there exactly when it has failed with it. -/
theorem error?_eq_some_iff {ε α : Type} {r : Except ε α} {e : ε} :
    error? r = some e ↔ r = .error e := by
  cases r <;> simp [error?]

/-- A query that is refused is answered by the same error, whatever is cached. -/
theorem handleQuery_of_parseQuery {w : Wire} {latest : Latest} {requestId : UInt64}
    {payload : Bytes} {e : TransportError} (h : parseQuery w payload = .error e) :
    handleQuery w latest requestId payload = .error e := by
  unfold parseQuery at h
  unfold handleQuery
  split_ifs at h ⊢ with hnil
  cases hreq : w.queryRequest.fromBytes payload with
  | error message =>
    rw [hreq] at h
    obtain rfl := Except.error.inj h
    rfl
  | ok request =>
    simp only [hreq] at h
    dsimp only
    cases hver : validateProtocolVersion request.version with
    | error code =>
      rw [hver] at h
      obtain rfl := Except.error.inj h
      rfl
    | ok u =>
      rw [hver] at h
      cases h

/-- **A refused request does not depend on the cache**: the handler returns
its error before it asks for an entry. -/
theorem Request.reply_of_refused {w : Wire} {crc : Crc32} {latest : Latest} {request : Request}
    {e : TransportError} (h : request.refused? w = some e) :
    request.reply w crc latest = .error e := by
  cases request with
  | emptyQuery requestId maxPayload => cases h
  | metadata requestId payload maxPayload =>
    have hparse : parseHandshake w payload = .error e := error?_eq_some_iff.1 h
    rw [reply, handleUdpMetadataDatagram, hparse]
  | frame bytes =>
    suffices hf : handleFrame w latest bytes = .error e by rw [reply, hf]; rfl
    rw [handleFrame]
    cases hd : decodeTransportFrame bytes with
    | error e' =>
      simp only [refused?, hd] at h
      exact congrArg _ (Option.some.inj h)
    | ok decoded =>
      obtain ⟨header, payload⟩ := decoded
      simp only [refused?, hd] at h
      dsimp only
      rw [handleDecodedFrame]
      cases ht : header.frameType with
      | handshakeRequest =>
        simp only [ht] at h
        dsimp only
        rw [handleHandshake, error?_eq_some_iff.1 h]
      | queryRequest =>
        simp only [ht] at h
        exact handleQuery_of_parseQuery (error?_eq_some_iff.1 h)
      | _ =>
        simp only [ht] at h
        exact congrArg _ (Option.some.inj h)

/-! ### The server -/

/-- The server: its cache, the request each thread is answering, and all that
its handlers have returned, the oldest first. -/
structure ServerState (τ : Type*) where
  cache : CacheState τ := {}
  serving : τ → Option Request := fun _ => none
  sent : List (τ × Request × Reply) := []

/-- What happens in the server. -/
inductive ServerAct (τ : Type*)
  /-- A thread is given a request. -/
  | receive (t : τ) (request : Request)
  /-- The cache has answered a thread, and the handler returns. -/
  | reply (t : τ)
  /-- A step in the cache, or a call of it by a thread that serves nobody. -/
  | cache (a : CacheAct τ)

variable {τ : Type*} [DecidableEq τ]

/-- A thread that is answering a request does not call the cache a second time. -/
def ServerState.allows (s : ServerState τ) : CacheAct τ → Bool
  | .thread t (.call ..) => (s.serving t).isNone
  | _ => true

/-- One step. -/
def ServerState.step (w : Wire) (crc : Crc32) (ttlMs : UInt64) (s : ServerState τ) :
    ServerAct τ → Option (ServerState τ)
  | .receive t request =>
    let pc := (s.cache.threads t).pc
    if (s.serving t).isSome ∨ pc.active ∨ pc = .panicked then none
    else
      match request.refused? w with
      | some e => some { s with sent := s.sent ++ [(t, request, .error e)] }
      | none =>
        (s.cache.step (.thread t (.call true ttlMs))).map fun cache =>
          { s with cache, serving := Function.update s.serving t (some request) }
  | .reply t =>
    match s.serving t, (s.cache.threads t).pc with
    | some request, .returned result _ =>
      some { s with
        serving := Function.update s.serving t none
        sent := s.sent ++ [(t, request, request.reply w crc result.outcome)] }
    | _, _ => none
  | .cache a =>
    if s.allows a then (s.cache.step a).map fun cache => { s with cache } else none

/-- A server with any number of threads, from its start. -/
def serverSystem (τ : Type*) [DecidableEq τ] (w : Wire) (crc : Crc32) (ttlMs : UInt64) :
    Lts (ServerState τ) (ServerAct τ) :=
  .ofFn {} (ServerState.step w crc ttlMs)

/-! ### Two runs -/

/-- The same result of the collector, but for the commands. -/
inductive SameResult : Except ErrorCode ServerGresSnapshot → Except ErrorCode ServerGresSnapshot →
    Prop
  | ok {s t : ServerGresSnapshot} (h : SameSnapshot s t) : SameResult (.ok s) (.ok t)
  | error (code : ErrorCode) : SameResult (.error code) (.error code)

/-- The same step, but for the commands in what the collector returns. -/
inductive SameAct : ServerAct τ → ServerAct τ → Prop
  | refl (a : ServerAct τ) : SameAct a a
  | collector (t : τ) {r r' : Except ErrorCode ServerGresSnapshot} (h : SameResult r r') :
    SameAct (.cache (.thread t (.collectorReturns r))) (.cache (.thread t (.collectorReturns r')))

/-- What the cache makes of a result has no commands. -/
theorem SameResult.omit_eq {r r' : Except ErrorCode ServerGresSnapshot} (h : SameResult r r') :
    r.map omitProcessCommands = r'.map omitProcessCommands := by
  cases h with
  | ok h => exact congrArg Except.ok h.omit_eq
  | error code => rfl

/-- The collector's caller cannot tell such results apart. -/
theorem Caller.next_collectorReturns {cache : GresCache} {now : ℕ} {free : Bool} {th : Caller}
    {r r' : Except ErrorCode ServerGresSnapshot} (h : SameResult r r') :
    th.next cache now free (.collectorReturns r) =
      th.next cache now free (.collectorReturns r') := by
  simp only [next, h.omit_eq]

/-- **Such steps lead to one state**, as what the collector returns is stored
without the commands. -/
theorem ServerState.step_of_same {w : Wire} {crc : Crc32} {ttlMs : UInt64} {s : ServerState τ}
    {a b : ServerAct τ} (h : SameAct a b) : s.step w crc ttlMs a = s.step w crc ttlMs b := by
  cases h with
  | refl a => rfl
  | collector t h => simp only [step, allows, CacheState.step, Caller.next_collectorReturns h]

variable {w : Wire} {crc : Crc32} {ttlMs : UInt64} {s s' : ServerState τ}
  {as bs : List (ServerAct τ)}

/-- And so do such runs. -/
theorem run_of_same (hd : List.Forall₂ SameAct as bs)
    (h : (serverSystem τ w crc ttlMs).Run s as s') : (serverSystem τ w crc ttlMs).Run s bs s' := by
  induction hd generalizing s with
  | nil => exact h
  | cons hab _ ih =>
    cases h with
    | cons hs hr => exact .cons ((ServerState.step_of_same hab).symm.trans hs) (ih hr)

/-- **Process commands never leave the server.**  Take any run of the server, with
any number of threads serving any requests while others refresh the cache, and a
second list of steps that differs from the run's in nothing but the commands of
processes in the snapshots the collector returns.  It is a run as well, and every
run with these steps ends with the same cached entry, and has returned the same
bytes and the same errors for the same requests. -/
theorem commands_never_leave (hd : List.Forall₂ SameAct as bs)
    (h : (serverSystem τ w crc ttlMs).Run {} as s) :
    (∃ s', (serverSystem τ w crc ttlMs).Run {} bs s') ∧
      ∀ s', (serverSystem τ w crc ttlMs).Run {} bs s' →
        s'.cache.cache.entry = s.cache.cache.entry ∧ s'.sent = s.sent := by
  have hrun := run_of_same hd h
  refine ⟨⟨s, hrun⟩, fun s' h' => ?_⟩
  obtain rfl := Lts.Run.ofFn_unique hrun h'
  exact ⟨rfl, rfl⟩

/-! ### Two commands -/

/-- A node with one process, that runs `command`. -/
def commandSnapshot (command : String) : ServerGresSnapshot where
  hostname := "n1"
  driverVersion := none
  gres :=
    [{ index := 0, name := "A100", temperatureC := none, uuid := none
       memory := { usedMb := 10, totalMb := 80 }
       utilization := { gresPercent := 0, memoryPercent := 0 }
       processes := [{ pid := 1, uid := 1000, command := some command, usedMemoryMb := 10 }] }]

/-- An archiver of that node's snapshot. -/
def commandWire : Wire where
  handshakeRequest := .table []
  queryRequest := .table []
  queryResponse := .table []
  metadata := .table []
  runtime := .table [(RuntimeSnapshot.fromSnapshot (commandSnapshot ""), [1])]

/-- The first query of a server, whose collector finds the process. -/
def commandRun (command : String) : List (ServerAct Unit) :=
  .receive () (.emptyQuery 7 1200) ::
    (List.replicate 8 (.cache (.thread () .step)) ++
      .cache (.thread () (.collectorReturns (.ok (commandSnapshot command)))) ::
        (List.replicate 5 (.cache (.thread () .step)) ++ [.reply ()]))

/-- What the server has sent after these steps. -/
def commandSent (command : String) : Option (List (Unit × Request × Reply)) :=
  (Lts.exec (ServerState.step commandWire Crc32.ieee 1000) {} (commandRun command)).map
    ServerState.sent

/-- Whether the process trains or evaluates, the query is answered alike. -/
theorem commands_never_leave_python :
    (commandSent "python train.py").isSome = true ∧
      commandSent "python eval.py" = commandSent "python train.py" := by
  have hsome : (commandSent "python train.py").isSome = true := by decide +kernel
  have hsome' : (commandSent "python eval.py").isSome = true := by decide +kernel
  obtain ⟨sent, hsent⟩ := Option.isSome_iff_exists.1 hsome
  obtain ⟨sent', hsent'⟩ := Option.isSome_iff_exists.1 hsome'
  obtain ⟨s, hs, rfl⟩ := Option.map_eq_some_iff.1 hsent
  obtain ⟨s', hs', rfl⟩ := Option.map_eq_some_iff.1 hsent'
  have hrun : (serverSystem Unit commandWire Crc32.ieee 1000).Run {} _ s := Lts.run_of_exec hs
  have hrun' : (serverSystem Unit commandWire Crc32.ieee 1000).Run {} _ s' := Lts.run_of_exec hs'
  have hsame :
      SameSnapshot (commandSnapshot "python train.py") (commandSnapshot "python eval.py") :=
    ⟨rfl, rfl, .cons ⟨rfl, rfl, rfl, rfl, rfl, rfl, .cons ⟨rfl, rfl, rfl⟩ .nil⟩ .nil⟩
  have hd : List.Forall₂ SameAct (commandRun "python train.py") (commandRun "python eval.py") :=
    .cons (.refl _) (List.rel_append (List.forall₂_same.2 fun a _ => .refl a)
      (.cons (.collector () (.ok hsame)) (List.forall₂_same.2 fun a _ => .refl a)))
  obtain ⟨-, heq⟩ := (commands_never_leave hd hrun).2 s' hrun'
  exact ⟨hsome, by rw [hsent, hsent', heq]⟩

end Server
end Clustat
