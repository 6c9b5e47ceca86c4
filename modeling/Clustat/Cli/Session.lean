/-
# A session of the CLI with the backend

In watch mode the CLI sends its query again and again over one connection
(`crates/client-cli/src/main.rs`, `query_stream` of `backend.rs`), and `handle_client` of
`crates/client-backend/src/local_api.rs` answers line after line.  Either side writes with
`write_all` and reads with a `BufReader`, so that bytes come in pieces of any size; the CLI
makes a new `BufReader` for each query, and what the old one has read beyond its line is gone
with it.  `Session` is the two ends and the bytes in between, and a step moves some bytes or
does what a whole line leads to.

The two keep in step (`Lockstep`): there is one line on the way at any time, so that nothing
is lost with a `BufReader`, and the results of the CLI are the answers of the backend, one for
each query and in their order (`session_answers`).  And each query gets its result
(`query_inevitable`).
-/

import Clustat.Cli.Backend
import Clustat.Lib.Lts
import Mathlib.Data.Prod.Lex

namespace Clustat
namespace Cli

open Backend

/-- What the CLI is doing. -/
inductive CliPhase
  | idle
  | writing (rest : Bytes)
  | reading (buf : Bytes)
  | stopped
  deriving DecidableEq, Repr

/-- What `handle_client` is doing; its reader keeps what it has read beyond a line. -/
inductive BackendPhase
  | reading (buf : Bytes)
  | writing (buf rest : Bytes)
  | closed
  deriving DecidableEq, Repr

/-- `write_all` with some bytes left. -/
def CliPhase.sending (rest : Bytes) : CliPhase := if rest = [] then .reading [] else .writing rest

/-- `write_all` with some bytes left. -/
def BackendPhase.sending (buf rest : Bytes) : BackendPhase :=
  if rest = [] then .reading buf else .writing buf rest

/-- The two ends of a connection and the bytes on the way.  `results` is what `query` has
returned to the CLI so far, and `calls` the states of the backend in which its commands were
handled. -/
structure Session (σ : Type) where
  cli : CliPhase := .idle
  backend : BackendPhase := .reading []
  toBackend : Bytes := []
  toCli : Bytes := []
  results : List (Except String Backend.QueryResponse) := []
  calls : List σ := []

/-- The steps of a session.  Between two commands of the session, other threads of the backend
may have brought its state to any other. -/
inductive SessionAct (σ : Type)
  | query
  | send (n : ℕ)
  | receive (n : ℕ)
  | eof
  | leave
  | fill (n : ℕ)
  | handle (s : σ)
  | reply (n : ℕ)
  | hangup

section Step

variable {σ : Type} (serde : SerdeJson) (service : Service σ) (opts : CliOptions)

/-- The end of `query_stream`, with what has been read: an error ends the program. -/
def Session.finish (S : Session σ) (line : Bytes) : Session σ :=
  { S with
    results := S.results ++ [readReply serde line]
    cli := match readReply serde line with
      | .ok _ => .idle
      | .error _ => .stopped }

/-- `handle_client`, when it has read a line. -/
def Session.handle (S : Session σ) (buf : Bytes) (s : σ) : Session σ :=
  let line := (lines buf).headD []
  { S with
    calls := S.calls ++ [s]
    backend := match fromUtf8 line with
      | none => .closed
      | some text =>
        match handleCommand serde service s (trim text) with
        | .error _ => .closed
        | .ok (response, _) => .sending (buf.drop line.length) (utf8 response) }

/-- One step. -/
def Session.step (S : Session σ) : SessionAct σ → Option (Session σ)
  | .query =>
    match S.cli with
    | .idle => some { S with cli := .sending (utf8 (buildQueryCommand opts)) }
    | _ => none
  | .send n =>
    match S.cli with
    | .writing rest =>
      if 0 < n ∧ n ≤ rest.length then
        some { S with
          cli := .sending (rest.drop n)
          toBackend := S.toBackend ++ rest.take n }
      else none
    | _ => none
  | .receive n =>
    match S.cli with
    | .reading buf =>
      if 0 < n ∧ n ≤ S.toCli.length then
        let S' := { S with toCli := S.toCli.drop n }
        let buf := buf ++ S.toCli.take n
        if 0x0A ∈ buf then some (S'.finish serde buf) else some { S' with cli := .reading buf }
      else none
    | _ => none
  | .eof =>
    match S.cli, S.backend with
    | .reading buf, .closed => if S.toCli = [] then some (S.finish serde buf) else none
    | _, _ => none
  | .leave =>
    match S.cli with
    | .idle => some { S with cli := .stopped }
    | _ => none
  | .fill n =>
    match S.backend with
    | .reading buf =>
      if 0x0A ∉ buf ∧ 0 < n ∧ n ≤ S.toBackend.length then
        some { S with
          backend := .reading (buf ++ S.toBackend.take n)
          toBackend := S.toBackend.drop n }
      else none
    | _ => none
  | .handle s =>
    match S.backend with
    | .reading buf => if 0x0A ∈ buf then some (S.handle serde service buf s) else none
    | _ => none
  | .reply n =>
    match S.backend with
    | .writing buf rest =>
      if 0 < n ∧ n ≤ rest.length then
        some { S with
          backend := .sending buf (rest.drop n)
          toCli := S.toCli ++ rest.take n }
      else none
    | _ => none
  | .hangup =>
    match S.cli, S.backend with
    | .stopped, .reading [] => if S.toBackend = [] then some { S with backend := .closed } else none
    | _, _ => none

/-- The session. -/
def sessionSystem : Lts (Session σ) (SessionAct σ) :=
  .ofFn {} (Session.step serde service opts)

/-- The steps of a session, each where it can be taken. -/
inductive Session.Move (S : Session σ) : SessionAct σ → Session σ → Prop
  | query (hcli : S.cli = .idle) :
    S.Move .query { S with cli := .sending (utf8 (buildQueryCommand opts)) }
  | send {rest : Bytes} {n : ℕ} (hcli : S.cli = .writing rest) (hn : 0 < n ∧ n ≤ rest.length) :
    S.Move (.send n)
      { S with cli := .sending (rest.drop n), toBackend := S.toBackend ++ rest.take n }
  | receive {buf : Bytes} {n : ℕ} (hcli : S.cli = .reading buf)
    (hn : 0 < n ∧ n ≤ S.toCli.length) :
    S.Move (.receive n)
      (if 0x0A ∈ buf ++ S.toCli.take n then
        Session.finish serde { S with toCli := S.toCli.drop n } (buf ++ S.toCli.take n)
      else { S with toCli := S.toCli.drop n, cli := .reading (buf ++ S.toCli.take n) })
  | eof {buf : Bytes} (hcli : S.cli = .reading buf) (hbackend : S.backend = .closed) :
    S.Move .eof (S.finish serde buf)
  | leave (hcli : S.cli = .idle) : S.Move .leave { S with cli := .stopped }
  | fill {buf : Bytes} {n : ℕ} (hbackend : S.backend = .reading buf)
    (hn : 0 < n ∧ n ≤ S.toBackend.length) :
    S.Move (.fill n)
      { S with
        backend := .reading (buf ++ S.toBackend.take n), toBackend := S.toBackend.drop n }
  | handle {buf : Bytes} (hbackend : S.backend = .reading buf) (hfeed : 0x0A ∈ buf) (s : σ) :
    S.Move (.handle s) (S.handle serde service buf s)
  | reply {buf rest : Bytes} {n : ℕ} (hbackend : S.backend = .writing buf rest)
    (hn : 0 < n ∧ n ≤ rest.length) :
    S.Move (.reply n)
      { S with backend := .sending buf (rest.drop n), toCli := S.toCli ++ rest.take n }
  | hangup (hcli : S.cli = .stopped) : S.Move .hangup { S with backend := .closed }

variable {serde service opts} in
/-- **What a step can do**, with what it has found on either side: the
inversion of `Session.step`, once for all proofs about sessions. -/
theorem Session.move_of_step {S S' : Session σ} {a : SessionAct σ}
    (h : S.step serde service opts a = some S') : S.Move serde service opts a S' := by
  cases a with
  | query | leave =>
    simp only [Session.step] at h
    split at h
    · rename_i hcli
      obtain rfl := Option.some.inj h
      constructor
      exact hcli
    · cases h
  | send n =>
    simp only [Session.step] at h
    split at h
    · rename_i rest hcli
      split_ifs at h with hn
      obtain rfl := Option.some.inj h
      exact .send hcli hn
    · cases h
  | receive n =>
    simp only [Session.step] at h
    split at h
    · rename_i buf hcli
      by_cases hn : 0 < n ∧ n ≤ S.toCli.length
      · rw [if_pos hn, ← apply_ite some] at h
        obtain rfl := Option.some.inj h
        exact .receive hcli hn
      · rw [if_neg hn] at h
        cases h
    · cases h
  | eof =>
    simp only [Session.step] at h
    split at h
    · rename_i buf hcli hbackend
      split_ifs at h
      obtain rfl := Option.some.inj h
      exact .eof hcli hbackend
    · cases h
  | fill n =>
    simp only [Session.step] at h
    split at h
    · rename_i buf hbackend
      split_ifs at h with hn
      obtain rfl := Option.some.inj h
      exact .fill hbackend hn.2
    · cases h
  | handle s =>
    simp only [Session.step] at h
    split at h
    · rename_i buf hbackend
      split_ifs at h with hfeed
      obtain rfl := Option.some.inj h
      exact .handle hbackend hfeed s
    · cases h
  | reply n =>
    simp only [Session.step] at h
    split at h
    · rename_i buf rest hbackend
      split_ifs at h with hn
      obtain rfl := Option.some.inj h
      exact .reply hbackend hn
    · cases h
  | hangup =>
    simp only [Session.step] at h
    split at h
    · rename_i hcli hbackend
      split_ifs at h
      obtain rfl := Option.some.inj h
      exact .hangup hcli
    · cases h

/-- What a call of `QUERY` in a state comes to at the CLI. -/
def answerIn (s : σ) : Except String Backend.QueryResponse :=
  match service.query s opts.nodeFilter opts.userFilter with
  | .ok (resp, _) => .ok resp
  | .error _ => readReply serde []

/-! ### In step -/

/-- One line, with its line feed. -/
def IsLine (l : Bytes) : Prop := ∃ body, 0x0A ∉ body ∧ l = body ++ [0x0A]

/-- **Where the two ends are**: between two queries; with the query on its way; with the reply
on its way; when the backend has closed the connection instead; and when the CLI has
stopped. -/
inductive Lockstep (S : Session σ) : Prop
  | between (hcli : S.cli = .idle) (hbackend : S.backend = .reading [])
    (hto : S.toBackend = [] ∧ S.toCli = [])
    (hresults : S.results = S.calls.map (answerIn serde service opts))
  | asking (rest buf : Bytes) (hcli : S.cli = .sending rest) (hbackend : S.backend = .reading buf)
    (hbytes : buf ++ S.toBackend ++ rest = utf8 (buildQueryCommand opts)) (hto : S.toCli = [])
    (hresults : S.results = S.calls.map (answerIn serde service opts))
  | answering (buf rest : Bytes) (before : List σ) (s : σ) (resp : Backend.QueryResponse)
    (hcli : S.cli = .reading buf) (hbackend : S.backend = .sending [] rest)
    (hbytes : buf ++ S.toCli ++ rest = utf8 resp.reply) (hbuf : 0x0A ∉ buf)
    (hto : S.toBackend = []) (hcalls : S.calls = before ++ [s])
    (hanswer : answerIn serde service opts s = .ok resp)
    (hresults : S.results = before.map (answerIn serde service opts))
  | failed (before : List σ) (s : σ) (hcli : S.cli = .reading []) (hbackend : S.backend = .closed)
    (hto : S.toBackend = [] ∧ S.toCli = []) (hcalls : S.calls = before ++ [s])
    (hanswer : answerIn serde service opts s = readReply serde [])
    (hresults : S.results = before.map (answerIn serde service opts))
  | ended (hcli : S.cli = .stopped) (hbackend : S.backend = .reading [] ∨ S.backend = .closed)
    (hto : S.toBackend = [] ∧ S.toCli = [])
    (hresults : S.results = S.calls.map (answerIn serde service opts))

/-- What the session relies on: `serde_json` reads the request and the responses, and takes
nothing for a response. -/
structure Speaks : Prop where
  request : serde.Decodes (.obj opts.fields)
  response : ∀ s resp s', service.query s opts.nodeFilter opts.userFilter = .ok (resp, s') →
    serde.Decodes resp.toJson
  nothing : serde.parse "" = none

end Step

/-! ### Lines and phases -/

/-- A line is not empty: it ends with a line feed. -/
theorem IsLine.ne_nil {l : Bytes} (h : IsLine l) : l ≠ [] := by
  obtain ⟨body, -, rfl⟩ := h
  simp

/-- What there is of a line up to its line feed is all of it. -/
theorem IsLine.eq_of_mem {l a b : Bytes} (h : IsLine l) (hl : a ++ b = l) (ha : 0x0A ∈ a) :
    a = l ∧ b = [] := by
  obtain ⟨body, hbody, rfl⟩ := h
  rcases List.eq_nil_or_concat b with rfl | ⟨front, c, rfl⟩
  · exact ⟨by simpa using hl, rfl⟩
  · rw [List.concat_eq_append, ← List.append_assoc] at hl
    obtain ⟨rfl, -⟩ := List.append_inj' hl rfl
    exact absurd (List.mem_append_left _ ha) hbody

/-- A line is the only one in itself. -/
theorem IsLine.lines_eq {l : Bytes} (h : IsLine l) : lines l = [l] := by
  obtain ⟨body, hbody, rfl⟩ := h
  exact lines_append hbody []

/-- A text without a line feed, and one behind it, is a line in UTF-8. -/
theorem isLine_utf8 {s : String} (h : '\n' ∉ s.toList) : IsLine (utf8 (s ++ "\n")) := by
  refine ⟨utf8 s, fun hmem => ?_, by rw [utf8_append]; rfl⟩
  obtain ⟨c, hc, hb⟩ := List.mem_flatMap.1 hmem
  exact h (lineFeed_mem_utf8EncodeChar hb ▸ hc)

/-- The query of the CLI is a line. -/
theorem isLine_query (opts : CliOptions) : IsLine (utf8 (buildQueryCommand opts)) := by
  have htext : '\n' ∉ (Json.obj opts.fields).toText := inline_fields opts
  exact isLine_utf8 (by simp [Json.text, htext])

/-- The reply of the backend is a line. -/
theorem isLine_reply (resp : Backend.QueryResponse) : IsLine (utf8 resp.reply) := by
  refine isLine_utf8 ?_
  rw [Json.text, String.toList_ofList]
  exact resp.inline_toJson

/-- The CLI is writing what is left to send, if anything is. -/
@[simp] theorem CliPhase.sending_eq_writing {rest rest' : Bytes} :
    sending rest = writing rest' ↔ rest = rest' ∧ rest ≠ [] := by
  unfold sending
  split_ifs with h <;> simp [h]

/-- With nothing left to send it is reading, from the start. -/
@[simp] theorem CliPhase.sending_eq_reading {rest buf : Bytes} :
    sending rest = reading buf ↔ rest = [] ∧ buf = [] := by
  unfold sending
  split_ifs with h <;> simp [h, eq_comm]

/-- A CLI that sends is not idle. -/
@[simp] theorem CliPhase.sending_ne_idle (rest : Bytes) : sending rest ≠ idle := by
  unfold sending
  split_ifs <;> simp

/-- Nor has it stopped. -/
@[simp] theorem CliPhase.sending_ne_stopped (rest : Bytes) : sending rest ≠ stopped := by
  unfold sending
  split_ifs <;> simp

/-- The backend is writing what is left to send, if anything is, with what it
has read ahead kept. -/
@[simp] theorem BackendPhase.sending_eq_writing {buf buf' rest rest' : Bytes} :
    sending buf rest = writing buf' rest' ↔ (buf = buf' ∧ rest = rest') ∧ rest ≠ [] := by
  unfold sending
  split_ifs with h <;> simp [h]

/-- With nothing left to send it reads on from what it has read ahead. -/
@[simp] theorem BackendPhase.sending_eq_reading {buf buf' rest : Bytes} :
    sending buf rest = reading buf' ↔ rest = [] ∧ buf = buf' := by
  unfold sending
  split_ifs with h <;> simp [h]

/-- A backend that sends has not closed. -/
@[simp] theorem BackendPhase.sending_ne_closed (buf rest : Bytes) : sending buf rest ≠ closed := by
  unfold sending
  split_ifs <;> simp

section Run

variable {σ : Type} {serde : SerdeJson} {service : Service σ} {opts : CliOptions}
  {S S' : Session σ}

/-- A connection that ends without a reply is an error, as the empty text is
no JSON. -/
theorem readReply_nil (h : serde.parse "" = none) :
    readReply serde [] =
      .error ("invalid backend response: " ++ serde.message "QueryResponse" "") := by
  have htext : fromUtf8 ((lines []).headD []) = some "" := fromUtf8_utf8 ""
  have htrim : trim "" = "" := by decide
  rw [readReply, htext]
  simp only [htrim, decodeResponse, SerdeJson.fromStr, h, Option.bind_none]

/-- The CLI gets the response from its line. -/
theorem readReply_line {resp : Backend.QueryResponse} (hresp : serde.Decodes resp.toJson) :
    readReply serde (utf8 resp.reply) = .ok resp := by
  have hread := readReply_reply hresp []
  rwa [List.append_nil] at hread

/-- **What the backend makes of the query**: it writes the response, or closes
the connection, as it does where the service fails. -/
theorem Session.handle_query (hs : Speaks serde service opts) (S : Session σ) (s : σ) :
    (∃ resp, answerIn serde service opts s = .ok resp ∧ serde.Decodes resp.toJson ∧
      S.handle serde service (utf8 (buildQueryCommand opts)) s =
        { S with calls := S.calls ++ [s], backend := .sending [] (utf8 resp.reply) }) ∨
    (answerIn serde service opts s = readReply serde [] ∧
      S.handle serde service (utf8 (buildQueryCommand opts)) s =
        { S with calls := S.calls ++ [s], backend := .closed }) := by
  have hcmd : handleCommand serde service s (trim (buildQueryCommand opts)) = _ :=
    handleCommand_query serde service s opts.fields
  rw [parseQueryRequest_fields hs.request] at hcmd
  simp only [CliOptions.request] at hcmd
  rw [Session.handle, (isLine_query opts).lines_eq, List.headD_cons, fromUtf8_utf8, answerIn]
  simp only [hcmd, List.drop_length]
  cases hq : service.query s opts.nodeFilter opts.userFilter with
  | error e => exact .inr ⟨rfl, rfl⟩
  | ok r =>
    obtain ⟨resp, s'⟩ := r
    exact .inl ⟨resp, rfl, hs.response s resp s' hq, rfl⟩

/-- A query begins between two queries. -/
theorem Lockstep.query (h : Lockstep serde service opts S) (hcli : S.cli = .idle) :
    Lockstep serde service opts { S with cli := .sending (utf8 (buildQueryCommand opts)) } := by
  cases h with
  | between _ hbackend hto hresults =>
    generalize hline : utf8 (buildQueryCommand opts) = line
    exact .asking line [] rfl hbackend (by simp [hto.1, hline]) hto.2 hresults
  | asking rest buf hcli' => exact absurd (hcli'.symm.trans hcli) (by simp)
  | answering buf rest before s resp hcli' => cases hcli'.symm.trans hcli
  | failed before s hcli' => cases hcli'.symm.trans hcli
  | ended hcli' => cases hcli'.symm.trans hcli

/-- The CLI writes part of its query: the rest and what is on the way are the
query still. -/
theorem Lockstep.send (h : Lockstep serde service opts S) {rest : Bytes} (n : ℕ)
    (hcli : S.cli = .writing rest) :
    Lockstep serde service opts { S with
      cli := .sending (rest.drop n), toBackend := S.toBackend ++ rest.take n } := by
  cases h with
  | between hcli' => cases hcli'.symm.trans hcli
  | asking rest' buf hcli' hbackend hbytes hto hresults =>
    obtain ⟨rfl, -⟩ := CliPhase.sending_eq_writing.1 (hcli'.symm.trans hcli)
    refine .asking (rest'.drop n) buf rfl hbackend ?_ hto hresults
    rw [← hbytes]
    simp only [List.append_assoc, List.take_append_drop]
  | answering buf rest' before s resp hcli' => cases hcli'.symm.trans hcli
  | failed before s hcli' => cases hcli'.symm.trans hcli
  | ended hcli' => cases hcli'.symm.trans hcli

/-- What the CLI reads is of the reply; with the line feed, it is all of it. -/
theorem Lockstep.receive (hs : Speaks serde service opts) (h : Lockstep serde service opts S)
    {buf : Bytes} {n : ℕ} (hcli : S.cli = .reading buf) (hn : 0 < n ∧ n ≤ S.toCli.length) :
    Lockstep serde service opts
      (if 0x0A ∈ buf ++ S.toCli.take n then
        Session.finish serde { S with toCli := S.toCli.drop n } (buf ++ S.toCli.take n)
      else { S with toCli := S.toCli.drop n, cli := .reading (buf ++ S.toCli.take n) }) := by
  have hsome : S.toCli ≠ [] := List.ne_nil_of_length_pos (lt_of_lt_of_le hn.1 hn.2)
  cases h with
  | between hcli' => cases hcli'.symm.trans hcli
  | asking rest buf hcli' hbackend hbytes hto => exact absurd hto hsome
  | answering buf' rest before s resp hcli' hbackend hbytes hbuf hto hcalls hanswer hresults =>
    obtain rfl := CliPhase.reading.inj (hcli'.symm.trans hcli)
    have hwhole : (buf' ++ S.toCli.take n) ++ (S.toCli.drop n ++ rest) = utf8 resp.reply := by
      rw [← hbytes]
      simp only [List.append_assoc]
      rw [← List.append_assoc (S.toCli.take n), List.take_append_drop]
    split_ifs with hfeed
    · obtain ⟨hline, hrest⟩ := (isLine_reply resp).eq_of_mem hwhole hfeed
      obtain ⟨hdrop, rfl⟩ := List.append_eq_nil_iff.1 hrest
      have hresp : serde.Decodes resp.toJson := by
        rw [answerIn] at hanswer
        cases hq : service.query s opts.nodeFilter opts.userFilter with
        | error e =>
          rw [hq, readReply_nil hs.nothing] at hanswer
          cases hanswer
        | ok r =>
          obtain ⟨resp', s'⟩ := r
          rw [hq] at hanswer
          exact Except.ok.inj hanswer ▸ hs.response s resp' s' hq
      rw [hline, Session.finish, readReply_line hresp]
      refine .between rfl hbackend ⟨hto, hdrop⟩ ?_
      dsimp only
      rw [hresults, hcalls, List.map_append, List.map_singleton, hanswer]
    · refine .answering _ rest before s resp rfl hbackend ?_ hfeed hto hcalls hanswer hresults
      rw [List.append_assoc]
      exact hwhole
  | failed before s hcli' hbackend hto => exact absurd hto.2 hsome
  | ended hcli' => cases hcli'.symm.trans hcli

/-- At the end of the connection nothing has been read, and the CLI stops. -/
theorem Lockstep.eof (hs : Speaks serde service opts) (h : Lockstep serde service opts S)
    {buf : Bytes} (hcli : S.cli = .reading buf) (hbackend : S.backend = .closed) :
    Lockstep serde service opts (S.finish serde buf) := by
  cases h with
  | between hcli' => cases hcli'.symm.trans hcli
  | asking rest buf hcli' hbackend' => cases hbackend'.symm.trans hbackend
  | answering buf' rest before s resp hcli' hbackend' =>
    exact absurd (hbackend'.symm.trans hbackend) (by simp)
  | failed before s hcli' hbackend' hto hcalls hanswer hresults =>
    obtain rfl := CliPhase.reading.inj (hcli'.symm.trans hcli)
    refine .ended ?_ (.inr hbackend) hto ?_
    · rw [Session.finish, readReply_nil hs.nothing]
    · rw [Session.finish]
      dsimp only
      rw [hresults, hcalls, List.map_append, List.map_singleton, hanswer]
  | ended hcli' => cases hcli'.symm.trans hcli

/-- The backend reads part of what is on the way: what it has and what it has
not are the query still. -/
theorem Lockstep.fill (h : Lockstep serde service opts S) {buf : Bytes} {n : ℕ}
    (hbackend : S.backend = .reading buf) (hn : 0 < n ∧ n ≤ S.toBackend.length) :
    Lockstep serde service opts { S with
      backend := .reading (buf ++ S.toBackend.take n), toBackend := S.toBackend.drop n } := by
  have hsome : S.toBackend ≠ [] := List.ne_nil_of_length_pos (lt_of_lt_of_le hn.1 hn.2)
  cases h with
  | between hcli hbackend' hto => exact absurd hto.1 hsome
  | asking rest buf' hcli hbackend' hbytes hto hresults =>
    obtain rfl := BackendPhase.reading.inj (hbackend'.symm.trans hbackend)
    refine .asking rest (buf' ++ S.toBackend.take n) hcli rfl ?_ hto hresults
    rw [← hbytes]
    simp only [List.append_assoc]
    rw [← List.append_assoc (S.toBackend.take n), List.take_append_drop]
  | answering buf' rest before s resp hcli hbackend' hbytes hbuf hto => exact absurd hto hsome
  | failed before s hcli hbackend' => cases hbackend'.symm.trans hbackend
  | ended hcli hbackend' hto => exact absurd hto.1 hsome

/-- A line that the backend has read is the query, and all of it. -/
theorem Lockstep.handle (hs : Speaks serde service opts) (h : Lockstep serde service opts S)
    {buf : Bytes} (hbackend : S.backend = .reading buf) (hfeed : 0x0A ∈ buf) (s : σ) :
    Lockstep serde service opts (S.handle serde service buf s) := by
  have hne : buf ≠ [] := List.ne_nil_of_mem hfeed
  cases h with
  | between hcli hbackend' =>
    exact absurd (BackendPhase.reading.inj (hbackend'.symm.trans hbackend)).symm hne
  | asking rest buf' hcli hbackend' hbytes hto hresults =>
    obtain rfl := BackendPhase.reading.inj (hbackend'.symm.trans hbackend)
    rw [List.append_assoc] at hbytes
    obtain ⟨hline, hrest⟩ := (isLine_query opts).eq_of_mem hbytes hfeed
    obtain ⟨hto', rfl⟩ := List.append_eq_nil_iff.1 hrest
    have hcli : S.cli = .reading [] := hcli
    rw [hline]
    rcases Session.handle_query hs S s with ⟨resp, hanswer, hresp, heq⟩ | ⟨hanswer, heq⟩
    · generalize hreply : utf8 resp.reply = reply at heq
      rw [heq]
      exact .answering [] reply S.calls s resp hcli rfl (by simp [hto, hreply])
        List.not_mem_nil hto' rfl hanswer hresults
    · rw [heq]
      exact .failed S.calls s hcli rfl ⟨hto', hto⟩ rfl hanswer hresults
  | answering buf' rest before s' resp hcli hbackend' =>
    exact absurd (BackendPhase.sending_eq_reading.1 (hbackend'.symm.trans hbackend)).2.symm hne
  | failed before s' hcli hbackend' => cases hbackend'.symm.trans hbackend
  | ended hcli hbackend' =>
    rcases hbackend' with hbackend' | hbackend'
    · exact absurd (BackendPhase.reading.inj (hbackend'.symm.trans hbackend)).symm hne
    · cases hbackend'.symm.trans hbackend

/-- The backend writes part of its reply: the rest and what is on the way are
the reply still. -/
theorem Lockstep.reply (h : Lockstep serde service opts S) {buf rest : Bytes} (n : ℕ)
    (hbackend : S.backend = .writing buf rest) :
    Lockstep serde service opts { S with
      backend := .sending buf (rest.drop n), toCli := S.toCli ++ rest.take n } := by
  cases h with
  | between hcli hbackend' => cases hbackend'.symm.trans hbackend
  | asking rest buf' hcli hbackend' => cases hbackend'.symm.trans hbackend
  | answering buf' rest' before s resp hcli hbackend' hbytes hbuf hto hcalls hanswer hresults =>
    obtain ⟨⟨rfl, rfl⟩, -⟩ := BackendPhase.sending_eq_writing.1 (hbackend'.symm.trans hbackend)
    refine .answering buf' (rest'.drop n) before s resp hcli rfl ?_ hbuf hto hcalls hanswer hresults
    rw [← hbytes]
    simp only [List.append_assoc, List.take_append_drop]
  | failed before s hcli hbackend' => cases hbackend'.symm.trans hbackend
  | ended hcli hbackend' => rcases hbackend' with hbackend' | hbackend' <;>
      cases hbackend'.symm.trans hbackend

/-- Each ends of a session that is over. -/
theorem Lockstep.leave (h : Lockstep serde service opts S) (hcli : S.cli = .idle) :
    Lockstep serde service opts { S with cli := .stopped } := by
  cases h with
  | between _ hbackend hto hresults => exact .ended rfl (.inl hbackend) hto hresults
  | asking rest buf hcli' => exact absurd (hcli'.symm.trans hcli) (by simp)
  | answering buf rest before s resp hcli' => cases hcli'.symm.trans hcli
  | failed before s hcli' => cases hcli'.symm.trans hcli
  | ended hcli' => cases hcli'.symm.trans hcli

/-- Once the CLI has stopped the backend closes, with nothing left between
them. -/
theorem Lockstep.hangup (h : Lockstep serde service opts S) (hcli : S.cli = .stopped) :
    Lockstep serde service opts { S with backend := .closed } := by
  cases h with
  | between hcli' => cases hcli'.symm.trans hcli
  | asking rest buf hcli' => exact absurd (hcli'.symm.trans hcli) (by simp)
  | answering buf rest before s resp hcli' => cases hcli'.symm.trans hcli
  | failed before s hcli' => cases hcli'.symm.trans hcli
  | ended _ _ hto hresults => exact .ended hcli (.inr rfl) hto hresults

/-- **Every step keeps the two in step**: at most one query or reply is under
way, in the pieces that have been written and read of it. -/
theorem Lockstep.step (hs : Speaks serde service opts) (h : Lockstep serde service opts S)
    {a : SessionAct σ} (hstep : S.step serde service opts a = some S') :
    Lockstep serde service opts S' := by
  cases Session.move_of_step hstep with
  | query hcli => exact h.query hcli
  | send hcli => exact h.send _ hcli
  | receive hcli hn => exact h.receive hs hcli hn
  | eof hcli hbackend => exact h.eof hs hcli hbackend
  | leave hcli => exact h.leave hcli
  | fill hbackend hn => exact h.fill hbackend hn
  | handle hbackend hfeed s => exact h.handle hs hbackend hfeed s
  | reply hbackend => exact h.reply _ hbackend
  | hangup hcli => exact h.hangup hcli

/-- **The two parties are in step in every reachable state**, by induction on
the run with `Lockstep.step`. -/
theorem lockstep_of_reachable (hs : Speaks serde service opts)
    (h : (sessionSystem serde service opts).Reachable S) : Lockstep serde service opts S := by
  refine h.invariant ?_ fun S a S' hS hstep => hS.step hs hstep
  rintro S rfl
  exact .between rfl rfl ⟨rfl, rfl⟩ rfl

/-! ### Every query gets its result -/

/-- A query is under way. -/
def Session.InQuery (S : Session σ) : Prop := S.cli ≠ .idle ∧ S.cli ≠ .stopped

/-- Twice what is still to be written, and once what is still to be read. -/
def Session.pending (S : Session σ) : ℕ :=
  (match S.cli with
    | .writing rest => 2 * rest.length
    | _ => 0) + S.toBackend.length +
  (match S.backend with
    | .writing _ rest => 2 * rest.length
    | _ => 0) + S.toCli.length

/-- How far the query is after `n` results: not yet handled, handled, or through. -/
def Session.stage (n : ℕ) (S : Session σ) : ℕ :=
  if S.results.length = n then if S.calls.length = n then 2 else 1 else 0

/-- What every step of a query makes smaller. -/
def Session.variant (n : ℕ) (S : Session σ) : ℕ ×ₗ ℕ := toLex (S.stage n, S.pending)

/-- In one stage of the query, the variant falls with the bytes that are still
to be written or read. -/
theorem variant_lt_of_pending {n : ℕ} (hstage : S'.stage n = S.stage n)
    (hpending : S'.pending < S.pending) : S'.variant n < S.variant n :=
  Prod.Lex.toLex_lt_toLex.2 (.inr ⟨hstage, hpending⟩)

/-- The next stage has a smaller variant, whatever is pending in it. -/
theorem variant_lt_of_stage {n : ℕ} (hstage : S'.stage n < S.stage n) :
    S'.variant n < S.variant n := Prod.Lex.toLex_lt_toLex.2 (.inl hstage)

/-- A result ends the query. -/
theorem variant_finish {n : ℕ} (hn : S.results.length = n) (line : Bytes)
    (hresults : S'.results = S.results ++ [readReply serde line]) :
    S'.results.length = n + 1 ∧ S'.variant n < S.variant n := by
  have hlen : S'.results.length = n + 1 := by rw [hresults, List.length_append, hn]; rfl
  refine ⟨hlen, variant_lt_of_stage ?_⟩
  unfold Session.stage
  rw [if_neg (by omega), if_pos hn]
  split_ifs <;> omega

/-- **A query always goes on**: there is something to write, to read or to do,
on one side or the other. -/
theorem Lockstep.exists_step [Nonempty σ] (h : Lockstep serde service opts S) (hq : S.InQuery) :
    ∃ a S', S.step serde service opts a = some S' := by
  obtain ⟨s⟩ := ‹Nonempty σ›
  cases h with
  | between hcli => exact absurd hcli hq.1
  | asking rest buf hcli hbackend hbytes =>
    by_cases hrest : rest = []
    · subst hrest
      by_cases hfeed : 0x0A ∈ buf
      · exact ⟨.handle s, _, by rw [Session.step, hbackend]; exact if_pos hfeed⟩
      · have hsome : S.toBackend ≠ [] := by
          intro hnil
          rw [hnil, List.append_nil, List.append_nil] at hbytes
          obtain ⟨body, -, hbody⟩ := isLine_query opts
          exact hfeed (hbytes ▸ hbody ▸ List.mem_append_right _ (List.mem_singleton_self _))
        exact ⟨.fill 1, _, by
          rw [Session.step, hbackend]
          exact if_pos ⟨hfeed, one_pos, List.length_pos_iff.2 hsome⟩⟩
    · have hcli : S.cli = .writing rest := hcli.trans (if_neg hrest)
      exact ⟨.send 1, _, by
        rw [Session.step, hcli]
        exact if_pos ⟨one_pos, List.length_pos_iff.2 hrest⟩⟩
  | answering buf rest before s resp hcli hbackend hbytes hbuf =>
    by_cases hrest : rest = []
    · subst hrest
      have hsome : S.toCli ≠ [] := by
        intro hnil
        rw [hnil, List.append_nil, List.append_nil] at hbytes
        obtain ⟨body, -, hbody⟩ := isLine_reply resp
        exact hbuf (hbytes ▸ hbody ▸ List.mem_append_right _ (List.mem_singleton_self _))
      refine ⟨.receive 1, ?_⟩
      simp only [Session.step, hcli]
      rw [if_pos ⟨one_pos, List.length_pos_iff.2 hsome⟩]
      split_ifs
      · exact ⟨_, rfl⟩
      · exact ⟨_, rfl⟩
    · have hbackend : S.backend = .writing [] rest := hbackend.trans (if_neg hrest)
      exact ⟨.reply 1, _, by
        rw [Session.step, hbackend]
        exact if_pos ⟨one_pos, List.length_pos_iff.2 hrest⟩⟩
  | failed before s hcli hbackend hto =>
    exact ⟨.eof, _, by rw [Session.step, hcli, hbackend]; exact if_pos hto.2⟩
  | ended hcli => exact absurd hcli hq.2

/-- A line that the backend has read is the next one after the results. -/
theorem Lockstep.length_calls (h : Lockstep serde service opts S) {buf : Bytes}
    (hbackend : S.backend = .reading buf) (hfeed : 0x0A ∈ buf) :
    S.calls.length = S.results.length := by
  have hne : buf ≠ [] := List.ne_nil_of_mem hfeed
  cases h with
  | between _ _ _ hresults => rw [hresults, List.length_map]
  | asking _ _ _ _ _ _ hresults => rw [hresults, List.length_map]
  | answering buf' rest before s' resp hcli hbackend' =>
    exact absurd (BackendPhase.sending_eq_reading.1 (hbackend'.symm.trans hbackend)).2.symm hne
  | failed before s' hcli hbackend' => cases hbackend'.symm.trans hbackend
  | ended _ _ _ hresults => rw [hresults, List.length_map]

/-- What a CLI that sends has pending: each byte is to be written and to be
read. -/
theorem pending_cli_sending (rest : Bytes) :
    (match CliPhase.sending rest with
      | .writing rest => 2 * rest.length
      | _ => 0) = 2 * rest.length := by
  unfold CliPhase.sending
  split_ifs with h
  · rw [h]
    rfl
  · rfl

/-- What a backend that sends has pending, counted in the same way. -/
theorem pending_backend_sending (buf rest : Bytes) :
    (match BackendPhase.sending buf rest with
      | .writing _ rest => 2 * rest.length
      | _ => 0) = 2 * rest.length := by
  unfold BackendPhase.sending
  split_ifs with h
  · rw [h]
    rfl
  · rfl

/-- **Each step of a query** makes the variant smaller, and the query goes on or has its
result. -/
theorem Lockstep.variant_step {n : ℕ} (h : Lockstep serde service opts S) (hq : S.InQuery)
    (hn : S.results.length = n) {a : SessionAct σ}
    (hstep : S.step serde service opts a = some S') :
    (S'.results.length = n + 1 ∨ (S'.InQuery ∧ S'.results.length = n)) ∧
      S'.variant n < S.variant n := by
  cases Session.move_of_step hstep with
  | query hcli | leave hcli => exact absurd hcli hq.1
  | hangup hcli => exact absurd hcli hq.2
  | send hcli hk =>
    refine ⟨.inr ⟨⟨by simp, by simp⟩, hn⟩, variant_lt_of_pending rfl ?_⟩
    simp only [Session.pending, hcli, pending_cli_sending, List.length_append, List.length_take,
      List.length_drop]
    omega
  | receive hcli hk =>
    split_ifs
    · exact (variant_finish hn _ rfl).imp_left .inl
    · refine ⟨.inr ⟨⟨by simp, by simp⟩, hn⟩, variant_lt_of_pending rfl ?_⟩
      simp only [Session.pending, hcli, List.length_drop]
      omega
  | eof => exact (variant_finish hn _ rfl).imp_left .inl
  | fill hbackend hk =>
    refine ⟨.inr ⟨hq, hn⟩, variant_lt_of_pending rfl ?_⟩
    simp only [Session.pending, hbackend, List.length_drop]
    omega
  | handle hbackend hfeed s =>
    have hcalls := h.length_calls hbackend hfeed
    refine ⟨.inr ⟨hq, hn⟩, variant_lt_of_stage ?_⟩
    simp only [Session.stage, Session.handle, List.length_append, List.length_singleton]
    rw [if_pos hn, if_pos hn, if_pos (hcalls.trans hn), if_neg (by omega)]
    omega
  | reply hbackend hk =>
    refine ⟨.inr ⟨hq, hn⟩, variant_lt_of_pending rfl ?_⟩
    simp only [Session.pending, hbackend, pending_backend_sending, List.length_append,
      List.length_take, List.length_drop]
    omega

/-- The results are those of the first commands. -/
theorem Lockstep.results_first (h : Lockstep serde service opts S) :
    S.results <+: S.calls.map (answerIn serde service opts) := by
  cases h with
  | between _ _ _ hresults => exact hresults ▸ List.prefix_rfl
  | asking _ _ _ _ _ _ hresults => exact hresults ▸ List.prefix_rfl
  | answering _ _ before s _ _ _ _ _ _ hcalls _ hresults =>
    rw [hresults, hcalls, List.map_append]
    exact List.prefix_append _ _
  | failed before s _ _ _ hcalls _ hresults =>
    rw [hresults, hcalls, List.map_append]
    exact List.prefix_append _ _
  | ended _ _ _ hresults => exact hresults ▸ List.prefix_rfl

/-- At most one command has no result yet. -/
theorem Lockstep.length_calls_le (h : Lockstep serde service opts S) :
    S.calls.length ≤ S.results.length + 1 := by
  cases h with
  | between _ _ _ hresults => rw [hresults, List.length_map]; exact Nat.le_succ _
  | asking _ _ _ _ _ _ hresults => rw [hresults, List.length_map]; exact Nat.le_succ _
  | answering _ _ before s _ _ _ _ _ _ hcalls _ hresults =>
    rw [hresults, hcalls, List.length_map, List.length_append]
    exact le_rfl
  | failed before s _ _ _ hcalls _ hresults =>
    rw [hresults, hcalls, List.length_map, List.length_append]
    exact le_rfl
  | ended _ _ _ hresults => rw [hresults, List.length_map]; exact Nat.le_succ _

/-- **The CLI gets the answers to its queries**, one for each and in their order: whatever
pieces the bytes come in, and whatever becomes of the backend in between, the results so far
are those of the commands that were handled, at most the last of which is still on its way;
and between two queries there is nothing left over. -/
theorem session_answers (hs : Speaks serde service opts)
    (h : (sessionSystem serde service opts).Reachable S) :
    S.results <+: S.calls.map (answerIn serde service opts) ∧
      S.calls.length ≤ S.results.length + 1 ∧
      (S.cli = .idle → S.results.length = S.calls.length ∧ S.backend = .reading [] ∧
        S.toBackend = [] ∧ S.toCli = []) := by
  have hstep := lockstep_of_reachable hs h
  refine ⟨hstep.results_first, hstep.length_calls_le, fun hidle => ?_⟩
  cases hstep with
  | between _ hbackend hto hresults =>
    exact ⟨by rw [hresults, List.length_map], hbackend, hto⟩
  | asking rest buf hcli => exact absurd (hcli.symm.trans hidle) (by simp)
  | answering buf rest before s resp hcli => cases hcli.symm.trans hidle
  | failed before s hcli => cases hcli.symm.trans hidle
  | ended hcli => cases hcli.symm.trans hidle

/-- **Every query gets its result**, in every run of the session: some step
can always be taken, each makes the variant smaller, and none leads out of the
query but to its result. -/
theorem query_inevitable [Nonempty σ] (hs : Speaks serde service opts)
    (h : (sessionSystem serde service opts).Reachable S) (hq : S.InQuery) :
    (sessionSystem serde service opts).Inevitable
      (fun T => T.results.length = S.results.length + 1) S := by
  refine Lts.inevitable_of_variant (Session.variant S.results.length)
    (I := fun T => Lockstep serde service opts T ∧ (T.results.length = S.results.length + 1 ∨
      (T.InQuery ∧ T.results.length = S.results.length))) ?_ ?_
    ⟨lockstep_of_reachable hs h, .inr ⟨hq, rfl⟩⟩
  · rintro T ⟨hT, hor⟩ hnot
    exact hT.exists_step (hor.resolve_left hnot).1
  · rintro T a T' ⟨hT, hor⟩ hnot hstep
    obtain ⟨hqT, hn⟩ := hor.resolve_left hnot
    obtain ⟨hgoes, hlt⟩ := hT.variant_step hqT hn hstep
    exact ⟨⟨hT.step hs hstep, hgoes⟩, hlt⟩

/-- A whole query: the line goes to the backend, and the response comes back. -/
theorem reachable_answered (hs : Speaks serde service opts) {s s' : σ}
    {resp : Backend.QueryResponse}
    (hquery : service.query s opts.nodeFilter opts.userFilter = .ok (resp, s'))
    {results : List (Except String Backend.QueryResponse)} {calls : List σ}
    (h : (sessionSystem serde service opts).Reachable { results, calls }) :
    (sessionSystem serde service opts).Reachable
      { results := results ++ [.ok resp], calls := calls ++ [s] } := by
  have hfirst : (sessionSystem serde service opts).Reachable
      { cli := .sending (utf8 (buildQueryCommand opts)), results, calls } :=
    h.step (a := .query) rfl
  have hne := (isLine_query opts).ne_nil
  have hne' := (isLine_reply resp).ne_nil
  have hfeed : 0x0A ∈ utf8 (buildQueryCommand opts) := by
    obtain ⟨body, -, hbody⟩ := isLine_query opts
    exact hbody ▸ List.mem_append_right _ (List.mem_singleton_self _)
  have hfeed' : 0x0A ∈ utf8 resp.reply := by
    obtain ⟨body, -, hbody⟩ := isLine_reply resp
    exact hbody ▸ List.mem_append_right _ (List.mem_singleton_self _)
  have hhandle : (⟨.reading [], .reading (utf8 (buildQueryCommand opts)), [], [], results, calls⟩ :
      Session σ).handle serde service (utf8 (buildQueryCommand opts)) s =
        ⟨.reading [], .sending [] (utf8 resp.reply), [], [], results, calls ++ [s]⟩ := by
    rcases Session.handle_query hs ⟨.reading [], .reading (utf8 (buildQueryCommand opts)), [], [],
      results, calls⟩ s with ⟨resp', hanswer, -, heq⟩ | ⟨hanswer, -⟩
    · rw [answerIn, hquery] at hanswer
      rw [heq, Except.ok.inj hanswer]
    · rw [answerIn, hquery, readReply_nil hs.nothing] at hanswer
      cases hanswer
  have hread := readReply_line (hs.response s resp s' hquery)
  generalize utf8 (buildQueryCommand opts) = line at *
  generalize utf8 resp.reply = reply at *
  have hsent : (sessionSystem serde service opts).Reachable
      ⟨.reading [], .reading [], line, [], results, calls⟩ := by
    refine hfirst.step (a := .send line.length) ?_
    simp [sessionSystem, Lts.ofFn, Session.step, CliPhase.sending, hne, List.length_pos_iff.2 hne]
  have hfilled : (sessionSystem serde service opts).Reachable
      ⟨.reading [], .reading line, [], [], results, calls⟩ := by
    refine hsent.step (a := .fill line.length) ?_
    simp [sessionSystem, Lts.ofFn, Session.step, List.length_pos_iff.2 hne]
  have hhandled : (sessionSystem serde service opts).Reachable
      ⟨.reading [], .sending [] reply, [], [], results, calls ++ [s]⟩ := by
    refine hfilled.step (a := .handle s) ?_
    simp [sessionSystem, Lts.ofFn, Session.step, hfeed, hhandle]
  have hreplied : (sessionSystem serde service opts).Reachable
      ⟨.reading [], .reading [], [], reply, results, calls ++ [s]⟩ := by
    refine hhandled.step (a := .reply reply.length) ?_
    simp [sessionSystem, Lts.ofFn, Session.step, BackendPhase.sending, hne',
      List.length_pos_iff.2 hne']
  refine hreplied.step (a := .receive reply.length) ?_
  simp [sessionSystem, Lts.ofFn, Session.step, hfeed', List.length_pos_iff.2 hne', Session.finish,
    hread]

end Run

/-! ### Two queries of one user -/

/-- The service answers the query the first time and again. -/
theorem speaks_alice : Speaks aliceReader aliceService aliceQuery where
  request := decodes_aliceQuery
  response s resp s' h := by
    obtain rfl := (Prod.mk.inj (Except.ok.inj h)).1
    exact decodes_aliceAnswer s
  nothing := by
    have hfirst : "" ≠ aliceResponse.toJson.text := (text_obj_ne_empty _).symm
    have hsecond : "" ≠ aliceLater.toJson.text := (text_obj_ne_empty _).symm
    rw [parse_aliceReader, if_neg (text_obj_ne_empty _).symm, if_neg hfirst, if_neg hsecond]

/-- Both of Alice's queries are answered. -/
theorem reachable_aliceAnswered : (sessionSystem aliceReader aliceService aliceQuery).Reachable
    { results := [.ok aliceResponse, .ok aliceLater], calls := [false, true] } :=
  reachable_answered speaks_alice (s := true) rfl
    (reachable_answered speaks_alice (s := false) rfl (.of_init rfl))

/-- A session with two queries and two answers, the second of them a later
response. -/
theorem session_answers_alice :
    [.ok aliceResponse, .ok aliceLater] <+:
      [false, true].map (answerIn aliceReader aliceService aliceQuery) :=
  (session_answers speaks_alice reachable_aliceAnswered).1

/-- Alice's third query, before anything of it is written. -/
def aliceAsks : Session Bool where
  cli := .sending (utf8 (buildQueryCommand aliceQuery))
  results := [.ok aliceResponse, .ok aliceLater]
  calls := [false, true]

/-- The state in which both have been answered and the CLI asks a third time.
-/
theorem reachable_aliceAsks :
    (sessionSystem aliceReader aliceService aliceQuery).Reachable aliceAsks :=
  reachable_aliceAnswered.step (a := .query) rfl

/-- From there a third answer cannot be avoided. -/
theorem query_inevitable_alice :
    (sessionSystem aliceReader aliceService aliceQuery).Inevitable
      (fun T => T.results.length = 3) aliceAsks :=
  query_inevitable speaks_alice reachable_aliceAsks (by simp [Session.InQuery, aliceAsks])

end Cli
end Clustat
