/-
# Watch mode

`run_refresh_loop` and `write_stdout` of `crates/client-cli/src/main.rs`.  A round fetches a
response, makes a text of it and writes it; in watch mode there is another round after a
pause, until a fetch or a write fails, the reader of the output is gone, a text panics, or there
have been enough rounds.

With the session of `Clustat.Cli.Session` for its fetches, what has been shown are the answers
of the backend, one for each query and in their order (`watch_shows`).
-/

import Clustat.Cli.Screen
import Clustat.Cli.Session

namespace Clustat
namespace Cli

open Backend

/-- What becomes of a text that is written: `write_stdout`. -/
inductive Written
  | done
  | brokenPipe
  | failed (e : String)
  deriving DecidableEq, Repr

/-- How `run_refresh_loop` ends: it returns, or panics in `render_table`. -/
inductive Ending
  | returned (result : Except String ℕ)
  | panicked
  deriving DecidableEq

/-- What `run_refresh_loop` has done: the texts that were written in full, how often it has
slept, and how it has ended, if it has. -/
structure Rounds where
  shown : List (List Char) := []
  sleeps : ℕ := 0
  ended : Option Ending := none
  deriving DecidableEq

/-- The text of a round; `pretty` is `serde_json::to_string_pretty`. -/
def roundText (host : Host) (pretty : Backend.QueryResponse → Except String String)
    (opts : Args.CliOptions) (render : RenderOptions) (resp : Backend.QueryResponse) :
    Option (Except String (List Char)) :=
  let clear := if opts.watch then "\x1b[2J\x1b[H".toList else []
  if opts.json then
    match pretty resp with
    | .ok json => some (.ok (clear ++ json.toList ++ ['\n']))
    | .error e => some (.error ("encode JSON output failed: " ++ e))
  else (tableText host resp opts.userFilter render).map fun table => .ok (clear ++ table)

section Loop

variable (text : Backend.QueryResponse → Option (Except String (List Char))) (watch : Bool)
  (maxRounds : Option ℕ)

/-- `run_refresh_loop` after some rounds, from what is fetched and what becomes of the texts in
the rounds to come. -/
def runRefreshLoop :
    ℕ → List (Except String Backend.QueryResponse × Written) → Rounds
  | _, [] => {}
  | rounds, (fetched, written) :: rest =>
    match fetched with
    | .error e => { ended := some (.returned (.error e)) }
    | .ok resp =>
      match text resp with
      | none => { ended := some .panicked }
      | some (.error e) => { ended := some (.returned (.error e)) }
      | some (.ok out) =>
        match written with
        | .failed e => { ended := some (.returned (.error e)) }
        | .brokenPipe => { ended := some (.returned (.ok rounds)) }
        | .done =>
          if !watch || maxRounds.any (· ≤ rounds + 1) then
            { shown := [out], ended := some (.returned (.ok (rounds + 1))) }
          else
            let next := runRefreshLoop (rounds + 1) rest
            { next with shown := out :: next.shown, sleeps := next.sleeps + 1 }

variable {text watch maxRounds}

/-- **What has been shown** are the texts of the first responses; the number of rounds that is
returned is theirs, the loop sleeps between two of them, and as long as it goes on there is
one for each round. -/
theorem runRefreshLoop_spec (rounds : ℕ)
    (fetches : List (Except String Backend.QueryResponse × Written)) :
    let out := runRefreshLoop text watch maxRounds rounds fetches
    (∀ (i : ℕ) (shown : List Char), out.shown[i]? = some shown →
      ∃ resp w, fetches[i]? = some (.ok resp, w) ∧ text resp = some (.ok shown)) ∧
    (∀ n, out.ended = some (.returned (.ok n)) → n = rounds + out.shown.length) ∧
    (out.sleeps ≤ out.shown.length ∧ out.shown.length ≤ out.sleeps + 1) ∧
    (out.ended = none → out.shown.length = fetches.length) := by
  induction fetches generalizing rounds with
  | nil => simp [runRefreshLoop]
  | cons fetch rest ih =>
    obtain ⟨fetched, written⟩ := fetch
    cases fetched with
    | error e => simp [runRefreshLoop]
    | ok resp =>
      match htext : text resp with
      | none => simp [runRefreshLoop, htext]
      | some (.error e) => simp [runRefreshLoop, htext]
      | some (.ok out) =>
        cases written with
        | failed e => simp [runRefreshLoop, htext]
        | brokenPipe => simp [runRefreshLoop, htext]
        | done =>
          simp only [runRefreshLoop, htext]
          split_ifs with hlast
          · simp only [List.length_singleton, Option.some.injEq, Ending.returned.injEq,
              Except.ok.injEq]
            refine ⟨fun i shown hi => ?_, fun n hn => hn.symm, by omega, nofun⟩
            cases i with
            | zero =>
              exact ⟨resp, .done, rfl, htext.trans (by rw [Option.some.inj hi])⟩
            | succ i => exact nomatch hi
          · obtain ⟨hshown, hended, hsleeps, hall⟩ := ih (rounds + 1)
            refine ⟨fun i shown hi => ?_, fun n hn => ?_, ?_, fun hn => ?_⟩
            · cases i with
              | zero => exact ⟨resp, .done, rfl, htext.trans (by rw [Option.some.inj hi])⟩
              | succ i => exact hshown i shown hi
            · rw [hended n hn, List.length_cons]
              omega
            · rw [List.length_cons]
              dsimp only
              omega
            · rw [List.length_cons, List.length_cons, hall hn]

end Loop

/-- **Watch mode shows the answers of the backend.**  In every run of a session, whatever
becomes of the writes: the texts that have been shown are those of the answers to the first
commands that the backend has handled, in their order and none left out. -/
theorem watch_shows {σ : Type} {serde : SerdeJson} {service : Service σ} {opts : Args.CliOptions}
    (hs : Speaks serde service opts.toCliOptions) {S : Session σ}
    (h : (sessionSystem serde service opts.toCliOptions).Reachable S) (host : Host)
    (pretty : Backend.QueryResponse → Except String String) (render : RenderOptions)
    (maxRounds : Option ℕ) (written : List Written) :
    let text := roundText host pretty opts render
    let out := runRefreshLoop text opts.watch maxRounds 0 (S.results.zip written)
    (∀ (i : ℕ) (shown : List Char), out.shown[i]? = some shown → ∃ s resp, S.calls[i]? = some s ∧
      answerIn serde service opts.toCliOptions s = .ok resp ∧ text resp = some (.ok shown)) ∧
    (∀ n, out.ended = some (.returned (.ok n)) → n = out.shown.length) ∧
    (out.ended = none → out.shown.length = min S.results.length written.length) := by
  intro text out
  obtain ⟨hshown, hended, -, hall⟩ :=
    @runRefreshLoop_spec text opts.watch maxRounds 0 (S.results.zip written)
  refine ⟨fun i shown hi => ?_, fun n hn => ?_, fun hn => ?_⟩
  · obtain ⟨resp, w, hzip, htext⟩ := hshown i shown hi
    have hresult : S.results[i]? = some (.ok resp) := (List.getElem?_zip_eq_some.1 hzip).1
    obtain ⟨hi, hget⟩ := List.getElem?_eq_some_iff.1 hresult
    have hcall : (S.calls.map (answerIn serde service opts.toCliOptions))[i]? =
        some (.ok resp) :=
      (List.prefix_iff_getElem?.1 (lockstep_of_reachable hs h).results_first i hi).trans
        (congrArg some hget)
    rw [List.getElem?_map, Option.map_eq_some_iff] at hcall
    obtain ⟨s, hs, hanswer⟩ := hcall
    exact ⟨s, resp, hs, hanswer, htext⟩
  · rw [hended n hn, Nat.zero_add]
  · rw [hall hn, List.length_zip]

/-- Two rounds of watch mode, of the query that Alice has sent. -/
theorem watch_shows_alice :
    let opts : Args.CliOptions := { aliceQuery with watch := true }
    let text := roundText bareHost (fun _ => .error "") opts {}
    let out := runRefreshLoop text true none 0
      ([.ok aliceResponse, .ok aliceLater].zip [.done, .done])
    out.shown.length = 2 ∧ ∀ (i : ℕ) (shown : List Char), out.shown[i]? = some shown → ∃ s resp,
      [false, true][i]? = some s ∧ answerIn aliceReader aliceService aliceQuery s = .ok resp ∧
        text resp = some (.ok shown) := by
  intro opts text out
  have hs : Speaks aliceReader aliceService opts.toCliOptions := speaks_alice
  obtain ⟨hshown, -, hall⟩ := watch_shows hs reachable_aliceAnswered bareHost
    (fun _ => .error "") {} none [.done, .done]
  exact ⟨hall (by decide +kernel), hshown⟩

end Cli
end Clustat
