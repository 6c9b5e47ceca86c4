/-
# The local API

`handle_client` and `handle_command` of `crates/client-backend/src/local_api.rs`: a command
is a line, and so is the response to a query.  What the commands are about is behind
`Service`: the rows that `LIST` prints, and what `QUERY` does before it answers, which is to
reconcile discovery, to refresh what is stale, and to build the response.

A line that is `QUERY` and an object, with white space before, between and behind them, is
one command, and its payload is the text of the object (`handleClient_query`).
-/

import Clustat.Backend.Adapter
import Clustat.Common.Text

namespace Clustat
namespace Backend

/-- What the commands call. -/
structure Service (σ : Type) where
  list : σ → String
  query : σ → Option String → Option String → Except String (QueryResponse × σ)

variable {σ : Type}

/-- The response to a query, as it is written. -/
def QueryResponse.reply (resp : QueryResponse) : String := resp.toJson.text ++ "\n"

/-- `handle_command`: the response, or the error that ends the connection. -/
def handleCommand (serde : SerdeJson) (service : Service σ) (s : σ) (cmd : String) :
    Except String (String × σ) :=
  if cmd = "LIST" then .ok (service.list s, s)
  else
    match stripPrefix "QUERY" cmd with
    | some payload =>
      match parseQueryRequest serde (trim payload) with
      | .error e => .error e
      | .ok req =>
        match service.query s req.filter req.user with
        | .error e => .error e
        | .ok (resp, s) => .ok (resp.reply, s)
    | none => .ok ("ERR unsupported command: " ++ cmd ++ "\n", s)

/-- The loop of `handle_client`, from the lines that are left: the responses that are
written, and what it returns. -/
def handleLines (serde : SerdeJson) (service : Service σ) :
    σ → List Bytes → List String × Except String σ
  | s, [] => ([], .ok s)
  | s, line :: rest =>
    match fromUtf8 line with
    | none => ([], .error "read request failed: stream did not contain valid UTF-8")
    | some line =>
      match handleCommand serde service s (trim line) with
      | .error e => ([], .error e)
      | .ok (response, s) =>
        let (responses, result) := handleLines serde service s rest
        (response :: responses, result)

/-- `handle_client`, from all that the client sends. -/
def handleClient (serde : SerdeJson) (service : Service σ) (s : σ) (bytes : Bytes) :
    List String × Except String σ :=
  handleLines serde service s (lines bytes)

/-- The text of an object ends with its brace, which is not white space. -/
theorem getLast?_append_obj {front : List Char} {fields : List (String × Json)} :
    ∀ c ∈ (front ++ (Json.obj fields).toText).getLast?, isWhitespace c = false := by
  have hclose : isWhitespace '\x7d' = false := by decide
  intro c hc
  rw [Json.toText, ← List.append_assoc, List.getLast?_append] at hc
  obtain rfl : '\x7d' = c := by simpa using hc
  exact hclose

/-- The text of an object is what `trim` leaves of it between white space. -/
theorem trim_obj {w w' : List Char} (hw : ∀ c ∈ w, isWhitespace c = true)
    (hw' : ∀ c ∈ w', isWhitespace c = true) (fields : List (String × Json)) :
    trim (.ofList (w ++ (Json.obj fields).toText ++ w')) = (Json.obj fields).text := by
  have hopen : isWhitespace '\x7b' = false := by decide
  refine trim_of_ends hw hw' ?_ (@getLast?_append_obj [] fields)
  simp [Json.toText, hopen]

/-- The text of an object is not blank. -/
theorem text_obj_ne_empty (fields : List (String × Json)) : (Json.obj fields).text ≠ "" := by
  intro h
  have hlist := congrArg String.toList h
  simp [Json.text, Json.toText] at hlist

/-- The line of a query with an object. -/
def queryLine (fields : List (String × Json)) : String :=
  "QUERY " ++ (Json.obj fields).text ++ "\n"

/-- A query is the command whose payload is the text of the object. -/
theorem handleCommand_query (serde : SerdeJson) (service : Service σ) (s : σ)
    (fields : List (String × Json)) :
    handleCommand serde service s (trim (queryLine fields)) =
      match parseQueryRequest serde (Json.obj fields).text with
      | .error e => .error e
      | .ok req =>
        match service.query s req.filter req.user with
        | .error e => .error e
        | .ok (resp, s) => .ok (resp.reply, s) := by
  have hspace : ∀ c ∈ [' '], isWhitespace c = true := List.forall_mem_singleton.2 rfl
  have hfeed : ∀ c ∈ ['\n'], isWhitespace c = true := List.forall_mem_singleton.2 rfl
  have hQ : isWhitespace 'Q' = false := by decide
  have hline : queryLine fields =
      .ofList ([] ++ ("QUERY ".toList ++ (Json.obj fields).toText) ++ ['\n']) := by
    apply String.toList_injective
    simp [queryLine, Json.text]
  have htrim : trim (queryLine fields) =
      .ofList ("QUERY".toList ++ (' ' :: (Json.obj fields).toText)) := by
    rw [hline, trim_of_ends (List.forall_mem_nil _) hfeed (by simp [hQ]) getLast?_append_obj]
    rfl
  have hpayload : trim (.ofList (' ' :: (Json.obj fields).toText)) = (Json.obj fields).text := by
    simpa using trim_obj hspace (List.forall_mem_nil _) fields
  have hlist : String.ofList ("QUERY".toList ++ (' ' :: (Json.obj fields).toText)) ≠ "LIST" := by
    intro h
    have hhead := congrArg (fun s => s.toList.head?) h
    simp at hhead
  rw [htrim, handleCommand, if_neg hlist, stripPrefix_append]
  simp only [hpayload]

/-- A query is one line. -/
theorem lines_queryLine {fields : List (String × Json)} (hinline : (Json.obj fields).Inline)
    (rest : Bytes) :
    lines (utf8 (queryLine fields) ++ rest) = utf8 (queryLine fields) :: lines rest := by
  have htext : '\n' ∉ (Json.obj fields).toText := hinline
  exact lines_utf8 (by simp [Json.text, htext]) rest

/-- **A query is one command**: the line is read as a whole, whatever comes behind it, and
the payload is the text of the object. -/
theorem handleClient_query (serde : SerdeJson) (service : Service σ) (s : σ)
    {fields : List (String × Json)} (hinline : (Json.obj fields).Inline) (rest : Bytes) :
    handleClient serde service s (utf8 (queryLine fields) ++ rest) =
      match parseQueryRequest serde (Json.obj fields).text with
      | .error e => ([], .error e)
      | .ok req =>
        match service.query s req.filter req.user with
        | .error e => ([], .error e)
        | .ok (resp, s) =>
          let (responses, result) := handleClient serde service s rest
          (resp.reply :: responses, result) := by
  rw [handleClient, lines_queryLine hinline, handleLines, fromUtf8_utf8]
  simp only [handleCommand_query]
  cases parseQueryRequest serde (Json.obj fields).text with
  | error e => rfl
  | ok req =>
    simp only
    cases service.query s req.filter req.user with
    | error e => rfl
    | ok r => rfl

end Backend
end Clustat
