/-
# What the CLI prints

The text that `render_table` of `crates/client-cli/src/render.rs` makes of a response.  It is
that of the nodes and rows which `renderTable` picks out (`tableText_eq`), a line each
(`count_lines`), with the names of all rows in a column of one width (`nameCell_spec`).
With colours, the same is to be seen as without (`tableText_color`).

The width of that column is one of the options, or the length of the longest name, and
`format!` takes widths up to 65535.  For a wider column there is no text: the CLI panics.
-/

import Clustat.Cli.Args
import Clustat.Cli.Render
import Clustat.Lib.Ansi
import Clustat.Lib.Checked
import Clustat.Lib.Numeral

namespace Clustat
namespace Cli

open Backend Ansi

/-- `RenderOptions`. -/
structure RenderOptions where
  color : Bool := false
  showHeader : Bool := true
  noProcesses : Bool := false
  showCmd : Bool := false
  showUser : Bool := false
  showPid : Bool := false
  gresnameWidth : Option ℕ := none
  latencyDisplay : Bool := true
  deriving DecidableEq, Repr

/-- `latency_display_from_options`, with what the configuration file says, if there is one. -/
def latencyDisplayFromOptions (opts : Args.CliOptions) (configured : Option Bool) : Bool :=
  (opts.latencyDisplay.or configured).getD true

/-- `RenderOptions::from_cli`. -/
def RenderOptions.fromCli (opts : Args.CliOptions) (isTerminal : Bool)
    (configured : Option Bool) : RenderOptions where
  color := opts.forceColor || (!opts.noColor && isTerminal)
  showHeader := opts.showHeader
  noProcesses := opts.noProcesses
  showCmd := opts.showCmd
  showUser := opts.showUser
  showPid := opts.showPid
  gresnameWidth := opts.gresnameWidth
  latencyDisplay := latencyDisplayFromOptions opts configured

/-- What a machine tells the CLI: the line of `getent passwd` for a uid, and a time in its time
zone, as `%a %b %e %H:%M:%S %Y`. -/
structure Host where
  getent : UInt32 → Option String
  localTime : Int64 → Option String

/-! ### Colours -/

/-- `Palette::paint`. -/
def paint (enabled : Bool) (code text : List Char) : List Char :=
  if enabled then
    '\x1b' :: ('[' :: code ++ ['m']) ++ (text ++ '\x1b' :: ("[0;10".toList ++ ['m']))
  else text

def boldWhite (enabled : Bool) := paint enabled "1;37".toList
def boldBlack (enabled : Bool) := paint enabled "1;30".toList
def boldRed (enabled : Bool) := paint enabled "1;31".toList
def red (enabled : Bool) := paint enabled "31".toList
def blue (enabled : Bool) := paint enabled "34".toList
def cyan (enabled : Bool) := paint enabled "36".toList
def green (enabled : Bool) := paint enabled "32".toList
def boldGreen (enabled : Bool) := paint enabled "1;32".toList
def yellow (enabled : Bool) := paint enabled "33".toList
def boldYellow (enabled : Bool) := paint enabled "1;33".toList

/-! ### Cells -/

/-- A number in decimal. -/
def decimal (n : ℕ) : List Char := Nat.toDigits 10 n

/-- `{:.2}` of a number that is not negative: its nearest hundredth. -/
def twoPlaces (x : ℚ) : List Char :=
  let hundredths := (Binary.roundTiesEven (x * 100)).toNat
  decimal (hundredths / 100) ++ '.' :: (decimal (hundredths % 100)).leftpad 2 '0'

/-- `format_delay`. -/
def formatDelay : Option UInt64 → Option (List Char)
  | none => none
  | some delayUs =>
    if delayUs < 1000 then some (decimal delayUs.toNat ++ "us".toList)
    else
      let delayMs := Binary.binary64.round (Binary.binary64.round delayUs.toNat / 1000)
      some (twoPlaces delayMs ++ "ms".toList)

/-- `format_snapshot_time`. -/
def formatSnapshotTime (host : Host) (timestampMs : Int64) : List Char :=
  ((host.localTime timestampMs).getD "??? ?? ?? ??:??:?? ????").toList

/-- `shorten_left`. -/
def shortenLeft (value : List Char) (width : ℕ) : List Char :=
  if width = 0 then []
  else if value.length ≤ width then value
  else if width = 1 then ['…']
  else '…' :: ((value.reverse.take (width - 1)).reverse)

/-- The name of a resource, as it is printed. -/
def gresName (gres : GresView) : List Char :=
  if trim gres.name = "" then "GPU".toList else gres.name.toList

/-- `DEFAULT_GRESNAME_WIDTH`. -/
def DEFAULT_GRESNAME_WIDTH : ℕ := 16

/-- `gresname_width`. -/
def gresnameWidth (host : Host) (resp : Backend.QueryResponse) (userFilter : Option String) :
    Option ℕ → ℕ
  | some width => width
  | none =>
    let shown := (resp.nodes.flatMap NodeView.gres).filter (shouldRenderGres host.getent userFilter)
    let lengths := shown.map fun gres =>
      if trim gres.name = "" then 3 else gres.name.toList.length
    max (lengths.max?.getD DEFAULT_GRESNAME_WIDTH) DEFAULT_GRESNAME_WIDTH

/-! ### Lines -/

/-- `usize::MAX`. -/
def USIZE_MAX : ℕ := 18446744073709551615

/-- `format_process`. -/
def formatProcess (host : Host) (opts : RenderOptions) (process : ProcessView) : List Char :=
  let user := if !opts.showCmd || opts.showUser then
    boldBlack opts.color (displayUsername host.getent process).toList else []
  let command := ((process.command.map trim).filter (· ≠ "")).getD "--"
  user ++
    (if opts.showCmd then
      (if user = [] then [] else [':']) ++ cyan opts.color command.toList
    else []) ++
    (if opts.showPid then '/' :: decimal process.pid.toNat else []) ++
    '(' :: (yellow opts.color (decimal process.usedMemoryMb.toNat ++ ['M']) ++ [')'])

/-- The width of a hostname in its header. -/
def headerWidth (nameWidth : ℕ) : ℕ :=
  max (min (nameWidth + 3) USIZE_MAX) (DEFAULT_GRESNAME_WIDTH + 3)

/-- `render_node_header`, with its line feed. -/
def nodeHeaderText (host : Host) (opts : RenderOptions) (nameWidth : ℕ) (node : NodeView) :
    Option (List Char) := do
  let width ← Checked.formatWidth (headerWidth nameWidth)
  return boldWhite opts.color (node.hostname.toList.rightpad width ' ') ++
    "  ".toList ++ formatSnapshotTime host node.timestampMs ++
    (match node.driverVersion.filter (trim · ≠ "") with
      | some driver => "  ".toList ++ boldBlack opts.color driver.toList
      | none => []) ++
    (match if opts.latencyDisplay then formatDelay node.delayUs else none with
      | some delay => "  ".toList ++ cyan opts.color ("delay=".toList ++ delay)
      | none => []) ++
    (if node.stale then ' ' :: boldRed opts.color "stale".toList else []) ++
    (match node.error with
      | some error => "  ".toList ++ error.toList
      | none => []) ++ ['\n']

/-- The name of a resource in its column. -/
def nameCell (nameWidth : ℕ) (gres : GresView) : Option (List Char) :=
  (Checked.formatWidth nameWidth).map fun width =>
    (shortenLeft (gresName gres) nameWidth).rightpad width ' '

/-- `render_gres_row`, with its line feed. -/
def gresRowText (host : Host) (opts : RenderOptions) (nameWidth : ℕ) (row : Row) :
    Option (List Char) := do
  let gres := row.gres
  let temp := (match gres.temperatureC with
    | some value => (decimal value.toNat).leftpad 3 ' '
    | none => " ??".toList) ++ "°C".toList
  let util := (decimal gres.util.toNat).leftpad 3 ' ' ++ " %".toList
  let name ← (if opts.gresnameWidth ≠ some 0 then
    (nameCell nameWidth gres).map fun cell => blue opts.color cell ++ " |".toList
  else some [])
  return cyan opts.color ('[' :: (decimal gres.index.toNat ++ [']'])) ++ [' '] ++ name ++
    (if gres.temperatureC.any (50 ≤ ·) then boldRed opts.color temp else red opts.color temp) ++
    ", ".toList ++
    (if 30 ≤ gres.util then boldGreen opts.color util else green opts.color util) ++
    " | ".toList ++
    boldYellow opts.color ((decimal gres.memUsedMb.toNat).leftpad 5 ' ') ++ " / ".toList ++
    yellow opts.color ((decimal gres.memTotalMb.toNat).leftpad 5 ' ') ++ " MB".toList ++
    (if !opts.noProcesses then
      " |".toList ++ row.processes.flatMap fun process => ' ' :: formatProcess host opts process
    else []) ++ ['\n']

/-- What is printed of a node of the table. -/
def nodeText (host : Host) (opts : RenderOptions) (nameWidth : ℕ) (entry : NodeView × List Row) :
    Option (List Char) := do
  let header ← (if opts.showHeader then nodeHeaderText host opts nameWidth entry.1 else some [])
  let rows ← entry.2.mapM (gresRowText host opts nameWidth)
  return header ++ rows.flatten

/-- `render_table`. -/
def tableText (host : Host) (resp : Backend.QueryResponse) (userFilter : Option String)
    (opts : RenderOptions) : Option (List Char) :=
  let nameWidth := gresnameWidth host resp userFilter opts.gresnameWidth
  (resp.nodes.mapM fun node =>
    let visibleGres := node.gres.filter (shouldRenderGres host.getent userFilter)
    if visibleGres.isEmpty && !node.stale then some []
    else
      nodeText host opts nameWidth
        (node, visibleGres.map (renderGresRow host.getent userFilter))).map List.flatten

section Table

variable {host : Host} {resp : Backend.QueryResponse} {userFilter : Option String}
  {opts : RenderOptions}

/-- **The text is that of the table**, node by node: the nodes that are shown,
each with its rows, or a panic if the text of one panics. -/
theorem tableText_eq :
    tableText host resp userFilter opts =
      ((renderTable host.getent userFilter resp).mapM
        (nodeText host opts (gresnameWidth host resp userFilter opts.gresnameWidth))).map
          List.flatten := by
  rw [tableText, renderTable, ← Checked.mapM_filterMap]
  congr 2
  funext node
  dsimp only
  split_ifs <;> rfl

end Table

/-! ### Spans of one colour -/

/-- A part of a line, with its colour if it has one. -/
structure Span where
  code : Option (List Char) := none
  text : List Char

/-- A part of a line as it is printed. -/
def Span.print (enabled : Bool) (span : Span) : List Char :=
  match span.code with
  | some code => paint enabled code span.text
  | none => span.text

/-- The parts of `format_process`. -/
def processSpans (host : Host) (opts : RenderOptions) (process : ProcessView) : List Span :=
  let name := (displayUsername host.getent process).toList
  let command := ((process.command.map trim).filter (· ≠ "")).getD "--"
  (if !opts.showCmd || opts.showUser then [⟨some "1;30".toList, name⟩] else []) ++
    (if opts.showCmd then
      (if opts.showUser then [⟨none, [':']⟩] else []) ++ [⟨some "36".toList, command.toList⟩]
    else []) ++
    (if opts.showPid then [⟨none, '/' :: decimal process.pid.toNat⟩] else []) ++
    [⟨none, ['(']⟩, ⟨some "33".toList, decimal process.usedMemoryMb.toNat ++ ['M']⟩, ⟨none, [')']⟩]

/-- The parts of `render_node_header`. -/
def nodeHeaderSpans (host : Host) (opts : RenderOptions) (nameWidth : ℕ) (node : NodeView) :
    List Span :=
  [⟨some "1;37".toList, node.hostname.toList.rightpad (headerWidth nameWidth) ' '⟩, ⟨none, "  ".toList⟩,
    ⟨none, formatSnapshotTime host node.timestampMs⟩] ++
    (match node.driverVersion.filter (trim · ≠ "") with
      | some driver => [⟨none, "  ".toList⟩, ⟨some "1;30".toList, driver.toList⟩]
      | none => []) ++
    (match if opts.latencyDisplay then formatDelay node.delayUs else none with
      | some delay => [⟨none, "  ".toList⟩, ⟨some "36".toList, "delay=".toList ++ delay⟩]
      | none => []) ++
    (if node.stale then [⟨none, [' ']⟩, ⟨some "1;31".toList, "stale".toList⟩] else []) ++
    (match node.error with
      | some error => [⟨none, "  ".toList⟩, ⟨none, error.toList⟩]
      | none => [])

/-- A name in a column. -/
def nameColumn (nameWidth : ℕ) (gres : GresView) : List Char :=
  (shortenLeft (gresName gres) nameWidth).rightpad nameWidth ' '

/-- The parts of `render_gres_row`. -/
def gresRowSpans (host : Host) (opts : RenderOptions) (nameWidth : ℕ) (row : Row) : List Span :=
  let gres := row.gres
  let temp := (match gres.temperatureC with
    | some value => (decimal value.toNat).leftpad 3 ' '
    | none => " ??".toList) ++ "°C".toList
  let util := (decimal gres.util.toNat).leftpad 3 ' ' ++ " %".toList
  [⟨some "36".toList, '[' :: (decimal gres.index.toNat ++ [']'])⟩, ⟨none, [' ']⟩] ++
    (if opts.gresnameWidth ≠ some 0 then
      [⟨some "34".toList, nameColumn nameWidth gres⟩, ⟨none, " |".toList⟩]
    else []) ++
    [⟨some (if gres.temperatureC.any (50 ≤ ·) then "1;31".toList else "31".toList), temp⟩,
      ⟨none, ", ".toList⟩,
      ⟨some (if 30 ≤ gres.util then "1;32".toList else "32".toList), util⟩, ⟨none, " | ".toList⟩,
      ⟨some "1;33".toList, (decimal gres.memUsedMb.toNat).leftpad 5 ' '⟩, ⟨none, " / ".toList⟩,
      ⟨some "33".toList, (decimal gres.memTotalMb.toNat).leftpad 5 ' '⟩, ⟨none, " MB".toList⟩] ++
    (if !opts.noProcesses then
      ⟨none, " |".toList⟩ ::
        row.processes.flatMap fun process => ⟨none, [' ']⟩ :: processSpans host opts process
    else [])

section Spans

variable {host : Host} {opts : RenderOptions}

/-- A user has a name in the table, if only the number. -/
theorem usernameForUid_ne_empty (getent : UInt32 → Option String) (uid : UInt32) :
    usernameForUid getent uid ≠ "" := by
  unfold usernameForUid
  split_ifs
  · decide
  · decide
  · cases hname : resolveUsernameForUid getent uid with
    | some name =>
      obtain ⟨line, -, h⟩ := Option.bind_eq_some_iff.1 hname
      dsimp only at h
      split_ifs at h with hempty
      exact Option.some.inj h ▸ hempty
    | none =>
      rw [Option.getD_none]
      intro h
      have hdigits : (toString uid.toNat).toList = Nat.toDigits 10 uid.toNat := by simp
      rw [h] at hdigits
      exact Nat.toDigits_ne_nil hdigits.symm

/-- A process is always shown with a name. -/
theorem displayUsername_ne_empty (getent : UInt32 → Option String) (process : ProcessView) :
    displayUsername getent process ≠ "" := by
  rw [displayUsername]
  split_ifs with h
  · exact h.1
  · exact usernameForUid_ne_empty getent process.uid

/-- Painting a text does not make it empty. -/
theorem paint_ne_nil (enabled : Bool) (code : List Char) {text : List Char} (h : text ≠ []) :
    paint enabled code text ≠ [] := by
  unfold paint
  split_ifs
  · simp
  · exact h

/-- A process is printed as its spans, one after the other. -/
theorem formatProcess_eq (process : ProcessView) :
    formatProcess host opts process =
      (processSpans host opts process).flatMap (Span.print opts.color) := by
  have hname : (displayUsername host.getent process).toList ≠ [] := fun h =>
    displayUsername_ne_empty host.getent process (String.toList_eq_nil_iff.1 h)
  have huser : paint opts.color ['1', ';', '3', '0']
      (displayUsername host.getent process).toList ≠ [] := paint_ne_nil _ _ hname
  rw [formatProcess, processSpans]
  cases opts.showCmd <;> cases opts.showUser <;> cases opts.showPid <;>
    simp [Span.print, huser, boldBlack, cyan, yellow]

/-- The parts of a line, and its line feed. -/
def lineText (opts : RenderOptions) (spans : List Span) : List Char :=
  spans.flatMap (Span.print opts.color) ++ ['\n']

/-- **The header of a node is one line**, or a panic where its width does not
fit 16 bits. -/
theorem nodeHeaderText_eq (nameWidth : ℕ) (node : NodeView) :
    nodeHeaderText host opts nameWidth node =
      if headerWidth nameWidth < 2 ^ 16 then
        some (lineText opts (nodeHeaderSpans host opts nameWidth node))
      else none := by
  have hdriver : (match node.driverVersion.filter (trim · ≠ "") with
      | some driver => "  ".toList ++ boldBlack opts.color driver.toList
      | none => []) = (match node.driverVersion.filter (trim · ≠ "") with
      | some driver => [(⟨none, "  ".toList⟩ : Span), ⟨some "1;30".toList, driver.toList⟩]
      | none => []).flatMap (Span.print opts.color) := by
    cases node.driverVersion.filter (trim · ≠ "") <;> simp [Span.print, boldBlack]
  have hdelay : (match if opts.latencyDisplay then formatDelay node.delayUs else none with
      | some delay => "  ".toList ++ cyan opts.color ("delay=".toList ++ delay)
      | none => []) = (match if opts.latencyDisplay then formatDelay node.delayUs else none with
      | some delay => [(⟨none, "  ".toList⟩ : Span), ⟨some "36".toList, "delay=".toList ++ delay⟩]
      | none => []).flatMap (Span.print opts.color) := by
    cases (if opts.latencyDisplay then formatDelay node.delayUs else none) <;>
      simp [Span.print, cyan]
  have hstale : (if node.stale then ' ' :: boldRed opts.color "stale".toList else []) =
      (if node.stale then [(⟨none, [' ']⟩ : Span), ⟨some "1;31".toList, "stale".toList⟩]
        else []).flatMap (Span.print opts.color) := by
    cases node.stale <;> simp [Span.print, boldRed]
  have herror : (match node.error with
      | some error => "  ".toList ++ error.toList
      | none => []) = (match node.error with
      | some error => [(⟨none, "  ".toList⟩ : Span), ⟨none, error.toList⟩]
      | none => []).flatMap (Span.print opts.color) := by
    cases node.error <;> simp [Span.print]
  rw [nodeHeaderText, hdriver, hdelay, hstale, herror]
  by_cases hwidth : headerWidth nameWidth < 2 ^ 16
  · rw [if_pos hwidth, Checked.formatWidth_of_lt hwidth, lineText, nodeHeaderSpans]
    simp only [Option.bind_eq_bind, Option.bind_some, Option.pure_def, List.flatMap_append,
      List.flatMap_cons, List.flatMap_nil, List.append_nil, List.append_assoc, Span.print,
      boldWhite]
  · rw [if_neg hwidth, Checked.formatWidth_of_le (Nat.not_lt.1 hwidth)]
    rfl

/-- **The row of a device is one line**, or a panic where its name is printed
in a column whose width does not fit 16 bits; a width of 0 leaves the column
out. -/
theorem gresRowText_eq (nameWidth : ℕ) (row : Row) :
    gresRowText host opts nameWidth row =
      if opts.gresnameWidth ≠ some 0 → nameWidth < 2 ^ 16 then
        some (lineText opts (gresRowSpans host opts nameWidth row))
      else none := by
  have hprocesses : (row.processes.flatMap fun process => ' ' :: formatProcess host opts process) =
      (row.processes.flatMap fun process => (⟨none, [' ']⟩ : Span) ::
        processSpans host opts process).flatMap (Span.print opts.color) := by
    rw [List.flatMap_assoc]
    refine List.flatMap_congr fun process _ => ?_
    rw [List.flatMap_cons, ← formatProcess_eq]
    rfl
  have hname : (if opts.gresnameWidth ≠ some 0 then
      (nameCell nameWidth row.gres).map fun cell => blue opts.color cell ++ " |".toList
      else some []) =
      if opts.gresnameWidth ≠ some 0 → nameWidth < 2 ^ 16 then
        some ((if opts.gresnameWidth ≠ some 0 then
          [(⟨some "34".toList, nameColumn nameWidth row.gres⟩ : Span), ⟨none, " |".toList⟩]
        else []).flatMap (Span.print opts.color))
      else none := by
    by_cases hshown : opts.gresnameWidth ≠ some 0
    · rw [if_pos hshown, if_pos hshown, nameCell]
      split_ifs with hwidth
      · rw [Checked.formatWidth_of_lt (hwidth hshown)]
        simp [Span.print, blue, nameColumn]
      · rw [Checked.formatWidth_of_le (Nat.not_lt.1 fun h => hwidth fun _ => h)]
        rfl
    · rw [if_neg hshown, if_neg hshown, if_pos fun h => absurd h hshown]
      rfl
  have hlist : (if !opts.noProcesses then " |".toList ++
      row.processes.flatMap fun process => ' ' :: formatProcess host opts process else []) =
      (if !opts.noProcesses then ⟨none, " |".toList⟩ :: row.processes.flatMap fun process =>
        (⟨none, [' ']⟩ : Span) :: processSpans host opts process
      else []).flatMap (Span.print opts.color) := by
    rw [hprocesses]
    split_ifs <;> simp [Span.print]
  have hcolor : ∀ {p : Prop} [Decidable p] (a b text : List Char),
      (if p then paint opts.color a text else paint opts.color b text) =
        paint opts.color (if p then a else b) text := by
    intro p _ a b text
    split_ifs <;> rfl
  rw [gresRowText, hname, hlist]
  by_cases hwidth : opts.gresnameWidth ≠ some 0 → nameWidth < 2 ^ 16
  · rw [if_pos hwidth, if_pos hwidth, lineText, gresRowSpans]
    simp only [Option.bind_eq_bind, Option.bind_some, Option.pure_def, List.flatMap_append,
      List.flatMap_cons, List.flatMap_nil, List.append_nil, List.append_assoc, Span.print, cyan,
      boldRed, red, boldGreen, green, boldYellow, yellow, hcolor]
  · rw [if_neg hwidth, if_neg hwidth]
    rfl

/-- The lines of a node. -/
def nodeLines (host : Host) (opts : RenderOptions) (nameWidth : ℕ) (entry : NodeView × List Row) :
    List Char :=
  (if opts.showHeader then lineText opts (nodeHeaderSpans host opts nameWidth entry.1) else []) ++
    entry.2.flatMap fun row => lineText opts (gresRowSpans host opts nameWidth row)

/-- The widths that `format!` is given for a node are not too large. -/
def WidthsFit (opts : RenderOptions) (nameWidth : ℕ) (entry : NodeView × List Row) : Prop :=
  (opts.showHeader = true → headerWidth nameWidth < 2 ^ 16) ∧
    ∀ _row ∈ entry.2, opts.gresnameWidth ≠ some 0 → nameWidth < 2 ^ 16

instance (opts : RenderOptions) (nameWidth : ℕ) :
    DecidablePred (WidthsFit opts nameWidth) := fun _ => inferInstanceAs (Decidable (_ ∧ _))

/-- A node is its header and its rows, or a panic where a width among them
does not fit. -/
theorem nodeText_eq (nameWidth : ℕ) (entry : NodeView × List Row) :
    nodeText host opts nameWidth entry =
      if WidthsFit opts nameWidth entry then some (nodeLines host opts nameWidth entry)
      else none := by
  have hheader : (if opts.showHeader then nodeHeaderText host opts nameWidth entry.1
      else some []) = if opts.showHeader = true → headerWidth nameWidth < 2 ^ 16 then
        some (if opts.showHeader then lineText opts (nodeHeaderSpans host opts nameWidth entry.1)
          else []) else none := by
    cases opts.showHeader with
    | true => simpa using nodeHeaderText_eq nameWidth entry.1
    | false => rfl
  have hrows : entry.2.mapM (gresRowText host opts nameWidth) =
      if ∀ _row ∈ entry.2, opts.gresnameWidth ≠ some 0 → nameWidth < 2 ^ 16 then
        some (entry.2.map fun row => lineText opts (gresRowSpans host opts nameWidth row))
      else none := by
    rw [← Checked.mapM_ite]
    exact congrArg (entry.2.mapM ·) (funext (gresRowText_eq nameWidth))
  rw [nodeText, hheader, hrows, nodeLines, List.flatMap_def]
  by_cases hfirst : opts.showHeader = true → headerWidth nameWidth < 2 ^ 16
  · by_cases hrest : ∀ _row ∈ entry.2, opts.gresnameWidth ≠ some 0 → nameWidth < 2 ^ 16
    · have hfit : WidthsFit opts nameWidth entry := ⟨hfirst, hrest⟩
      rw [if_pos hfirst, if_pos hrest, if_pos hfit]
      rfl
    · have hfit : ¬WidthsFit opts nameWidth entry := fun h => hrest h.2
      rw [if_pos hfirst, if_neg hrest, if_neg hfit]
      rfl
  · have hfit : ¬WidthsFit opts nameWidth entry := fun h => hfirst h.1
    rw [if_neg hfirst, if_neg hfit]
    rfl

end Spans

section Table

variable {host : Host} {resp : Backend.QueryResponse} {userFilter : Option String}
  {opts : RenderOptions}

/-- The widths of a table are not too large. -/
def Fits (host : Host) (resp : Backend.QueryResponse) (userFilter : Option String)
    (opts : RenderOptions) : Prop :=
  ∀ entry ∈ renderTable host.getent userFilter resp,
    WidthsFit opts (gresnameWidth host resp userFilter opts.gresnameWidth) entry

instance : Decidable (Fits host resp userFilter opts) := List.decidableBAll _ _

/-- **Where there is a text**, and what it is: the lines of the nodes, if the
widths in all of them fit. -/
theorem tableText_lines :
    tableText host resp userFilter opts =
      if Fits host resp userFilter opts then
        some ((renderTable host.getent userFilter resp).flatMap
          (nodeLines host opts (gresnameWidth host resp userFilter opts.gresnameWidth)))
      else none := by
  rw [tableText_eq, funext (nodeText_eq _), Checked.mapM_ite]
  by_cases hfits : ∀ entry ∈ renderTable host.getent userFilter resp,
      WidthsFit opts (gresnameWidth host resp userFilter opts.gresnameWidth) entry
  · rw [if_pos hfits, if_pos (show Fits host resp userFilter opts from hfits), Option.map_some,
      List.flatMap_def]
  · rw [if_neg hfits, if_neg (show ¬Fits host resp userFilter opts from hfits), Option.map_none]

end Table

/-! ### What is in the spans -/

/-- What is left of a text when it is trimmed was in it. -/
theorem mem_of_mem_trim {s : String} {c : Char} (h : c ∈ (trim s).toList) : c ∈ s.toList := by
  rw [trim, String.toList_ofList] at h
  exact (List.dropWhile_suffix _).subset ((List.rdropWhile_prefix _ _).subset h)

/-- A colour is a list of numbers, and the text has no `c`. -/
def Span.Clean (c : Char) (span : Span) : Prop :=
  c ∉ span.text ∧ ∀ code, span.code = some code →
    code.all (fun d => decide ('0' ≤ d) && decide (d ≤ ';')) = true

/-- So have all spans of a line. -/
def AllClean (c : Char) (spans : List Span) : Prop := ∀ span ∈ spans, span.Clean c

section Clean

variable {c : Char}

/-- No spans, none of which has the letter. -/
@[simp] theorem clean_nil : AllClean c [] := List.forall_mem_nil _

/-- Spans are clean when the first is and the others are. -/
@[simp] theorem clean_cons {span : Span} {spans : List Span} :
    AllClean c (span :: spans) ↔ span.Clean c ∧ AllClean c spans := List.forall_mem_cons

/-- Spans one after the other are clean when both parts are. -/
@[simp] theorem clean_append {a b : List Span} :
    AllClean c (a ++ b) ↔ AllClean c a ∧ AllClean c b := List.forall_mem_append

/-- One clean span. -/
theorem Span.Clean.one {span : Span} (h : span.Clean c) : AllClean c [span] :=
  clean_cons.2 ⟨h, clean_nil⟩

/-- Spans that may be left out are clean if they are where they are not. -/
theorem clean_if {p : Prop} [Decidable p] {spans : List Span} (h : AllClean c spans) :
    AllClean c (if p then spans else []) := by
  split_ifs
  · exact h
  · exact clean_nil

/-- Plain text without the letter is a clean span. -/
theorem Span.Clean.text {l : List Char} (h : c ∉ l) : Span.Clean c ⟨none, l⟩ :=
  ⟨h, fun _ hcode => nomatch hcode⟩

/-- Colored text without the letter is a clean span, as long as its code has
only digits and semicolons. -/
theorem Span.Clean.colored {code l : List Char} (h : c ∉ l)
    (hcode : code.all (fun d => decide ('0' ≤ d) && decide (d ≤ ';')) = true) :
    Span.Clean c ⟨some code, l⟩ := ⟨h, fun _ h => Option.some.inj h ▸ hcode⟩

/-- A colour has no letters and no control characters. -/
theorem not_mem_code {code : List Char} {d : Char} (hd : d.toNat < 48 ∨ 59 < d.toNat)
    (hcode : code.all (fun d => decide ('0' ≤ d) && decide (d ≤ ';')) = true) : d ∉ code := by
  intro hmem
  have h := List.all_eq_true.1 hcode d hmem
  rw [Bool.and_eq_true, decide_eq_true_eq, decide_eq_true_eq] at h
  have hlow : 48 ≤ d.toNat := h.1
  have hhigh : d.toNat ≤ 59 := h.2
  omega

/-- **Colours show nothing**: the codes around a text are taken out again, and
the text is what is left. -/
theorem Span.Clean.shows {span : Span} (h : span.Clean '\x1b') :
    Shows (span.print true) (span.print false) := by
  obtain ⟨code, text⟩ := span
  obtain ⟨htext, hcode⟩ := h
  cases code with
  | none => exact .plain htext
  | some code =>
    have hcolor : 'm' ∉ '[' :: code := by
      rw [List.mem_cons, not_or]
      exact ⟨by decide, not_mem_code (.inr (by decide)) (hcode code rfl)⟩
    have hreset : 'm' ∉ "[0;10".toList := by decide
    have hshown := (Shows.escape hcolor).append ((Shows.plain htext).append (.escape hreset))
    rwa [List.append_nil] at hshown

/-- **A printed line shows its texts**: where no text has an escape character
in it, printing with color shows what printing without does. -/
theorem AllClean.shows {spans : List Span} (h : AllClean '\x1b' spans) :
    Shows (spans.flatMap (Span.print true)) (spans.flatMap (Span.print false)) :=
  .flatMap fun span hspan => (h span hspan).shows

/-- A line has no line feed but its own. -/
theorem AllClean.count_line {spans : List Span} (h : AllClean '\n' spans) (opts : RenderOptions) :
    (lineText opts spans).count '\n' = 1 := by
  have hnone : '\n' ∉ spans.flatMap (Span.print opts.color) := by
    intro hmem
    obtain ⟨⟨code, text⟩, hspan, hprint⟩ := List.mem_flatMap.1 hmem
    obtain ⟨htext, hcode⟩ := h _ hspan
    cases code with
    | none => exact htext hprint
    | some code =>
      cases henabled : opts.color with
      | false => exact htext (by rwa [henabled] at hprint)
      | true =>
        have hfeed : '\n' ∉ code := not_mem_code (.inl (by decide)) (hcode code rfl)
        simp [Span.print, paint, htext, hfeed, henabled] at hprint
  rw [lineText, List.count_append, List.count_eq_zero_of_not_mem hnone]
  rfl

/-! ### Control characters -/

variable (hc : c.toNat < 32)

include hc

/-- The fixed texts have no control characters. -/
theorem not_mem_of_visible {l : List Char} (h : l.all (fun d => decide (32 ≤ d.toNat)) = true) :
    c ∉ l := by
  intro hmem
  have hle := of_decide_eq_true (List.all_eq_true.1 h c hmem)
  omega

/-- A control character is no digit. -/
theorem not_mem_decimal (n : ℕ) : c ∉ decimal n := by
  intro hmem
  have hdigit := Numeral.isDigit_of_mem_toDigits (by decide) (by decide) hmem
  obtain ⟨d, hd, -⟩ := Numeral.isDigit_eq_true_iff.1 hdigit
  have hrange := Numeral.toNat_of_digitValue hd
  omega

/-- Padding on the left, with what is no control character, brings none. -/
theorem not_mem_leftpad {l : List Char} (n : ℕ) (h : c ∉ l) {a : Char} (ha : 32 ≤ a.toNat) :
    c ∉ l.leftpad n a := by
  rw [List.leftpad, List.mem_append, List.mem_replicate, not_or]
  exact ⟨fun ⟨_, hca⟩ => absurd (hca ▸ hc) (by omega), h⟩

/-- Padding with spaces brings no control character. -/
theorem not_mem_rightpad {l : List Char} (n : ℕ) (h : c ∉ l) : c ∉ l.rightpad n ' ' := by
  have hspace : ' '.toNat = 32 := rfl
  rw [List.rightpad, List.mem_append, List.mem_replicate, not_or]
  refine ⟨h, fun ⟨_, hca⟩ => ?_⟩
  rw [hca] at hc
  omega

/-- Neither does cutting off the start of a text, with the mark that stands
for it. -/
theorem not_mem_shortenLeft {l : List Char} (n : ℕ) (h : c ∉ l) : c ∉ shortenLeft l n := by
  have hdots : c ≠ '…' := by
    have hcode : '…'.toNat = 8230 := rfl
    rintro rfl
    omega
  unfold shortenLeft
  split_ifs
  · exact List.not_mem_nil
  · exact h
  · simpa using hdots
  · rw [List.mem_cons, List.mem_reverse, not_or]
    exact ⟨hdots, fun hmem => h (List.mem_reverse.1 (List.mem_of_mem_take hmem))⟩

/-- The column of a name has a control character only if the name has it. -/
theorem not_mem_nameColumn {gres : GresView} (h : c ∉ gres.name.toList) (width : ℕ) :
    c ∉ nameColumn width gres := by
  refine not_mem_rightpad hc _ (not_mem_shortenLeft hc _ ?_)
  unfold gresName
  split_ifs
  · exact not_mem_of_visible hc (by decide)
  · exact h

/-- A delay is printed with digits and a unit. -/
theorem not_mem_formatDelay {delayUs : Option UInt64} {delay : List Char}
    (h : formatDelay delayUs = some delay) : c ∉ delay := by
  cases delayUs with
  | none => cases h
  | some delayUs =>
    rw [formatDelay] at h
    split_ifs at h
    · obtain rfl := Option.some.inj h
      rw [List.mem_append, not_or]
      exact ⟨not_mem_decimal hc _, not_mem_of_visible hc (by decide)⟩
    · obtain rfl := Option.some.inj h
      rw [List.mem_append, twoPlaces, List.mem_append, List.mem_cons, not_or, not_or, not_or]
      have hdot : c ∉ ['.'] := not_mem_of_visible hc (by decide)
      exact ⟨⟨not_mem_decimal hc _, fun h => hdot (List.mem_singleton.2 h),
        not_mem_leftpad hc _ (not_mem_decimal hc _) (by decide)⟩, not_mem_of_visible hc (by decide)⟩

/-- The spans of a process are clean, if its user and its command are. -/
theorem clean_processSpans {host : Host} {process : ProcessView} (opts : RenderOptions)
    (huser : c ∉ (displayUsername host.getent process).toList)
    (hcommand : ∀ command, process.command = some command → c ∉ command.toList) :
    AllClean c (processSpans host opts process) := by
  have hshown : c ∉ (((process.command.map trim).filter (· ≠ "")).getD "--").toList := by
    cases hfilter : (process.command.map trim).filter (· ≠ "") with
    | none => exact not_mem_of_visible hc (by decide)
    | some shown =>
      have hmap := (Option.filter_eq_some_iff.1 hfilter).1
      obtain ⟨command, hcmd, rfl⟩ := Option.map_eq_some_iff.1 hmap
      exact fun hmem => hcommand command hcmd (mem_of_mem_trim hmem)
  have hpid : c ∉ '/' :: decimal process.pid.toNat := by
    rw [List.mem_cons, not_or]
    exact ⟨fun h => not_mem_of_visible hc (l := ['/']) (by decide) (by simp [h]),
      not_mem_decimal hc _⟩
  have hmemory : c ∉ decimal process.usedMemoryMb.toNat ++ ['M'] := by
    rw [List.mem_append, not_or]
    exact ⟨not_mem_decimal hc _, not_mem_of_visible hc (by decide)⟩
  have hend : AllClean c [⟨none, ['(']⟩,
      ⟨some "33".toList, decimal process.usedMemoryMb.toNat ++ ['M']⟩, ⟨none, [')']⟩] := by
    rw [clean_cons, clean_cons, clean_cons]
    exact ⟨.text (not_mem_of_visible hc (by decide)), .colored hmemory (by decide),
      .text (not_mem_of_visible hc (by decide)), clean_nil⟩
  have hname : Span.Clean c ⟨some "1;30".toList, (displayUsername host.getent process).toList⟩ :=
    .colored huser (by decide)
  have hcolon : Span.Clean c ⟨none, [':']⟩ := .text (not_mem_of_visible hc (by decide))
  have hcmd : Span.Clean c ⟨some "36".toList,
      (((process.command.map trim).filter (· ≠ "")).getD "--").toList⟩ :=
    .colored hshown (by decide)
  exact clean_append.2 ⟨clean_append.2 ⟨clean_append.2 ⟨clean_if hname.one,
    clean_if (clean_append.2 ⟨clean_if hcolon.one, hcmd.one⟩)⟩,
    clean_if (Span.Clean.text hpid).one⟩, hend⟩

/-- The spans of a device are clean, if its name and its processes are. -/
theorem clean_gresRowSpans {host : Host} {row : Row} (opts : RenderOptions) (nameWidth : ℕ)
    (hname : c ∉ row.gres.name.toList)
    (hprocesses : ∀ process ∈ row.processes, c ∉ (displayUsername host.getent process).toList ∧
      ∀ command, process.command = some command → c ∉ command.toList) :
    AllClean c (gresRowSpans host opts nameWidth row) := by
  have hindex : c ∉ '[' :: (decimal row.gres.index.toNat ++ [']']) := by
    rw [List.mem_cons, List.mem_append, not_or, not_or]
    exact ⟨fun h => not_mem_of_visible hc (l := ['[']) (by decide) (by simp [h]),
      not_mem_decimal hc _, not_mem_of_visible hc (by decide)⟩
  have htemp : c ∉ (match row.gres.temperatureC with
      | some value => (decimal value.toNat).leftpad 3 ' '
      | none => " ??".toList) ++ "°C".toList := by
    rw [List.mem_append, not_or]
    refine ⟨?_, not_mem_of_visible hc (by decide)⟩
    cases row.gres.temperatureC with
    | some value => exact not_mem_leftpad hc _ (not_mem_decimal hc _) (by decide)
    | none => exact not_mem_of_visible hc (by decide)
  have hutil : c ∉ (decimal row.gres.util.toNat).leftpad 3 ' ' ++ " %".toList := by
    rw [List.mem_append, not_or]
    exact ⟨not_mem_leftpad hc _ (not_mem_decimal hc _) (by decide),
      not_mem_of_visible hc (by decide)⟩
  have hmemory : ∀ n : ℕ, c ∉ (decimal n).leftpad 5 ' ' := fun n =>
    not_mem_leftpad hc _ (not_mem_decimal hc _) (by decide)
  have hfixed : ∀ {l : List Char}, l.all (fun d => decide (32 ≤ d.toNat)) = true →
      Span.Clean c ⟨none, l⟩ := fun h => .text (not_mem_of_visible hc h)
  have hcolor : ∀ {p : Prop} [Decidable p] {a b : List Char},
      a.all (fun d => decide ('0' ≤ d) && decide (d ≤ ';')) = true →
      b.all (fun d => decide ('0' ≤ d) && decide (d ≤ ';')) = true →
      (if p then a else b).all (fun d => decide ('0' ≤ d) && decide (d ≤ ';')) = true := by
    intro p _ a b ha hb
    split_ifs
    · exact ha
    · exact hb
  refine clean_append.2 ⟨clean_append.2 ⟨clean_append.2 ⟨?_, clean_if ?_⟩, ?_⟩, clean_if ?_⟩
  · exact clean_cons.2 ⟨.colored hindex (by decide), (hfixed (by decide)).one⟩
  · exact clean_cons.2 ⟨.colored (not_mem_nameColumn hc hname nameWidth) (by decide),
      (hfixed (by decide)).one⟩
  · simp only [clean_cons]
    exact ⟨.colored htemp (hcolor (by decide) (by decide)), hfixed (by decide),
      .colored hutil (hcolor (by decide) (by decide)), hfixed (by decide),
      .colored (hmemory _) (by decide), hfixed (by decide), .colored (hmemory _) (by decide),
      hfixed (by decide), clean_nil⟩
  · refine clean_cons.2 ⟨hfixed (by decide), fun span hspan => ?_⟩
    obtain ⟨process, hprocess, hspan⟩ := List.mem_flatMap.1 hspan
    obtain ⟨huser, hcommand⟩ := hprocesses process hprocess
    exact clean_cons.2 ⟨hfixed (by decide), clean_processSpans hc opts huser hcommand⟩ span hspan

/-- The spans of a header are clean, if the texts of the machine and of the
node in it are. -/
theorem clean_nodeHeaderSpans {host : Host} {node : NodeView} (opts : RenderOptions)
    (nameWidth : ℕ) (htimes : ∀ t text, host.localTime t = some text → c ∉ text.toList)
    (hhostname : c ∉ node.hostname.toList)
    (hdriver : ∀ driver, node.driverVersion = some driver → c ∉ driver.toList)
    (herror : ∀ error, node.error = some error → c ∉ error.toList) :
    AllClean c (nodeHeaderSpans host opts nameWidth node) := by
  have hfixed : ∀ {l : List Char}, l.all (fun d => decide (32 ≤ d.toNat)) = true →
      Span.Clean c ⟨none, l⟩ := fun h => .text (not_mem_of_visible hc h)
  have htime : c ∉ formatSnapshotTime host node.timestampMs := by
    rw [formatSnapshotTime]
    cases ht : host.localTime node.timestampMs with
    | some text => exact htimes _ _ ht
    | none => exact not_mem_of_visible hc (by decide)
  refine clean_append.2 ⟨clean_append.2 ⟨clean_append.2 ⟨clean_append.2 ⟨?_, ?_⟩, ?_⟩,
    clean_if ?_⟩, ?_⟩
  · simp only [clean_cons]
    exact ⟨.colored (not_mem_rightpad hc _ hhostname) (by decide), hfixed (by decide),
      .text htime, clean_nil⟩
  · cases hd : node.driverVersion.filter (trim · ≠ "") with
    | some driver =>
      have hd := (Option.filter_eq_some_iff.1 hd).1
      exact clean_cons.2 ⟨hfixed (by decide),
        (Span.Clean.colored (hdriver driver hd) (by decide)).one⟩
    | none => exact clean_nil
  · cases hd : (if opts.latencyDisplay then formatDelay node.delayUs else none) with
    | some delay =>
      have hdelay : c ∉ "delay=".toList ++ delay := by
        split_ifs at hd
        rw [List.mem_append, not_or]
        exact ⟨not_mem_of_visible hc (by decide), not_mem_formatDelay hc hd⟩
      exact clean_cons.2 ⟨hfixed (by decide), (Span.Clean.colored hdelay (by decide)).one⟩
    | none => exact clean_nil
  · exact clean_cons.2 ⟨hfixed (by decide),
      (Span.Clean.colored (not_mem_of_visible hc (by decide)) (by decide)).one⟩
  · cases he : node.error with
    | some error => exact clean_cons.2 ⟨hfixed (by decide), (Span.Clean.text (herror error he)).one⟩
    | none => exact clean_nil

end Clean

/-! ### The whole table -/

/-- The texts that a table is made of have no `c`. -/
structure Free (c : Char) (host : Host) (resp : Backend.QueryResponse) : Prop where
  times : ∀ t text, host.localTime t = some text → c ∉ text.toList
  hostnames : ∀ node ∈ resp.nodes, c ∉ node.hostname.toList
  drivers : ∀ node ∈ resp.nodes, ∀ driver, node.driverVersion = some driver → c ∉ driver.toList
  errors : ∀ node ∈ resp.nodes, ∀ error, node.error = some error → c ∉ error.toList
  names : ∀ node ∈ resp.nodes, ∀ gres ∈ node.gres, c ∉ gres.name.toList
  processes : ∀ node ∈ resp.nodes, ∀ gres ∈ node.gres, ∀ process ∈ gres.processes.getD [],
    c ∉ (displayUsername host.getent process).toList ∧
      ∀ command, process.command = some command → c ∉ command.toList

section Layout

variable {host : Host} {resp : Backend.QueryResponse} {userFilter : Option String}

/-- The spans of a table have no `c` either. -/
theorem Free.entry {c : Char} (hc : c.toNat < 32) (h : Free c host resp)
    {entry : NodeView × List Row} (hentry : entry ∈ renderTable host.getent userFilter resp)
    (opts : RenderOptions) (nameWidth : ℕ) :
    AllClean c (nodeHeaderSpans host opts nameWidth entry.1) ∧
      ∀ row ∈ entry.2, AllClean c (gresRowSpans host opts nameWidth row) := by
  obtain ⟨node, hnode, hentry⟩ := List.mem_filterMap.1 hentry
  dsimp only at hentry
  split_ifs at hentry
  obtain rfl := Option.some.inj hentry
  refine ⟨clean_nodeHeaderSpans hc opts nameWidth h.times (h.hostnames node hnode)
    (h.drivers node hnode) (h.errors node hnode), fun row hrow => ?_⟩
  obtain ⟨gres, hgres, rfl⟩ := List.mem_map.1 hrow
  have hgres := (List.mem_filter.1 hgres).1
  refine clean_gresRowSpans hc opts nameWidth (h.names node hnode gres hgres) fun process hp => ?_
  have hvisible : process ∈ visibleProcesses host.getent userFilter gres := hp
  rw [visibleProcesses_eq] at hvisible
  exact h.processes node hnode gres hgres process (List.mem_filter.1 hvisible).1

/-- **Colours are decoration.**  The table with colours shows what the table without them has,
and nothing else; and there is one if there is the other. -/
theorem tableText_color (host : Host) (resp : Backend.QueryResponse) (userFilter : Option String)
    (opts : RenderOptions) (h : Free '\x1b' host resp) :
    (tableText host resp userFilter { opts with color := true }).map (strip false) =
      tableText host resp userFilter { opts with color := false } := by
  rw [tableText_lines, tableText_lines]
  by_cases hfits : Fits host resp userFilter opts
  · have hcolored : Fits host resp userFilter { opts with color := true } := hfits
    have hplain : Fits host resp userFilter { opts with color := false } := hfits
    rw [if_pos hcolored, if_pos hplain, Option.map_some]
    refine congrArg some (Shows.flatMap fun entry hentry => ?_).strip_eq
    obtain ⟨hheader, hrows⟩ := h.entry (by decide) hentry opts
      (gresnameWidth host resp userFilter opts.gresnameWidth)
    have hfeed : Shows ['\n'] ['\n'] := .plain (by decide)
    refine Shows.append ?_ (Shows.flatMap fun row hrow => (hrows row hrow).shows.append hfeed)
    cases opts.showHeader with
    | true => exact hheader.shows.append hfeed
    | false => exact .nil
  · have hcolored : ¬Fits host resp userFilter { opts with color := true } := hfits
    have hplain : ¬Fits host resp userFilter { opts with color := false } := hfits
    rw [if_neg hcolored, if_neg hplain, Option.map_none]

/-- **A line each**: if the widths fit, as many lines are printed as the table has nodes, if they
have headers, and rows; and else nothing is. -/
theorem count_lines (host : Host) (resp : Backend.QueryResponse) (userFilter : Option String)
    (opts : RenderOptions) (h : Free '\n' host resp) :
    (tableText host resp userFilter opts).map (·.count '\n') =
      if Fits host resp userFilter opts then
        some ((renderTable host.getent userFilter resp).map fun entry =>
          (if opts.showHeader then 1 else 0) + entry.2.length).sum
      else none := by
  rw [tableText_lines]
  by_cases hfits : Fits host resp userFilter opts
  · rw [if_pos hfits, if_pos hfits, Option.map_some, List.count_flatMap]
    refine congrArg some (congrArg List.sum (List.map_congr_left fun entry hentry => ?_))
    obtain ⟨hheader, hrows⟩ := h.entry (by decide) hentry opts
      (gresnameWidth host resp userFilter opts.gresnameWidth)
    have hlines : (entry.2.flatMap fun row => lineText opts (gresRowSpans host opts
        (gresnameWidth host resp userFilter opts.gresnameWidth) row)).count '\n' =
          entry.2.length := by
      have hone : ∀ row ∈ entry.2, (List.count '\n' ∘ fun row => lineText opts (gresRowSpans host
          opts (gresnameWidth host resp userFilter opts.gresnameWidth) row)) row = 1 :=
        fun row hrow => (hrows row hrow).count_line opts
      rw [List.count_flatMap, List.map_congr_left hone, List.map_const', List.sum_replicate_nat,
        Nat.mul_one]
    rw [Function.comp_apply, nodeLines, List.count_append, hlines]
    congr 1
    split_ifs
    · exact hheader.count_line opts
    · rfl
  · rw [if_neg hfits, if_neg hfits, Option.map_none]

/-- A shortened text is not longer than asked for. -/
theorem length_shortenLeft_le (value : List Char) (width : ℕ) :
    (shortenLeft value width).length ≤ width := by
  unfold shortenLeft
  split_ifs with h0 hfits h1
  · exact Nat.zero_le _
  · exact hfits
  · exact h1.ge
  · rw [List.length_cons, List.length_reverse, List.length_take]
    omega

/-- Where no width is set, the column is as wide as the longest name. -/
theorem length_gresName_le {node : NodeView} (hnode : node ∈ resp.nodes) {gres : GresView}
    (hgres : gres ∈ node.gres) (hshown : shouldRenderGres host.getent userFilter gres = true) :
    (gresName gres).length ≤ gresnameWidth host resp userFilter none := by
  have hmem : gres ∈ (resp.nodes.flatMap NodeView.gres).filter
      (shouldRenderGres host.getent userFilter) :=
    List.mem_filter.2 ⟨List.mem_flatMap.2 ⟨node, hnode, hgres⟩, hshown⟩
  have hlen : (gresName gres).length =
      if trim gres.name = "" then 3 else gres.name.toList.length := by
    unfold gresName
    split_ifs <;> rfl
  rw [gresnameWidth, hlen]
  refine le_trans ?_ (le_max_left _ _)
  cases hmax : (((resp.nodes.flatMap NodeView.gres).filter
      (shouldRenderGres host.getent userFilter)).map fun gres =>
        if trim gres.name = "" then 3 else gres.name.toList.length).max? with
  | none =>
    have hnil := List.map_eq_nil_iff.1 (List.max?_eq_none_iff.1 hmax)
    exact absurd hmem (hnil ▸ List.not_mem_nil)
  | some m =>
    rw [Option.getD_some]
    exact (List.max?_eq_some_iff.1 hmax).2 _ (List.mem_map_of_mem (f := fun gres : GresView =>
      if trim gres.name = "" then 3 else gres.name.toList.length) hmem)

/-- A name that fits is kept. -/
theorem shortenLeft_of_le {value : List Char} {width : ℕ} (h : value.length ≤ width) :
    shortenLeft value width = value := by
  rw [shortenLeft, if_pos h]
  split_ifs with h0
  · exact (List.length_eq_zero_iff.1 (Nat.le_zero.1 (h0 ▸ h))).symm
  · rfl

end Layout

/-! ### The response with one process -/

/-- A machine that knows no users and no time zone. -/
def bareHost : Host := ⟨fun _ => none, fun _ => none⟩

/-- The response with one process has no control characters. -/
theorem free_alice {c : Char} (hc : c.toNat < 32) : Free c bareHost aliceResponse where
  times _ _ h := nomatch h
  hostnames node hnode := by
    rw [List.mem_singleton.1 hnode]
    exact not_mem_of_visible hc (by decide)
  drivers node hnode driver h := by
    rw [List.mem_singleton.1 hnode] at h
    cases h
  errors node hnode error h := by
    rw [List.mem_singleton.1 hnode] at h
    cases h
  names node hnode gres hgres := by
    rw [List.mem_singleton.1 hnode] at hgres
    rw [List.mem_singleton.1 hgres]
    exact not_mem_of_visible hc (by decide)
  processes node hnode gres hgres process hprocess := by
    rw [List.mem_singleton.1 hnode] at hgres
    rw [List.mem_singleton.1 hgres] at hprocess
    rw [List.mem_singleton.1 hprocess]
    exact ⟨not_mem_of_visible hc (by decide), fun _ h => nomatch h⟩

/-- Its table, with the colors taken out, is the table without colors. -/
theorem tableText_color_alice :
    (tableText bareHost aliceResponse none { color := true }).map (strip false) =
      tableText bareHost aliceResponse none { color := false } :=
  tableText_color bareHost aliceResponse none {} (free_alice (by decide))

/-- Its table has two lines, a header and a device. -/
theorem count_lines_alice :
    (tableText bareHost aliceResponse none {}).map (·.count '\n') = some 2 :=
  (count_lines bareHost aliceResponse none {} (free_alice (by decide))).trans
    (if_pos (by decide))

end Cli
end Clustat
