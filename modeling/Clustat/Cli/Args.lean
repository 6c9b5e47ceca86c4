/-
# The arguments of the CLI

`crates/client-cli/src/args.rs`.  `parse_args` goes through its arguments by an index, and an
option that takes a value moves the index on.  Everything of it that can panic is `none` here: an
index, a sum of indices, and `Duration::from_secs_f64`, which has a value for what is not negative
and below `2 ^ 64` seconds only.

A command line is a list of options, each with its value (`items`), and the loop goes through these
(`parseLoop_eq`).  The indices are in order, but an interval is only checked to be positive and
finite, so that one of `2 ^ 64` seconds or more is a panic.  `parse_args_safe_iff` says that there
is no other.
-/

import Clustat.Cli.Backend
import Clustat.Common.Number
import Clustat.Lib.Checked
import Clustat.Lib.Guards

namespace Clustat
namespace Cli
namespace Args

open Binary Guards

/-- `CliOptions`, in full; a duration is in nanoseconds. -/
structure CliOptions extends Cli.CliOptions where
  nodeFilter := none
  userFilter := none
  watch : Bool := false
  refreshInterval : ℕ := 2000000000
  json : Bool := false
  forceColor : Bool := false
  noColor : Bool := false
  showHeader : Bool := true
  noProcesses : Bool := false
  showCmd : Bool := false
  showUser : Bool := false
  showPid : Bool := false
  gresnameWidth : Option ℕ := none
  latencyDisplay : Option Bool := none
  backendSocket : Option String := none
  deriving DecidableEq, Repr

/-- `Vec<String>`: a vector has no more than `isize::MAX` elements. -/
structure Argv where
  list : List String
  length_lt : list.length < 2 ^ 63

/-- `help_text`. -/
def helpText : String :=
  "Usage: clustat [OPTIONS]\n\nOptions:\n" ++
    "  -n <FILTER>                 Filter cluster nodes by hostname/ip/connection id\n" ++
    "  -user <USER>                Filter rendered processes/GPU rows by user\n" ++
    "  --backend-socket <PATH>     Connect to client-backend UDS path\n" ++
    "  --json                      Print cluster data as JSON\n" ++
    "  -i, --interval [SEC]        Watch mode; optional refresh interval in seconds\n" ++
    "  -w, --watch [SEC]           Alias for --interval\n" ++
    "  --color, --force-color      Force ANSI colored output\n" ++
    "  --no-color                  Suppress ANSI colored output\n" ++
    "  --no-header                 Suppress node header lines\n" ++
    "  --gpuname-width <N>         GPU name display width; 0 hides GPU names\n" ++
    "  --no-processes              Hide process summaries\n" ++
    "  -c, --show-cmd              Display process command instead of user\n" ++
    "  -u, --show-user             Display process user with command\n" ++
    "  -p, --show-pid              Display process PID\n" ++
    "  -a, --show-all              Show user, command and PID\n" ++
    "  -h, --help                  Show this help\n" ++
    "  -v, --version               Show version"

/-! ### Values -/

/-- `Duration::from_secs_f64`, to the nearest nanosecond; `none`, if it panics. -/
def fromSecsF64 : Number → Option ℕ
  | .finite secs =>
    if 0 ≤ secs ∧ secs < 2 ^ 64 then some (roundTiesEven (secs * 10 ^ 9)).toNat else none
  | _ => none

/-- `0.05_f64`. -/
def leastInterval : Number := binary64.ofRat (1 / 20)

/-- The number of seconds that `parse_interval` hands to `from_secs_f64`. -/
def intervalSecs (raw : String) : Except String Number := do
  let secs ← okOr ("refresh interval must be seconds, got '" ++ raw ++ "'") (parseF64 raw)
  refuseIf (secs.isNonpos ∨ ¬secs.isFinite) "refresh interval must be greater than 0"
  .ok (secs.max leastInterval)

/-- `parse_interval`. -/
def parseInterval (raw : String) : Option (Except String ℕ) :=
  match intervalSecs raw with
  | .error e => some (.error e)
  | .ok secs => (fromSecsF64 secs).map .ok

/-- `parse_bool`. -/
def parseBool (raw : String) : Except String Bool :=
  match toAsciiLowercase (trim raw) with
  | "1" | "true" | "yes" | "on" => .ok true
  | "0" | "false" | "no" | "off" => .ok false
  | _ => .error ("boolean value expected, got '" ++ raw ++ "'")

/-- `required_value`. -/
def requiredValue (args : Argv) (index : ℕ) (flag : String) : Except String String :=
  okOr (flag ++ " requires a value") args.list[index]?

/-! ### Options -/

/-- What `parse_args` does about an argument: it returns a text, sets something, reads an interval
if one follows, or reads a value that has to follow.  A value is read in one more place, for the
socket. -/
inductive ArgKind
  | stop (message : String)
  | switch (set : CliOptions → CliOptions)
  | interval
  | value (flag : String) (read : String → Except String (CliOptions → CliOptions))
  | backendSocket
  | unsupported

/-- The arms of `parse_args`. -/
def kind (arg : String) : ArgKind :=
  match arg with
  | "-h" | "--help" => .stop helpText
  | "-v" | "--version" => .stop "clustat 1.0.0"
  | "-n" => .value "-n" fun raw => .ok fun opts => { opts with nodeFilter := some raw }
  | "-user" => .value "-user" fun raw => .ok fun opts => { opts with userFilter := some raw }
  | "--watch" | "-w" => .interval
  | "--interval" | "--refresh" | "--refresh-interval" | "-i" => .interval
  | "--json" => .switch fun opts => { opts with json := true }
  | "--force-color" | "--color" => .switch fun opts => { opts with forceColor := true }
  | "--no-color" => .switch fun opts => { opts with noColor := true }
  | "--no-header" => .switch fun opts => { opts with showHeader := false }
  | "--no-processes" => .switch fun opts => { opts with noProcesses := true }
  | "-c" | "--show-cmd" => .switch fun opts => { opts with showCmd := true }
  | "-u" | "--show-user" => .switch fun opts => { opts with showUser := true }
  | "-p" | "--show-pid" => .switch fun opts => { opts with showPid := true }
  | "-a" | "--show-all" =>
    .switch fun opts => { opts with showCmd := true, showUser := true, showPid := true }
  | "--latency-display" => .value "--latency-display" fun raw =>
    (parseBool raw).map fun latency opts => { opts with latencyDisplay := some latency }
  | "--no-latency" | "--hide-latency" =>
    .switch fun opts => { opts with latencyDisplay := some false }
  | "--gpuname-width" => .value "--gpuname-width" fun raw =>
    ((parseUInt (2 ^ 64) raw.toList).mapError fun _ =>
      "--gpuname-width must be a non-negative integer, got '" ++ raw ++ "'").map
        fun width opts => { opts with gresnameWidth := some width }
  | "--backend-socket" | "--backend-uds" => .backendSocket
  | _ => .unsupported

/-! ### The loop -/

/-- `i += 1`, of a `usize`. -/
def next (i : ℕ) : Option ℕ := Checked.add (2 ^ 64) i 1

/-- One turn of the loop, up to the `i += 1` at its end. -/
def parseArg (args : Argv) (i : ℕ) (opts : CliOptions) :
    Option (Except String (ℕ × CliOptions)) := do
  let arg ← Checked.index args.list i
  match kind arg with
  | .stop message => some (.error message)
  | .switch set => some (.ok (i, set opts))
  | .interval =>
    let opts := { opts with watch := true }
    match args.list[← next i]? with
    | none => some (.ok (i, opts))
    | some raw =>
      if raw.toList.head? = some '-' then some (.ok (i, opts))
      else
        let i ← next i
        (← parseInterval raw).map fun refreshInterval => (i, { opts with refreshInterval })
  | .value flag read =>
    let i ← next i
    (requiredValue args i flag >>= read).map fun set => (i, set opts)
  | .backendSocket =>
    let i ← next i
    let flag ← Checked.index args.list (← Checked.sub i 1)
    (requiredValue args i flag).map fun path => (i, { opts with backendSocket := some path })
  | .unsupported => some (.error ("unsupported arg: " ++ arg))

/-! ### A command line as a list of options -/

/-- An option of a command line: a flag, and the value behind it. -/
structure Item where
  flag : String
  value : Option String
  deriving DecidableEq, Repr

/-- An argument behind a flag is its value. -/
def takes (flag raw : String) : Bool :=
  match kind flag with
  | .interval => raw.toList.head? ≠ some '-'
  | .value _ _ | .backendSocket => true
  | _ => false

/-- The options of a command line. -/
def items : List String → List Item
  | [] => []
  | [flag] => [⟨flag, none⟩]
  | flag :: raw :: rest =>
    if takes flag raw then ⟨flag, some raw⟩ :: items rest else ⟨flag, none⟩ :: items (raw :: rest)

/-- What an option does. -/
def Item.apply (opts : CliOptions) (item : Item) : Option (Except String CliOptions) :=
  match kind item.flag, item.value with
  | .stop message, _ => some (.error message)
  | .switch set, _ => some (.ok (set opts))
  | .interval, none => some (.ok { opts with watch := true })
  | .interval, some raw =>
    (parseInterval raw).map (·.map fun refreshInterval =>
      { opts with watch := true, refreshInterval })
  | .value flag _, none => some (.error (flag ++ " requires a value"))
  | .value _ read, some raw => some ((read raw).map fun set => set opts)
  | .backendSocket, none => some (.error (item.flag ++ " requires a value"))
  | .backendSocket, some raw => some (.ok { opts with backendSocket := some raw })
  | .unsupported, _ => some (.error ("unsupported arg: " ++ item.flag))

/-- An index into the arguments can be moved on by one: a list has less than
`usize::MAX` of them. -/
theorem next_of_lt {args : Argv} {i : ℕ} (h : i < args.list.length) : next i = some (i + 1) :=
  Checked.add_of_lt (by have := args.length_lt; omega)

/-- An option that does not take the argument behind it, or has none behind
it, is an item of its own. -/
theorem items_alone {flag : String} {rest : List String}
    (h : ∀ raw ∈ rest.head?, takes flag raw = false) :
    items (flag :: rest) = ⟨flag, none⟩ :: items rest := by
  cases rest with
  | nil => rfl
  | cons raw rest => rw [items, if_neg (by simp [h raw rfl])]

/-- An option that takes the argument behind it is one item with it. -/
theorem items_value {flag raw : String} (h : takes flag raw = true) (rest : List String) :
    items (flag :: raw :: rest) = ⟨flag, some raw⟩ :: items rest := if_pos h

/-- A turn of the loop takes an option off the command line and does what that does. -/
def TakesOption (args : Argv) (i : ℕ) (opts : CliOptions) : Prop :=
  ∃ item j, i ≤ j ∧ j ≤ args.list.length ∧
    items (args.list.drop i) = item :: items (args.list.drop (j + 1)) ∧
    parseArg args i opts = (item.apply opts).map (·.map (Prod.mk j))

section Turn

variable {args : Argv} {i : ℕ} (h : i < args.list.length) (opts : CliOptions)

include h

/-- An option without a value is one argument. -/
theorem takesOption_alone (hnone : ∀ raw ∈ args.list[i + 1]?, takes args.list[i] raw = false)
    (hparse : parseArg args i opts =
      (Item.apply opts ⟨args.list[i], none⟩).map (·.map (Prod.mk i))) :
    TakesOption args i opts := by
  refine ⟨_, i, le_rfl, h.le, ?_, hparse⟩
  rw [List.drop_eq_getElem_cons h]
  refine items_alone ?_
  rwa [List.head?_drop]

/-- And with a value it is two. -/
theorem takesOption_value {raw : String} (hraw : args.list[i + 1]? = some raw)
    (htakes : takes args.list[i] raw = true)
    (hparse : parseArg args i opts =
      (Item.apply opts ⟨args.list[i], some raw⟩).map (·.map (Prod.mk (i + 1)))) :
    TakesOption args i opts := by
  obtain ⟨hlt, rfl⟩ := List.getElem?_eq_some_iff.1 hraw
  refine ⟨_, i + 1, Nat.le_succ i, h, ?_, hparse⟩
  rw [List.drop_eq_getElem_cons h, List.drop_eq_getElem_cons hlt]
  exact items_value htakes _

/-- **One turn is one option**, and the index moves on behind it: by one
argument, or by two where the option takes the next. -/
theorem takesOption : TakesOption args i opts := by
  have hindex : Checked.index args.list i = some args.list[i] := List.getElem?_eq_getElem h
  have hnext : next i = some (i + 1) := next_of_lt h
  have hsub : Checked.sub (i + 1) 1 = some i := Checked.sub_of_le (Nat.le_add_left 1 i)
  cases hkind : kind args.list[i] with
  | stop message =>
    refine takesOption_alone h opts (fun raw _ => by rw [takes, hkind]) ?_
    simp [parseArg, hindex, hkind, Item.apply, Except.map]
  | switch set =>
    refine takesOption_alone h opts (fun raw _ => by rw [takes, hkind]) ?_
    simp [parseArg, hindex, hkind, Item.apply, Except.map]
  | interval =>
    cases hraw : args.list[i + 1]? with
    | none =>
      refine takesOption_alone h opts (by rw [hraw]; exact nofun) ?_
      simp [parseArg, hindex, hkind, hnext, hraw, Item.apply, Except.map]
    | some raw =>
      by_cases hdash : raw.toList.head? = some '-'
      · refine takesOption_alone h opts (by simp [hraw, takes, hkind, hdash]) ?_
        simp [parseArg, hindex, hkind, hnext, hraw, hdash, Item.apply, Except.map]
      · refine takesOption_value h opts hraw (by simp [takes, hkind, hdash]) ?_
        cases hresult : parseInterval raw with
        | none => simp [parseArg, hindex, hkind, hnext, hraw, hdash, hresult, Item.apply]
        | some result =>
          cases result <;>
            simp [parseArg, hindex, hkind, hnext, hraw, hdash, hresult, Item.apply, Except.map]
  | value flag read =>
    cases hraw : args.list[i + 1]? with
    | none =>
      refine takesOption_alone h opts (by rw [hraw]; exact nofun) ?_
      simp [parseArg, hindex, hkind, hnext, requiredValue, hraw, okOr, Item.apply, Except.map,
        bind, Except.bind]
    | some raw =>
      refine takesOption_value h opts hraw (by rw [takes, hkind]) ?_
      cases hread : read raw <;>
        simp [parseArg, hindex, hkind, hnext, requiredValue, hraw, okOr, hread, Item.apply,
          Except.map, bind, Except.bind]
  | backendSocket =>
    cases hraw : args.list[i + 1]? with
    | none =>
      refine takesOption_alone h opts (by rw [hraw]; exact nofun) ?_
      simp [parseArg, hindex, hkind, hnext, hsub, requiredValue, hraw, okOr, Item.apply, Except.map]
    | some raw =>
      refine takesOption_value h opts hraw (by rw [takes, hkind]) ?_
      simp [parseArg, hindex, hkind, hnext, hsub, requiredValue, hraw, okOr, Item.apply, Except.map]
  | unsupported =>
    refine takesOption_alone h opts (fun raw _ => by rw [takes, hkind]) ?_
    simp [parseArg, hindex, hkind, Item.apply, Except.map]

end Turn

/-- A turn does not move the index back. -/
theorem le_of_parseArg {args : Argv} {i j : ℕ} {opts opts' : CliOptions}
    (hlt : i < args.list.length) (h : parseArg args i opts = some (.ok (j, opts'))) :
    i ≤ j ∧ j ≤ args.list.length := by
  obtain ⟨item, k, hle, hlength, -, hparse⟩ := takesOption hlt opts
  rw [hparse] at h
  obtain ⟨result, -, hresult⟩ := Option.map_eq_some_iff.1 h
  cases result with
  | error e => cases hresult
  | ok opts'' =>
    cases hresult
    exact ⟨hle, hlength⟩

/-- The loop of `parse_args`. -/
def parseLoop (args : Argv) (i : ℕ) (opts : CliOptions) : Option (Except String CliOptions) :=
  if _ : i < args.list.length then
    match _ : parseArg args i opts with
    | none => none
    | some (.error e) => some (.error e)
    | some (.ok (j, opts)) =>
      match _ : next j with
      | none => none
      | some k => parseLoop args k opts
  else some (.ok opts)
termination_by args.list.length - i
decreasing_by
  have hle := (le_of_parseArg ‹_› ‹_›).1
  have hk : j + 1 = k := Option.some.inj (Option.ite_none_right_eq_some.1 ‹next j = some k›).2
  omega

/-- `parse_args`. -/
def parseArgs (args : Argv) : Option (Except String CliOptions) :=
  (parseLoop args 0 {}).map fun result => do
    let opts ← result
    refuseIf (opts.forceColor ∧ opts.noColor)
      "--color and --no-color can't be used at the same time"
    refuseIf (opts.watch ∧ opts.json) "--json and --interval/-i can't be used together"
    .ok opts

/-- A turn, and then the others. -/
theorem parseLoop_turn {args : Argv} {i : ℕ} (hlt : i < args.list.length) (opts : CliOptions) :
    parseLoop args i opts =
      match parseArg args i opts with
      | none => none
      | some (.error e) => some (.error e)
      | some (.ok (j, opts)) => parseLoop args (j + 1) opts := by
  rw [parseLoop, dif_pos hlt]
  split
  · rename_i hturn
    rw [hturn]
  · rename_i e hturn
    rw [hturn]
  · rename_i j opts' hturn
    have hnext : next j = some (j + 1) := by
      have hle := (le_of_parseArg hlt hturn).2
      have hlength := args.length_lt
      exact Checked.add_of_lt (by omega)
    rw [hturn]
    split
    · rename_i hnone
      cases hnext.symm.trans hnone
    · rename_i k hk
      cases hnext.symm.trans hk
      rfl

/-- **The loop goes through the options** of the command line: it is the fold
of `Item.apply`, with its errors and its panics, over the items from the index
on. -/
theorem parseLoop_eq (args : Argv) (i : ℕ) (opts : CliOptions) :
    parseLoop args i opts = Checked.fold Item.apply opts (items (args.list.drop i)) := by
  induction hn : args.list.length - i using Nat.strongRecOn generalizing i opts with
  | ind n ih =>
    rcases Nat.lt_or_ge i args.list.length with hlt | hge
    · obtain ⟨item, j, hle, -, hitems, hparse⟩ := takesOption hlt opts
      rw [parseLoop_turn hlt, hparse, hitems, Checked.fold]
      rcases item.apply opts with _ | e | opts'
      · rfl
      · rfl
      · exact ih _ (by omega) (j + 1) opts' rfl
    · rw [parseLoop, dif_neg (Nat.not_lt.2 hge), List.drop_of_length_le hge]
      rfl

/-! ### Intervals -/

/-- An interval that is a number of `2 ^ 64` seconds or more. -/
def TooLong (raw : String) : Prop :=
  ∃ secs, parseF64 raw = some (.finite secs) ∧ 2 ^ 64 ≤ secs

/-- The nearest number to a twentieth is a little more. -/
theorem leastInterval_eq : leastInterval = .finite (7205759403792794 / 2 ^ 57) := by
  have hplace : binary64.place (1 / 20) = -57 :=
    place_eq (k := -4) (by norm_num) (by norm_num) (by decide)
  have hfloor : ⌊(1 / 20 / 2 ^ (-57 : ℤ) : ℚ)⌋ = 7205759403792793 := by
    rw [Int.floor_eq_iff]
    norm_num
  have hround : binary64.round (1 / 20) = 7205759403792794 / 2 ^ 57 := by
    rw [Format.round, hplace, roundTiesEven, hfloor]
    norm_num
  have hmax : (1 : ℚ) ≤ 2 ^ binary64.maxExponent := one_le_zpow₀ one_le_two (by decide)
  rw [leastInterval, ofRat_of_nonneg (by norm_num), hround,
    if_neg (not_le.2 (lt_of_lt_of_le (by norm_num) hmax))]

/-- **What `from_secs_f64` is asked for**: the greater of a positive number
and the least interval, as the floating-point number that `0.05` stands for.
-/
theorem intervalSecs_eq_ok {raw : String} {x : Number} :
    intervalSecs raw = .ok x ↔ ∃ secs, parseF64 raw = some (.finite secs) ∧ 0 < secs ∧
      x = .finite (max secs (7205759403792794 / 2 ^ 57)) := by
  simp only [intervalSecs, bind_eq_ok, okOr_eq_ok, refuseIf_eq_ok, exists_const, not_or, not_not,
    leastInterval_eq, Except.ok.injEq, @eq_comm _ _ x]
  constructor
  · rintro ⟨secs, hsecs, ⟨hpos, hfinite⟩, rfl⟩
    cases secs with
    | nan => cases hfinite
    | infinite negative => cases hfinite
    | finite secs =>
      exact ⟨secs, hsecs, by simpa [Number.isNonpos] using hpos, rfl⟩
  · rintro ⟨secs, hsecs, hpos, rfl⟩
    exact ⟨_, hsecs, ⟨by simpa [Number.isNonpos] using hpos, rfl⟩, rfl⟩

/-- What the interval of so many seconds comes to: at least 50 ms, or a panic. -/
theorem fromSecsF64_max (secs : ℚ) :
    (2 ^ 64 ≤ secs ∧ fromSecsF64 (.finite (max secs (7205759403792794 / 2 ^ 57))) = none) ∨
      (secs < 2 ^ 64 ∧ ∃ d, 50000000 ≤ d ∧
        fromSecsF64 (.finite (max secs (7205759403792794 / 2 ^ 57))) = some d) := by
  have hleast : (7205759403792794 / 2 ^ 57 : ℚ) ≤ max secs (7205759403792794 / 2 ^ 57) :=
    le_max_right _ _
  have hnonneg : 0 ≤ max secs (7205759403792794 / 2 ^ 57) := le_trans (by norm_num) hleast
  rcases lt_or_ge secs (2 ^ 64) with hlt | hge
  · have hbelow : max secs (7205759403792794 / 2 ^ 57) < 2 ^ 64 := max_lt hlt (by norm_num)
    refine .inr ⟨hlt, _, ?_, if_pos ⟨hnonneg, hbelow⟩⟩
    have hnanos : 50000000 ≤ roundTiesEven (max secs (7205759403792794 / 2 ^ 57) * 10 ^ 9) := by
      refine le_roundTiesEven ?_
      push_cast
      linarith
    omega
  · have habove : ¬max secs (7205759403792794 / 2 ^ 57) < 2 ^ 64 :=
      not_lt.2 (hge.trans (le_max_left _ _))
    exact .inl ⟨hge, if_neg fun h => habove h.2⟩

/-- **Which intervals panic**: those that `from_secs_f64` cannot hold, from
`2 ^ 64` seconds on. -/
theorem parseInterval_eq_none_iff {raw : String} : parseInterval raw = none ↔ TooLong raw := by
  unfold parseInterval
  cases hsecs : intervalSecs raw with
  | error e =>
    refine iff_of_false nofun fun ⟨secs, hparse, hlong⟩ => ?_
    have hpos : 0 < secs := lt_of_lt_of_le (by norm_num) hlong
    cases hsecs.symm.trans (intervalSecs_eq_ok.2 ⟨secs, hparse, hpos, rfl⟩)
  | ok x =>
    obtain ⟨secs, hparse, hpos, rfl⟩ := intervalSecs_eq_ok.1 hsecs
    rw [Option.map_eq_none_iff]
    obtain ⟨hlong, hnone⟩ | ⟨hshort, d, -, hsome⟩ := fromSecsF64_max secs
    · exact iff_of_true hnone ⟨secs, hparse, hlong⟩
    · refine iff_of_false (by rw [hsome]; exact nofun) fun ⟨secs', hparse', hlong⟩ => ?_
      cases hparse.symm.trans hparse'
      exact absurd hlong (not_le.2 hshort)

/-- **Which intervals there are**, and that none is shorter than 50 ms: the
numbers that are positive, finite and below `2 ^ 64` seconds. -/
theorem parseInterval_eq_ok {raw : String} :
    ((∃ d, parseInterval raw = some (.ok d)) ↔
      ∃ secs, parseF64 raw = some (.finite secs) ∧ 0 < secs ∧ secs < 2 ^ 64) ∧
    ∀ d, parseInterval raw = some (.ok d) → 50000000 ≤ d := by
  unfold parseInterval
  cases hsecs : intervalSecs raw with
  | error e =>
    refine ⟨iff_of_false nofun fun ⟨secs, hparse, hpos, _⟩ => ?_, nofun⟩
    cases hsecs.symm.trans (intervalSecs_eq_ok.2 ⟨secs, hparse, hpos, rfl⟩)
  | ok x =>
    obtain ⟨secs, hparse, hpos, rfl⟩ := intervalSecs_eq_ok.1 hsecs
    dsimp only
    obtain ⟨hlong, hnone⟩ | ⟨hshort, d, hleast, hsome⟩ := fromSecsF64_max secs
    · rw [hnone]
      refine ⟨iff_of_false nofun fun ⟨secs', hparse', _, hshort⟩ => ?_, nofun⟩
      cases hparse.symm.trans hparse'
      exact absurd hlong (not_le.2 hshort)
    · rw [hsome]
      refine ⟨iff_of_true ⟨d, rfl⟩ ⟨secs, hparse, hpos, hshort⟩, fun d' hd => ?_⟩
      cases hd
      exact hleast

/-- **A decimal that is too long**: from half a place below `2 ^ 64` on it is rounded to that or
more, and from half a place below `2 ^ 1024` on to an infinity, which is refused. -/
theorem tooLong_iff_of_decimal {raw : String} {x : ℚ}
    (h : parseDecimal (splitSign raw.toList).2 = some x) :
    TooLong raw ↔
      (splitSign raw.toList).1 = false ∧ 2 ^ 64 - 2 ^ 10 ≤ x ∧ x < 2 ^ 1024 - 2 ^ 970 := by
  have hx : 0 ≤ x := parseDecimal_nonneg h
  have hparse : parseF64 raw = some (binary64.ofRat (signed (splitSign raw.toList).1 x)) := by
    rw [parseF64]
    dsimp only
    rw [h]
  have hprecision : 0 < binary64.precision := by decide
  have hlong : 2 ^ 64 ≤ binary64.round x ↔ 2 ^ 64 - 2 ^ 10 ≤ x :=
    pow_le_round_iff_of_nat hprecision (by decide) rfl
  have hinfinite : 2 ^ 1024 ≤ binary64.round x ↔ 2 ^ 1024 - 2 ^ 970 ≤ x :=
    pow_le_round_iff_of_nat hprecision (by decide) rfl
  have hmax : (2 : ℚ) ^ binary64.maxExponent = 2 ^ 1024 := zpow_natCast 2 1024
  rw [TooLong, hparse]
  cases (splitSign raw.toList).1 with
  | true =>
    refine iff_of_false ?_ fun h => Bool.noConfusion h.1
    rintro ⟨secs, hsecs, hle⟩
    have hround : binary64.round (-x) ≤ 0 := round_nonpos (neg_nonpos.2 hx)
    have hpos : (0 : ℚ) < secs := lt_of_lt_of_le (by positivity) hle
    rw [signed, if_pos rfl, Format.ofRat] at hsecs
    split_ifs at hsecs
    · cases hsecs
    · cases hsecs
      exact absurd hpos (not_lt.2 hround)
  | false =>
    rw [signed, if_neg Bool.false_ne_true, ofRat_of_nonneg hx, hmax, ← hlong, ← not_le, ← hinfinite]
    split_ifs with hlarge
    · refine iff_of_false ?_ fun h => h.2.2 hlarge
      rintro ⟨secs, hsecs, -⟩
      cases hsecs
    · constructor
      · rintro ⟨secs, hsecs, hle⟩
        cases hsecs
        exact ⟨rfl, hle, hlarge⟩
      · exact fun h => ⟨_, rfl, h.2.1⟩

/-! ### Options that panic -/

/-- An option that the loop goes past. -/
def Item.Accepted (item : Item) : Prop :=
  match kind item.flag, item.value with
  | .switch _, _ => True
  | .interval, none => True
  | .interval, some raw => ∃ secs, parseF64 raw = some (.finite secs) ∧ 0 < secs ∧ secs < 2 ^ 64
  | .value _ read, some raw => ∃ set, read raw = .ok set
  | .backendSocket, some _ => True
  | _, _ => False

/-- An option with an interval that is too long. -/
def Item.TooLong (item : Item) : Prop :=
  kind item.flag = .interval ∧ ∃ raw, item.value = some raw ∧ Args.TooLong raw

/-- A command line with such an option, behind others that are all accepted. -/
def Argv.TooLong (args : Argv) : Prop :=
  ∃ front item back, items args.list = front ++ item :: back ∧ (∀ other ∈ front, other.Accepted) ∧
    item.TooLong

/-- An item is accepted exactly when applying it to the options succeeds,
whatever the options are. -/
theorem accepted_iff (opts : CliOptions) (item : Item) :
    item.Accepted ↔ ∃ opts', item.apply opts = some (.ok opts') := by
  obtain ⟨flag, value⟩ := item
  rw [Item.Accepted, Item.apply]
  dsimp only
  generalize kind flag = k
  cases k with
  | stop message => simp
  | switch set => simp
  | interval =>
    cases value with
    | none => simp
    | some raw =>
      dsimp only
      rw [← parseInterval_eq_ok.1]
      rcases parseInterval raw with _ | e | d <;> simp [Except.map]
  | value flag read =>
    cases value with
    | none => simp
    | some raw =>
      dsimp only
      cases read raw <;> simp [Except.map]
  | backendSocket => cases value <;> simp
  | unsupported => simp

/-- An item states too long an interval exactly when applying it panics. -/
theorem item_tooLong_iff (opts : CliOptions) (item : Item) :
    item.TooLong ↔ item.apply opts = none := by
  obtain ⟨flag, value⟩ := item
  rw [Item.TooLong, Item.apply]
  dsimp only
  generalize kind flag = k
  cases k with
  | stop message => simp
  | switch set => simp
  | interval =>
    cases value with
    | none => simp
    | some raw => simp [parseInterval_eq_none_iff]
  | value flag read => cases value <;> simp
  | backendSocket => cases value <;> simp
  | unsupported => simp

/-- An argument that is not about the interval leaves it alone. -/
def ArgKind.KeepsInterval : ArgKind → Prop
  | .switch set => ∀ opts, (set opts).refreshInterval = opts.refreshInterval
  | .value _ read =>
    ∀ raw set, read raw = .ok set → ∀ opts, (set opts).refreshInterval = opts.refreshInterval
  | _ => True

/-- No option but those of the interval changes the interval, going through
the kinds one by one. -/
theorem keepsInterval_kind (arg : String) : (kind arg).KeepsInterval := by
  have hmap {α : Type} {x : Except String α} {f : α → CliOptions → CliOptions}
      {set : CliOptions → CliOptions} (h : x.map f = .ok set) : ∃ a, f a = set := by
    cases x with
    | error e => cases h
    | ok a => exact ⟨a, Except.ok.inj h⟩
  unfold kind
  split <;> simp [ArgKind.KeepsInterval]
  -- What is left are the values that can be refused.
  all_goals
    intro raw set h
    obtain ⟨_, rfl⟩ := hmap h
    exact fun _ => rfl

/-- **No option makes the interval** shorter than 50 ms: those that set it
take the greater of what is given and that, and the others leave it alone. -/
theorem least_of_apply {opts opts' : CliOptions} {item : Item}
    (hleast : 50000000 ≤ opts.refreshInterval) (h : item.apply opts = some (.ok opts')) :
    50000000 ≤ opts'.refreshInterval := by
  obtain ⟨flag, value⟩ := item
  have hkeeps := keepsInterval_kind flag
  rw [Item.apply] at h
  dsimp only at h
  cases hkind : kind flag with
  | stop message => rw [hkind] at h; cases h
  | switch set =>
    rw [hkind] at h hkeeps
    cases h
    rwa [hkeeps]
  | interval =>
    rw [hkind] at h
    cases value with
    | none =>
      cases h
      exact hleast
    | some raw =>
      obtain ⟨result, hresult, h⟩ := Option.map_eq_some_iff.1 h
      cases result with
      | error e => cases h
      | ok d =>
        cases h
        exact parseInterval_eq_ok.2 d hresult
  | value name read =>
    rw [hkind] at h hkeeps
    cases value with
    | none => cases h
    | some raw =>
      dsimp only at h
      cases hread : read raw with
      | error e => rw [hread] at h; cases h
      | ok set =>
        rw [hread] at h
        cases h
        rwa [hkeeps raw set hread]
  | backendSocket =>
    rw [hkind] at h
    cases value with
    | none => cases h
    | some raw =>
      cases h
      exact hleast
  | unsupported => rw [hkind] at h; cases h

/-! ### The command line -/

/-- An interval is safe: `from_secs_f64` is asked for what it has, and returns, and no less than
50 ms. -/
structure IntervalSafe (raw : String) : Prop where
  domain : ∀ x, intervalSecs raw = .ok x → ∃ secs, x = .finite secs ∧ 0 ≤ secs ∧ secs < 2 ^ 64
  returns : ∃ result, parseInterval raw = some result
  least : ∀ d, parseInterval raw = some (.ok d) → 50000000 ≤ d

/-- A command line is safe: `parse_args` returns, and no interval of less than 50 ms. -/
structure ArgsSafe (args : Argv) : Prop where
  returns : ∃ result, parseArgs args = some result
  least : ∀ opts, parseArgs args = some (.ok opts) → 50000000 ≤ opts.refreshInterval

/-- **Which intervals are safe**: all but those that panic. A text that is no
number, or no positive one, is refused with an error. -/
theorem intervalSafe_iff (raw : String) : IntervalSafe raw ↔ ¬TooLong raw := by
  rw [← parseInterval_eq_none_iff]
  constructor
  · rintro ⟨-, ⟨result, hresult⟩, -⟩ hnone
    cases hresult.symm.trans hnone
  · intro hsome
    refine ⟨fun x hx => ?_, Option.ne_none_iff_exists'.1 hsome, parseInterval_eq_ok.2⟩
    obtain ⟨secs, hparse, hpos, rfl⟩ := intervalSecs_eq_ok.1 hx
    have hshort : secs < 2 ^ 64 :=
      not_le.1 fun hlong => hsome (parseInterval_eq_none_iff.2 ⟨secs, hparse, hlong⟩)
    exact ⟨_, rfl, le_max_of_le_left hpos.le, max_lt hshort (by norm_num)⟩

/-- **Which command lines panic**: those with too long an interval, where all
options before it are accepted. -/
theorem parseArgs_eq_none_iff (args : Argv) : parseArgs args = none ↔ args.TooLong := by
  rw [parseArgs, Option.map_eq_none_iff, parseLoop_eq, List.drop_zero,
    Checked.fold_eq_none_iff accepted_iff item_tooLong_iff]
  rfl

/-- Whatever is parsed has an interval of at least 50 ms. -/
theorem least_of_parseArgs {args : Argv} {opts : CliOptions}
    (h : parseArgs args = some (.ok opts)) : 50000000 ≤ opts.refreshInterval := by
  obtain ⟨result, hloop, hresult⟩ := Option.map_eq_some_iff.1 h
  simp only [bind_eq_ok, refuseIf_eq_ok, exists_const, Except.ok.injEq] at hresult
  obtain ⟨opts', rfl, -, -, rfl⟩ := hresult
  rw [parseLoop_eq] at hloop
  exact Checked.fold_keeps (P := fun opts => 50000000 ≤ opts.refreshInterval)
    (fun _ _ _ => least_of_apply) (by decide) hloop

/-- **Where the command line is safe**: an interval is, if it is not a number of `2 ^ 64` seconds or
more; and the arguments are, if no such interval comes behind options that are all accepted. -/
theorem parse_args_safe_iff (raw : String) (args : Argv) :
    (IntervalSafe raw ↔ ¬TooLong raw) ∧ (ArgsSafe args ↔ ¬args.TooLong) := by
  refine ⟨intervalSafe_iff raw, ?_⟩
  rw [← parseArgs_eq_none_iff]
  constructor
  · rintro ⟨⟨result, hresult⟩, -⟩ hnone
    cases hresult.symm.trans hnone
  · exact fun hsome => ⟨Option.ne_none_iff_exists'.1 hsome, fun opts => least_of_parseArgs⟩

/-- A one and twenty zeros. -/
theorem parseDecimal_1e20 : parseDecimal (splitSign "1e20".toList).2 = some (10 ^ 20) := by
  have hparse : parseDecimal (splitSign "1e20".toList).2 =
      some (((1 : ℕ) : ℚ) * 10 ^ ((20 : ℤ) - (0 : ℕ))) := rfl
  rw [hparse]
  norm_num

/-- **An interval of `1e20` seconds** is positive and finite, and a panic: it
is more than `Duration` can hold. -/
theorem args_unsafe_1e20 : ¬IntervalSafe "1e20" ∧ ¬ArgsSafe ⟨["-i", "1e20"], by decide⟩ := by
  have hlong : TooLong "1e20" := by
    refine (tooLong_iff_of_decimal parseDecimal_1e20).2 ⟨rfl, by norm_num, ?_⟩
    have hsmall : (10 : ℚ) ^ 20 < 2 ^ 970 :=
      lt_of_lt_of_le (by norm_num) (pow_le_pow_right₀ one_le_two (by decide : 67 ≤ 970))
    refine lt_sub_iff_add_lt.2 ?_
    calc (10 : ℚ) ^ 20 + 2 ^ 970 < 2 ^ 970 + 2 ^ 970 := add_lt_add_left hsmall _
      _ = 2 ^ 971 := by rw [← two_mul, ← pow_succ']
      _ ≤ 2 ^ 1024 := pow_le_pow_right₀ one_le_two (by decide)
  refine ⟨fun hsafe => (intervalSafe_iff _).1 hsafe hlong, fun hsafe => ?_⟩
  obtain ⟨result, hresult⟩ := hsafe.returns
  have hnone : parseArgs ⟨["-i", "1e20"], by decide⟩ = none :=
    (parseArgs_eq_none_iff _).2 ⟨[], ⟨"-i", some "1e20"⟩, [], rfl, nofun, rfl, _, rfl, hlong⟩
  cases hnone.symm.trans hresult

end Args
end Cli
end Clustat
