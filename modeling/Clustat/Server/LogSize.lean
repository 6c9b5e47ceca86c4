/-
# The size of a log

`parse_log_size_bytes` of `crates/server/src/main.rs`: a setting such as `5mb` is split where its
digits end, at a byte that `find` has counted, and the two parts are read on their own.  Here the
setting is described as a word (`IsLogSize`): digits, white space, and a unit in any case, with
the number of bytes that they come to.  The parser accepts these words and no others, with that
number (`parse_log_size_bytes_iff`).
-/

import Clustat.Common.Number
import Clustat.Lib.Guards
import Clustat.Server.Ports

namespace Clustat
namespace Server

open Guards Numeral

/-- `StartupError::new`, with `ErrorCode::ConfigInvalid`. -/
def configInvalid (message : String) : StartupError := { code := .configInvalid, message }

/-- `multiplier`, by the unit. -/
def multiplier (unit : String) : Option UInt64 :=
  match unit with
  | "" | "b" => some 1
  | "kb" | "kib" => some 1024
  | "mb" | "mib" => some (1024 * 1024)
  | "gb" | "gib" => some (1024 * 1024 * 1024)
  | _ => none

/-- `checked_mul`. -/
def checkedMul (a b : UInt64) : Option UInt64 :=
  if a.toNat * b.toNat < 2 ^ 64 then some (a * b) else none

/-- What `parse_log_size_bytes` makes of the two parts of a setting. -/
def readLogSize (raw : String) (number unit : List Char) : Except StartupError UInt64 := do
  let invalid := "invalid log.max_size '" ++ raw ++ "': "
  refuseIf (number = []) (configInvalid (invalid ++ "missing number"))
  let value ← (parseUInt (2 ^ 64) number).mapError fun e => configInvalid (invalid ++ e.text)
  refuseIf (value = 0) (configInvalid "invalid log.max_size: must be > 0")
  let other := toAsciiLowercase (trim (.ofList unit))
  let multiplier ← okOr (configInvalid (invalid ++ "unsupported unit '" ++ other ++ "'"))
    (multiplier other)
  okOr (configInvalid (invalid ++ "value too large")) (checkedMul (.ofNat value) multiplier)

/-- `parse_log_size_bytes`; `none`, if it panics. -/
def parseLogSizeBytes (raw : String) : Option (Except StartupError UInt64) :=
  let trimmed := (trim raw).toList
  if trimmed = [] then some (.error (configInvalid "invalid log.max_size: empty value"))
  else
    let place := (findChar (!isDigit 10 ·) trimmed).getD (byteLen trimmed)
    (splitAt place trimmed).map fun (number, unit) => readLogSize raw number unit

/-! ### The setting as a word -/

/-- The units, and how many bytes they are. -/
def logSizeUnits : List (String × ℕ) :=
  [("", 1), ("b", 1), ("kb", 2 ^ 10), ("kib", 2 ^ 10), ("mb", 2 ^ 20), ("mib", 2 ^ 20),
    ("gb", 2 ^ 30), ("gib", 2 ^ 30)]

/-- A word is a unit in some case. -/
def IsLogUnit (word : List Char) (bytes : ℕ) : Prop :=
  (String.ofList (word.map Char.toLower), bytes) ∈ logSizeUnits

/-- A setting, and the number of bytes it stands for. -/
def IsLogSize (raw : String) (bytes : ℕ) : Prop :=
  ∃ digits space unit size, (trim raw).toList = digits ++ space ++ unit ∧
    digits ≠ [] ∧ (∀ c ∈ digits, isDigit 10 c = true) ∧ (∀ c ∈ space, isWhitespace c = true) ∧
    IsLogUnit unit size ∧ 0 < value 10 digits ∧ bytes = value 10 digits * size ∧
    value 10 digits < 2 ^ 64 ∧ bytes < 2 ^ 64

/-! ### The parts of a setting -/

/-- A letter in some case is neither white space nor a digit. -/
theorem of_toLower_letter {c : Char} (h : 97 ≤ c.toLower.toNat ∧ c.toLower.toNat ≤ 122) :
    isWhitespace c = false ∧ isDigit 10 c = false := by
  have hletter : 65 ≤ c.toNat ∧ c.toNat ≤ 122 := by
    rw [toNat_toLower] at h
    split_ifs at h <;> omega
  refine ⟨isWhitespace_of_visible (by omega) (by omega), ?_⟩
  rw [← Bool.not_eq_true, isDigit_eq_true_iff]
  rintro ⟨d, hd, hlt⟩
  have hplace := toNat_of_digitValue hd
  omega

/-- White space is no digit. -/
theorem isDigit_of_isWhitespace {c : Char} (h : isWhitespace c = true) : isDigit 10 c = false := by
  rw [← Bool.not_eq_true, isDigit_eq_true_iff]
  rintro ⟨d, hd, hlt⟩
  have hplace := toNat_of_digitValue hd
  rw [isWhitespace_of_visible (by omega) (by omega)] at h
  cases h

/-- A unit begins with a letter. -/
theorem IsLogUnit.head {word : List Char} {bytes : ℕ} (h : IsLogUnit word bytes) :
    ∀ c ∈ word.head?, isWhitespace c = false ∧ isDigit 10 c = false := by
  have hunits : logSizeUnits.all fun unit =>
      unit.1.toList.head?.all fun c => 97 ≤ c.toNat && c.toNat ≤ 122 := by
    decide
  have hletter := List.all_eq_true.1 hunits _ h
  intro c hc
  rw [String.toList_ofList, List.head?_map, Option.mem_def.1 hc, Option.map_some, Option.all_some,
    Bool.and_eq_true, decide_eq_true_iff, decide_eq_true_iff] at hletter
  exact of_toLower_letter hletter

/-- **The parts of a setting** are found where its digits and its white space
end; a unit starts with neither. -/
theorem parts_eq {digits space unit : List Char} {size : ℕ}
    (hdigits : ∀ c ∈ digits, isDigit 10 c = true) (hspace : ∀ c ∈ space, isWhitespace c = true)
    (hunit : IsLogUnit unit size) :
    (digits ++ space ++ unit).takeWhile (isDigit 10) = digits ∧
      ((digits ++ space ++ unit).dropWhile (isDigit 10)).dropWhile isWhitespace = unit := by
  have hstop : ∀ c ∈ (space ++ unit).head?, isDigit 10 c = false := by
    cases space with
    | nil => exact fun c hc => (hunit.head c hc).2
    | cons d space =>
      intro c hc
      cases hc
      exact isDigit_of_isWhitespace (hspace d List.mem_cons_self)
  have hrest {p : Char → Bool} {l : List Char} (h : ∀ c ∈ l.head?, p c = false) :
      l.takeWhile p = [] ∧ l.dropWhile p = l := by
    cases l with
    | nil => exact ⟨rfl, rfl⟩
    | cons c l =>
      have hc : p c = false := h c rfl
      exact ⟨List.takeWhile_cons_of_neg (by simp [hc]), List.dropWhile_cons_of_neg (by simp [hc])⟩
  rw [List.append_assoc, List.takeWhile_append_of_pos hdigits, List.dropWhile_append_of_pos hdigits,
    (hrest hstop).1, (hrest hstop).2, List.append_nil, List.dropWhile_append_of_pos hspace]
  exact ⟨rfl, (hrest fun c hc => (hunit.head c hc).1).2⟩

/-- A setting, by its parts. -/
theorem isLogSize_iff (raw : String) (bytes : ℕ) :
    IsLogSize raw bytes ↔
      let digits := (trim raw).toList.takeWhile (isDigit 10)
      let unit := ((trim raw).toList.dropWhile (isDigit 10)).dropWhile isWhitespace
      digits ≠ [] ∧ ∃ size, IsLogUnit unit size ∧ 0 < value 10 digits ∧
        bytes = value 10 digits * size ∧ value 10 digits < 2 ^ 64 ∧ bytes < 2 ^ 64 := by
  constructor
  · rintro ⟨digits, space, unit, size, hsplit, hne, hdigits, hspace, hunit, hpos, hbytes, hfits⟩
    obtain ⟨htake, hdrop⟩ := parts_eq hdigits hspace hunit
    rw [hsplit, htake, hdrop]
    exact ⟨hne, size, hunit, hpos, hbytes, hfits⟩
  · rintro ⟨hne, size, hunit, hpos, hbytes, hfits⟩
    refine ⟨_, ((trim raw).toList.dropWhile (isDigit 10)).takeWhile isWhitespace, _, size, ?_, hne,
      fun c hc => List.mem_takeWhile_imp hc, fun c hc => List.mem_takeWhile_imp hc, hunit, hpos,
      hbytes, hfits⟩
    rw [List.append_assoc, List.takeWhile_append_dropWhile, List.takeWhile_append_dropWhile]

/-! ### What the parser makes of them -/

/-- A unit has the multiplier that the table has for it, and no other unit has
one. -/
theorem multiplier_eq_some {unit : String} {m : UInt64} :
    multiplier unit = some m ↔ (unit, m.toNat) ∈ logSizeUnits := by
  constructor
  · intro h
    unfold multiplier at h
    split at h <;> cases h <;> decide
  · intro h
    have hm {k : UInt64} {n : ℕ} (hk : k.toNat = n) (hn : m.toNat = n) : some k = some m :=
      congrArg some (UInt64.toNat_inj.1 (hk.trans hn.symm))
    simp only [logSizeUnits, List.mem_cons, Prod.mk.injEq, List.not_mem_nil, or_false] at h
    obtain ⟨rfl, hn⟩ | ⟨rfl, hn⟩ | ⟨rfl, hn⟩ | ⟨rfl, hn⟩ | ⟨rfl, hn⟩ | ⟨rfl, hn⟩ | ⟨rfl, hn⟩ |
      ⟨rfl, hn⟩ := h
    all_goals exact hm rfl hn

/-- `checked_mul` gives the product exactly when it fits 64 bits. -/
theorem checkedMul_eq_some {a b v : UInt64} :
    checkedMul a b = some v ↔ v.toNat = a.toNat * b.toNat := by
  rw [checkedMul]
  split_ifs with h
  · rw [Option.some.injEq, ← UInt64.toNat_inj, UInt64.toNat_mul, Nat.mod_eq_of_lt h, eq_comm]
  · refine iff_of_false nofun fun hv => h ?_
    rw [← hv]
    exact v.toNat_lt

/-- **Which parts are read**, and to what: a number that is not zero, a unit
of the table, and a product that fits 64 bits. -/
theorem readLogSize_eq_ok {raw : String} {number unit : List Char} {v : UInt64} :
    readLogSize raw number unit = .ok v ↔
      number ≠ [] ∧ ∃ n, parseUInt (2 ^ 64) number = .ok n ∧ n ≠ 0 ∧
        ∃ m, multiplier (toAsciiLowercase (trim (.ofList unit))) = some m ∧
          checkedMul (.ofNat n) m = some v := by
  simp only [readLogSize, bind_eq_ok, refuseIf_eq_ok, exists_const, mapError_eq_ok, okOr_eq_ok,
    ne_eq]

/-- **Parts that are not read** are an invalid configuration, for whichever of
the reasons. -/
theorem code_of_readLogSize {raw : String} {number unit : List Char} {e : StartupError}
    (h : readLogSize raw number unit = .error e) : e.code = .configInvalid := by
  simp only [readLogSize, bind_eq_error, refuseIf_eq_error, mapError_eq_error, okOr_eq_error] at h
  obtain ⟨-, rfl⟩ | ⟨-, -, ⟨_, -, rfl⟩ | ⟨_, -, ⟨-, rfl⟩ | ⟨-, -, ⟨-, rfl⟩ | ⟨_, -, -, rfl⟩⟩⟩⟩ := h
  all_goals rfl

/-- The setting is split in front of the first character that is no digit. -/
theorem parseLogSizeBytes_eq (raw : String) :
    parseLogSizeBytes raw = some (
      let trimmed := (trim raw).toList
      if trimmed = [] then .error (configInvalid "invalid log.max_size: empty value")
      else readLogSize raw (trimmed.takeWhile (isDigit 10)) (trimmed.dropWhile (isDigit 10))) := by
  rw [parseLogSizeBytes]
  simp only [splitAt_findChar, Bool.not_not, Option.map_some]
  split_ifs <;> rfl

/-- **Which settings are read**, and to what: the words that the grammar of
settings has, with the number of bytes they stand for. -/
theorem parseLogSizeBytes_eq_ok {raw : String} {v : UInt64} :
    parseLogSizeBytes raw = some (.ok v) ↔ IsLogSize raw v.toNat := by
  have hunit : trim (.ofList ((trim raw).toList.dropWhile (isDigit 10))) =
      .ofList (((trim raw).toList.dropWhile (isDigit 10)).dropWhile isWhitespace) :=
    trim_of_suffix (List.dropWhile_suffix _)
  rw [parseLogSizeBytes_eq, Option.some_inj, isLogSize_iff]
  dsimp only
  split_ifs with hempty
  · rw [hempty]
    exact iff_of_false nofun fun h => h.1 rfl
  · rw [readLogSize_eq_ok, hunit]
    generalize hdigits : (trim raw).toList.takeWhile (isDigit 10) = digits
    generalize ((trim raw).toList.dropWhile (isDigit 10)).dropWhile isWhitespace = unit
    have hall : ∀ c ∈ digits, isDigit 10 c = true := by
      rw [← hdigits]
      exact fun c hc => List.mem_takeWhile_imp hc
    have hlower : toAsciiLowercase (.ofList unit) = .ofList (unit.map Char.toLower) := by
      rw [toAsciiLowercase, String.toList_ofList]
    refine and_congr_right fun hne => ?_
    rw [parseUInt_of_digits hall hne (by decide), hlower]
    simp only [multiplier_eq_some, checkedMul_eq_some]
    constructor
    · rintro ⟨n, hn, hzero, m, hm, hv⟩
      split_ifs at hn with hfits
      obtain rfl := Except.ok.inj hn
      rw [UInt64.toNat_ofNat_of_lt' hfits] at hv
      exact ⟨m.toNat, hm, Nat.pos_of_ne_zero hzero, hv, hfits, v.toNat_lt⟩
    · rintro ⟨size, hsize, hpos, hv, hfits, -⟩
      have hunits : ∀ unit ∈ logSizeUnits, unit.2 < 2 ^ 64 := by decide
      have hm : (UInt64.ofNat size).toNat = size := UInt64.toNat_ofNat_of_lt' (hunits _ hsize)
      refine ⟨value 10 digits, if_pos hfits, hpos.ne', .ofNat size, hm.symm ▸ hsize, ?_⟩
      rw [hm, hv, UInt64.toNat_ofNat_of_lt' hfits]

/-- **What the parser accepts**: the words that are settings, and as the number of bytes that they
stand for.  It panics on no text, and whatever else there is it calls an invalid configuration. -/
theorem parse_log_size_bytes_iff (raw : String) :
    (∀ v, parseLogSizeBytes raw = some (.ok v) ↔ IsLogSize raw v.toNat) ∧
      ((∃ v, parseLogSizeBytes raw = some (.ok v)) ∨
        ∃ e, parseLogSizeBytes raw = some (.error e) ∧ e.code = .configInvalid) := by
  refine ⟨fun v => parseLogSizeBytes_eq_ok, ?_⟩
  rw [parseLogSizeBytes_eq]
  dsimp only
  split_ifs with hempty
  · exact .inr ⟨_, rfl, rfl⟩
  · cases hparts : readLogSize raw ((trim raw).toList.takeWhile (isDigit 10))
        ((trim raw).toList.dropWhile (isDigit 10)) with
    | ok v => exact .inl ⟨v, rfl⟩
    | error e => exact .inr ⟨e, rfl, code_of_readLogSize hparts⟩

/-- White space and the case of a unit do not matter. -/
example : parseLogSizeBytes " 5 MiB\n" = some (.ok 5242880) := by decide

end Server
end Clustat
