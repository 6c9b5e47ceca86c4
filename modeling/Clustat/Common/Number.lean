/-
# Numbers in a text

`from_str` of the unsigned integers, as Rust's library has it: a plus may stand in front, and the
digits are multiplied and added up with checks.  And `from_str` of `f64`: a decimal, of which the
nearest number of 64 bits is taken, or the name of an infinity or of what is no number.
-/

import Clustat.Common.Text
import Clustat.Lib.Binary
import Clustat.Lib.Numeral

namespace Clustat

open Binary Numeral

/-- `IntErrorKind`, of the unsigned integers. -/
inductive IntErrorKind
  | empty
  | invalidDigit
  | posOverflow
  deriving DecidableEq, Repr

/-- A `ParseIntError` in a message. -/
def IntErrorKind.text : IntErrorKind → String
  | .empty => "cannot parse integer from empty string"
  | .invalidDigit => "invalid digit found in string"
  | .posOverflow => "number too large to fit in target type"

/-- The loop of `from_str_radix` to base ten, of a type with `bound` values. -/
def parseDigits (bound : ℕ) : ℕ → List Char → Except IntErrorKind ℕ
  | n, [] => .ok n
  | n, c :: s =>
    if ¬isDigit 10 c then .error .invalidDigit
    else if bound ≤ n * 10 then .error .posOverflow
    else if bound ≤ n * 10 + (digitValue c).getD 0 then .error .posOverflow
    else parseDigits bound (n * 10 + (digitValue c).getD 0) s

/-- `from_str` of an unsigned type with `bound` values. -/
def parseUInt (bound : ℕ) : List Char → Except IntErrorKind ℕ
  | [] => .error .empty
  | c :: s => if c = '+' ∧ s ≠ [] then parseDigits bound 0 s else parseDigits bound 0 (c :: s)

/-- **Digits are read to their value**, or to an overflow where it is too
large; `n` is what the digits before them have come to. -/
theorem parseDigits_of_digits {bound n : ℕ} {s : List Char} (h : ∀ c ∈ s, isDigit 10 c = true)
    (hn : n < bound) :
    parseDigits bound n s =
      if n * 10 ^ s.length + value 10 s < bound then .ok (n * 10 ^ s.length + value 10 s)
      else .error .posOverflow := by
  induction s generalizing n with
  | nil =>
    have hvalue : n * 10 ^ ([] : List Char).length + value 10 [] = n := by
      simp [value, ofDigits]
    rw [hvalue, if_pos hn]
    rfl
  | cons c s ih =>
    have hc : isDigit 10 c = true := h c List.mem_cons_self
    have hvalue : n * 10 ^ (c :: s).length + value 10 (c :: s) =
        (n * 10 + (digitValue c).getD 0) * 10 ^ s.length + value 10 s := by
      rw [← List.singleton_append, value_append, value_singleton, List.length_append,
        List.length_singleton]
      ring
    have hle : n * 10 + (digitValue c).getD 0 ≤
        (n * 10 + (digitValue c).getD 0) * 10 ^ s.length + value 10 s :=
      (Nat.le_mul_of_pos_right _ (by positivity)).trans (Nat.le_add_right _ _)
    rw [hvalue, parseDigits, if_neg (not_not.2 hc)]
    by_cases hover : bound ≤ n * 10 + (digitValue c).getD 0
    · rw [if_neg (Nat.not_lt.2 (hover.trans hle)), if_pos hover, ite_self]
    · have hmul : ¬bound ≤ n * 10 := fun hmul => hover (hmul.trans (Nat.le_add_right _ _))
      rw [if_neg hmul, if_neg hover,
        ih (fun d hd => h d (List.mem_cons_of_mem c hd)) (Nat.lt_of_not_le hover)]

/-- Of digits alone, `parse` fails only by overflow, and otherwise gives the
value they spell. -/
theorem parseUInt_of_digits {bound : ℕ} {s : List Char} (h : ∀ c ∈ s, isDigit 10 c = true)
    (hne : s ≠ []) (hbound : 0 < bound) :
    parseUInt bound s = if value 10 s < bound then .ok (value 10 s) else .error .posOverflow := by
  cases s with
  | nil => exact absurd rfl hne
  | cons c s =>
    have hc : c ≠ '+' := by
      rintro rfl
      exact absurd (h '+' List.mem_cons_self) (by decide)
    rw [parseUInt, if_neg fun hplus => hc hplus.1, parseDigits_of_digits h hbound, Nat.zero_mul,
      Nat.zero_add]

/-! ### `f64` -/

/-- The sign in front of a number: whether it is a minus, and what follows. -/
def splitSign : List Char → Bool × List Char
  | '-' :: s => (true, s)
  | '+' :: s => (false, s)
  | s => (false, s)

/-- A number and its sign. -/
def signed {α : Type*} [Neg α] (negative : Bool) (x : α) : α := if negative then -x else x

/-- The exponent of a decimal, up to its end. -/
def parseExponent : List Char → Option ℤ
  | [] => some 0
  | c :: s =>
    let (negative, digits) := splitSign s
    if (c = 'e' ∨ c = 'E') ∧ digits ≠ [] ∧ digits.all (isDigit 10) then
      some (signed negative (value 10 digits))
    else none

/-- A decimal without a sign: digits, a point among them or at an end, and an exponent. -/
def parseDecimal (s : List Char) : Option ℚ :=
  let whole := s.takeWhile (isDigit 10)
  let (part, rest) :=
    match s.dropWhile (isDigit 10) with
    | '.' :: s => (s.takeWhile (isDigit 10), s.dropWhile (isDigit 10))
    | s => ([], s)
  if whole = [] ∧ part = [] then none
  else (parseExponent rest).map fun e : ℤ => (value 10 (whole ++ part) : ℚ) * 10 ^ (e - part.length)

/-- `f64::from_str`. -/
def parseF64 (s : String) : Option Number :=
  let (negative, s) := splitSign s.toList
  match parseDecimal s with
  | some x => some (binary64.ofRat (signed negative x))
  | none =>
    match String.ofList (s.map Char.toLower) with
    | "nan" => some .nan
    | "inf" | "infinity" => some (.infinite negative)
    | _ => none

/-- What is written without a sign is not negative. -/
theorem parseDecimal_nonneg {s : List Char} {x : ℚ} (h : parseDecimal s = some x) : 0 ≤ x := by
  rw [parseDecimal] at h
  dsimp only at h
  split_ifs at h
  obtain ⟨e, -, rfl⟩ := Option.map_eq_some_iff.1 h
  positivity

end Clustat
