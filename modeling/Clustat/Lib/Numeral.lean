/-
# Numerals

`Nat.toDigits` writes a number in a base up to 16.  Here such a numeral is read: by the value of
its digits (`value`), which is the number it was made of (`value_toDigits`), also if it has been
filled up with zeros (`value_leftpad`).  A word of decimal digits is the numeral of its value,
filled up to its length (`leftpad_value`).

`ofDigits` and `digitsOf` are the same for digits that are numbers, with any base and a fixed
number of digits.
-/

import Mathlib.Data.List.Induction
import Mathlib.Data.List.TakeWhile
import Mathlib.Data.Nat.Digits.Defs
import Mathlib.Tactic.IntervalCases
import Mathlib.Tactic.Ring

namespace Numeral

/-! ### Digits that are numbers -/

/-- The number with these digits, the most significant first. -/
def ofDigits (base : ℕ) (digits : List ℕ) : ℕ := digits.foldl (fun n d => n * base + d) 0

/-- The last `w` digits of a number. -/
def digitsOf (base : ℕ) : ℕ → ℕ → List ℕ
  | 0, _ => []
  | w + 1, n => n / base ^ w % base :: digitsOf base w n

section OfDigits

variable {base : ℕ}

/-- The loop that reads digits, started at any `n`: `n` moves up by as many
places as there are digits. -/
theorem foldl_eq (n : ℕ) (digits : List ℕ) :
    digits.foldl (fun n d => n * base + d) n = n * base ^ digits.length + ofDigits base digits := by
  rw [ofDigits]
  induction digits generalizing n with
  | nil => simp
  | cons d digits ih =>
    rw [List.foldl_cons, List.foldl_cons, ih, ih (0 * base + d), List.length_cons]
    ring

/-- The first digits of a numeral count by the places of the last. -/
theorem ofDigits_append (u v : List ℕ) :
    ofDigits base (u ++ v) = ofDigits base u * base ^ v.length + ofDigits base v := by
  rw [ofDigits, List.foldl_append, foldl_eq]
  rfl

/-- A numeral of `w` places has `w` digits. -/
@[simp] theorem length_digitsOf (w n : ℕ) : (digitsOf base w n).length = w := by
  induction w with
  | zero => rfl
  | succ w ih => rw [digitsOf, List.length_cons, ih]

/-- The digits of a numeral are below its base. -/
theorem lt_of_mem_digitsOf (hb : 0 < base) {w n d : ℕ} (h : d ∈ digitsOf base w n) : d < base := by
  induction w with
  | zero => cases h
  | succ w ih =>
    rcases List.mem_cons.1 h with rfl | h
    · exact Nat.mod_lt _ hb
    · exact ih h

/-- **Read back**, the digits are the number but for what they do not reach:
`w` places keep it modulo `base ^ w`. -/
theorem ofDigits_digitsOf (w n : ℕ) : ofDigits base (digitsOf base w n) = n % base ^ w := by
  induction w with
  | zero => rw [Nat.pow_zero, Nat.mod_one, digitsOf, ofDigits, List.foldl_nil]
  | succ w ih =>
    rw [digitsOf, ← List.singleton_append, ofDigits_append, ih, length_digitsOf, Nat.mod_pow_succ,
      ofDigits, List.foldl_cons, List.foldl_nil]
    ring

/-- A number that fits `w` places is read back unchanged. -/
theorem ofDigits_digitsOf_of_lt {w n : ℕ} (h : n < base ^ w) :
    ofDigits base (digitsOf base w n) = n := by
  rw [ofDigits_digitsOf, Nat.mod_eq_of_lt h]

/-- What a numeral spells fits its places. -/
theorem ofDigits_lt {digits : List ℕ} (h : ∀ d ∈ digits, d < base) :
    ofDigits base digits < base ^ digits.length := by
  induction digits using List.reverseRecOn with
  | nil => exact Nat.one_pos
  | append_singleton digits d ih =>
    have hd : d < base := h d (by simp)
    have hlt := ih fun e he => h e (List.mem_append_left _ he)
    have hd1 : ofDigits base [d] = d := by simp [ofDigits]
    rw [ofDigits_append, hd1, List.length_append, List.length_singleton, pow_one, pow_succ]
    calc ofDigits base digits * base + d < (ofDigits base digits + 1) * base := by
          rw [Nat.add_mul, Nat.one_mul]
          omega
      _ ≤ base ^ digits.length * base := Nat.mul_le_mul_right _ hlt

end OfDigits

/-! ### Digits that are letters -/

/-- The digits of the bases up to 16. -/
def digitValue (c : Char) : Option ℕ :=
  if '0' ≤ c ∧ c ≤ '9' then some (c.toNat - 48)
  else if 'a' ≤ c ∧ c ≤ 'f' then some (c.toNat - 87)
  else if 'A' ≤ c ∧ c ≤ 'F' then some (c.toNat - 55)
  else none

/-- The digits of a base. -/
def isDigit (base : ℕ) (c : Char) : Bool := (digitValue c).any (· < base)

/-- The value of a word of digits. -/
def value (base : ℕ) (word : List Char) : ℕ :=
  ofDigits base (word.map fun c => (digitValue c).getD 0)

/-- The character of a digit has the value of that digit. -/
theorem digitValue_digitChar {d : ℕ} (hd : d < 16) : digitValue (Nat.digitChar d) = some d := by
  interval_cases d <;> decide

/-- Where the digits are among the letters. -/
theorem toNat_of_digitValue {c : Char} {d : ℕ} (h : digitValue c = some d) :
    (48 ≤ c.toNat ∧ c.toNat ≤ 57 ∧ d = c.toNat - 48) ∨
      (97 ≤ c.toNat ∧ c.toNat ≤ 102 ∧ d = c.toNat - 87) ∨
      (65 ≤ c.toNat ∧ c.toNat ≤ 70 ∧ d = c.toNat - 55) := by
  rw [digitValue] at h
  split_ifs at h with hdigit hlower hupper
  · exact .inl ⟨hdigit.1, hdigit.2, (Option.some.inj h).symm⟩
  · exact .inr (.inl ⟨hlower.1, hlower.2, (Option.some.inj h).symm⟩)
  · exact .inr (.inr ⟨hupper.1, hupper.2, (Option.some.inj h).symm⟩)

/-- A digit of a base is a character with a value below the base. -/
theorem isDigit_eq_true_iff {base : ℕ} {c : Char} :
    isDigit base c = true ↔ ∃ d, digitValue c = some d ∧ d < base := by
  rw [isDigit, Option.any_eq_true]
  simp only [decide_eq_true_eq]

section Value

variable {base : ℕ}

/-- The character of a digit below the base is a digit of the base. -/
theorem isDigit_digitChar (hb : base ≤ 16) {d : ℕ} (hd : d < base) :
    isDigit base (Nat.digitChar d) = true :=
  isDigit_eq_true_iff.2 ⟨d, digitValue_digitChar (lt_of_lt_of_le hd hb), hd⟩

/-- A letter that is a digit has a value below the base. -/
theorem getD_digitValue_lt {c : Char} (h : isDigit base c = true) :
    (digitValue c).getD 0 < base := by
  obtain ⟨d, hd, hlt⟩ := isDigit_eq_true_iff.1 h
  rwa [hd, Option.getD_some]

/-- The value of two words one after the other, as for numerals. -/
theorem value_append (u v : List Char) :
    value base (u ++ v) = value base u * base ^ v.length + value base v := by
  rw [value, List.map_append, ofDigits_append, List.length_map]
  rfl

/-- A word of one character has the value of that character. -/
theorem value_singleton (c : Char) : value base [c] = (digitValue c).getD 0 := by
  simp [value, ofDigits]

/-- A word of digits has a value below the power of its length. -/
theorem value_lt {word : List Char} (h : ∀ c ∈ word, isDigit base c = true) :
    value base word < base ^ word.length := by
  have hlt := @ofDigits_lt base (word.map fun c => (digitValue c).getD 0)
    fun d hd => by
      obtain ⟨c, hc, rfl⟩ := List.mem_map.1 hd
      exact getD_digitValue_lt (h c hc)
  rwa [List.length_map] at hlt

variable (hone : 1 < base) (hb : base ≤ 16)

include hone hb

/-- **A numeral consists of digits and has the value of its number**, by
strong induction on the number, one digit at a time. -/
theorem toDigits_spec (n : ℕ) :
    (∀ c ∈ Nat.toDigits base n, isDigit base c = true) ∧ value base (Nat.toDigits base n) = n := by
  induction n using Nat.strongRecOn with
  | ind n ih =>
    rw [Nat.toDigits_eq_if hone]
    split_ifs with hn
    · refine ⟨fun c hc => ?_, ?_⟩
      · rw [List.mem_singleton.1 hc]
        exact isDigit_digitChar hb hn
      · rw [value_singleton, digitValue_digitChar (lt_of_lt_of_le hn hb), Option.getD_some]
    · have hmod : n % base < base := Nat.mod_lt _ (by omega)
      have hdiv : n / base < n := Nat.div_lt_self (by omega) hone
      obtain ⟨hdigits, hvalue⟩ := ih _ hdiv
      refine ⟨fun c hc => ?_, ?_⟩
      · rcases List.mem_append.1 hc with hc | hc
        · exact hdigits c hc
        · rw [List.mem_singleton.1 hc]
          exact isDigit_digitChar hb hmod
      · rw [value_append, hvalue, value_singleton, digitValue_digitChar (lt_of_lt_of_le hmod hb),
          Option.getD_some, List.length_singleton, pow_one, Nat.mul_comm]
        exact Nat.div_add_mod n base

/-- A number is written with digits of its base. -/
theorem isDigit_of_mem_toDigits {n : ℕ} {c : Char} (hc : c ∈ Nat.toDigits base n) :
    isDigit base c = true :=
  (toDigits_spec hone hb n).1 c hc

/-- A number is what its own digits spell. -/
theorem value_toDigits (n : ℕ) : value base (Nat.toDigits base n) = n :=
  (toDigits_spec hone hb n).2

/-- A numeral of more than one digit begins with another digit than zero. -/
theorem head?_toDigits_ne_zero {n : ℕ} (hn : 0 < n) : (Nat.toDigits base n).head? ≠ some '0' := by
  induction n using Nat.strongRecOn with
  | ind n ih =>
    rw [Nat.toDigits_eq_if hone]
    split_ifs with hlt
    · intro h
      have hchar : Nat.digitChar n = '0' := Option.some.inj h
      have hvalue := digitValue_digitChar (lt_of_lt_of_le hlt hb)
      have hzero : digitValue '0' = some 0 := by decide
      rw [hchar, hzero] at hvalue
      exact absurd (Option.some.inj hvalue) hn.ne
    · have hdiv := ih _ (Nat.div_lt_self hn hone) (Nat.div_pos (by omega) (by omega))
      cases hd : Nat.toDigits base (n / base) with
      | nil => exact absurd hd Nat.toDigits_ne_nil
      | cons c cs =>
        rw [hd] at hdiv
        exact hdiv

/-- The digits of a numeral end where other letters begin. -/
theorem takeWhile_toDigits_append {n : ℕ} {rest : List Char}
    (hrest : ∀ c ∈ rest.head?, isDigit base c = false) :
    (Nat.toDigits base n ++ rest).takeWhile (isDigit base) = Nat.toDigits base n := by
  rw [List.takeWhile_append_of_pos fun c hc => isDigit_of_mem_toDigits hone hb hc]
  cases rest with
  | nil => exact List.append_nil _
  | cons c rest =>
    rw [List.takeWhile_cons_of_neg (by simp [hrest c rfl]), List.append_nil]

end Value

/-! ### Decimal words of a fixed length -/

/-- Zeros in front do not change the value. -/
theorem value_leftpad (w n : ℕ) : value 10 ((Nat.toDigits 10 n).leftpad w '0') = n := by
  have hzeros : ∀ m, value 10 (List.replicate m '0') = 0 := by
    intro m
    induction m with
    | zero => rfl
    | succ m ih =>
      rw [List.replicate_succ', value_append, ih, Nat.zero_mul, Nat.zero_add]
      decide
  rw [List.leftpad, value_append, hzeros, Nat.zero_mul, Nat.zero_add,
    value_toDigits (by decide) (by decide)]

/-- With zeros in front it is written with digits still. -/
theorem isDigit_of_mem_leftpad {w n : ℕ} {c : Char}
    (hc : c ∈ (Nat.toDigits 10 n).leftpad w '0') : isDigit 10 c = true := by
  rw [List.leftpad] at hc
  rcases List.mem_append.1 hc with hc | hc
  · rw [List.eq_of_mem_replicate hc]
    decide
  · exact isDigit_of_mem_toDigits (by decide) (by decide) hc

/-- A decimal digit is the character of its own value. -/
theorem digitChar_of_isDigit {c : Char} (h : isDigit 10 c = true) :
    Nat.digitChar ((digitValue c).getD 0) = c := by
  obtain ⟨d, hd, hlt⟩ := isDigit_eq_true_iff.1 h
  rw [hd, Option.getD_some]
  refine Char.toNat_inj.1 ?_
  rw [Nat.toNat_digitChar_of_lt_ten hlt]
  have := toNat_of_digitValue hd
  omega

/-- **A word of decimal digits is the numeral of its value**, filled up to its length. -/
theorem leftpad_value {word : List Char} (hne : word ≠ [])
    (h : ∀ c ∈ word, isDigit 10 c = true) :
    (Nat.toDigits 10 (value 10 word)).leftpad word.length '0' = word := by
  induction word using List.reverseRecOn with
  | nil => exact absurd rfl hne
  | append_singleton word c ih =>
    have hword : ∀ d ∈ word, isDigit 10 d = true := fun d hd => h d (List.mem_append_left _ hd)
    have hc : isDigit 10 c = true := h c (by simp)
    have hd : (digitValue c).getD 0 < 10 := getD_digitValue_lt hc
    have hvalue : value 10 (word ++ [c]) = 10 * value 10 word + (digitValue c).getD 0 := by
      rw [value_append, value_singleton, List.length_singleton, pow_one, Nat.mul_comm]
    have hsingle : Nat.toDigits 10 ((digitValue c).getD 0) = [c] := by
      rw [Nat.toDigits_of_lt_base hd, digitChar_of_isDigit hc]
    rcases Nat.eq_zero_or_pos (value 10 word) with hzero | hpos
    · -- The digits before are zeros, those that are filled up.
      have hzeros : word = List.replicate word.length '0' := by
        rcases eq_or_ne word [] with rfl | hword'
        · rfl
        · have hih := ih hword' hword
          rw [hzero, Nat.toDigits_zero, List.leftpad] at hih
          have hlen : 0 < word.length := List.length_pos_iff.2 hword'
          conv_lhs => rw [← hih]
          rw [List.length_singleton, ← List.replicate_succ', Nat.sub_add_cancel hlen]
      rw [hvalue, hzero, Nat.mul_zero, Nat.zero_add, hsingle, List.leftpad, List.length_append,
        List.length_singleton, Nat.add_sub_cancel, ← hzeros]
    · have hword' : word ≠ [] := by
        rintro rfl
        exact absurd hpos (lt_irrefl 0)
      rw [hvalue, ← Nat.toDigits_append_toDigits (by decide) hpos hd, hsingle, List.leftpad,
        List.length_append, List.length_append, List.length_singleton, Nat.add_sub_add_right,
        ← List.append_assoc]
      exact congrArg (· ++ [c]) (ih hword' hword)

end Numeral
