/-
# Binary floating-point numbers

A format has numbers of so many binary digits, down to a least place and up to a greatest power of
two.  A rational number is rounded to the nearest of them, and where two are equally near to the
one whose last digit is even; from half a place below the greatest power on it is an infinity.

Whether a number is rounded up to a power of two can be told without rounding it
(`pow_le_round_iff`).
-/

import Mathlib.Data.Int.Log
import Mathlib.Data.Rat.Floor
import Mathlib.Algebra.Order.Field.Power
import Mathlib.Tactic.Linarith
import Mathlib.Tactic.Ring

namespace Binary

/-! ### The nearest integer -/

/-- The nearest integer, and of two that are equally near the even one. -/
def roundTiesEven (x : ℚ) : ℤ :=
  if x < ⌊x⌋ + 1 / 2 ∨ x = ⌊x⌋ + 1 / 2 ∧ Even ⌊x⌋ then ⌊x⌋ else ⌊x⌋ + 1

section RoundTiesEven

variable {x : ℚ} {n : ℤ}

/-- Rounding to the nearest never goes below the floor. -/
theorem floor_le_roundTiesEven : ⌊x⌋ ≤ roundTiesEven x := by
  rw [roundTiesEven]
  split_ifs <;> omega

/-- An integer that is not above `x` is not above `x` rounded. -/
theorem le_roundTiesEven (h : n ≤ x) : n ≤ roundTiesEven x :=
  (Int.le_floor.2 h).trans floor_le_roundTiesEven

/-- An integer that is not below `x` is not below `x` rounded. -/
theorem roundTiesEven_le (h : x ≤ n) : roundTiesEven x ≤ n := by
  rw [roundTiesEven]
  split_ifs with hlow
  · exact Int.cast_le.1 ((Int.floor_le x).trans h)
  · by_contra hlt
    have hfloor : n ≤ ⌊x⌋ := by omega
    have hx : x = ⌊x⌋ := le_antisymm (h.trans (Int.cast_le.2 hfloor)) (Int.floor_le x)
    exact hlow (.inl (by linarith))

/-- **An even integer** is reached from halfway below it on: of two integers
that are equally near, the even one is taken. -/
theorem le_roundTiesEven_iff (hn : Even n) : n ≤ roundTiesEven x ↔ n - 1 / 2 ≤ x := by
  have hfloor := Int.floor_le x
  have hnext := Int.lt_floor_add_one x
  rw [roundTiesEven]
  split_ifs with hlow
  · constructor
    · intro h
      have hcast : (n : ℚ) ≤ ⌊x⌋ := Int.cast_le.2 h
      linarith
    · intro h
      by_contra hlt
      have hcast : (⌊x⌋ : ℚ) + 1 ≤ n := by exact_mod_cast Int.not_le.1 hlt
      obtain hbelow | ⟨hhalf, heven⟩ := hlow
      · linarith
      · -- The floor is the odd integer below.
        have hpred : n = ⌊x⌋ + 1 := by
          have hle : (n : ℚ) ≤ ⌊x⌋ + 1 := by linarith
          exact le_antisymm (by exact_mod_cast hle) (Int.not_le.1 hlt)
        rw [hpred] at hn
        exact Int.not_even_iff_odd.2 heven.add_one hn
  · have hhalf : (⌊x⌋ : ℚ) + 1 / 2 ≤ x := not_lt.1 fun h => hlow (.inl h)
    constructor
    · intro h
      have hcast : (n : ℚ) ≤ ⌊x⌋ + 1 := by exact_mod_cast h
      linarith
    · intro h
      have hcast : (n : ℚ) < ⌊x⌋ + 2 := by linarith
      have hlt : n < ⌊x⌋ + 2 := by exact_mod_cast hcast
      omega

end RoundTiesEven

/-! ### Formats -/

/-- How many digits there are, the least place, and the power of two from which on there is
nothing. -/
structure Format where
  precision : ℕ
  minExponent : ℤ
  maxExponent : ℤ

/-- The numbers of 64 bits. -/
def binary64 : Format := ⟨53, -1074, 1024⟩

/-- The place of the last digit of a number. -/
def Format.place (f : Format) (x : ℚ) : ℤ :=
  max (Int.log 2 |x| + 1 - f.precision) f.minExponent

/-- The nearest number with so many digits. -/
def Format.round (f : Format) (x : ℚ) : ℚ :=
  roundTiesEven (x / 2 ^ f.place x) * 2 ^ f.place x

/-- What a format has: an infinity is negative or not. -/
inductive Number
  | nan
  | infinite (negative : Bool)
  | finite (x : ℚ)
  deriving DecidableEq, Repr

/-- It is no infinity, and a number at all. -/
def Number.isFinite : Number → Bool
  | .finite _ => true
  | _ => false

/-- It is at most zero; of what is no number nothing is true. -/
def Number.isNonpos : Number → Bool
  | .nan => false
  | .infinite negative => negative
  | .finite x => x ≤ 0

/-- The greater of two; of what is no number and a number, the number. -/
def Number.max : Number → Number → Number
  | .nan, b => b
  | a, .nan => a
  | .infinite true, b => b
  | a, .infinite true => a
  | .finite x, .finite y => .finite (Max.max x y)
  | _, _ => .infinite false

/-- What a rational number is in a format. -/
def Format.ofRat (f : Format) (x : ℚ) : Number :=
  if 2 ^ f.maxExponent ≤ |f.round x| then .infinite (x < 0) else .finite (f.round x)

section Round

variable {f : Format} {x : ℚ} {k : ℤ}

/-- A number that is not positive stays so when it is rounded to the format.
-/
theorem round_nonpos (h : x ≤ 0) : f.round x ≤ 0 := by
  have hdiv : x / 2 ^ f.place x ≤ (0 : ℤ) := by
    rw [Int.cast_zero]
    exact div_nonpos_of_nonpos_of_nonneg h (by positivity)
  have hround : (roundTiesEven (x / 2 ^ f.place x) : ℚ) ≤ 0 := by
    exact_mod_cast roundTiesEven_le hdiv
  exact mul_nonpos_of_nonpos_of_nonneg hround (by positivity)

/-- A number that is not negative stays so when it is rounded to the format.
-/
theorem round_nonneg (h : 0 ≤ x) : 0 ≤ f.round x := by
  have hdiv : ((0 : ℤ) : ℚ) ≤ x / 2 ^ f.place x := by
    rw [Int.cast_zero]
    exact div_nonneg h (by positivity)
  have hround : (0 : ℚ) ≤ roundTiesEven (x / 2 ^ f.place x) := by
    exact_mod_cast le_roundTiesEven hdiv
  exact mul_nonneg hround (by positivity)

/-- Powers of two on a place. -/
theorem pow_eq_mul_place {e : ℤ} (he : e ≤ k) :
    (2 : ℚ) ^ k = ((2 ^ (k - e).toNat : ℤ) : ℚ) * 2 ^ e := by
  push_cast
  rw [← zpow_natCast, Int.toNat_of_nonneg (by omega), ← zpow_add₀ two_ne_zero, sub_add_cancel]

/-- No number is rounded to less than a power of two that it reaches. -/
theorem pow_le_round_of_place (hplace : f.place x ≤ k) (h : 2 ^ k ≤ x) : 2 ^ k ≤ f.round x := by
  have hpos : (0 : ℚ) < 2 ^ f.place x := by positivity
  rw [pow_eq_mul_place hplace] at h ⊢
  exact mul_le_mul_of_nonneg_right
    (Int.cast_le.2 (le_roundTiesEven ((le_div_iff₀ hpos).2 h))) hpos.le

/-- And none to more than one that it does not exceed. -/
theorem round_le_pow_of_place (hplace : f.place x ≤ k) (h : x ≤ 2 ^ k) : f.round x ≤ 2 ^ k := by
  have hpos : (0 : ℚ) < 2 ^ f.place x := by positivity
  rw [pow_eq_mul_place hplace] at h ⊢
  exact mul_le_mul_of_nonneg_right
    (Int.cast_le.2 (roundTiesEven_le ((div_le_iff₀ hpos).2 h))) hpos.le

/-- The binary logarithm of a positive number is at least `k` from `2 ^ k` on.
-/
theorem le_log_iff (hx : 0 < x) : k ≤ Int.log 2 |x| ↔ 2 ^ k ≤ x := by
  rw [abs_of_pos hx, ← Int.zpow_le_iff_le_log Nat.one_lt_two hx, Nat.cast_ofNat]

/-- The binary logarithm of a positive number is below `k` up to `2 ^ k`,
exclusively. -/
theorem log_lt_iff (hx : 0 < x) : Int.log 2 |x| < k ↔ x < 2 ^ k := by
  rw [← not_le, le_log_iff hx, not_le]

/-- **From a power of two on** no number is rounded to less, because the power
itself is a number of the format. -/
theorem pow_le_round (hp : 0 < f.precision) (hk : f.minExponent ≤ k) (h : 2 ^ k ≤ x) :
    2 ^ k ≤ f.round x := by
  have hpos : 0 < x := lt_of_lt_of_le (by positivity) h
  have hlog : k ≤ Int.log 2 |x| := (le_log_iff hpos).2 h
  have hplace : f.place x ≤ Int.log 2 |x| := by
    rw [Format.place]
    omega
  exact (zpow_le_zpow_right₀ one_le_two hlog).trans
    (pow_le_round_of_place hplace ((le_log_iff hpos).1 le_rfl))

/-- **Below a power of two** no number is rounded to more; the power itself
can be reached, from close enough below it. -/
theorem round_le_pow (hk : f.minExponent ≤ k) (h : x < 2 ^ k) : f.round x ≤ 2 ^ k := by
  rcases le_or_gt x 0 with hneg | hpos
  · exact (round_nonpos hneg).trans (by positivity)
  · have hlog : Int.log 2 |x| < k := (log_lt_iff hpos).2 h
    refine round_le_pow_of_place ?_ h.le
    rw [Format.place]
    omega

/-- The place of a number between two powers of two. -/
theorem place_eq (hlow : 2 ^ (k - 1) ≤ x) (hhigh : x < 2 ^ k)
    (hk : f.minExponent + f.precision ≤ k) : f.place x = k - f.precision := by
  have hpos : 0 < x := lt_of_lt_of_le (by positivity) hlow
  have hle : k - 1 ≤ Int.log 2 |x| := (le_log_iff hpos).2 hlow
  have hlt : Int.log 2 |x| < k := (log_lt_iff hpos).2 hhigh
  rw [Format.place]
  omega

/-- **What is rounded up to a power of two**: what is at most half a place below it. -/
theorem pow_le_round_iff (hp : 0 < f.precision) (hk : f.minExponent + f.precision < k) :
    2 ^ k ≤ f.round x ↔ 2 ^ k - 2 ^ (k - f.precision - 1) ≤ x := by
  have hgap : (0 : ℚ) < 2 ^ (k - f.precision - 1) := by positivity
  have hhalf : (2 : ℚ) ^ (k - f.precision - 1) < 2 ^ (k - 1) :=
    zpow_lt_zpow_right₀ one_lt_two (by omega)
  have hpow : (2 : ℚ) ^ k = 2 ^ (k - 1) + 2 ^ (k - 1) := by
    rw [zpow_sub_one₀ two_ne_zero]
    ring
  rcases lt_or_ge x (2 ^ (k - 1)) with hsmall | hlarge
  · have hround : f.round x ≤ 2 ^ (k - 1) := round_le_pow (by omega) hsmall
    exact iff_of_false (by linarith) (by linarith)
  · rcases lt_or_ge x (2 ^ k) with hbelow | habove
    · -- The power of two is an even number of places.
      have hunit : (0 : ℚ) < 2 ^ (k - f.precision) := by positivity
      have heven : Even ((2 : ℤ) ^ f.precision) := even_two.pow_of_ne_zero hp.ne'
      have hwhole : (2 : ℚ) ^ k = ((2 ^ f.precision : ℤ) : ℚ) * 2 ^ (k - f.precision) := by
        have hcount : (k - (k - f.precision)).toNat = f.precision := by omega
        rw [pow_eq_mul_place (e := k - f.precision) (by omega), hcount]
      have hhalfway : (2 : ℚ) ^ k - 2 ^ (k - f.precision - 1) =
          (((2 ^ f.precision : ℤ) : ℚ) - 1 / 2) * 2 ^ (k - f.precision) := by
        rw [hwhole, zpow_sub_one₀ two_ne_zero]
        ring
      rw [Format.round, place_eq hlarge hbelow hk.le, hhalfway, ← le_div_iff₀ hunit,
        ← le_roundTiesEven_iff heven, hwhole, mul_le_mul_iff_left₀ hunit, Int.cast_le]
    · exact iff_of_true (pow_le_round hp (by omega) habove) (by linarith)

/-- With a power that is no fraction, and the power of the half place below it. -/
theorem pow_le_round_iff_of_nat {m n : ℕ} (hp : 0 < f.precision) (hm : f.minExponent ≤ m)
    (hn : m + f.precision + 1 = n) : 2 ^ n ≤ f.round x ↔ 2 ^ n - 2 ^ m ≤ x := by
  have hpower : (n : ℤ) - f.precision - 1 = m := by omega
  have h := pow_le_round_iff (f := f) (x := x) (k := n) hp (by omega)
  rwa [hpower, zpow_natCast, zpow_natCast] at h

/-- **What is a number of a format** up to its infinities, if it is not negative. -/
theorem ofRat_of_nonneg (hx : 0 ≤ x) :
    f.ofRat x = if 2 ^ f.maxExponent ≤ f.round x then .infinite false else .finite (f.round x) := by
  rw [Format.ofRat, abs_of_nonneg (round_nonneg hx), decide_eq_false (not_lt.2 hx)]

end Round

end Binary
