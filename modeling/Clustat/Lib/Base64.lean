/-
# Base64

Three bytes are a number of 24 bits, and are written as its four digits to base 64.  Where one or
two bytes are left at the end they are filled up with zeros: only the digits that they reach into
are written, and fillers in the place of the others.
-/

import Clustat.Lib.Numeral
import Mathlib.Data.List.GetD

namespace Base64

open Numeral

/-- The symbols of the digits. -/
def alphabet : List Char :=
  "ABCDEFGHIJKLMNOPQRSTUVWXYZabcdefghijklmnopqrstuvwxyz0123456789+/".toList

/-- The symbol of a digit; there is none but a filler for 64. -/
def symbol (d : ℕ) : Char := alphabet.getD d '='

/-- The digits of three bytes. -/
def sextets (a b c : UInt8) : List ℕ :=
  digitsOf 64 4 (a.toNat * 2 ^ 16 + b.toNat * 2 ^ 8 + c.toNat)

/-- The text of some bytes, with fillers. -/
def encode : List UInt8 → List Char
  | [] => []
  | [a] => ((sextets a 0 0).take 2 ++ [64, 64]).map symbol
  | [a, b] => ((sextets a b 0).take 3 ++ [64]).map symbol
  | a :: b :: c :: bytes => (sextets a b c).map symbol ++ encode bytes

/-- The bits of the digits, those of a byte after those of another. -/
theorem sextets_eq (a b c : UInt8) :
    sextets a b c =
      [a.toNat / 4, a.toNat % 4 * 16 + b.toNat / 16, b.toNat % 16 * 4 + c.toNat / 64,
        c.toNat % 64] := by
  have ha := a.toNat_lt
  have hb := b.toNat_lt
  have hc := c.toNat_lt
  simp only [sextets, digitsOf, List.cons.injEq, and_true]
  omega

/-- **A text consists of groups of four.** Three bytes make one group, and so
do the one or two that are left at the end, with `=` for what is missing. -/
theorem four_dvd_length_encode (bytes : List UInt8) : 4 ∣ (encode bytes).length := by
  induction bytes using encode.induct with
  | case1 => exact dvd_zero 4
  | case2 a => exact ⟨1, rfl⟩
  | case3 a b => exact ⟨1, rfl⟩
  | case4 a b c bytes ih =>
    rw [encode, List.length_append]
    exact (Nat.dvd_add_right ⟨1, rfl⟩).2 ih

/-- There is one filler. -/
theorem symbol_min (d : ℕ) : symbol (min d 64) = symbol d := by
  rcases le_total d 64 with h | h
  · rw [min_eq_left h]
  · have hlength : alphabet.length = 64 := by decide +kernel
    rw [min_eq_right h, symbol, symbol, List.getD_eq_default _ _ hlength.le,
      List.getD_eq_default _ _ (hlength.le.trans h)]

/-- Every character of a text is the symbol of some digit. -/
theorem exists_symbol {bytes : List UInt8} {s : Char} (hs : s ∈ encode bytes) :
    ∃ d ≤ 64, symbol d = s := by
  have hmap {digits : List ℕ} (h : s ∈ digits.map symbol) : ∃ d ≤ 64, symbol d = s := by
    obtain ⟨d, -, hd⟩ := List.mem_map.1 h
    exact ⟨min d 64, min_le_right d 64, (symbol_min d).trans hd⟩
  induction bytes using encode.induct with
  | case1 => cases hs
  | case2 a => exact hmap hs
  | case3 a b => exact hmap hs
  | case4 a b c bytes ih => exact (List.mem_append.1 hs).elim hmap ih

/-- **The bits that two digits have of a byte**, put together in a byte: the last `8 - k` of the
one, and all but the last `6 - k` of the other. -/
theorem toNat_join {k : ℕ} (hk : k ≤ 6) (x : UInt8) {y : UInt8} (hy : y.toNat < 64) :
    (x <<< .ofNat k ||| y >>> .ofNat (6 - k)).toNat =
      2 ^ k * (x.toNat % 2 ^ (8 - k)) + y.toNat / 2 ^ (6 - k) := by
  have hlow : y.toNat / 2 ^ (6 - k) < 2 ^ k := by
    rwa [Nat.div_lt_iff_lt_mul (by positivity), ← pow_add, Nat.add_sub_cancel' hk]
  have hhigh : 2 ^ k * x.toNat % 2 ^ 8 = 2 ^ k * (x.toNat % 2 ^ (8 - k)) := by
    rw [← Nat.mul_mod_mul_left, ← pow_add, Nat.add_sub_cancel' (hk.trans (by decide))]
  have hshift {n : ℕ} (hn : n ≤ 6) : (UInt8.ofNat n).toNat % 8 = n := by
    rw [UInt8.toNat_ofNat']
    omega
  rw [UInt8.toNat_or, UInt8.toNat_shiftLeft, UInt8.toNat_shiftRight, hshift hk,
    hshift (Nat.sub_le 6 k), Nat.shiftLeft_eq, Nat.mul_comm, hhigh, Nat.shiftRight_eq_div_pow,
    Nat.two_pow_add_eq_or_of_lt hlow]

end Base64
