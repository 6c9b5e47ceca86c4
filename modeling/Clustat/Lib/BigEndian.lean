/-
# Big-endian fields and byte slices

The two things every fixed-layout header needs: an unsigned number of a given
width written most significant byte first (`to_be_bytes` / `from_be_bytes`),
and the half-open slice `b[i..j]` of a byte string.  `ofBytes_toBytes` and
`toBytes_ofBytes` say that writing and reading a field are inverse to each
other, and `slice_append_slice` glues neighbouring fields back together, which
is how a decoder is shown to accept nothing but what the encoder writes.
-/

import Mathlib.Data.List.Basic
import Mathlib.Tactic.Ring

namespace BigEndian

/-- The `w` low bytes of `n`, most significant first. -/
def toBytes : ℕ → ℕ → List UInt8
  | 0, _ => []
  | w + 1, n => UInt8.ofNat (n / 256 ^ w) :: toBytes w n

/-- The number a byte string spells, most significant byte first. -/
def ofBytes : List UInt8 → ℕ
  | [] => 0
  | b :: bs => b.toNat * 256 ^ bs.length + ofBytes bs

/-- A field of `w` bytes is `w` bytes long. -/
@[simp] theorem length_toBytes (w n : ℕ) : (toBytes w n).length = w := by
  induction w with
  | zero => rfl
  | succ w ih => simp [toBytes, ih]

/-- What a field of bytes spells fits into as many bytes. -/
theorem ofBytes_lt (bs : List UInt8) : ofBytes bs < 256 ^ bs.length := by
  induction bs with
  | nil => simp [ofBytes]
  | cons b bs ih =>
      have hb : b.toNat + 1 ≤ 256 := b.toNat_lt
      calc ofBytes (b :: bs) < b.toNat * 256 ^ bs.length + 256 ^ bs.length := by
            simpa [ofBytes] using ih
        _ = (b.toNat + 1) * 256 ^ bs.length := by ring
        _ ≤ 256 * 256 ^ bs.length := Nat.mul_le_mul_right _ hb
        _ = 256 ^ (b :: bs).length := by rw [List.length_cons]; ring

/-- **Reading what was written** gives the number back, up to the width: a
field of `w` bytes keeps the number modulo `256 ^ w`. -/
theorem ofBytes_toBytes (w n : ℕ) : ofBytes (toBytes w n) = n % 256 ^ w := by
  induction w with
  | zero => simp [toBytes, ofBytes, Nat.mod_one]
  | succ w ih =>
      have hsplit : n % 256 ^ (w + 1) = n % 256 ^ w + 256 ^ w * (n / 256 ^ w % 256) :=
        Nat.mod_pow_succ
      rw [toBytes, ofBytes, ih, length_toBytes, UInt8.toNat_ofNat', hsplit]
      ring

/-- A number that fits the field is read back unchanged. -/
theorem ofBytes_toBytes_of_lt {w n : ℕ} (h : n < 256 ^ w) : ofBytes (toBytes w n) = n := by
  rw [ofBytes_toBytes, Nat.mod_eq_of_lt h]

/-- Multiples of `256 ^ w` do not reach the `w` low bytes. -/
theorem toBytes_mul_add (w k n : ℕ) : toBytes w (k * 256 ^ w + n) = toBytes w n := by
  induction w generalizing k with
  | zero => rfl
  | succ w ih =>
      have hsplit : k * 256 ^ (w + 1) + n = k * 256 * 256 ^ w + n := by rw [pow_succ]; ring
      have hdiv : (k * 256 * 256 ^ w + n) / 256 ^ w = k * 256 + n / 256 ^ w := by
        rw [Nat.add_comm, Nat.add_mul_div_right _ _ (Nat.pow_pos (by norm_num)), Nat.add_comm]
      have hbyte : UInt8.ofNat (k * 256 + n / 256 ^ w) = UInt8.ofNat (n / 256 ^ w) := by
        apply UInt8.toNat_inj.1
        simp only [UInt8.toNat_ofNat']
        omega
      rw [toBytes, toBytes, hsplit, hdiv, hbyte, ih]

/-- **Writing what was read** gives the bytes back, so that a field of bytes
and a number below `256 ^ w` are the same thing. -/
theorem toBytes_ofBytes (bs : List UInt8) : toBytes bs.length (ofBytes bs) = bs := by
  induction bs with
  | nil => rfl
  | cons b bs ih =>
      have hdiv : (b.toNat * 256 ^ bs.length + ofBytes bs) / 256 ^ bs.length = b.toNat := by
        rw [Nat.add_comm, Nat.add_mul_div_right _ _ (Nat.pow_pos (by norm_num)),
          Nat.div_eq_of_lt (ofBytes_lt bs), Nat.zero_add]
      rw [List.length_cons, toBytes, ofBytes, hdiv, toBytes_mul_add, ih, UInt8.ofNat_toNat]

/-- A field that is read and written again has its old bytes. -/
theorem toBytes_ofBytes_of_length {w : ℕ} {bs : List UInt8} (h : bs.length = w) :
    toBytes w (ofBytes bs) = bs := by
  rw [← h, toBytes_ofBytes]

/-! ### Slices -/

/-- `b[i..j]`, empty where the range is. -/
def slice (b : List UInt8) (i j : ℕ) : List UInt8 := (b.drop i).take (j - i)

/-- `b[i]`, read as `0` past the end. -/
def byteAt (b : List UInt8) (i : ℕ) : UInt8 := b[i]?.getD 0

/-- A slice inside the input is as long as its bounds say. -/
theorem length_slice {b : List UInt8} {i j : ℕ} (h : j ≤ b.length) :
    (slice b i j).length = j - i := by
  rw [slice, List.length_take, List.length_drop]
  omega

/-- Two slices that meet are one slice. -/
theorem slice_append_slice (b : List UInt8) {i j k : ℕ} (hij : i ≤ j) (hjk : j ≤ k) :
    slice b i j ++ slice b j k = slice b i k := by
  have hk : k - i = (j - i) + (k - j) := by omega
  have hj : j = i + (j - i) := by omega
  rw [slice, slice, slice, hk, List.take_add, List.drop_drop, ← hj]

/-- A slice of one byte is that byte. -/
theorem slice_succ {b : List UInt8} {i : ℕ} (h : i < b.length) :
    slice b i (i + 1) = [byteAt b i] := by
  rw [slice, byteAt, Nat.add_sub_cancel_left, List.getElem?_eq_getElem h, Option.getD_some,
    List.drop_eq_getElem_cons h, List.take_succ_cons, List.take_zero]

/-- A slice does not see what follows it. -/
theorem slice_append {b : List UInt8} {i j : ℕ} (h : j ≤ b.length) (rest : List UInt8) :
    slice (b ++ rest) i j = slice b i j := by
  rcases Nat.le_total i j with hij | hij
  · rw [slice, slice, List.drop_append_of_le_length (hij.trans h),
      List.take_append_of_le_length (by rw [List.length_drop]; omega)]
  · rw [slice, slice, Nat.sub_eq_zero_of_le hij, List.take_zero, List.take_zero]

/-- What follows the input does not change its bytes. -/
theorem byteAt_append {b : List UInt8} {i : ℕ} (h : i < b.length) (rest : List UInt8) :
    byteAt (b ++ rest) i = byteAt b i := by
  rw [byteAt, byteAt, List.getElem?_append_left h]

end BigEndian
