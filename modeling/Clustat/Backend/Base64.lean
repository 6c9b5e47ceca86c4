/-
# The base64 of an older server

`decode_base64` of `crates/client-backend/src/adapter.rs` is written out there: it passes over the
white space of ASCII, collects the values of four symbols, a filler being 64, and shifts them
together into up to three bytes.  A byte that is shifted loses the bits that are not in it any
more, which is what puts the bits of two digits side by side (`Base64.toNat_join`).

It reads the standard text of any bytes back, with white space anywhere, and refuses that text
where one to three symbols are missing at its end (`decode_base64_encode`).
-/

import Clustat.Backend.Response
import Clustat.Lib.Base64

namespace Clustat
namespace Backend

open Base64

/-- `u8::is_ascii_whitespace`, of the character with that byte. -/
def isAsciiWhitespace (c : Char) : Bool := c ∈ [' ', '\t', '\n', '\x0C', '\r']

/-- A text, with white space of ASCII put in anywhere. -/
def Spaced (raw : String) (text : List Char) : Prop :=
  raw.toList.filter (!isAsciiWhitespace ·) = text

instance (raw : String) (text : List Char) : Decidable (Spaced raw text) :=
  inferInstanceAs (Decidable (raw.toList.filter (!isAsciiWhitespace ·) = text))

/-! ### White space -/

/-- The bytes that are passed over are the characters that are. -/
theorem filter_utf8 (s : String) :
    (utf8 s).filter (· ∉ [0x20, 0x09, 0x0A, 0x0C, 0x0D]) =
      (s.toList.filter (!isAsciiWhitespace ·)).flatMap String.utf8EncodeChar := by
  rw [utf8]
  induction s.toList with
  | nil => rfl
  | cons c s ih =>
    rw [List.flatMap_cons, List.filter_append, ih]
    by_cases hc : isAsciiWhitespace c = true
    · have hspace : (String.utf8EncodeChar c).filter (· ∉ [0x20, 0x09, 0x0A, 0x0C, 0x0D]) = [] := by
        have hmem : c ∈ [' ', '\t', '\n', '\x0C', '\r'] := of_decide_eq_true hc
        simp only [List.mem_cons, List.not_mem_nil, or_false] at hmem
        obtain rfl | rfl | rfl | rfl | rfl := hmem <;> rfl
      rw [hspace, List.filter_cons_of_neg (by simp [hc]), List.nil_append]
    · have hbytes : ∀ b ∈ String.utf8EncodeChar c, b ∉ [0x20, 0x09, 0x0A, 0x0C, 0x0D] := by
        intro b hb hspace
        refine hc ?_
        simp only [List.mem_cons, List.not_mem_nil, or_false] at hspace
        -- A byte of ASCII is the whole of its character.
        have hwhole (hlt : b < 0x80) : c = .ofNat b.toNat := by
          rw [← toNat_of_mem_utf8EncodeChar hb hlt, Char.ofNat_toNat]
        obtain rfl | rfl | rfl | rfl | rfl := hspace <;> rw [hwhole (by decide)] <;> rfl
      rw [List.filter_eq_self.2 fun b hb => decide_eq_true (hbytes b hb),
        List.filter_cons_of_pos (by simp [hc]), List.flatMap_cons]

/-! ### A group of symbols -/

/-- A symbol is a byte with the value of its digit; for 64, a filler. -/
theorem base64Value_symbol {d : ℕ} (hd : d ≤ 64) :
    ∃ byte, String.utf8EncodeChar (symbol d) = [byte] ∧ base64Value byte = some (.ofNat d) := by
  have hall : ∀ d < 65, String.utf8EncodeChar (symbol d) = [(symbol d).toUInt8] ∧
      base64Value (symbol d).toUInt8 = some (.ofNat d) := by
    decide +kernel
  exact ⟨_, hall d (Nat.lt_succ_of_le hd)⟩

/-- **Four symbols** are read as a group: the loop has no rest before them and
none after, and its output is longer by their bytes. -/
theorem base64Loop_symbols {a b c d : ℕ} (ha : a ≤ 64) (hb : b ≤ 64) (hc : c ≤ 64) (hd : d ≤ 64)
    (out bytes : Bytes) :
    base64Loop out [] (([a, b, c, d].map symbol).flatMap String.utf8EncodeChar ++ bytes) =
      (pushBase64Chunk out (.ofNat a) (.ofNat b) (.ofNat c) (.ofNat d)).bind
        fun out => base64Loop out [] bytes := by
  obtain ⟨x, hx, hxa⟩ := base64Value_symbol ha
  obtain ⟨y, hy, hyb⟩ := base64Value_symbol hb
  obtain ⟨z, hz, hzc⟩ := base64Value_symbol hc
  obtain ⟨w, hw, hwd⟩ := base64Value_symbol hd
  have hbytes : ([a, b, c, d].map symbol).flatMap String.utf8EncodeChar ++ bytes =
      x :: y :: z :: w :: bytes := by
    simp [hx, hy, hz, hw]
  rw [hbytes]
  simp only [base64Loop, hxa, hyb, hzc, hwd, List.nil_append, List.cons_append]
  cases pushBase64Chunk out (.ofNat a) (.ofNat b) (.ofNat c) (.ofNat d) <;> rfl

/-- A digit of base 64 is never taken for the filler, which is kept as 64. -/
theorem ofNat_ne_filler {d : ℕ} (hd : d < 64) : UInt8.ofNat d ≠ 64 := by
  intro h
  have hnat := UInt8.toNat_ofNat_of_lt' (hd.trans (by decide) : d < UInt8.size)
  rw [h] at hnat
  exact hd.ne hnat.symm

/-- A byte that has its bits from two digits. -/
theorem join_eq {k x y : ℕ} {b : UInt8} (hk : k ≤ 6) (hx : x < 64) (hy : y < 64)
    (hb : 2 ^ k * (x % 2 ^ (8 - k)) + y / 2 ^ (6 - k) = b.toNat) :
    UInt8.ofNat x <<< .ofNat k ||| UInt8.ofNat y >>> .ofNat (6 - k) = b := by
  have hnat {d : ℕ} (hd : d < 64) : (UInt8.ofNat d).toNat = d :=
    UInt8.toNat_ofNat_of_lt' (hd.trans (by decide))
  rw [← UInt8.toNat_inj, toNat_join hk _ (by rwa [hnat hy]), hnat hx, hnat hy, hb]

/-- The digits of three bytes, and the bytes that are put together of them. -/
theorem exists_sextets (a b c : UInt8) :
    ∃ x y z w : ℕ, sextets a b c = [x, y, z, w] ∧ (x < 64 ∧ y < 64 ∧ z < 64 ∧ w < 64) ∧
      UInt8.ofNat x <<< 2 ||| UInt8.ofNat y >>> 4 = a ∧
      UInt8.ofNat y <<< 4 ||| UInt8.ofNat z >>> 2 = b ∧
      UInt8.ofNat z <<< 6 ||| UInt8.ofNat w = c := by
  have ha := a.toNat_lt
  have hb := b.toNat_lt
  have hc := c.toNat_lt
  refine ⟨_, _, _, _, sextets_eq a b c, ?_, ?_, ?_, ?_⟩
  · omega
  · exact join_eq (k := 2) (by decide) (by omega) (by omega) (by omega)
  · exact join_eq (k := 4) (by decide) (by omega) (by omega) (by omega)
  · have hjoin := join_eq (k := 6) (b := c) (x := b.toNat % 16 * 4 + c.toNat / 64)
      (y := c.toNat % 64) (by decide) (by omega) (by omega) (by omega)
    rwa [Nat.sub_self, show UInt8.ofNat 0 = 0 from rfl, UInt8.shiftRight_zero] at hjoin

/-! ### The text of some bytes -/

/-- **The loop reads a text back**, behind whatever it has put out already, by
induction on the bytes in threes. -/
theorem base64Loop_encode (out bytes : Bytes) :
    base64Loop out [] ((encode bytes).flatMap String.utf8EncodeChar) = some (out ++ bytes) := by
  induction bytes using encode.induct generalizing out with
  | case1 =>
    rw [List.append_nil]
    rfl
  | case2 a =>
    obtain ⟨x, y, z, w, hdigits, ⟨hx, hy, hz, hw⟩, ha, -⟩ := exists_sextets a 0 0
    have hread := base64Loop_symbols hx.le hy.le le_rfl le_rfl out []
    have htext : encode [a] = [x, y, 64, 64].map symbol := by rw [encode, hdigits]; rfl
    rw [htext, ← List.append_nil (List.flatMap _ _), hread, pushBase64Chunk,
      if_neg (not_or.2 ⟨ofNat_ne_filler hx, ofNat_ne_filler hy⟩), ha]
    rfl
  | case3 a b =>
    obtain ⟨x, y, z, w, hdigits, ⟨hx, hy, hz, hw⟩, ha, hb, -⟩ := exists_sextets a b 0
    have hread := base64Loop_symbols hx.le hy.le hz.le le_rfl out []
    have htext : encode [a, b] = [x, y, z, 64].map symbol := by rw [encode, hdigits]; rfl
    rw [htext, ← List.append_nil (List.flatMap _ _), hread, pushBase64Chunk,
      if_neg (not_or.2 ⟨ofNat_ne_filler hx, ofNat_ne_filler hy⟩), ha, hb]
    simp only [if_pos (ofNat_ne_filler hz)]
    simp [base64Loop]
  | case4 a b c bytes ih =>
    obtain ⟨x, y, z, w, hdigits, ⟨hx, hy, hz, hw⟩, ha, hb, hc⟩ := exists_sextets a b c
    rw [encode, hdigits, List.flatMap_append, base64Loop_symbols hx.le hy.le hz.le hw.le,
      pushBase64Chunk, if_neg (not_or.2 ⟨ofNat_ne_filler hx, ofNat_ne_filler hy⟩), ha, hb, hc]
    simp only [if_pos (ofNat_ne_filler hz), if_pos (ofNat_ne_filler hw),
      if_neg (ofNat_ne_filler hz), Option.bind_some, ih]
    simp

/-! ### A text that is cut short -/

/-- The values that have been collected and the symbols to come make whole groups, if a text is
read to its end. -/
theorem four_dvd_of_base64Loop {out bytes read : Bytes} {chunk : List UInt8}
    (hchunk : chunk.length < 4) (h : base64Loop out chunk bytes = some read) :
    4 ∣ chunk.length + bytes.length := by
  induction bytes generalizing out chunk with
  | nil =>
    cases chunk with
    | nil => exact dvd_zero 4
    | cons a chunk => cases h
  | cons byte bytes ih =>
    rw [base64Loop.eq_3] at h
    cases hvalue : base64Value byte with
    | none =>
      rw [hvalue] at h
      cases h
    | some value =>
      rw [hvalue] at h
      dsimp only at h
      split at h
      · split at h
        · cases h
        · have hrest := ih (by decide) h
          simp only [List.length_cons, List.length_nil] at hrest ⊢
          omega
      · rename_i hnot
        have hshort : chunk.length ≠ 3 := by
          intro hthree
          obtain ⟨a, b, c, rfl⟩ := List.length_eq_three.1 hthree
          exact hnot a b c rfl
        have hrest := ih (by rw [List.length_append, List.length_singleton]; omega) h
        rwa [List.length_append, List.length_singleton, Nat.add_assoc, Nat.add_comm 1] at hrest

/-- A symbol is one byte. -/
theorem length_symbols {bytes : Bytes} {text : List Char} (h : text ⊆ encode bytes) :
    (text.flatMap String.utf8EncodeChar).length = text.length := by
  have hone : ∀ s ∈ text, (String.utf8EncodeChar s).length = 1 := by
    intro s hs
    obtain ⟨d, hd, rfl⟩ := exists_symbol (h hs)
    obtain ⟨byte, hbyte, -⟩ := base64Value_symbol hd
    rw [hbyte, List.length_singleton]
  rw [List.length_flatMap, List.map_congr_left hone]
  simp

/-- **A standard text is read back**, with white space anywhere, and refused where one to three
symbols are missing at its end. -/
theorem decode_base64_encode (b : Bytes) (raw : String) :
    (Spaced raw (encode b) → decodeBase64 raw = some b) ∧
      ∀ k ∈ [1, 2, 3], k ≤ (encode b).length →
        Spaced raw ((encode b).take ((encode b).length - k)) → decodeBase64 raw = none := by
  constructor
  · intro h
    rw [decodeBase64, filter_utf8, h, base64Loop_encode, List.nil_append]
  · intro k hk hle h
    have hbounds : ∀ k ∈ [1, 2, 3], 0 < k ∧ k < 4 := by decide
    have hpos := hbounds k hk
    rw [decodeBase64, filter_utf8, h, Option.eq_none_iff_forall_ne_some]
    intro read hread
    have hdvd := four_dvd_of_base64Loop (by decide) hread
    rw [List.length_nil, Nat.zero_add, length_symbols (List.take_subset _ _), List.length_take]
      at hdvd
    have hwhole := four_dvd_length_encode b
    omega

/-- A byte is read from a text with white space in it, and not without the fillers. -/
theorem decode_base64_encode_one :
    decodeBase64 " T\tQ=\n=" = some [77] ∧ decodeBase64 "T Q" = none :=
  ⟨(decode_base64_encode [77] " T\tQ=\n=").1 (by decide +kernel),
    (decode_base64_encode [77] "T Q").2 2 (by decide) (by decide) (by decide +kernel)⟩

end Backend
end Clustat
