/-
# Text

What the programs use of Rust's `str` and `BufRead`: `trim` takes the characters of Unicode's
`White_Space` from both ends, `strip_prefix` a given word from the front, `find` and `split_at`
count bytes, and `read_line` takes the bytes up to a line feed, which have to be UTF-8.  In UTF-8
a byte of ASCII is part of no other character (`toNat_of_mem_utf8EncodeChar`), so that a text with
no line feed but its last character is one line (`lines_utf8`).
-/

import Clustat.Common.Frame
import Mathlib.Data.List.DropRight

namespace Clustat

/-! ### `str` -/

/-- `char::is_whitespace`. -/
def isWhitespace (c : Char) : Bool :=
  let n := c.toNat
  (9 ≤ n && n ≤ 13) || n == 0x20 || n == 0x85 || n == 0xA0 || n == 0x1680 ||
    (0x2000 ≤ n && n ≤ 0x200A) || n == 0x2028 || n == 0x2029 || n == 0x202F || n == 0x205F ||
    n == 0x3000

/-- `str::trim`. -/
def trim (s : String) : String :=
  .ofList ((s.toList.dropWhile isWhitespace).rdropWhile isWhitespace)

/-- `str::to_ascii_lowercase`. -/
def toAsciiLowercase (s : String) : String := .ofList (s.toList.map Char.toLower)

/-- `str::strip_prefix`. -/
def stripPrefix (front s : String) : Option String :=
  if front.toList <+: s.toList then some (.ofList (s.toList.drop front.toList.length)) else none

/-- `str::len`. -/
def byteLen (s : List Char) : ℕ := (s.map Char.utf8Size).sum

/-- `str::find` of a character: the byte it begins at. -/
def findChar (p : Char → Bool) : List Char → Option ℕ
  | [] => none
  | c :: s => if p c then some 0 else (findChar p s).map (c.utf8Size + ·)

/-- `str::split_at`, which panics if there is no character that begins at the byte, and it is not
the end either. -/
def splitAt : ℕ → List Char → Option (List Char × List Char)
  | 0, s => some ([], s)
  | _, [] => none
  | n, c :: s =>
    if n < c.utf8Size then none
    else (splitAt (n - c.utf8Size) s).map fun (front, back) => (c :: front, back)

/-- The visible characters of ASCII are no white space. -/
theorem isWhitespace_of_visible {c : Char} (h : 33 ≤ c.toNat) (h' : c.toNat ≤ 126) :
    isWhitespace c = false := by
  simp only [isWhitespace, Bool.or_eq_false_iff, Bool.and_eq_false_iff, decide_eq_false_iff_not,
    beq_eq_false_iff_ne]
  omega

/-- A text that begins and ends with other characters is what is left of it between any
white space. -/
theorem trim_of_ends {w l w' : List Char} (hw : ∀ c ∈ w, isWhitespace c = true)
    (hw' : ∀ c ∈ w', isWhitespace c = true) (hhead : ∀ c ∈ l.head?, isWhitespace c = false)
    (hlast : ∀ c ∈ l.getLast?, isWhitespace c = false) :
    trim (.ofList (w ++ l ++ w')) = .ofList l := by
  rw [trim, String.toList_ofList, List.append_assoc, List.dropWhile_append_of_pos hw]
  rcases List.eq_nil_or_concat l with rfl | ⟨front, c, rfl⟩
  · rw [List.nil_append, List.dropWhile_eq_nil_iff.2 hw', List.rdropWhile_nil]
  · have hc : isWhitespace c = false := hlast c (by simp)
    have hkeep : (front ++ [c] ++ w').dropWhile isWhitespace = front ++ [c] ++ w' := by
      cases front with
      | nil =>
        rw [List.nil_append, List.singleton_append, List.dropWhile_cons_of_neg (by simp [hc])]
      | cons d front =>
        have hd : isWhitespace d = false := hhead d rfl
        exact List.dropWhile_cons_of_neg (by simp [hd])
    rw [List.concat_eq_append] at *
    rw [hkeep, List.rdropWhile, List.reverse_append,
      List.dropWhile_append_of_pos fun a ha => hw' a (List.mem_reverse.1 ha),
      List.reverse_append, List.reverse_singleton, List.singleton_append,
      List.dropWhile_cons_of_neg (by simp [hc]), List.reverse_cons, List.reverse_reverse]

/-- **The end of a trimmed text** has white space in front at most, because
its last character is the last one of the trimmed text. -/
theorem trim_of_suffix {s : String} {l : List Char} (h : l <:+ (trim s).toList) :
    trim (.ofList l) = .ofList (l.dropWhile isWhitespace) := by
  rw [trim, String.toList_ofList] at h ⊢
  refine congrArg String.ofList (List.rdropWhile_eq_self_iff.2 fun hne hlast => ?_)
  have hsuffix := (List.dropWhile_suffix isWhitespace).trans h
  have hwhole := hsuffix.ne_nil hne
  rw [hsuffix.getLast hne] at hlast
  exact List.rdropWhile_last_not _ _ hwhole hlast

/-- A trimmed text has nothing to trim. -/
theorem trim_trim (s : String) : trim (trim s) = trim s := by
  have hself := trim_of_suffix (s := s) (List.suffix_refl _)
  rw [String.ofList_toList] at hself
  rw [hself, trim, String.toList_ofList]
  refine congrArg String.ofList ?_
  have hfront := List.rdropWhile_prefix isWhitespace (l := s.toList.dropWhile isWhitespace)
  cases hl : (s.toList.dropWhile isWhitespace).rdropWhile isWhitespace with
  | nil => rfl
  | cons c l =>
    -- The first character is the one that the front was cut off before.
    rw [hl] at hfront
    obtain ⟨rest, hrest⟩ := hfront
    have hc := List.head?_dropWhile_not isWhitespace s.toList
    rw [← hrest] at hc
    exact List.dropWhile_cons_of_neg (by simpa using hc)

/-- Lower case by code points: the 26 capital letters move up by 32. -/
theorem toNat_toLower (c : Char) :
    c.toLower.toNat = if 65 ≤ c.toNat ∧ c.toNat ≤ 90 then c.toNat + 32 else c.toNat := by
  unfold Char.toLower
  split_ifs with h h' h'
  · have : c.val.toNat ≤ 90 := h'.2
    show (c.val + _).toNat = _
    rw [UInt32.toNat_add]
    exact Nat.mod_eq_of_lt (by
      show c.val.toNat + 32 < _
      omega)
  · exact absurd h h'
  · exact absurd h' h
  · rfl

/-- **A text can be split where a character was found**, or at the end: in front are the
characters that were passed over. -/
theorem splitAt_findChar (p : Char → Bool) (s : List Char) :
    splitAt ((findChar p s).getD (byteLen s)) s =
      some (s.takeWhile (!p ·), s.dropWhile (!p ·)) := by
  induction s with
  | nil => rfl
  | cons c s ih =>
    rw [findChar]
    by_cases hc : p c = true
    · rw [if_pos hc, Option.getD_some, List.takeWhile_cons_of_neg (by simp [hc]),
        List.dropWhile_cons_of_neg (by simp [hc]), splitAt]
    · have hplace : ((findChar p s).map (c.utf8Size + ·)).getD (byteLen (c :: s)) =
          c.utf8Size + (findChar p s).getD (byteLen s) := by
        cases findChar p s with
        | none => simp [byteLen]
        | some n => rfl
      obtain ⟨n, hn⟩ : ∃ n, c.utf8Size + (findChar p s).getD (byteLen s) = n + 1 :=
        Nat.exists_eq_add_one.2 (Nat.add_pos_left c.utf8Size_pos _)
      rw [if_neg hc, hplace, hn, splitAt, if_neg (by omega), ← hn, Nat.add_sub_cancel_left, ih,
        List.takeWhile_cons_of_pos (by simp [hc]), List.dropWhile_cons_of_pos (by simp [hc])]
      · rfl
      · simp

/-- A prefix that is there is taken off. -/
theorem stripPrefix_append (front : String) (l : List Char) :
    stripPrefix front (.ofList (front.toList ++ l)) = some (.ofList l) := by
  rw [stripPrefix, String.toList_ofList, if_pos (List.prefix_append _ _), List.drop_left]

/-! ### Bytes -/

/-- The bytes of a text. -/
def utf8 (s : String) : Bytes := s.toList.flatMap String.utf8EncodeChar

/-- The text of some bytes, if they are one. -/
def fromUtf8 (bytes : Bytes) : Option String := String.fromUTF8? bytes.toByteArray

/-- The bytes of a string decode to the string. -/
theorem fromUtf8_utf8 (s : String) : fromUtf8 (utf8 s) = some s := by
  have hbytes : (utf8 s).toByteArray = s.toByteArray := String.utf8Encode_toList
  have hvalid : s.toByteArray.IsValidUTF8 := s.isValidUTF8
  rw [fromUtf8, hbytes, String.fromUTF8?, dif_pos hvalid]
  rfl

/-- How many bytes a character has that begins with the byte; 0, if none does. -/
def utf8CharWidth (b : UInt8) : ℕ :=
  if b < 0x80 then 1
  else if 0xC2 ≤ b ∧ b ≤ 0xDF then 2
  else if 0xE0 ≤ b ∧ b ≤ 0xEF then 3
  else if 0xF0 ≤ b ∧ b ≤ 0xF4 then 4
  else 0

/-- A byte that a character goes on with. -/
def isContinuation (b : UInt8) : Bool := 0x80 ≤ b && b ≤ 0xBF

/-- The second byte of a character of three or four. -/
def isSecond (first second : UInt8) : Bool :=
  isContinuation second &&
    if first = 0xE0 then 0xA0 ≤ second
    else if first = 0xED then second ≤ 0x9F
    else if first = 0xF0 then 0x90 ≤ second
    else if first = 0xF4 then second ≤ 0x8F
    else true

/-- The characters of some bytes.  What is cut off before it is one, and each byte that none
begins with, is a replacement character. -/
def lossyChars : Bytes → List Char
  | [] => []
  | a :: as =>
    match utf8CharWidth a, as with
    | 1, as => Char.ofNat a.toNat :: lossyChars as
    | 2, b :: bs =>
      if isContinuation b then
        Char.ofNat (a.toNat % 32 * 64 + b.toNat % 64) :: lossyChars bs
      else '\uFFFD' :: lossyChars (b :: bs)
    | 3, b :: bs =>
      if isSecond a b then
        match bs with
        | [] => ['\uFFFD']
        | c :: cs =>
          if isContinuation c then
            Char.ofNat ((a.toNat % 16 * 64 + b.toNat % 64) * 64 + c.toNat % 64) :: lossyChars cs
          else '\uFFFD' :: lossyChars (c :: cs)
      else '\uFFFD' :: lossyChars (b :: bs)
    | 4, b :: bs =>
      if isSecond a b then
        match bs with
        | [] => ['\uFFFD']
        | c :: cs =>
          if isContinuation c then
            match cs with
            | [] => ['\uFFFD']
            | d :: ds =>
              if isContinuation d then
                Char.ofNat (((a.toNat % 8 * 64 + b.toNat % 64) * 64 + c.toNat % 64) * 64 +
                  d.toNat % 64) :: lossyChars ds
              else '\uFFFD' :: lossyChars (d :: ds)
          else '\uFFFD' :: lossyChars (c :: cs)
      else '\uFFFD' :: lossyChars (b :: bs)
    | _, as => '\uFFFD' :: lossyChars as

/-- `String::from_utf8_lossy`. -/
def fromUtf8Lossy (bytes : Bytes) : String := .ofList (lossyChars bytes)

/-- A sequence of two bytes that is well formed is one character. -/
theorem lossyChars_two {a b : UInt8} (ha : utf8CharWidth a = 2) (hb : isContinuation b = true)
    (rest : Bytes) : lossyChars (a :: b :: rest) =
      Char.ofNat (a.toNat % 32 * 64 + b.toNat % 64) :: lossyChars rest := by
  simp [lossyChars, ha, hb]

/-- A sequence of three bytes that is well formed is one character. -/
theorem lossyChars_three {a b c : UInt8} (ha : utf8CharWidth a = 3) (hb : isSecond a b = true)
    (hc : isContinuation c = true) (rest : Bytes) : lossyChars (a :: b :: c :: rest) =
      Char.ofNat ((a.toNat % 16 * 64 + b.toNat % 64) * 64 + c.toNat % 64) :: lossyChars rest := by
  simp [lossyChars, ha, hb, hc]

/-- A sequence of four bytes that is well formed is one character. -/
theorem lossyChars_four {a b c d : UInt8} (ha : utf8CharWidth a = 4) (hb : isSecond a b = true)
    (hc : isContinuation c = true) (hd : isContinuation d = true) (rest : Bytes) :
    lossyChars (a :: b :: c :: d :: rest) =
      Char.ofNat (((a.toNat % 8 * 64 + b.toNat % 64) * 64 + c.toNat % 64) * 64 + d.toNat % 64) ::
        lossyChars rest := by
  simp [lossyChars, ha, hb, hc, hd]

/-- A byte made of a number below 256 has that number. -/
theorem toNat_byte {n : ℕ} (h : n < 256) : (UInt8.ofNat n).toNat = n := by
  rw [UInt8.toNat_ofNat', Nat.mod_eq_of_lt h]

/-- The width of a sequence by its first byte, as the table in `core::str` has
it. -/
theorem utf8CharWidth_byte {n : ℕ} (h : n < 256) : utf8CharWidth (.ofNat n) =
    if n < 0x80 then 1
    else if 0xC2 ≤ n ∧ n ≤ 0xDF then 2
    else if 0xE0 ≤ n ∧ n ≤ 0xEF then 3
    else if 0xF0 ≤ n ∧ n ≤ 0xF4 then 4
    else 0 := by
  simp only [utf8CharWidth, UInt8.lt_iff_toNat_lt, UInt8.le_iff_toNat_le, toNat_byte h]
  rfl

/-- The last six bits of a character go on with it. -/
theorem isContinuation_byte (n : ℕ) : isContinuation (.ofNat (n % 64 + 0x80)) = true := by
  have hn : n % 64 < 64 := Nat.mod_lt _ (by decide)
  have hlow : 0x80 ≤ n % 64 + 0x80 := Nat.le_add_left _ _
  have hhigh : n % 64 + 0x80 ≤ 0xBF := by omega
  simp only [isContinuation, Bool.and_eq_true, decide_eq_true_eq, UInt8.le_iff_toNat_le]
  rw [toNat_byte (by omega)]
  exact ⟨hlow, hhigh⟩

/-- What the second byte of a sequence may be: after four of the first bytes
the range is narrower, so that nothing is encoded in more bytes than it needs,
no surrogate is, and nothing beyond the last character. -/
theorem isSecond_byte {first n : ℕ} (h : first < 256)
    (hE0 : first = 0xE0 → 0x20 ≤ n % 64) (hED : first = 0xED → n % 64 < 0x20)
    (hF0 : first = 0xF0 → 0x10 ≤ n % 64) (hF4 : first = 0xF4 → n % 64 < 0x10) :
    isSecond (.ofNat first) (.ofNat (n % 64 + 0x80)) = true := by
  have hn : n % 64 + 0x80 < 256 := by omega
  rw [isSecond, isContinuation_byte, Bool.true_and]
  simp only [← UInt8.toNat_inj, UInt8.le_iff_toNat_le, toNat_byte h, toNat_byte hn]
  split_ifs with h1 h2 h3 h4
  · exact decide_eq_true (Nat.add_le_add_right (hE0 h1) 0x80)
  · exact decide_eq_true (Nat.add_le_add_right (Nat.le_of_lt_succ (hED h2)) 0x80)
  · exact decide_eq_true (Nat.add_le_add_right (hF0 h3) 0x80)
  · exact decide_eq_true (Nat.add_le_add_right (Nat.le_of_lt_succ (hF4 h4)) 0x80)
  · rfl

/-- **A character is read as it was written**, in one to four bytes, and the
rest is read after it. -/
theorem lossyChars_utf8EncodeChar (c : Char) (rest : Bytes) :
    lossyChars (String.utf8EncodeChar c ++ rest) = c :: lossyChars rest := by
  have hscalar : c.toNat < 0xD800 ∨ 0xDFFF < c.toNat ∧ c.toNat < 0x110000 := c.valid
  have hback {n : ℕ} (h : n = c.toNat) : Char.ofNat n = c := by rw [h, Char.ofNat_toNat]
  have hval : c.val.toNat = c.toNat := rfl
  unfold String.utf8EncodeChar
  simp only [hval]
  split_ifs with hone htwo hthree
  · have hwidth : utf8CharWidth (.ofNat c.toNat) = 1 := by
      rw [utf8CharWidth_byte (by omega), if_pos (by omega)]
    simp only [List.cons_append, List.nil_append, lossyChars, hwidth]
    rw [hback (toNat_byte (by omega))]
  · have hwidth : utf8CharWidth (.ofNat (c.toNat / 64 % 0x20 + 0xc0)) = 2 := by
      rw [utf8CharWidth_byte (by omega), if_neg (by omega), if_pos (by omega)]
    refine (lossyChars_two hwidth (isContinuation_byte _) rest).trans ?_
    rw [hback]
    rw [toNat_byte (by omega), toNat_byte (by omega)]
    omega
  · have hwidth : utf8CharWidth (.ofNat (c.toNat / 4096 % 0x10 + 0xe0)) = 3 := by
      rw [utf8CharWidth_byte (by omega), if_neg (by omega), if_neg (by omega), if_pos (by omega)]
    have hsecond : isSecond (.ofNat (c.toNat / 4096 % 0x10 + 0xe0))
        (.ofNat (c.toNat / 64 % 0x40 + 0x80)) = true :=
      isSecond_byte (by omega) (by omega) (by omega) (by omega) (by omega)
    refine (lossyChars_three hwidth hsecond (isContinuation_byte _) rest).trans ?_
    rw [hback]
    rw [toNat_byte (by omega), toNat_byte (by omega), toNat_byte (by omega)]
    omega
  · have hwidth : utf8CharWidth (.ofNat (c.toNat / 262144 % 0x08 + 0xf0)) = 4 := by
      rw [utf8CharWidth_byte (by omega), if_neg (by omega), if_neg (by omega), if_neg (by omega),
        if_pos (by omega)]
    have hsecond : isSecond (.ofNat (c.toNat / 262144 % 0x08 + 0xf0))
        (.ofNat (c.toNat / 4096 % 0x40 + 0x80)) = true :=
      isSecond_byte (by omega) (by omega) (by omega) (by omega) (by omega)
    refine (lossyChars_four hwidth hsecond (isContinuation_byte _) (isContinuation_byte _)
      rest).trans ?_
    rw [hback]
    rw [toNat_byte (by omega), toNat_byte (by omega), toNat_byte (by omega),
      toNat_byte (by omega)]
    omega

/-- **A text is got back from its bytes**: nothing in it is replaced, by
induction on its characters. -/
theorem fromUtf8Lossy_utf8 (s : String) : fromUtf8Lossy (utf8 s) = s := by
  suffices h : ∀ l : List Char, lossyChars (l.flatMap String.utf8EncodeChar) = l by
    rw [fromUtf8Lossy, utf8, h, String.ofList_toList]
  intro l
  induction l with
  | nil => rfl
  | cons c l ih => rw [List.flatMap_cons, lossyChars_utf8EncodeChar, ih]

/-- Bytes of ASCII are those of their text. -/
theorem utf8_fromUtf8Lossy {bytes : Bytes} (h : ∀ b ∈ bytes, b < 0x80) :
    utf8 (fromUtf8Lossy bytes) = bytes := by
  rw [utf8, fromUtf8Lossy, String.toList_ofList]
  induction bytes with
  | nil => rfl
  | cons b bytes ih =>
    rw [List.forall_mem_cons] at h
    have hwidth : utf8CharWidth b = 1 := if_pos h.1
    have hb : b.toNat < 0x80 := h.1
    have hvalid : b.toNat.isValidChar := .inl (by omega)
    have hencode : String.utf8EncodeChar (Char.ofNat b.toNat) = [b] := by
      have hval : (Char.ofNat b.toNat).val.toNat = b.toNat := by
        rw [Char.ofNat, dif_pos hvalid]
        rfl
      unfold String.utf8EncodeChar
      rw [hval]
      dsimp only
      rw [if_pos (Nat.le_of_lt_succ hb), UInt8.ofNat_toNat]
    have hhead : lossyChars (b :: bytes) = Char.ofNat b.toNat :: lossyChars bytes := by
      simp only [lossyChars, hwidth]
    rw [hhead, List.flatMap_cons, hencode, ih h.2]
    rfl

/-- The bytes of two strings one after the other. -/
theorem utf8_append (s t : String) : utf8 (s ++ t) = utf8 s ++ utf8 t := by
  rw [utf8, utf8, utf8, String.toList_append, List.flatMap_append]

/-- **A byte of ASCII** is all there is of its character: the bytes of the
longer sequences are all from `0x80` on. -/
theorem toNat_of_mem_utf8EncodeChar {c : Char} {b : UInt8} (h : b ∈ String.utf8EncodeChar c)
    (hb : b < 0x80) : c.toNat = b.toNat := by
  have hval : c.val.toNat = b.toNat := by
    have hlt : b.toNat < 128 := hb
    unfold String.utf8EncodeChar at h
    dsimp only at h
    split_ifs at h <;> simp only [List.mem_cons, List.not_mem_nil, or_false, ← UInt8.toNat_inj,
      UInt8.toNat_ofNat'] at h <;> omega
  exact hval

/-- Only a line feed has its byte. -/
theorem lineFeed_mem_utf8EncodeChar {c : Char} (h : 0x0A ∈ String.utf8EncodeChar c) :
    c = '\n' :=
  Char.toNat_inj.1 (toNat_of_mem_utf8EncodeChar h (by decide))

/-! ### Lines -/

/-- What `read_line` reads, call after call: every line but the last ends with a line
feed. -/
def lines : Bytes → List Bytes
  | [] => []
  | b :: bs =>
    if b = 0x0A then [b] :: lines bs
    else
      match lines bs with
      | [] => [[b]]
      | l :: ls => (b :: l) :: ls

/-- A line is read up to its line feed. -/
theorem lines_append {l : Bytes} (h : 0x0A ∉ l) (rest : Bytes) :
    lines (l ++ 0x0A :: rest) = (l ++ [0x0A]) :: lines rest := by
  induction l with
  | nil => exact if_pos rfl
  | cons b l ih =>
    rw [List.mem_cons, not_or] at h
    rw [List.cons_append, lines, if_neg (Ne.symm h.1), ih h.2]
    rfl

/-- **A text is one line** if its only line feed is its last character, and
what follows are other lines. -/
theorem lines_utf8 {s : String} (h : '\n' ∉ s.toList) (rest : Bytes) :
    lines (utf8 (s ++ "\n") ++ rest) = utf8 (s ++ "\n") :: lines rest := by
  have hbyte : (0x0A : UInt8) ∉ utf8 s := by
    intro hmem
    obtain ⟨c, hc, hb⟩ := List.mem_flatMap.1 hmem
    exact h (lineFeed_mem_utf8EncodeChar hb ▸ hc)
  have hfeed : utf8 "\n" = [0x0A] := by decide
  rw [utf8_append, hfeed, List.append_assoc]
  exact lines_append hbyte rest

end Clustat
