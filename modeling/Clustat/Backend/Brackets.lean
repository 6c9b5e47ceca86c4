/-
# What brackets denote

The brackets of a node filter are a range of numbers, `node[01-03]`, or a list, `node[1,3,5]`.
`expand_bracket_expression` of `crates/client-backend/src/filter.rs` tells them apart by the
first dash between the brackets: with one, all that stands before and behind it has to be a
number.  So a list that has a range among other items is not expanded, and stays a pattern with
brackets, which no hostname has; and a range is not expanded either if one of its numerals is too
long for a width of `format!` (`expands_iff`).

The numbers of a range are written with the digits of the wider bound, and a pattern without
stars is looked for in the hostname.  So a range selects the hosts whose number begins with one
of its numbers, written so (`range_matches_iff`): `node[1-3]` selects `node10`, and
`node[8-12]` does not select `node9`.
-/

import Clustat.Backend.NodeFilter

namespace Clustat
namespace Backend

open Numeral

/-! ### Ranges -/

/-- The decimal numeral of a `u32`; zeros may stand in front. -/
structure IsU32 (s : List Char) : Prop where
  ne_nil : s ≠ []
  digits : ∀ c ∈ s, isDigit 10 c = true
  lt : value 10 s < 2 ^ 32

instance (s : List Char) : Decidable (IsU32 s) :=
  decidable_of_iff (s ≠ [] ∧ s.all (isDigit 10) = true ∧ value 10 s < 2 ^ 32)
    ⟨fun h => ⟨h.1, List.all_eq_true.1 h.2.1, h.2.2⟩,
      fun h => ⟨h.ne_nil, List.all_eq_true.2 h.digits, h.lt⟩⟩

/-- A number below `2 ^ 32` is written as a numeral of a `u32`. -/
theorem isU32_toDigits {n : ℕ} (hn : n < 2 ^ 32) : IsU32 (Nat.toDigits 10 n) where
  ne_nil := Nat.toDigits_ne_nil
  digits _ hc := isDigit_of_mem_toDigits (by decide) (by decide) hc
  lt := by rwa [value_toDigits (by decide) (by decide)]

/-- A digit means nothing to a filter. -/
theorem plain_of_isDigit {c : Char} (h : isDigit 10 c = true) : Plain c ∧ c ≠ '*' ∧ c ≠ '-' := by
  obtain ⟨d, hd, hlt⟩ := isDigit_eq_true_iff.1 h
  exact AddrChar.plain (.inl (isDigit_eq_true_iff.2 ⟨d, hd, lt_trans hlt (by decide)⟩))

/-- A numeral of a `u32` is parsed to its value. -/
theorem parseU32_eq_some {s : List Char} (h : IsU32 s) : parseU32 s = some (value 10 s) := by
  have hplus : s.head? ≠ some '+' := fun hp =>
    absurd (h.digits '+' (List.mem_of_head? hp)) (by decide)
  have hall : s.all (isDigit 10) = true := List.all_eq_true.2 h.digits
  simp only [parseU32, if_neg hplus, if_neg h.ne_nil, hall, not_true_eq_false, if_false,
    if_neg (Nat.not_le.2 h.lt)]

/-- A letter that is neither a digit nor a plus is in no number. -/
theorem parseU32_eq_none {s : List Char} {c : Char} (hc : c ∈ s) (hdigit : isDigit 10 c = false)
    (hplus : c ≠ '+') : parseU32 s = none := by
  have hmem : c ∈ if s.head? = some '+' then s.tail else s := by
    split_ifs with hp
    · cases s with
      | nil => cases hc
      | cons d s =>
        obtain rfl : d = '+' := Option.some.inj hp
        exact (List.mem_cons.1 hc).resolve_left hplus
    · exact hc
  have hall : ¬((if s.head? = some '+' then s.tail else s).all (isDigit 10) = true) := fun h =>
    absurd (List.all_eq_true.1 h c hmem) (by rw [hdigit]; decide)
  simp only [parseU32, if_pos hall, ite_self]

/-- The words of a range. -/
def rangeWords (start finish : List Char) : List (List Char) :=
  (List.range' (value 10 start) (value 10 finish + 1 - value 10 start)).map
    (zeroPadded (max start.length finish.length))

/-- The words of a range: its numbers, each with zeros up to the length of the
longer bound. -/
theorem mem_rangeWords {start finish t : List Char} : t ∈ rangeWords start finish ↔
    ∃ n, value 10 start ≤ n ∧ n ≤ value 10 finish ∧
      t = zeroPadded (max start.length finish.length) n := by
  simp only [rangeWords, List.mem_map, List.mem_range'_1]
  constructor
  · rintro ⟨n, ⟨hle, hlt⟩, rfl⟩
    exact ⟨n, hle, by omega, rfl⟩
  · rintro ⟨n, hle, hle', rfl⟩
    exact ⟨n, ⟨hle, by omega⟩, rfl⟩

/-- **A range alone is expanded to its words**, if they are not too long: with
more than 65535 characters in a bound, `format!` panics. -/
theorem parse_range {front back start finish : List Char} (hfront : ∀ c ∈ front, Plain c)
    (hback : ∀ c ∈ back, Plain c) (hstart : IsU32 start) (hfinish : IsU32 finish)
    (hle : value 10 start ≤ value 10 finish) :
    NodeFilter.parse (some (.ofList (bracketItem front (start ++ '-' :: finish) back))) =
      if max start.length finish.length < 2 ^ 16 then
        some ⟨((rangeWords start finish).map fun t => String.ofList (front ++ t ++ back)).eraseDups⟩
      else none := by
  have hdigits {s : List Char} (hs : IsU32 s) : ∀ c ∈ s, Content c := fun c hc =>
    (plain_of_isDigit (hs.digits c hc)).1.content
  have hcontent : ∀ c ∈ start ++ '-' :: finish, Content c :=
    List.forall_mem_append.2 ⟨hdigits hstart,
      List.forall_mem_cons.2 ⟨⟨by decide, by decide⟩, hdigits hfinish⟩⟩
  have hdash : '-' ∉ start := fun hc => (plain_of_isDigit (hstart.digits _ hc)).2.2 rfl
  rw [parse_bracketItem hfront hcontent hback, expandExpression, splitOnce_append hdash]
  dsimp only
  split_ifs with hwidth
  · simp only [expandNumericRange, parseU32_eq_some hstart, parseU32_eq_some hfinish,
      if_neg (Nat.not_lt.2 hle), padded, Checked.formatWidth_of_lt hwidth, Option.map_some]
    rw [Checked.mapM_eq_some fun n _ => rfl, Option.map_some, rangeWords, List.map_map]
    rfl
  · rw [expandNumericRange_eq_none_iff.2 ⟨_, _, parseU32_eq_some hstart, parseU32_eq_some hfinish,
      hle, Nat.not_lt.1 hwidth⟩, Option.map_none]

/-! ### Lists -/

/-- An item of a list between brackets. -/
inductive Item
  | literal (text : List Char)
  | range (start finish : List Char)
  deriving DecidableEq, Repr

namespace Item

/-- The item as it is written. -/
def text : Item → List Char
  | literal text => text
  | range start finish => start ++ '-' :: finish

/-- The words that the item denotes. -/
def denotes : Item → List (List Char)
  | literal text => [text]
  | range start finish => rangeWords start finish

/-- A literal is a word without a dash, and a range goes upwards. -/
def Valid : Item → Prop
  | literal text => text ≠ [] ∧ ∀ c ∈ text, Plain c ∧ c ≠ '-'
  | range start finish => IsU32 start ∧ IsU32 finish ∧ value 10 start ≤ value 10 finish

def IsLiteral : Item → Prop
  | literal _ => True
  | range .. => False

instance : (i : Item) → Decidable i.Valid
  | literal text => @instDecidableAnd (text ≠ []) _ _ (List.decidableBAll _ _)
  | range .. => inferInstanceAs (Decidable (_ ∧ _ ∧ _))

instance : (i : Item) → Decidable i.IsLiteral
  | literal _ => inferInstanceAs (Decidable True)
  | range .. => inferInstanceAs (Decidable False)

/-- Only a comma ends an item. -/
theorem Valid.plain_or_dash {i : Item} (h : i.Valid) : ∀ c ∈ i.text, Plain c ∨ c = '-' := by
  intro c hc
  cases i with
  | literal text => exact .inl (h.2 c hc).1
  | range start finish =>
    obtain ⟨hstart, hfinish, -⟩ := h
    rcases List.mem_append.1 hc with hc | hc
    · exact .inl (plain_of_isDigit (hstart.digits c hc)).1
    · rcases List.mem_cons.1 hc with rfl | hc
      · exact .inr rfl
      · exact .inl (plain_of_isDigit (hfinish.digits c hc)).1

/-- No word has a bracket. -/
theorem Valid.bracket_notMem {i : Item} (h : i.Valid) : ∀ t ∈ i.denotes, '[' ∉ t := by
  intro t ht hc
  cases i with
  | literal text =>
    rw [List.mem_singleton.1 ht] at hc
    exact (h.2 _ hc).1.ne.2.1 rfl
  | range start finish =>
    obtain ⟨n, -, -, rfl⟩ := mem_rangeWords.1 ht
    exact (plain_of_isDigit (isDigit_of_mem_leftpad hc)).1.ne.2.1 rfl

end Item

/-- The joined words are in the text. -/
theorem subset_intercalate {sep : Char} {w : List Char} {words : List (List Char)}
    (hw : w ∈ words) : w ⊆ List.intercalate [sep] words := by
  induction words with
  | nil => cases hw
  | cons v words ih =>
    cases words with
    | nil =>
      rw [List.mem_singleton.1 hw, List.intercalate_singleton]
      exact List.Subset.refl _
    | cons v' words =>
      rw [List.intercalate_cons_cons]
      rcases List.mem_cons.1 hw with rfl | hw
      · exact fun c hc => List.mem_append_left _ (List.mem_append_left _ hc)
      · exact fun c hc => List.mem_append_right _ (ih hw hc)

/-- What is between the brackets. -/
def itemsText (items : List Item) : List Char := List.intercalate [','] (items.map Item.text)

/-- The patterns that the item list denotes. -/
def denotedPatterns (front back : List Char) (items : List Item) : List String :=
  (items.flatMap Item.denotes).map fun t => String.ofList (front ++ t ++ back)

section Lists

variable {front back : List Char} {items : List Item} (hfront : ∀ c ∈ front, Plain c)
  (hback : ∀ c ∈ back, Plain c) (hvalid : ∀ i ∈ items, i.Valid)

include hvalid in
/-- The items between the brackets have no bracket and no white space. -/
theorem content_itemsText : ∀ c ∈ itemsText items, Content c := by
  intro c hc
  obtain rfl | ⟨w, hw, hc⟩ := eq_or_mem_of_mem_intercalate hc
  · exact ⟨by decide, by decide⟩
  · obtain ⟨i, hi, rfl⟩ := List.mem_map.1 hw
    rcases (hvalid i hi).plain_or_dash c hc with hplain | rfl
    · exact hplain.content
    · exact ⟨by decide, by decide⟩

include hfront hback hvalid

/-- **A list of literals is expanded to them**, in their order and each once;
without a dash nothing is taken for a range. -/
theorem parse_literals (hne : items ≠ []) (hliteral : ∀ i ∈ items, i.IsLiteral) :
    NodeFilter.parse (some (.ofList (bracketItem front (itemsText items) back))) =
      some ⟨(denotedPatterns front back items).eraseDups⟩ := by
  have htext : ∀ i ∈ items, i.text ≠ [] ∧ (∀ c ∈ i.text, Plain c ∧ c ≠ '-') ∧
      i.denotes = [i.text] := by
    intro i hi
    have hv := hvalid i hi
    have hl := hliteral i hi
    cases i with
    | literal text => exact ⟨hv.1, hv.2, rfl⟩
    | range start finish => exact hl.elim
  have hdash : '-' ∉ itemsText items := by
    intro hc
    obtain hc | ⟨w, hw, hc⟩ := eq_or_mem_of_mem_intercalate hc
    · exact absurd hc (by decide)
    · obtain ⟨i, hi, rfl⟩ := List.mem_map.1 hw
      exact ((htext i hi).2.1 _ hc).2 rfl
  have hsplit : (itemsText items).splitOn ',' = items.map Item.text := by
    refine List.splitOn_intercalate ',' (fun w hw => ?_) (by simpa using hne)
    obtain ⟨i, hi, rfl⟩ := List.mem_map.1 hw
    exact fun hc => ((htext i hi).2.1 _ hc).1.ne.1 rfl
  have htrim : (items.map Item.text).map (fun item => trim (.ofList item)) =
      items.map fun i => String.ofList i.text := by
    rw [List.map_map]
    exact List.map_congr_left fun i hi => trim_eq_self fun c hc => ((htext i hi).2.1 c hc).1.1
  have hkeep : (items.map fun i => String.ofList i.text).filter (· ≠ "") =
      items.map fun i => String.ofList i.text := by
    refine List.filter_eq_self.2 fun s hs => ?_
    obtain ⟨i, hi, rfl⟩ := List.mem_map.1 hs
    exact decide_eq_true fun h => (htext i hi).1 (by simpa using congrArg String.toList h)
  have hdenotes : items.flatMap Item.denotes = items.map Item.text := by
    rw [← List.flatMap_pure_eq_map]
    exact List.flatMap_congr fun i hi => (htext i hi).2.2
  rw [parse_bracketItem hfront (content_itemsText hvalid) hback, expandExpression,
    splitOnce_eq_none hdash]
  simp only [hsplit, htrim, hkeep, denotedPatterns, hdenotes, List.map_map]
  rw [if_neg (by simpa using hne)]
  simp [Function.comp_def]

/-- **A list with a range among other items is not expanded**: a comma is before or behind the
first dash, and what has a comma is no number. -/
theorem parse_mixed (hrange : ¬∀ i ∈ items, i.IsLiteral) (hmany : ∀ i, items ≠ [i]) :
    NodeFilter.parse (some (.ofList (bracketItem front (itemsText items) back))) =
      some ⟨[.ofList (bracketItem front (itemsText items) back)]⟩ := by
  have hdash : '-' ∈ itemsText items := by
    push Not at hrange
    obtain ⟨i, hi, hl⟩ := hrange
    cases i with
    | literal text => exact (hl trivial).elim
    | range start finish =>
      exact subset_intercalate (List.mem_map_of_mem hi)
        (List.mem_append_right _ List.mem_cons_self)
  have hcomma : ',' ∈ itemsText items := by
    match items, hdash, hmany with
    | [], hdash, _ => cases hdash
    | [i], _, hmany => exact absurd rfl (hmany i)
    | i :: j :: rest, _, _ =>
      rw [itemsText, List.map_cons, List.map_cons, List.intercalate_cons_cons]
      simp
  obtain ⟨start, finish, hsplit, hstart⟩ := List.eq_append_cons_of_mem hdash
  have hnone : parseU32 start = none ∨ parseU32 finish = none := by
    rw [hsplit, List.mem_append, List.mem_cons] at hcomma
    rcases hcomma with hc | hc | hc
    · exact .inl (parseU32_eq_none hc (by decide) (by decide))
    · exact absurd hc (by decide)
    · exact .inr (parseU32_eq_none hc (by decide) (by decide))
  have hexpand (raw : String) : expandNumericRange raw front back start finish = some [raw] := by
    rw [expandNumericRange]
    rcases hnone with h | h
    · rw [h]
    · cases parseU32 start with
      | none => rfl
      | some n => rw [h]
  have honce : splitOnce '-' (itemsText items) = some (start, finish) := by
    rw [hsplit, splitOnce_append hstart]
  rw [parse_bracketItem hfront (content_itemsText hvalid) hback, expandExpression, honce]
  simp only [hexpand]
  rfl

/-- **Which brackets are expanded to what they denote**: those with literals only, and those
with a single range, if its numerals have at most 65535 digits. -/
theorem expands_iff (hne : items ≠ []) :
    NodeFilter.parse (some (.ofList (bracketItem front (itemsText items) back))) =
        some ⟨(denotedPatterns front back items).eraseDups⟩ ↔
      (∀ i ∈ items, i.IsLiteral) ∨
        ∃ start finish, items = [.range start finish] ∧ max start.length finish.length < 2 ^ 16 := by
  by_cases hliteral : ∀ i ∈ items, i.IsLiteral
  · exact iff_of_true (parse_literals hfront hback hvalid hne hliteral) (.inl hliteral)
  rw [or_iff_right hliteral]
  by_cases hone : ∃ i, items = [i]
  · obtain ⟨i, rfl⟩ := hone
    cases i with
    | literal text => exact absurd (fun i hi => List.mem_singleton.1 hi ▸ trivial) hliteral
    | range start finish =>
      obtain ⟨hstart, hfinish, hle⟩ := hvalid _ (List.mem_singleton.2 rfl)
      have hrange := parse_range hfront hback hstart hfinish hle
      have htext : itemsText [.range start finish] = start ++ '-' :: finish := by
        simp [itemsText, Item.text]
      have hdenoted : denotedPatterns front back [.range start finish] =
          (rangeWords start finish).map fun t => String.ofList (front ++ t ++ back) := by
        simp [denotedPatterns, Item.denotes]
      rw [htext, hdenoted, hrange]
      split_ifs with hwidth
      · exact iff_of_true rfl ⟨start, finish, rfl, hwidth⟩
      · refine iff_of_false nofun fun ⟨_, _, heq, h⟩ => hwidth ?_
        cases heq
        exact h
  · refine iff_of_false ?_ fun ⟨start, finish, h, _⟩ => hone ⟨_, h⟩
    rw [parse_mixed hfront hback hvalid hliteral fun i hi => hone ⟨i, hi⟩]
    intro h
    have hpatterns : [String.ofList (bracketItem front (itemsText items) back)] =
        (denotedPatterns front back items).eraseDups :=
      congrArg NodeFilter.patterns (Option.some.inj h)
    have hmem : String.ofList (bracketItem front (itemsText items) back) ∈
        denotedPatterns front back items :=
      List.mem_eraseDups.1 (hpatterns ▸ List.mem_singleton.2 rfl)
    obtain ⟨t, ht, heq⟩ := List.mem_map.1 hmem
    obtain ⟨i, hi, ht⟩ := List.mem_flatMap.1 ht
    have htext : front ++ t ++ back = bracketItem front (itemsText items) back := by
      simpa using congrArg String.toList heq
    have hbracket : '[' ∈ front ++ t ++ back := by
      rw [htext, bracketItem]
      simp
    simp only [List.mem_append] at hbracket
    rcases hbracket with (hc | hc) | hc
    · exact (hfront _ hc).ne.2.1 rfl
    · exact (hvalid i hi).bracket_notMem t ht hc
    · exact (hback _ hc).ne.2.1 rfl

end Lists

/-- A list of literals, and a range alone. -/
theorem expands_iff_node :
    NodeFilter.parse (some "node[1,3,1]") = some ⟨["node1", "node3"]⟩ ∧
    NodeFilter.parse (some "node[08-10].lan") =
      some ⟨["node08.lan", "node09.lan", "node10.lan"]⟩ := by
  have hnode := @of_decide_eq_true _ (List.decidableBAll Plain "node".toList) (by decide)
  have hlan := @of_decide_eq_true _ (List.decidableBAll Plain ".lan".toList) (by decide)
  have hlist := @expands_iff "node".toList [] [.literal ['1'], .literal ['3'], .literal ['1']] hnode
    (List.forall_mem_nil _) (by decide) (by decide)
  have hrange := @expands_iff "node".toList ".lan".toList [.range ['0', '8'] ['1', '0']] hnode
    hlan (by decide) (by decide)
  exact ⟨hlist.2 (.inl (by decide)), hrange.2 (.inr ⟨_, _, rfl, by decide⟩)⟩

/-- A range and a literal are not expanded. -/
theorem mixed_not_expanded :
    let items : List Item := [.range ['1'] ['3'], .literal ['5']]
    (∀ i ∈ items, i.Valid) ∧
    NodeFilter.parse (some (.ofList (bracketItem "node".toList (itemsText items) []))) =
      some ⟨["node[1-3,5]"]⟩ ∧
    (denotedPatterns "node".toList [] items).eraseDups = ["node1", "node2", "node3", "node5"] := by
  decide +kernel

/-! ### The hosts of a range -/

/-- A letter of a name: it has no meaning in a filter, and is no digit and no mark of an
address. -/
def NameChar (c : Char) : Prop :=
  Plain c ∧ c ∉ ['*', ':', '.'] ∧ isDigit 10 c = false

instance (c : Char) : Decidable (NameChar c) := inferInstanceAs (Decidable (_ ∧ _ ∧ _))

/-- The letters of the alphabet are letters of names. -/
theorem nameChar_of_isAlpha {c : Char} (h : c.isAlpha = true) : NameChar c := by
  have hcode : (65 ≤ c.toNat ∧ c.toNat ≤ 90) ∨ (97 ≤ c.toNat ∧ c.toNat ≤ 122) := by
    obtain hupper | hlower := Bool.or_eq_true_iff.1 h
    · have hval : 'A'.val ≤ c.val ∧ c.val ≤ 'Z'.val := of_decide_eq_true hupper
      exact .inl ⟨UInt32.le_iff_toNat_le.1 hval.1, UInt32.le_iff_toNat_le.1 hval.2⟩
    · obtain ⟨hlow, hhigh⟩ := Bool.and_eq_true_iff.1 hlower
      exact .inr ⟨UInt32.le_iff_toNat_le.1 (of_decide_eq_true hlow),
        UInt32.le_iff_toNat_le.1 (of_decide_eq_true hhigh)⟩
  have hne {d : Char} (hd : d.isAlpha = false) : c ≠ d := by
    rintro rfl
    rw [h] at hd
    cases hd
  have hspace : isWhitespace c = false := isWhitespace_of_visible (by omega) (by omega)
  have hdigit : isDigit 10 c = false := by
    rw [Bool.eq_false_iff]
    intro hd
    obtain ⟨d, hvalue, hlt⟩ := isDigit_eq_true_iff.1 hd
    have hle (x y : Char) : x ≤ y ↔ x.toNat ≤ y.toNat := Iff.rfl
    simp only [digitValue, hle] at hvalue
    split_ifs at hvalue with h0 ha hA <;> injection hvalue with hvalue
    · have : c.toNat ≤ 57 := h0.2
      omega
    · have : 97 ≤ c.toNat := ha.1
      omega
    · have : 65 ≤ c.toNat := hA.1
      omega
  refine ⟨⟨hspace, ?_⟩, ?_, hdigit⟩
  · simp only [List.mem_cons, List.not_mem_nil, or_false, not_or]
    exact ⟨hne (by decide), hne (by decide), hne (by decide)⟩
  · simp only [List.mem_cons, List.not_mem_nil, or_false, not_or]
    exact ⟨hne (by decide), hne (by decide), hne (by decide)⟩

/-- Behind a name without digits a number is found where it begins. -/
theorem append_infix_append_iff {p u v : List Char} (hne : p ≠ [])
    (hp : ∀ c ∈ p, isDigit 10 c = false) (hu : ∀ c ∈ u, isDigit 10 c = true)
    (hv : ∀ c ∈ v, isDigit 10 c = true) : p ++ u <:+: p ++ v ↔ u <+: v := by
  constructor
  · rintro ⟨x, y, hxy⟩
    -- The letters that are no digits are those of the name, on both sides.
    have hcount := congrArg (fun l => (l.filter fun c => !isDigit 10 c).length) hxy
    have hkeep : (p.filter fun c => !isDigit 10 c) = p :=
      List.filter_eq_self.2 fun c hc => by rw [hp c hc]; rfl
    have hdrop : ∀ {w : List Char}, (∀ c ∈ w, isDigit 10 c = true) →
        (w.filter fun c => !isDigit 10 c) = [] := fun hw =>
      List.filter_eq_nil_iff.2 fun c hc => by rw [hw c hc]; decide
    simp only [List.filter_append, List.length_append, hkeep, hdrop hu, hdrop hv,
      List.length_nil] at hcount
    have hx : x = [] := by
      have hnil : (x.filter fun c => !isDigit 10 c) = [] := List.length_eq_zero_iff.1 (by omega)
      cases x with
      | nil => rfl
      | cons c x =>
        cases p with
        | nil => exact absurd rfl hne
        | cons d p =>
          have hcd : c = d := List.head_eq_of_cons_eq hxy
          have hdigit := List.filter_eq_nil_iff.1 hnil c List.mem_cons_self
          rw [hcd, hp d List.mem_cons_self] at hdigit
          exact absurd rfl hdigit
    rw [hx, List.nil_append, List.append_assoc] at hxy
    exact ⟨y, List.append_cancel_left hxy⟩
  · rintro ⟨y, rfl⟩
    exact ⟨[], y, by simp⟩

/-- **A number begins with a filled up one** if its first digits are that
number, and it has as many digits as were filled up to. -/
theorem zeroPadded_prefix_iff {w n k : ℕ} (hw : 0 < w) (hn : (Nat.toDigits 10 n).length ≤ w) :
    zeroPadded w n <+: Nat.toDigits 10 k ↔
      w ≤ (Nat.toDigits 10 k).length ∧ n = k / 10 ^ ((Nat.toDigits 10 k).length - w) := by
  have hlen : (zeroPadded w n).length = w := by
    rw [zeroPadded, List.leftpad, List.length_append, List.length_replicate]
    omega
  -- What the first digits are worth.
  have hfront : w ≤ (Nat.toDigits 10 k).length →
      value 10 ((Nat.toDigits 10 k).take w) = k / 10 ^ ((Nat.toDigits 10 k).length - w) := by
    intro hle
    have hvalue := @value_toDigits 10 (by decide) (by decide) k
    rw [← List.take_append_drop w (Nat.toDigits 10 k), value_append, List.length_drop] at hvalue
    have hlt := @value_lt 10 ((Nat.toDigits 10 k).drop w) fun c hc =>
      isDigit_of_mem_toDigits (by decide) (by decide) (List.mem_of_mem_drop hc)
    rw [List.length_drop] at hlt
    refine (Nat.div_eq_of_lt_le ?_ ?_).symm
    · omega
    · rw [Nat.succ_mul]
      omega
  constructor
  · intro h
    have hle : w ≤ (Nat.toDigits 10 k).length := hlen ▸ h.length_le
    have htake := List.prefix_iff_eq_take.1 h
    rw [hlen] at htake
    refine ⟨hle, ?_⟩
    rw [← hfront hle, ← htake]
    exact (value_leftpad w n).symm
  · rintro ⟨hle, rfl⟩
    have hword := @leftpad_value ((Nat.toDigits 10 k).take w)
      (by simp [hw.ne', Nat.toDigits_ne_nil]) fun c hc =>
        isDigit_of_mem_toDigits (by decide) (by decide) (List.mem_of_mem_take hc)
    rw [hfront hle, List.length_take, min_eq_left hle] at hword
    rw [zeroPadded, hword]
    exact List.take_prefix _ _

/-- No mark of a pattern is a digit. -/
theorem not_isDigit_of_mem {c : Char} (hc : c ∈ ['*', ':', '.']) : ¬isDigit 10 c = true := by
  simp only [List.mem_cons, List.not_mem_nil, or_false] at hc
  rcases hc with rfl | rfl | rfl <;> decide

/-- A word that is no address is looked for everywhere. -/
theorem matchesPattern_word {text : List Char} (hstar : '*' ∉ text) (hcolon : ':' ∉ text)
    (hdot : '.' ∉ text) (hostname : String) (addr : SocketAddr) (connectionId : String) :
    matchesPattern (.ofList text) hostname addr connectionId = true ↔
      text <:+: hostname.toList ∨ text <:+: addr.ip.display ∨ text <:+: addr.display ∨
        text <:+: connectionId.toList := by
  obtain ⟨hip, hsocket⟩ := parse_eq_none hcolon hdot
  have hword (t : String) : wildcardMatch (.ofList text) t = true ↔ text <:+: t.toList := by
    rw [wildcardMatch_of_not_mem (by rwa [String.toList_ofList]), String.toList_ofList]
  simp [matchesPattern, isExactAddrPattern, exactAddrMatch, hip, hsocket, hword, or_assoc]

/-- A host has one of a range's words in its name if its number begins with the word. -/
theorem matchesPattern_zeroPadded {p : List Char} (hne : p ≠ []) (hp : ∀ c ∈ p, NameChar c) {w n : ℕ}
    (hw : 0 < w) (hn : (Nat.toDigits 10 n).length ≤ w) (k : ℕ) {addr : SocketAddr}
    {connectionId : String} (hip : ¬p <:+: addr.ip.display) (haddr : ¬p <:+: addr.display)
    (hid : ¬p <:+: connectionId.toList) :
    matchesPattern (.ofList (p ++ zeroPadded w n)) (.ofList (p ++ Nat.toDigits 10 k)) addr
        connectionId = true ↔
      w ≤ (Nat.toDigits 10 k).length ∧ n = k / 10 ^ ((Nat.toDigits 10 k).length - w) := by
  have hmark {c : Char} (hc : c ∈ ['*', ':', '.']) : c ∉ p ++ zeroPadded w n := by
    intro h
    rcases List.mem_append.1 h with h | h
    · exact (hp c h).2.1 hc
    · exact not_isDigit_of_mem hc (isDigit_of_mem_leftpad h)
  have hpart {t : List Char} (ht : ¬p <:+: t) : ¬p ++ zeroPadded w n <:+: t :=
    fun h => ht ((List.prefix_append p _).isInfix.trans h)
  have hbegins : p ++ zeroPadded w n <:+: p ++ Nat.toDigits 10 k ↔
      zeroPadded w n <+: Nat.toDigits 10 k :=
    append_infix_append_iff hne (fun c hc => (hp c hc).2.2)
      (fun _ hc => isDigit_of_mem_leftpad hc)
      (fun _ hc => isDigit_of_mem_toDigits (by decide) (by decide) hc)
  rw [matchesPattern_word (hmark (by decide)) (hmark (by decide)) (hmark (by decide)),
    String.toList_ofList, hbegins, zeroPadded_prefix_iff hw hn]
  simp only [hpart hip, hpart haddr, hpart hid, or_false]

/-- **Which hosts a range selects**: those whose number begins with one of its numbers, written
with the digits of the wider bound. -/
theorem range_matches_iff {p : List Char} (hne : p ≠ []) (hp : ∀ c ∈ p, NameChar c) {a b : ℕ}
    (hab : a ≤ b) (hb : b < 2 ^ 32) (k : ℕ) {addr : SocketAddr} {connectionId : String}
    (hip : ¬p <:+: addr.ip.display) (haddr : ¬p <:+: addr.display)
    (hid : ¬p <:+: connectionId.toList) :
    ∃ f, NodeFilter.parse (some (.ofList (bracketItem p
        (Nat.toDigits 10 a ++ '-' :: Nat.toDigits 10 b) []))) = some f ∧
      (f.matchesTarget (.ofList (p ++ Nat.toDigits 10 k)) addr connectionId = true ↔
        (Nat.toDigits 10 b).length ≤ (Nat.toDigits 10 k).length ∧
          a ≤ k / 10 ^ ((Nat.toDigits 10 k).length - (Nat.toDigits 10 b).length) ∧
          k / 10 ^ ((Nat.toDigits 10 k).length - (Nat.toDigits 10 b).length) ≤ b) := by
  have hpos : 0 < (Nat.toDigits 10 b).length := Nat.length_toDigits_pos
  have hwidth {n : ℕ} (hn : n ≤ b) : (Nat.toDigits 10 n).length ≤ (Nat.toDigits 10 b).length :=
    (Nat.length_toDigits_le_iff (by decide) hpos).2
      (lt_of_le_of_lt hn ((Nat.length_toDigits_le_iff (by decide) hpos).1 le_rfl))
  have hvalue (n : ℕ) : value 10 (Nat.toDigits 10 n) = n := value_toDigits (by decide) (by decide) n
  have hwords {t : List Char} : t ∈ rangeWords (Nat.toDigits 10 a) (Nat.toDigits 10 b) ↔
      ∃ n, a ≤ n ∧ n ≤ b ∧ t = zeroPadded (Nat.toDigits 10 b).length n := by
    rw [mem_rangeWords, hvalue, hvalue, max_eq_right (hwidth hab)]
  have hten : (Nat.toDigits 10 b).length ≤ 10 :=
    (Nat.length_toDigits_le_iff (by decide) (by decide)).2 (hb.trans (by decide))
  have hparse := @parse_range p [] _ _ (fun c hc => (hp c hc).1)
    (List.forall_mem_nil _) (isU32_toDigits (lt_of_le_of_lt hab hb)) (isU32_toDigits hb)
    (by rwa [hvalue, hvalue])
  rw [max_eq_right (hwidth hab), if_pos (by omega)] at hparse
  simp only [List.append_nil] at hparse
  refine ⟨_, hparse, ?_⟩
  have hnonempty : ((rangeWords (Nat.toDigits 10 a) (Nat.toDigits 10 b)).map fun t =>
      String.ofList (p ++ t)).eraseDups ≠ [] := by
    have hfirst := hwords.2 ⟨a, le_rfl, hab, rfl⟩
    exact List.ne_nil_of_mem (List.mem_eraseDups.2 (List.mem_map_of_mem hfirst))
  have hword {n : ℕ} (hn : n ≤ b) :=
    matchesPattern_zeroPadded hne hp hpos (hwidth hn) k hip haddr hid
  rw [matchesTarget_mk_iff hnonempty]
  simp only [List.mem_eraseDups, List.mem_map]
  constructor
  · rintro ⟨_, ⟨t, ht, rfl⟩, hmatch⟩
    obtain ⟨n, han, hnb, rfl⟩ := hwords.1 ht
    obtain ⟨hle, rfl⟩ := (hword hnb).1 hmatch
    exact ⟨hle, han, hnb⟩
  · rintro ⟨hle, han, hnb⟩
    exact ⟨_, ⟨_, hwords.2 ⟨_, han, hnb, rfl⟩, rfl⟩, (hword hnb).2 ⟨hle, rfl⟩⟩

/-- The second node of three. -/
theorem range_matches_iff_node2 :
    ∃ f, NodeFilter.parse (some "node[1-3]") = some f ∧
      f.matchesTarget "node2" (.v4 0x0a000001 80) "conn-001" = true := by
  have hname : "node".toList.all Char.isAlpha = true := by decide
  obtain ⟨f, hf, hmatch⟩ := @range_matches_iff "node".toList (by decide)
    (fun c hc => nameChar_of_isAlpha (List.all_eq_true.1 hname c hc)) 1 3 (by decide) (by decide) 2
    (.v4 0x0a000001 80) "conn-001" (by decide) (by decide) (by decide)
  exact ⟨f, hf, hmatch.2 (by decide)⟩

/-- Ranges select another node, and not one of their own. -/
theorem range_not_exact :
    (∃ f, NodeFilter.parse (some "node[1-3]") = some f ∧
      f.matchesTarget "node10" (.v4 0x0a000001 80) "conn-001" = true) ∧ ¬(1 ≤ 10 ∧ 10 ≤ 3) ∧
    (∃ f, NodeFilter.parse (some "node[8-12]") = some f ∧
      f.matchesTarget "node9" (.v4 0x0a000001 80) "conn-001" = false) ∧ (8 ≤ 9 ∧ 9 ≤ 12) := by
  refine ⟨⟨⟨["node1", "node2", "node3"]⟩, by decide +kernel⟩, by decide,
    ⟨⟨["node08", "node09", "node10", "node11", "node12"]⟩, by decide +kernel⟩, by decide⟩

end Backend
end Clustat
