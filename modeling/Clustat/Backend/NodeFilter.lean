/-
# Which nodes a filter selects

`NodeFilter` of `crates/client-backend/src/filter.rs`.  The text of a filter is split at the
commas outside brackets, an item with a pair of brackets is expanded to a pattern for each
number of a range or each item of a list, and a node matches if one of the patterns does: an
address has to be the node's, and any other pattern is looked for in its hostname, its address
and its connection id.  The numbers of a range are written with the width of the longer bound,
which `format!` takes up to 65535: there is no filter of a range with a longer one, `parse` panics
(`parse_eq_none_iff`).

An IPv6 socket address is printed with brackets, and they are expanded: `[::1]:80` becomes the
pattern `::1:80`, which is another address.  So the filter of a printed address selects that
address if it is one of IPv4, and some other node if it is one of IPv6 (`addr_filter_iff`).
-/

import Clustat.Backend.Address
import Clustat.Backend.Filter
import Clustat.Common.Text
import Clustat.Lib.Checked

namespace Clustat
namespace Backend

open Numeral

/-- `NodeFilter`. -/
structure NodeFilter where
  patterns : List String
  deriving DecidableEq, Repr

/-- The loop of `split_filter_items`: `item` is what has been read since `start`. -/
def splitLoop : ℕ → List Char → List Char → List String
  | _, item, [] => [.ofList item]
  | depth, item, c :: s =>
    if c = '[' then splitLoop (depth + 1) (item ++ [c]) s
    else if c = ']' then splitLoop (depth - 1) (item ++ [c]) s
    else if c = ',' ∧ depth = 0 then .ofList item :: splitLoop depth [] s
    else splitLoop depth (item ++ [c]) s

/-- `split_filter_items`. -/
def splitFilterItems (raw : String) : List String := splitLoop 0 [] raw.toList

/-- `split_once`, and a `find` with the slices on its two sides. -/
def splitOnce (c : Char) (s : List Char) : Option (List Char × List Char) :=
  if c ∈ s then some (s.takeWhile (· ≠ c), (s.dropWhile (· ≠ c)).tail) else none

/-- `u32::from_str`. -/
def parseU32 (s : List Char) : Option ℕ :=
  let digits := if s.head? = some '+' then s.tail else s
  if digits = [] then none
  else if ¬digits.all (isDigit 10) then none
  else if 2 ^ 32 ≤ value 10 digits then none
  else some (value 10 digits)

/-- A number, filled up with zeros. -/
def zeroPadded (width n : ℕ) : List Char := (Nat.toDigits 10 n).leftpad width '0'

/-- `{:0width$}` of a number. -/
def padded (width n : ℕ) : Option (List Char) :=
  (Checked.formatWidth width).map fun width => zeroPadded width n

/-- `expand_numeric_range`. -/
def expandNumericRange (raw : String) (front back start finish : List Char) :
    Option (List String) :=
  match parseU32 start with
  | none => some [raw]
  | some startNum =>
    match parseU32 finish with
    | none => some [raw]
    | some endNum =>
      if endNum < startNum then some [raw]
      else
        let width := max start.length finish.length
        (List.range' startNum (endNum + 1 - startNum)).mapM fun n =>
          (padded width n).map fun word => .ofList (front ++ word ++ back)

/-- The end of `expand_bracket_expression`: what is between the brackets is a range or a list. -/
def expandExpression (raw : String) (front expression back : List Char) : Option (List String) :=
  match splitOnce '-' expression with
  | some (start, finish) => expandNumericRange raw front back start finish
  | none =>
    let list := ((expression.splitOn ',').map fun item => trim (.ofList item)).filter (· ≠ "")
      |>.map fun item => .ofList (front ++ item.toList ++ back)
    some (if list = [] then [raw] else list)

/-- `expand_bracket_expression`. -/
def expandBracketExpression (raw : String) : Option (List String) :=
  match splitOnce '[' raw.toList with
  | none => some [raw]
  | some (front, rest) =>
    match splitOnce ']' rest with
    | none => some [raw]
    | some (expression, back) => expandExpression raw front expression back

/-- The items of a filter. -/
def filterItems (raw : Option String) : List String :=
  (raw.toList.flatMap splitFilterItems).map trim |>.filter (· ≠ "")

/-- `NodeFilter::parse`: of equal patterns the first stays. -/
def NodeFilter.parse (raw : Option String) : Option NodeFilter :=
  ((filterItems raw).mapM expandBracketExpression).map fun patterns =>
    ⟨patterns.flatten.eraseDups⟩

/-- `exact_addr_match`. -/
def exactAddrMatch (pattern : String) (addr : SocketAddr) : Bool :=
  match parseSocketAddr pattern.toList with
  | some patternAddr => patternAddr == addr
  | none =>
    match parseIpAddr pattern.toList with
    | some patternIp => patternIp == addr.ip
    | none => false

/-- `is_exact_addr_pattern`. -/
def isExactAddrPattern (pattern : String) : Bool :=
  '*' ∉ pattern.toList &&
    ((parseSocketAddr pattern.toList).isSome || (parseIpAddr pattern.toList).isSome)

/-- What `matches_target` asks of one pattern. -/
def matchesPattern (pattern hostname : String) (addr : SocketAddr) (connectionId : String) :
    Bool :=
  if isExactAddrPattern pattern then exactAddrMatch pattern addr
  else
    exactAddrMatch pattern addr || wildcardMatch pattern hostname ||
      wildcardMatch pattern (.ofList addr.ip.display) ||
      wildcardMatch pattern (.ofList addr.display) || wildcardMatch pattern connectionId

/-- `NodeFilter::matches_target`. -/
def NodeFilter.matchesTarget (f : NodeFilter) (hostname : String) (addr : SocketAddr)
    (connectionId : String) : Bool :=
  f.patterns == [] || f.patterns.any fun pattern =>
    matchesPattern pattern hostname addr connectionId

/-! ### Where there is no filter -/

/-- **When expanding a range panics**: both bounds are numbers, in order, and
one of them is written with more characters than a format width can have. -/
theorem expandNumericRange_eq_none_iff {raw : String} {front back start finish : List Char} :
    expandNumericRange raw front back start finish = none ↔
      ∃ a b, parseU32 start = some a ∧ parseU32 finish = some b ∧ a ≤ b ∧
        2 ^ 16 ≤ max start.length finish.length := by
  rw [expandNumericRange]
  cases hstart : parseU32 start with
  | none => simp
  | some a =>
    cases hfinish : parseU32 finish with
    | none => simp
    | some b =>
      dsimp only
      split_ifs with hlt
      · simp [Nat.not_le.2 hlt]
      · by_cases hwidth : max start.length finish.length < 2 ^ 16
        · refine iff_of_false ?_ fun ⟨_, _, _, _, _, h⟩ => absurd h (Nat.not_le.2 hwidth)
          rw [Checked.mapM_eq_some (g := fun n => String.ofList
            (front ++ zeroPadded (max start.length finish.length) n ++ back)) fun n _ => by
              rw [padded, Checked.formatWidth_of_lt hwidth]
              rfl]
          exact Option.some_ne_none _
        · refine iff_of_true (Checked.mapM_eq_none (x := a) ?_ ?_)
            ⟨a, b, rfl, rfl, Nat.not_lt.1 hlt, Nat.not_lt.1 hwidth⟩
          · rw [List.mem_range'_1]
            omega
          · rw [padded, Checked.formatWidth_of_le (Nat.not_lt.1 hwidth)]
            rfl

/-- An item with a range of numbers, one of which is written with more characters than a width
may count. -/
def LongRange (item : String) : Prop :=
  ∃ front rest expression back start finish a b, splitOnce '[' item.toList = some (front, rest) ∧
    splitOnce ']' rest = some (expression, back) ∧
    splitOnce '-' expression = some (start, finish) ∧ parseU32 start = some a ∧
    parseU32 finish = some b ∧ a ≤ b ∧ 2 ^ 16 ≤ max start.length finish.length

/-- An item panics exactly when one of its ranges does. -/
theorem expandBracketExpression_eq_none_iff {item : String} :
    expandBracketExpression item = none ↔ LongRange item := by
  rw [expandBracketExpression, LongRange]
  cases splitOnce '[' item.toList with
  | none => simp
  | some parts =>
    obtain ⟨front, rest⟩ := parts
    dsimp only
    cases hclose : splitOnce ']' rest with
    | none => simp [hclose]
    | some parts =>
      obtain ⟨expression, back⟩ := parts
      dsimp only
      rw [expandExpression]
      cases hdash : splitOnce '-' expression with
      | none => simp [hclose, hdash]
      | some parts =>
        obtain ⟨start, finish⟩ := parts
        simp [hclose, hdash, expandNumericRange_eq_none_iff]

/-- **Which filters panic**: those with a range that is written with too many
digits, in any of their items. -/
theorem parse_eq_none_iff {raw : Option String} :
    NodeFilter.parse raw = none ↔ ∃ item ∈ filterItems raw, LongRange item := by
  simp only [← expandBracketExpression_eq_none_iff]
  rw [NodeFilter.parse, Option.map_eq_none_iff]
  constructor
  · intro h
    by_contra hnone
    push Not at hnone
    rw [Checked.mapM_eq_some (g := fun item => (expandBracketExpression item).getD [])] at h
    · cases h
    · intro item hitem
      obtain ⟨patterns, hpatterns⟩ := Option.ne_none_iff_exists'.1 (hnone item hitem)
      rw [hpatterns, Option.getD_some]
  · rintro ⟨item, hitem, h⟩
    exact Checked.mapM_eq_none hitem h

/-! ### One item -/

/-- A letter that the syntax of filters leaves alone. -/
def Plain (c : Char) : Prop := isWhitespace c = false ∧ c ∉ [',', '[', ']']

instance (c : Char) : Decidable (Plain c) := inferInstanceAs (Decidable (_ ∧ _))

/-- A plain letter is none of the three that the syntax of filters is made of.
-/
theorem Plain.ne {c : Char} (h : Plain c) : c ≠ ',' ∧ c ≠ '[' ∧ c ≠ ']' := by
  simpa [Plain, not_or] using h.2

/-- Trimming leaves a text without white space as it is. -/
theorem trim_eq_self {t : List Char} (h : ∀ c ∈ t, isWhitespace c = false) :
    trim (.ofList t) = .ofList t := by
  have htrim := @trim_of_ends [] t [] nofun nofun (fun c hc => h c (List.mem_of_head? hc))
    fun c hc => h c (List.mem_of_getLast? hc)
  rwa [List.nil_append, List.append_nil] at htrim

/-- Letters that neither open nor close a bracket nor end the item are put behind it. -/
theorem splitLoop_append {depth : ℕ} {u : List Char}
    (hu : ∀ c ∈ u, c ≠ '[' ∧ c ≠ ']' ∧ (c ≠ ',' ∨ depth ≠ 0)) (item s : List Char) :
    splitLoop depth item (u ++ s) = splitLoop depth (item ++ u) s := by
  induction u generalizing item with
  | nil => rw [List.nil_append, List.append_nil]
  | cons c u ih =>
    obtain ⟨hopen, hclose, hcomma⟩ := hu c List.mem_cons_self
    rw [List.cons_append, splitLoop, if_neg hopen, if_neg hclose,
      if_neg fun h => hcomma.elim (· h.1) (· h.2), ih fun d hd => hu d (List.mem_cons_of_mem _ hd),
      List.append_assoc]
    rfl

/-- Plain letters at the start are added to the item that is being read. -/
theorem splitLoop_append_plain {u : List Char} (hu : ∀ c ∈ u, Plain c) (item s : List Char) :
    splitLoop 0 item (u ++ s) = splitLoop 0 (item ++ u) s :=
  splitLoop_append (fun c hc => ⟨(hu c hc).ne.2.1, (hu c hc).ne.2.2, .inl (hu c hc).ne.1⟩) _ _

/-- A text is split at the first place where the letter stands. -/
theorem splitOnce_append {c : Char} {u : List Char} (h : c ∉ u) (v : List Char) :
    splitOnce c (u ++ c :: v) = some (u, v) := by
  have hne : ∀ d ∈ u, decide (d ≠ c) = true := fun d hd => decide_eq_true fun he => h (he ▸ hd)
  rw [splitOnce, if_pos (List.mem_append_right _ List.mem_cons_self),
    List.takeWhile_append_of_pos hne, List.dropWhile_append_of_pos hne]
  simp

/-- A text without the letter is not split. -/
theorem splitOnce_eq_none {c : Char} {s : List Char} (h : c ∉ s) : splitOnce c s = none :=
  if_neg h

/-- A filter of one item has the patterns of that item. -/
theorem parse_item {text : List Char} (hne : text ≠ [])
    (hspace : ∀ c ∈ text, isWhitespace c = false)
    (hsplit : splitLoop 0 [] text = [.ofList text]) :
    NodeFilter.parse (some (.ofList text)) =
      (expandBracketExpression (.ofList text)).map fun patterns => ⟨patterns.eraseDups⟩ := by
  have hitem : String.ofList text ≠ "" := fun h => hne (by simpa using congrArg String.toList h)
  have hitems : filterItems (some (.ofList text)) = [.ofList text] := by
    simp [filterItems, splitFilterItems, hsplit, trim_eq_self hspace, hitem]
  rw [NodeFilter.parse, hitems, List.mapM_cons, List.mapM_nil]
  cases expandBracketExpression (.ofList text) with
  | none => rfl
  | some patterns =>
    change some (NodeFilter.mk (patterns ++ []).eraseDups) = some ⟨patterns.eraseDups⟩
    rw [List.append_nil]

/-- **A plain item is its pattern**: there is nothing to split, to trim or to
expand. -/
theorem parse_plain {text : List Char} (hne : text ≠ []) (h : ∀ c ∈ text, Plain c) :
    NodeFilter.parse (some (.ofList text)) = some ⟨[.ofList text]⟩ := by
  have hsplit : splitLoop 0 [] text = [.ofList text] := by
    have happend := splitLoop_append_plain h [] []
    rwa [List.append_nil, List.nil_append] at happend
  have hopen : '[' ∉ text := fun hc => (h _ hc).ne.2.1 rfl
  rw [parse_item hne (fun c hc => (h c hc).1) hsplit, expandBracketExpression,
    String.toList_ofList, splitOnce_eq_none hopen]
  rfl

/-- The text of an item with a pair of brackets. -/
def bracketItem (front content back : List Char) : List Char :=
  front ++ '[' :: (content ++ ']' :: back)

/-- The content of a pair of brackets: commas are allowed. -/
def Content (c : Char) : Prop := isWhitespace c = false ∧ c ∉ ['[', ']']

/-- A plain letter may stand between brackets. -/
theorem Plain.content {c : Char} (h : Plain c) : Content c :=
  ⟨h.1, fun hc => h.2 (List.mem_cons_of_mem _ hc)⟩

/-- **An item with a pair of brackets** is split nowhere, not at the commas
between them either, and its brackets are expanded. -/
theorem parse_bracketItem {front content back : List Char} (hfront : ∀ c ∈ front, Plain c)
    (hcontent : ∀ c ∈ content, Content c) (hback : ∀ c ∈ back, Plain c) :
    NodeFilter.parse (some (.ofList (bracketItem front content back))) =
      (expandExpression (.ofList (bracketItem front content back)) front content back).map
        fun patterns => ⟨patterns.eraseDups⟩ := by
  have hbrackets : ∀ c ∈ content, c ≠ '[' ∧ c ≠ ']' := fun c hc => by
    simpa [Content, not_or] using (hcontent c hc).2
  have hspace : ∀ c ∈ bracketItem front content back, isWhitespace c = false := by
    intro c hc
    simp only [bracketItem, List.mem_append, List.mem_cons] at hc
    rcases hc with hc | rfl | hc | rfl | hc
    · exact (hfront c hc).1
    · decide
    · exact (hcontent c hc).1
    · decide
    · exact (hback c hc).1
  have hsplit : splitLoop 0 [] (bracketItem front content back) =
      [.ofList (bracketItem front content back)] := by
    have hinside (item s : List Char) :
        splitLoop (0 + 1) item (content ++ s) = splitLoop (0 + 1) (item ++ content) s :=
      splitLoop_append (fun c hc => ⟨(hbrackets c hc).1, (hbrackets c hc).2, .inr one_ne_zero⟩) _ _
    have hend (item : List Char) : splitLoop 0 item back = [.ofList (item ++ back)] := by
      have happend := splitLoop_append_plain hback item []
      rwa [List.append_nil] at happend
    rw [bracketItem, splitLoop_append_plain hfront, splitLoop, if_pos rfl, hinside, splitLoop,
      if_neg (by decide), if_pos rfl, Nat.add_sub_cancel, hend]
    simp
  have hopen : '[' ∉ front := fun hc => (hfront _ hc).ne.2.1 rfl
  have hclose : ']' ∉ content := fun hc => (hbrackets _ hc).2 rfl
  have hne : bracketItem front content back ≠ [] := by simp [bracketItem]
  rw [parse_item hne hspace hsplit, expandBracketExpression, String.toList_ofList]
  simp only [bracketItem, splitOnce_append hopen, splitOnce_append hclose]

/-! ### Addresses -/

/-- A word without stars is looked for. -/
theorem wildcardMatch_of_not_mem {pattern text : String} (h : '*' ∉ pattern.toList) :
    wildcardMatch pattern text = true ↔ pattern.toList <:+: text.toList := by
  simp only [wildcardMatch, if_pos h]
  exact Wildcard.find_isSome_iff

/-- One pattern decides alone. -/
theorem matchesTarget_singleton (pattern hostname : String) (addr : SocketAddr)
    (connectionId : String) :
    (NodeFilter.mk [pattern]).matchesTarget hostname addr connectionId =
      matchesPattern pattern hostname addr connectionId := by
  simp [NodeFilter.matchesTarget]

/-- A filter with patterns matches what one of them does. -/
theorem matchesTarget_mk_iff {patterns : List String} (hne : patterns ≠ []) (hostname : String)
    (addr : SocketAddr) (connectionId : String) :
    (NodeFilter.mk patterns).matchesTarget hostname addr connectionId = true ↔
      ∃ pattern ∈ patterns, matchesPattern pattern hostname addr connectionId = true := by
  rw [NodeFilter.matchesTarget, Bool.or_eq_true, beq_iff_eq, or_iff_right hne, List.any_eq_true]

/-- An address as a pattern: only the node's address counts. -/
theorem matchesPattern_of_parse {text : List Char} (hstar : '*' ∉ text)
    (h : (parseSocketAddr text).isSome = true ∨ (parseIpAddr text).isSome = true)
    (hostname : String) (addr : SocketAddr) (connectionId : String) :
    matchesPattern (.ofList text) hostname addr connectionId =
      exactAddrMatch (.ofList text) addr := by
  have hexact : isExactAddrPattern (.ofList text) = true := by
    simpa [isExactAddrPattern, hstar] using h
  rw [matchesPattern, if_pos hexact]

/-- The letters of an address mean nothing to a filter. -/
theorem AddrChar.plain {c : Char} (h : AddrChar c) : Plain c ∧ c ≠ '*' ∧ c ≠ '-' := by
  rcases h with h | h
  · obtain ⟨d, hd, -⟩ := isDigit_eq_true_iff.1 h
    have hrange := toNat_of_digitValue hd
    have hne : ∀ e : Char, e.toNat < 48 ∨ (90 < e.toNat ∧ e.toNat < 97) → c ≠ e := by
      rintro e he rfl
      omega
    have hspace : isWhitespace c = false := isWhitespace_of_visible (by omega) (by omega)
    have hplain : c ∉ [',', '[', ']'] := by
      simp only [List.mem_cons, List.not_mem_nil, or_false, not_or]
      exact ⟨hne _ (by decide), hne _ (by decide), hne _ (by decide)⟩
    exact ⟨⟨hspace, hplain⟩, hne _ (by decide), hne _ (by decide)⟩
  · simp only [List.mem_cons, List.not_mem_nil, or_false] at h
    rcases h with rfl | rfl | rfl
    all_goals exact ⟨⟨by decide, by decide⟩, by decide, by decide⟩

/-- No letter of an address is a star. -/
theorem star_notMem {text : List Char} (h : ∀ c ∈ text, AddrChar c) : '*' ∉ text :=
  fun hc => (h _ hc).plain.2.1 rfl

/-- A printed IP address is not empty. -/
theorem display_ne_nil (ip : IpAddr) : ip.display ≠ [] := by
  intro h
  have hread := parseIpAddr_display ip
  rw [h] at hread
  cases hread

/-- The filter of an IP address selects it. -/
theorem matchesTarget_display (ip : IpAddr) :
    ∃ f, NodeFilter.parse (some (.ofList ip.display)) = some f ∧ ∀ hostname addr connectionId,
      f.matchesTarget hostname addr connectionId = true ↔ addr.ip = ip := by
  have hchars := addrChar_display ip
  refine ⟨_, parse_plain (display_ne_nil ip) fun c hc => (hchars c hc).plain.1,
    fun hostname addr connectionId => ?_⟩
  rw [matchesTarget_singleton, matchesPattern_of_parse (star_notMem hchars)
    (.inr (by rw [parseIpAddr_display]; rfl)), exactAddrMatch, String.toList_ofList,
    parseSocketAddr_displayIp, parseIpAddr_display]
  exact beq_iff_eq.trans eq_comm

/-- The filter of an IPv4 socket address selects it. -/
theorem matchesTarget_display_v4 (ip : UInt32) (port : UInt16) :
    ∃ f, NodeFilter.parse (some (.ofList (SocketAddr.v4 ip port).display)) = some f ∧
      ∀ hostname addr connectionId,
        f.matchesTarget hostname addr connectionId = true ↔ addr = .v4 ip port := by
  have hchars : ∀ c ∈ (SocketAddr.v4 ip port).display, AddrChar c :=
    List.forall_mem_append.2 ⟨addrChar_display (.v4 ip), .cons_toDigits (.inr (by decide)) _⟩
  have hne : (SocketAddr.v4 ip port).display ≠ [] := List.append_ne_nil_of_left_ne_nil
    (display_ne_nil (.v4 ip)) _
  refine ⟨_, parse_plain hne fun c hc => (hchars c hc).plain.1,
    fun hostname addr connectionId => ?_⟩
  rw [matchesTarget_singleton, matchesPattern_of_parse (star_notMem hchars)
    (.inl (by rw [parseSocketAddr_display_v4]; rfl)), exactAddrMatch, String.toList_ofList,
    parseSocketAddr_display_v4]
  exact beq_iff_eq.trans eq_comm

/-- Between its brackets a printed IPv6 socket address has the address and the scope id. -/
def bracketed (ip : BitVec 128) (scopeId : UInt32) : List Char :=
  displayIpv6 ip ++ if scopeId = 0 then [] else '%' :: Nat.toDigits 10 scopeId.toNat

/-- Between the brackets of a printed IPv6 address stand letters of an address
only, the scope id included. -/
theorem addrChar_bracketed (ip : BitVec 128) (scopeId : UInt32) :
    ∀ c ∈ bracketed ip scopeId, AddrChar c := by
  refine List.forall_mem_append.2 ⟨addrChar_display (.v6 ip), ?_⟩
  split_ifs with hzero
  · exact List.forall_mem_nil _
  · exact .cons_toDigits (.inr (by decide)) _

/-- The pattern of a printed IPv6 socket address has lost its brackets. -/
theorem parse_display_v6 (ip : BitVec 128) (port : UInt16) (flowinfo scopeId : UInt32) :
    NodeFilter.parse (some (.ofList (SocketAddr.v6 ip port flowinfo scopeId).display)) =
      some ⟨[.ofList (bracketed ip scopeId ++ ':' :: Nat.toDigits 10 port.toNat)]⟩ := by
  have hchars := addrChar_bracketed ip scopeId
  have htext : (SocketAddr.v6 ip port flowinfo scopeId).display =
      bracketItem [] (bracketed ip scopeId) (':' :: Nat.toDigits 10 port.toNat) := by
    simp [SocketAddr.display, bracketItem, bracketed]
  have hback : ∀ c ∈ ':' :: Nat.toDigits 10 port.toNat, Plain c := fun c hc =>
    (AddrChar.cons_toDigits (.inr (by decide)) _ c hc).plain.1
  have hcontent : ∀ c ∈ bracketed ip scopeId, Content c := fun c hc => (hchars c hc).plain.1.content
  have hdash : '-' ∉ bracketed ip scopeId := fun hc => (hchars _ hc).plain.2.2 rfl
  have hcomma : ',' ∉ bracketed ip scopeId := fun hc => (hchars _ hc).plain.1.ne.1 rfl
  have hne : bracketed ip scopeId ≠ [] :=
    List.append_ne_nil_of_left_ne_nil (display_ne_nil (.v6 ip)) _
  have hitem : String.ofList (bracketed ip scopeId) ≠ "" := fun h =>
    hne (by simpa using congrArg String.toList h)
  rw [htext, parse_bracketItem (List.forall_mem_nil _) hcontent hback, expandExpression,
    splitOnce_eq_none hdash]
  have hsplit : (bracketed ip scopeId).splitOn ',' = [bracketed ip scopeId] :=
    List.splitOn_eq_singleton hcomma
  simp [hsplit, trim_eq_self fun c hc => (hcontent c hc).1, hitem, List.eraseDups_cons]

/-- The filter of an IPv6 socket address selects another node. -/
theorem exists_matchesTarget_display_v6 (ip : BitVec 128) (port : UInt16)
    (flowinfo scopeId : UInt32) :
    ∃ f, NodeFilter.parse (some (.ofList (SocketAddr.v6 ip port flowinfo scopeId).display)) =
        some f ∧ ∃ hostname addr connectionId, addr ≠ .v6 ip port flowinfo scopeId ∧
          f.matchesTarget hostname addr connectionId = true := by
  refine ⟨_, parse_display_v6 ip port flowinfo scopeId, ?_⟩
  have hchars : ∀ c ∈ bracketed ip scopeId ++ ':' :: Nat.toDigits 10 port.toNat, AddrChar c :=
    List.forall_mem_append.2 ⟨addrChar_bracketed ip scopeId, .cons_toDigits (.inr (by decide)) _⟩
  generalize bracketed ip scopeId ++ ':' :: Nat.toDigits 10 port.toNat = text at hchars
  have hstar := star_notMem hchars
  cases hsocket : parseSocketAddr text with
  | some addr =>
    -- Without a bracket it is an address of IPv4.
    obtain ⟨ip', port', rfl⟩ :=
      exists_v4_of_parseSocketAddr (fun hc => (hchars _ hc).ne_bracket rfl) hsocket
    refine ⟨"", .v4 ip' port', "", nofun, ?_⟩
    rw [matchesTarget_singleton,
      matchesPattern_of_parse hstar (.inl (by rw [hsocket]; rfl)), exactAddrMatch,
      String.toList_ofList, hsocket]
    simp
  | none =>
    cases hip : parseIpAddr text with
    | some ip' =>
      -- It is an IP address, and that of two ports.
      have hother : ∃ addr : SocketAddr, addr.ip = ip' ∧ addr.port ≠ port := by
        have hport : port + 1 ≠ port := by
          intro h
          have hnat := congrArg UInt16.toNat h
          have hone : (1 : UInt16).toNat = 1 := rfl
          rw [UInt16.toNat_add] at hnat
          omega
        cases ip' with
        | v4 ip' => exact ⟨.v4 ip' (port + 1), rfl, hport⟩
        | v6 ip' => exact ⟨.v6 ip' (port + 1) 0 0, rfl, hport⟩
      obtain ⟨addr, haddr, hne⟩ := hother
      refine ⟨"", addr, "", fun h => hne (congrArg SocketAddr.port h), ?_⟩
      rw [matchesTarget_singleton,
        matchesPattern_of_parse hstar (.inr (by rw [hip]; rfl)), exactAddrMatch,
        String.toList_ofList, hsocket, hip, ← haddr]
      simp
    | none =>
      -- It is a word, and that of a hostname.
      refine ⟨.ofList text, .v4 0 0, "", nofun, ?_⟩
      have hword : wildcardMatch (.ofList text) (.ofList text) = true :=
        (wildcardMatch_of_not_mem (by rwa [String.toList_ofList])).2 (List.infix_refl _)
      rw [matchesTarget_singleton]
      simp [matchesPattern, isExactAddrPattern, hsocket, hip, hword]

/-- **Which addresses are filters of themselves**: IP addresses are, and the
socket addresses of IPv4. The brackets around an IPv6 address are expanded
away, so what is left is matched as a pattern. -/
theorem addr_filter_iff (a : SocketAddr) :
    (∃ f, NodeFilter.parse (some (.ofList a.ip.display)) = some f ∧
      ∀ (hostname : String) (b : SocketAddr) (connectionId : String),
        f.matchesTarget hostname b connectionId = true ↔ b.ip = a.ip) ∧
    ((∃ f, NodeFilter.parse (some (.ofList a.display)) = some f ∧
      ∀ (hostname : String) (b : SocketAddr) (connectionId : String),
        f.matchesTarget hostname b connectionId = true ↔ b = a) ↔
      ∃ ip port, a = .v4 ip port) := by
  refine ⟨matchesTarget_display a.ip, fun ⟨f, hf, h⟩ => ?_, ?_⟩
  · cases a with
    | v4 ip port => exact ⟨ip, port, rfl⟩
    | v6 ip port flowinfo scopeId =>
      obtain ⟨g, hg, hostname, addr, connectionId, hne, hmatch⟩ :=
        exists_matchesTarget_display_v6 ip port flowinfo scopeId
      obtain rfl := Option.some.inj (hf.symm.trans hg)
      exact absurd ((h hostname addr connectionId).1 hmatch) hne
  · rintro ⟨ip, port, rfl⟩
    exact matchesTarget_display_v4 ip port

/-- The loopback address at port 80: its filter does not select it, but the address whose last
groups are 1 and 80. -/
theorem v6_filter_refused :
    (SocketAddr.v6 1 80 0 0).display = "[::1]:80".toList ∧
    ∃ f, NodeFilter.parse (some "[::1]:80") = some f ∧
      f.matchesTarget "node1" (.v6 1 80 0 0) "conn-001" = false ∧
      f.matchesTarget "node2" (.v6 0x10080 9000 0 0) "conn-002" = true := by
  refine ⟨by decide +kernel, ⟨["::1:80"]⟩, by decide +kernel⟩

end Backend
end Clustat
