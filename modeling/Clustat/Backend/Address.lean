/-
# Addresses as text

What the filters use of the standard library's addresses: how they are printed, and how
`from_str` reads them.  An IPv4 address is four decimal octets.  An IPv6 address is eight groups
of hexadecimal digits, with the longest run of zero groups written as `::`; a mapped IPv4 address
is written as one behind `::ffff:`.  The socket address of an IPv6 address has it in brackets,
with its scope id.

The parser tries its parts one after the other on what is left of the text, and takes a part
only as a whole: here a part is `none`, or its value and the rest.  A printed address is read
back (`parseIpAddr_display`, `parseSocketAddr_display_v4`).
-/

import Clustat.Lib.Numeral
import Clustat.Backend.Cache
import Clustat.Common.Text

namespace Clustat
namespace Backend

open Numeral

/-! ### Printing -/

/-- `Ipv4Addr::octets`. -/
def octets (ip : UInt32) : List ℕ := digitsOf 256 4 ip.toNat

/-- `Ipv4Addr::from`, of octets. -/
def ofOctets (octets : List ℕ) : UInt32 := .ofNat (ofDigits 256 octets)

/-- `Ipv6Addr::segments`. -/
def segments (ip : BitVec 128) : List ℕ := digitsOf 65536 8 ip.toNat

/-- `Ipv6Addr::from`, of segments. -/
def ofSegments (segments : List ℕ) : BitVec 128 := .ofNat 128 (ofDigits 65536 segments)

/-- `Display` of an `Ipv4Addr`. -/
def displayIpv4 (ip : UInt32) : List Char :=
  List.intercalate ['.'] ((octets ip).map (Nat.toDigits 10))

/-- A run of zero segments. -/
structure Span where
  start : ℕ
  len : ℕ
  deriving DecidableEq

/-- What the loop over the segments remembers: the run it is in, and the longest. -/
structure Spans where
  current : Span
  longest : Span

/-- One segment of the loop. -/
def Spans.add (s : Spans) (i segment : ℕ) : Spans :=
  if segment = 0 then
    let current : Span :=
      { start := if s.current.len = 0 then i else s.current.start, len := s.current.len + 1 }
    { current, longest := if s.longest.len < current.len then current else s.longest }
  else { s with current := ⟨0, 0⟩ }

/-- The loop, from the segment `i`. -/
def spansFrom (s : Spans) : ℕ → List ℕ → Spans
  | _, [] => s
  | i, segment :: segments => spansFrom (s.add i segment) (i + 1) segments

/-- The longest run of zeros. -/
def longestZeros (segments : List ℕ) : Span := (spansFrom ⟨⟨0, 0⟩, ⟨0, 0⟩⟩ 0 segments).longest

/-- `fmt_subslice`. -/
def fmtSubslice (chunk : List ℕ) : List Char :=
  List.intercalate [':'] (chunk.map (Nat.toDigits 16))

/-- `Ipv6Addr::to_ipv4_mapped`: the last two segments. -/
def mapped? : List ℕ → Option (ℕ × ℕ)
  | [0, 0, 0, 0, 0, 0xffff, ab, cd] => some (ab, cd)
  | _ => none

/-- `Display` of an `Ipv6Addr`. -/
def displayIpv6 (ip : BitVec 128) : List Char :=
  match mapped? (segments ip) with
  | some (ab, cd) => "::ffff:".toList ++ displayIpv4 (.ofNat (ab * 65536 + cd))
  | none =>
    let zeroes := longestZeros (segments ip)
    if 1 < zeroes.len then
      fmtSubslice ((segments ip).take zeroes.start) ++ "::".toList ++
        fmtSubslice ((segments ip).drop (zeroes.start + zeroes.len))
    else fmtSubslice (segments ip)

/-- `Display` of an `IpAddr`. -/
def IpAddr.display : IpAddr → List Char
  | .v4 ip => displayIpv4 ip
  | .v6 ip => displayIpv6 ip

/-- `Display` of a `SocketAddr`. -/
def SocketAddr.display : SocketAddr → List Char
  | .v4 ip port => displayIpv4 ip ++ ':' :: Nat.toDigits 10 port.toNat
  | .v6 ip port _ scopeId =>
    '[' :: displayIpv6 ip ++ (if scopeId = 0 then [] else '%' :: Nat.toDigits 10 scopeId.toNat) ++
      ']' :: ':' :: Nat.toDigits 10 port.toNat

/-! ### Parsing -/

/-- `read_number`, of a type with `bound` values. -/
def readNumber (radix : ℕ) (maxDigits : Option ℕ) (allowZeroPrefix : Bool) (bound : ℕ)
    (s : List Char) : Option (ℕ × List Char) :=
  let digits := s.takeWhile (isDigit radix)
  if digits = [] then none
  else if maxDigits.any (· < digits.length) then none
  else if !allowZeroPrefix && digits.head? == some '0' && 1 < digits.length then none
  else if bound ≤ value radix digits then none
  else some (value radix digits, s.drop digits.length)

/-- `read_given_char`. -/
def readGivenChar (target : Char) : List Char → Option (List Char)
  | [] => none
  | c :: s => if c = target then some s else none

/-- `read_separator`; `first` is true for the index 0. -/
def readSeparator {α : Type} (sep : Char) (first : Bool)
    (inner : List Char → Option (α × List Char)) (s : List Char) : Option (α × List Char) :=
  if first then inner s else (readGivenChar sep s).bind inner

/-- An octet. -/
def readOctet : List Char → Option (ℕ × List Char) := readNumber 10 (some 3) false 256

/-- `read_ipv4_addr`. -/
def readIpv4Addr (s : List Char) : Option (UInt32 × List Char) := do
  let (a, s) ← readSeparator '.' true readOctet s
  let (b, s) ← readSeparator '.' false readOctet s
  let (c, s) ← readSeparator '.' false readOctet s
  let (d, s) ← readSeparator '.' false readOctet s
  some (ofOctets [a, b, c, d], s)

/-- `read_groups`, with room for so many groups: the groups, whether they end in an IPv4
address, and the rest. -/
def readGroups : Bool → ℕ → List Char → List ℕ × Bool × List Char
  | _, 0, s => ([], false, s)
  | first, room + 1, s =>
    match (if 0 < room then readSeparator ':' first readIpv4Addr s else none) with
    | some (ip, s) => (digitsOf 65536 2 ip.toNat, true, s)
    | none =>
      match readSeparator ':' first (readNumber 16 (some 4) true 65536) s with
      | none => ([], false, s)
      | some (group, s) =>
        let (groups, ipv4, s) := readGroups false room s
        (group :: groups, ipv4, s)

/-- `read_ipv6_addr`. -/
def readIpv6Addr (s : List Char) : Option (BitVec 128 × List Char) :=
  let (head, headIpv4, s) := readGroups true 8 s
  if head.length = 8 then some (ofSegments head, s)
  else if headIpv4 then none
  else do
    let s ← readGivenChar ':' s
    let s ← readGivenChar ':' s
    let (tail, _, s) := readGroups true (8 - (head.length + 1)) s
    some (ofSegments (head ++ List.replicate (8 - head.length - tail.length) 0 ++ tail), s)

/-- `read_ip_addr`. -/
def readIpAddr (s : List Char) : Option (IpAddr × List Char) :=
  match readIpv4Addr s with
  | some (ip, s) => some (.v4 ip, s)
  | none => (readIpv6Addr s).map fun (ip, s) => (.v6 ip, s)

/-- `read_port`. -/
def readPort (s : List Char) : Option (ℕ × List Char) :=
  (readGivenChar ':' s).bind (readNumber 10 none true 65536)

/-- `read_scope_id`. -/
def readScopeId (s : List Char) : Option (ℕ × List Char) :=
  (readGivenChar '%' s).bind (readNumber 10 none true (2 ^ 32))

/-- `read_socket_addr_v4`. -/
def readSocketAddrV4 (s : List Char) : Option (SocketAddr × List Char) := do
  let (ip, s) ← readIpv4Addr s
  let (port, s) ← readPort s
  some (.v4 ip (.ofNat port), s)

/-- `read_socket_addr_v6`. -/
def readSocketAddrV6 (s : List Char) : Option (SocketAddr × List Char) := do
  let s ← readGivenChar '[' s
  let (ip, s) ← readIpv6Addr s
  let (scopeId, s) := (readScopeId s).getD (0, s)
  let s ← readGivenChar ']' s
  let (port, s) ← readPort s
  some (.v6 ip (.ofNat port) 0 (.ofNat scopeId), s)

/-- `read_socket_addr`. -/
def readSocketAddr (s : List Char) : Option (SocketAddr × List Char) :=
  (readSocketAddrV4 s).or (readSocketAddrV6 s)

/-- `parse_with`: all of the text has to be read. -/
def parseWith {α : Type} (inner : List Char → Option (α × List Char)) (s : List Char) : Option α :=
  match inner s with
  | some (a, []) => some a
  | _ => none

/-- `Ipv4Addr::from_str`. -/
def parseIpv4Addr (s : String) : Option UInt32 :=
  if 15 < (utf8 s).length then none else parseWith readIpv4Addr s.toList

/-- `IpAddr::from_str`. -/
def parseIpAddr : List Char → Option IpAddr := parseWith readIpAddr

/-- `SocketAddr::from_str`. -/
def parseSocketAddr : List Char → Option SocketAddr := parseWith readSocketAddr

/-! ### Reading numbers and octets -/

/-- **A printed number is read back**: `read_number` takes its digits, up to
the first letter that is none, if the number is below the bound and has no
more digits than allowed. -/
theorem readNumber_toDigits {radix bound n : ℕ} {maxDigits : Option ℕ} {allowZeroPrefix : Bool}
    (hone : 1 < radix) (hradix : radix ≤ 16) (hn : n < bound)
    (hmax : ∀ m ∈ maxDigits, (Nat.toDigits radix n).length ≤ m) {rest : List Char}
    (hrest : ∀ c ∈ rest.head?, isDigit radix c = false) :
    readNumber radix maxDigits allowZeroPrefix bound (Nat.toDigits radix n ++ rest) =
      some (n, rest) := by
  have hlong : ¬(maxDigits.any (· < (Nat.toDigits radix n).length) = true) := by
    cases maxDigits with
    | none => simp
    | some m => simpa using hmax m rfl
  have hzero : ¬((!allowZeroPrefix && (Nat.toDigits radix n).head? == some '0' &&
      1 < (Nat.toDigits radix n).length) = true) := by
    rcases Nat.eq_zero_or_pos n with rfl | hpos
    · simp
    · simp [head?_toDigits_ne_zero hone hradix hpos]
  rw [readNumber, takeWhile_toDigits_append hone hradix hrest, if_neg Nat.toDigits_ne_nil,
    if_neg hlong, if_neg hzero, value_toDigits hone hradix, if_neg (Nat.not_le.2 hn),
    List.drop_left]

/-- What is left behind a number begins with another letter than a digit. -/
theorem readNumber_rest {radix bound n : ℕ} {maxDigits : Option ℕ} {allowZeroPrefix : Bool}
    {s rest : List Char} (h : readNumber radix maxDigits allowZeroPrefix bound s = some (n, rest)) :
    rest = s.dropWhile (isDigit radix) := by
  rw [readNumber] at h
  split_ifs at h
  obtain ⟨-, rfl⟩ := Prod.mk.inj (Option.some.inj h)
  have hsplit := congrArg (List.drop (s.takeWhile (isDigit radix)).length)
    (s.takeWhile_append_dropWhile (p := isDigit radix))
  rw [List.drop_left] at hsplit
  exact hsplit.symm

/-- Where no digit stands, no number is read. -/
theorem readNumber_of_not_digit {radix bound : ℕ} {maxDigits : Option ℕ} {allowZeroPrefix : Bool}
    {s : List Char} (h : ∀ c ∈ s.head?, isDigit radix c = false) :
    readNumber radix maxDigits allowZeroPrefix bound s = none := by
  have hnil : s.takeWhile (isDigit radix) = [] := by
    cases s with
    | nil => rfl
    | cons c s => exact List.takeWhile_cons_of_neg (by simp [h c rfl])
  rw [readNumber, hnil, if_pos rfl]

/-- A printed octet is read back, and the letters behind it are left. -/
theorem readOctet_toDigits {n : ℕ} (hn : n < 256) {rest : List Char}
    (hrest : ∀ c ∈ rest.head?, isDigit 10 c = false) :
    readOctet (Nat.toDigits 10 n ++ rest) = some (n, rest) := by
  refine readNumber_toDigits (by decide) (by decide) hn ?_ hrest
  rintro _ ⟨⟩
  exact (Nat.length_toDigits_le_iff (by decide) (by decide)).2 (lt_trans hn (by decide))

/-- An IPv4 address is made of its four octets. -/
theorem ofOctets_octets (ip : UInt32) : ofOctets (octets ip) = ip := by
  have hlt : ip.toNat < 256 ^ 4 := ip.toNat_lt
  rw [ofOctets, octets, ofDigits_digitsOf_of_lt hlt, UInt32.ofNat_toNat]

/-- **A printed IPv4 address is read back** from the front of a text, if no
digit follows it. -/
theorem readIpv4Addr_display (ip : UInt32) {rest : List Char}
    (hrest : ∀ c ∈ rest.head?, isDigit 10 c = false) :
    readIpv4Addr (displayIpv4 ip ++ rest) = some (ip, rest) := by
  obtain ⟨a, b, c, d, hoctets⟩ : ∃ a b c d, octets ip = [a, b, c, d] := ⟨_, _, _, _, rfl⟩
  have hlt : ∀ n ∈ [a, b, c, d], n < 256 := fun n hn =>
    lt_of_mem_digitsOf (by decide) (hoctets ▸ hn : n ∈ octets ip)
  simp only [List.forall_mem_cons] at hlt
  obtain ⟨ha, hb, hc, hd, -⟩ := hlt
  have htext : displayIpv4 ip ++ rest = Nat.toDigits 10 a ++ '.' :: (Nat.toDigits 10 b ++
      '.' :: (Nat.toDigits 10 c ++ '.' :: (Nat.toDigits 10 d ++ rest))) := by
    simp [displayIpv4, hoctets, List.intercalate]
  have hdot : ∀ s : List Char, ∀ e ∈ ('.' :: s).head?, isDigit 10 e = false := by
    rintro s _ ⟨⟩
    decide
  simp only [htext, readIpv4Addr, readSeparator, readGivenChar, if_true, Bool.false_eq_true,
    if_false, Option.bind_some, Option.bind_eq_bind, readOctet_toDigits ha (hdot _),
    readOctet_toDigits hb (hdot _), readOctet_toDigits hc (hdot _), readOctet_toDigits hd hrest]
  rw [← hoctets, ofOctets_octets]

/-- There is no IPv4 address where a colon or the end comes before a dot. -/
theorem readIpv4Addr_eq_none {u r : List Char} (hu : '.' ∉ u)
    (hr : ∀ c ∈ r.head?, c = ':') : readIpv4Addr (u ++ r) = none := by
  have hhead : ((u ++ r).dropWhile (isDigit 10)).head? ≠ some '.' := by
    induction u with
    | nil =>
      cases r with
      | nil => exact nofun
      | cons c r =>
        obtain rfl := hr c rfl
        rw [List.nil_append, List.dropWhile_cons_of_neg (by decide)]
        exact fun h => absurd (Option.some.inj h) (by decide)
    | cons c u ih =>
      rw [List.mem_cons, not_or] at hu
      rw [List.cons_append]
      by_cases hc : isDigit 10 c = true
      · rw [List.dropWhile_cons_of_pos hc]
        exact ih hu.2
      · rw [List.dropWhile_cons_of_neg hc]
        exact fun h => hu.1 (Option.some.inj h).symm
  rw [readIpv4Addr, readSeparator, if_pos rfl]
  cases h : readOctet (u ++ r) with
  | none => rfl
  | some p =>
    obtain ⟨n, rest⟩ := p
    have hrest := readNumber_rest h
    rw [← hrest] at hhead
    cases rest with
    | nil => rfl
    | cons c rest =>
      have hc : c ≠ '.' := fun he => hhead (congrArg some he)
      simp [readSeparator, readGivenChar, hc]

/-! ### Reading groups -/

/-- The text of a group that is not the first. -/
def moreGroups (groups : List ℕ) : List Char :=
  groups.flatMap fun group => ':' :: Nat.toDigits 16 group

/-- The first group is printed as it is, each other one behind a colon. -/
theorem fmtSubslice_cons (group : ℕ) (groups : List ℕ) :
    fmtSubslice (group :: groups) = Nat.toDigits 16 group ++ moreGroups groups := by
  induction groups generalizing group with
  | nil => simp [fmtSubslice, moreGroups, List.intercalate]
  | cons group' groups ih =>
    have hcons : fmtSubslice (group :: group' :: groups) =
        Nat.toDigits 16 group ++ ':' :: fmtSubslice (group' :: groups) := by
      simp [fmtSubslice, List.intercalate]
    rw [hcons, ih, moreGroups, moreGroups, List.flatMap_cons, List.cons_append]

/-- A text that starts with a colon starts with nothing else. -/
theorem eq_colon {s : List Char} : ∀ c ∈ (':' :: s).head?, c = ':' :=
  fun _ hc => (Option.some.inj hc).symm

/-- Behind groups of an address is its end, or the `::`. -/
def AtGap (rest : List Char) : Prop := rest = [] ∨ ∃ s, rest = ':' :: ':' :: s

/-- Behind the first group of an address stands a colon, or nothing. -/
theorem head?_moreGroups_append {groups : List ℕ} {rest : List Char} (hrest : AtGap rest) :
    ∀ c ∈ (moreGroups groups ++ rest).head?, c = ':' := by
  cases groups with
  | cons group groups => exact eq_colon
  | nil =>
    obtain rfl | ⟨s, rfl⟩ := hrest
    · exact nofun
    · exact eq_colon

/-- A group has no dot, so it is not mistaken for the start of an IPv4
address. -/
theorem dot_notMem_toDigits (n : ℕ) : '.' ∉ Nat.toDigits 16 n := fun h =>
  absurd (isDigit_of_mem_toDigits (by decide) (by decide) h) (by decide)

/-- At a gap there is no group. -/
theorem readGroups_gap {first : Bool} {room : ℕ} {rest : List Char} (hrest : AtGap rest) :
    readGroups first room rest = ([], false, rest) := by
  have hstart : ∀ s : List Char, (∀ c ∈ s.head?, c = ':') → readIpv4Addr s = none ∧
      readNumber 16 (some 4) true 65536 s = none := by
    refine fun s hs => ⟨readIpv4Addr_eq_none (u := []) List.not_mem_nil hs,
      readNumber_of_not_digit fun c hc => ?_⟩
    rw [hs c hc]
    decide
  cases room with
  | zero => rfl
  | succ room =>
    -- There is nothing to separate, or a second colon behind the separator.
    have hnone : readSeparator ':' first readIpv4Addr rest = none ∧
        readSeparator ':' first (readNumber 16 (some 4) true 65536) rest = none := by
      obtain rfl | ⟨s, rfl⟩ := hrest
      · cases first with
        | true => exact hstart [] nofun
        | false => exact ⟨rfl, rfl⟩
      · cases first with
        | true => exact hstart (':' :: ':' :: s) eq_colon
        | false => exact hstart (':' :: s) eq_colon
    rw [readGroups, hnone.1, hnone.2, ite_self]

/-- One group is read, and then the others. -/
theorem readGroups_step {first : Bool} {room group : ℕ} {text s : List Char}
    (hgroup : group < 65536)
    (htext : text =
      if first then Nat.toDigits 16 group ++ s else ':' :: (Nat.toDigits 16 group ++ s))
    (hs : ∀ c ∈ s.head?, c = ':') :
    readGroups first (room + 1) text =
      (group :: (readGroups false room s).1, (readGroups false room s).2) := by
  have hsep : ∀ {α : Type} (inner : List Char → Option (α × List Char)),
      readSeparator ':' first inner text = inner (Nat.toDigits 16 group ++ s) := by
    intro α inner
    cases first with
    | true => rw [htext, readSeparator, if_pos rfl, if_pos rfl]
    | false => rw [htext]; rfl
  have hnumber : readNumber 16 (some 4) true 65536 (Nat.toDigits 16 group ++ s) =
      some (group, s) := by
    refine readNumber_toDigits (by decide) (by decide) hgroup ?_ fun c hc => ?_
    · rintro _ ⟨⟩
      exact (Nat.length_toDigits_le_iff (by decide) (by decide)).2 hgroup
    · rw [hs c hc]
      decide
  rw [readGroups, hsep, hsep, readIpv4Addr_eq_none (dot_notMem_toDigits group) hs, ite_self,
    hnumber]

/-- **Printed groups are read back**, if there is room for them, and the
reader stops at the end or before a `::`. -/
theorem readGroups_moreGroups {room : ℕ} {groups : List ℕ} {rest : List Char}
    (hgroups : ∀ g ∈ groups, g < 65536) (hroom : groups.length ≤ room) (hrest : AtGap rest) :
    readGroups false room (moreGroups groups ++ rest) = (groups, false, rest) := by
  induction groups generalizing room with
  | nil => exact readGroups_gap hrest
  | cons group groups ih =>
    cases room with
    | zero => exact absurd hroom (Nat.not_succ_le_zero _)
    | succ room =>
      have htail := ih (fun g hg => hgroups g (List.mem_cons_of_mem _ hg))
        (Nat.le_of_succ_le_succ hroom)
      rw [readGroups_step (s := moreGroups groups ++ rest) (hgroups group List.mem_cons_self)
        (by simp [moreGroups]) (head?_moreGroups_append hrest), htail]

/-- **Printed groups are read back**, as far as there is room, and reading
stops at the gap. -/
theorem readGroups_fmtSubslice {room : ℕ} {groups : List ℕ} {rest : List Char}
    (hgroups : ∀ g ∈ groups, g < 65536) (hroom : groups.length ≤ room) (hrest : AtGap rest) :
    readGroups true room (fmtSubslice groups ++ rest) = (groups, false, rest) := by
  cases groups with
  | nil => exact readGroups_gap hrest
  | cons group groups =>
    cases room with
    | zero => exact absurd hroom (Nat.not_succ_le_zero _)
    | succ room =>
      have htail := readGroups_moreGroups (fun g hg => hgroups g (List.mem_cons_of_mem _ hg))
        (Nat.le_of_succ_le_succ hroom) hrest
      rw [fmtSubslice_cons, readGroups_step (s := moreGroups groups ++ rest)
        (hgroups group List.mem_cons_self) (by simp) (head?_moreGroups_append hrest), htail]

/-! ### The longest run of zeros -/

/-- The span is a run of zeros of the list. -/
def Span.IsZerosOf (z : Span) (segments : List ℕ) : Prop :=
  ∃ u v, segments = u ++ List.replicate z.len 0 ++ v ∧ u.length = z.start

/-- What a span of zeros cuts the groups into: those before it, its zeros,
those behind it. -/
theorem Span.IsZerosOf.eq_append {z : Span} {segments : List ℕ} (h : z.IsZerosOf segments) :
    segments = segments.take z.start ++ List.replicate z.len 0 ++
      segments.drop (z.start + z.len) := by
  obtain ⟨u, v, rfl, hu⟩ := h
  have hdrop : (u ++ List.replicate z.len 0 ++ v).drop (z.start + z.len) = v :=
    List.drop_left' (by rw [List.length_append, List.length_replicate, hu])
  rw [hdrop, ← hu, List.append_assoc u, List.take_left, List.append_assoc]

/-- What the loop knows after some segments: the run it is in ends there. -/
structure Spans.Of (s : Spans) (segments : List ℕ) : Prop where
  current : ∃ u, segments = u ++ List.replicate s.current.len 0 ∧
    (s.current.len ≠ 0 → u.length = s.current.start)
  longest : s.longest.IsZerosOf segments

/-- One more group keeps the two spans true of the groups so far: the longest
run of zeros, and the one that reaches the end. -/
theorem Spans.Of.add {s : Spans} {segments : List ℕ} (h : s.Of segments) (segment : ℕ) :
    (s.add segments.length segment).Of (segments ++ [segment]) := by
  obtain ⟨u, hu, hstart⟩ := h.current
  obtain ⟨x, y, hxy, hx⟩ := h.longest
  have hkeep : s.longest.IsZerosOf (segments ++ [segment]) :=
    ⟨x, y ++ [segment], by rw [hxy, List.append_assoc _ y], hx⟩
  by_cases hzero : segment = 0
  · subst hzero
    -- The run goes on, or begins here.
    have hrun : segments ++ [0] = u ++ List.replicate (s.current.len + 1) 0 := by
      rw [List.replicate_succ', ← List.append_assoc, ← hu]
    have hfrom : u.length = if s.current.len = 0 then segments.length else s.current.start := by
      split_ifs with hlen
      · rw [hu, hlen, List.replicate_zero, List.append_nil]
      · exact hstart hlen
    rw [Spans.add, if_pos rfl]
    refine ⟨⟨u, hrun, fun _ => hfrom⟩, ?_⟩
    dsimp only
    by_cases hlonger : s.longest.len < s.current.len + 1
    · rw [if_pos hlonger]
      exact ⟨u, [], by rw [hrun, List.append_nil], hfrom⟩
    · rwa [if_neg hlonger]
  · rw [Spans.add, if_neg hzero]
    exact ⟨⟨segments ++ [segment], (List.append_nil _).symm, fun h => absurd rfl h⟩, hkeep⟩

/-- The loop over the groups keeps it, by induction on the groups that are
left. -/
theorem Spans.Of.spansFrom {s : Spans} {done : List ℕ} (h : s.Of done) (segments : List ℕ) :
    (spansFrom s done.length segments).Of (done ++ segments) := by
  induction segments generalizing s done with
  | nil => rwa [List.append_nil]
  | cons segment segments ih =>
    have hstep := ih (h.add segment)
    rwa [List.length_append, List.length_singleton, List.append_assoc] at hstep

/-- **The longest run is a run of zeros**: where it starts and for as long as
it says, all groups are zero. -/
theorem isZerosOf_longestZeros (segments : List ℕ) :
    (longestZeros segments).IsZerosOf segments := by
  have hinit : (⟨⟨0, 0⟩, ⟨0, 0⟩⟩ : Spans).Of [] :=
    ⟨⟨[], rfl, fun h => absurd rfl h⟩, [], [], rfl, rfl⟩
  exact (hinit.spansFrom segments).longest

/-! ### Printed addresses are read back -/

/-- An IPv6 address is made of its eight groups. -/
theorem ofSegments_segments (ip : BitVec 128) : ofSegments (segments ip) = ip := by
  have hlt : ip.toNat < 65536 ^ 8 := ip.isLt
  rw [ofSegments, segments, ofDigits_digitsOf_of_lt hlt, BitVec.ofNat_toNat, BitVec.setWidth_eq]

/-- An IPv6 address has eight groups. -/
theorem length_segments (ip : BitVec 128) : (segments ip).length = 8 := length_digitsOf 8 _

/-- Each group fits 16 bits. -/
theorem lt_of_mem_segments {ip : BitVec 128} : ∀ g ∈ segments ip, g < 65536 :=
  fun _ hg => lt_of_mem_digitsOf (by decide) hg

/-- The three ways in which an IPv6 address is printed. -/
inductive DisplayIpv6 (ip : BitVec 128) : List Char → Prop
  | mapped {ab cd : ℕ} (hsegments : segments ip = [0, 0, 0, 0, 0, 0xffff, ab, cd]) :
    DisplayIpv6 ip
      (':' :: ':' :: (['f', 'f', 'f', 'f'] ++ ':' :: displayIpv4 (.ofNat (ab * 65536 + cd))))
  | gap {head tail : List ℕ} {n : ℕ} (hn : 1 < n)
    (hsegments : segments ip = head ++ List.replicate n 0 ++ tail) :
    DisplayIpv6 ip (fmtSubslice head ++ ':' :: ':' :: fmtSubslice tail)
  | plain : DisplayIpv6 ip (fmtSubslice (segments ip))

/-- An IPv4-mapped address has five groups of zeros and one of ones in front.
-/
theorem mapped?_eq_some {segments : List ℕ} {ab cd : ℕ} (h : mapped? segments = some (ab, cd)) :
    segments = [0, 0, 0, 0, 0, 0xffff, ab, cd] := by
  unfold mapped? at h
  split at h
  · obtain ⟨rfl, rfl⟩ := Prod.mk.inj (Option.some.inj h)
    rfl
  · cases h

/-- The three forms in which an IPv6 address is printed. -/
theorem displayIpv6_cases (ip : BitVec 128) : DisplayIpv6 ip (displayIpv6 ip) := by
  have hmapped : "::ffff:".toList = [':', ':', 'f', 'f', 'f', 'f', ':'] := by decide
  have hgap : "::".toList = [':', ':'] := by decide
  rw [displayIpv6, hmapped, hgap]
  cases hm : mapped? (segments ip) with
  | some abcd => exact .mapped (mapped?_eq_some hm)
  | none =>
    dsimp only
    split_ifs with hlen
    · rw [List.append_assoc]
      exact .gap hlen (isZerosOf_longestZeros _).eq_append
    · exact .plain

/-- The groups of a mapped IPv4 address are read back. -/
theorem readGroups_mapped (ip : UInt32) :
    readGroups true 7 (['f', 'f', 'f', 'f'] ++ ':' :: displayIpv4 ip) =
      (0xffff :: digitsOf 65536 2 ip.toNat, true, []) := by
  have hread : readIpv4Addr (displayIpv4 ip) = some (ip, []) := by
    simpa using @readIpv4Addr_display ip [] nofun
  have hrest : readGroups false 6 (':' :: displayIpv4 ip) =
      (digitsOf 65536 2 ip.toNat, true, []) := by
    rw [readGroups]
    simp only [readSeparator, readGivenChar, Bool.false_eq_true, if_false, if_true,
      Option.bind_some, hread, Nat.zero_lt_succ]
  have hffff : ['f', 'f', 'f', 'f'] = Nat.toDigits 16 0xffff := by decide
  rw [hffff]
  refine (readGroups_step (by decide) rfl eq_colon).trans ?_
  rw [hrest]

/-- The two last groups of a mapped address are read back from its IPv4
address. -/
theorem digitsOf_mapped {ab cd : ℕ} (hab : ab < 65536) (hcd : cd < 65536) :
    digitsOf 65536 2 (UInt32.ofNat (ab * 65536 + cd)).toNat = [ab, cd] := by
  rw [UInt32.toNat_ofNat_of_lt' (by omega : ab * 65536 + cd < 2 ^ 32)]
  simp only [digitsOf, List.cons.injEq, and_true]
  omega

/-- **A printed IPv6 address is read back**, in each of its three forms: with
an IPv4 address at its end, with a `::`, and with all of its groups. -/
theorem readIpv6Addr_display (ip : BitVec 128) : readIpv6Addr (displayIpv6 ip) = some (ip, []) := by
  have hdisplay := displayIpv6_cases ip
  generalize displayIpv6 ip = text at hdisplay
  have hlt := @lt_of_mem_segments ip
  have hlength := length_segments ip
  cases hdisplay with
  | @mapped ab cd hsegments =>
    rw [hsegments] at hlt
    simp only [List.forall_mem_cons] at hlt
    obtain ⟨-, -, -, -, -, -, hab, hcd, -⟩ := hlt
    have hhead : ∀ s, readGroups true 8 (':' :: ':' :: s) = ([], false, ':' :: ':' :: s) :=
      fun s => readGroups_gap (.inr ⟨s, rfl⟩)
    have htail := readGroups_mapped (.ofNat (ab * 65536 + cd))
    rw [digitsOf_mapped hab hcd] at htail
    rw [readIpv6Addr, hhead]
    simp only [readGivenChar, if_true, Option.bind_eq_bind, Option.bind_some, List.length_nil,
      Nat.zero_add, Nat.reduceSub, htail, Bool.false_eq_true, if_false, Nat.reduceEqDiff]
    have hfill : [] ++ List.replicate (8 - [0xffff, ab, cd].length) 0 ++ [0xffff, ab, cd] =
        segments ip := hsegments.symm
    rw [hfill, ofSegments_segments]
  | @gap head tail n hn hsegments =>
    rw [hsegments] at hlt hlength
    rw [List.length_append, List.length_append, List.length_replicate] at hlength
    have hhead : readGroups true 8 (fmtSubslice head ++ ':' :: ':' :: fmtSubslice tail) =
        (head, false, ':' :: ':' :: fmtSubslice tail) :=
      readGroups_fmtSubslice (fun g hg => hlt g (by simp [hg])) (by omega) (.inr ⟨_, rfl⟩)
    have htail : readGroups true (8 - (head.length + 1)) (fmtSubslice tail) =
        (tail, false, []) := by
      simpa using @readGroups_fmtSubslice (8 - (head.length + 1)) tail []
        (fun g hg => hlt g (by simp [hg])) (by omega) (.inl rfl)
    have hfill : 8 - head.length - tail.length = n := by omega
    have hshort : head.length ≠ 8 := by omega
    rw [readIpv6Addr, hhead]
    simp only [if_neg hshort, Bool.false_eq_true, if_false, readGivenChar, if_true,
      Option.bind_eq_bind, Option.bind_some, htail, hfill, ← hsegments, ofSegments_segments]
  | plain =>
    have hread : readGroups true 8 (fmtSubslice (segments ip)) = (segments ip, false, []) := by
      simpa using @readGroups_fmtSubslice 8 _ [] hlt hlength.le (.inl rfl)
    rw [readIpv6Addr, hread]
    simp only [if_pos hlength, ofSegments_segments]

/-- No IPv4 address is read off an IPv6 address. -/
theorem readIpv4Addr_displayIpv6 (ip : BitVec 128) : readIpv4Addr (displayIpv6 ip) = none := by
  have hgroups : ∀ groups, '.' ∉ fmtSubslice groups := by
    intro groups h
    obtain ⟨c, hc, hdot⟩ : ∃ group ∈ groups, '.' ∈ Nat.toDigits 16 group := by
      cases groups with
      | nil => cases h
      | cons group groups =>
        rw [fmtSubslice_cons, List.mem_append, moreGroups, List.mem_flatMap] at h
        rcases h with h | ⟨g, hg, h⟩
        · exact ⟨group, List.mem_cons_self, h⟩
        · exact ⟨g, List.mem_cons_of_mem _ hg, by simpa using h⟩
    exact dot_notMem_toDigits c hdot
  have hdisplay := displayIpv6_cases ip
  generalize displayIpv6 ip = text at hdisplay
  cases hdisplay with
  | mapped => exact readIpv4Addr_eq_none (u := []) List.not_mem_nil eq_colon
  | gap => exact readIpv4Addr_eq_none (hgroups _) eq_colon
  | plain => simpa using readIpv4Addr_eq_none (hgroups (segments ip)) (r := []) nofun

/-- **A printed IP address is read back**; one of IPv6 is never taken for one
of IPv4, as it has a colon. -/
theorem parseIpAddr_display (ip : IpAddr) : parseIpAddr ip.display = some ip := by
  cases ip with
  | v4 ip =>
    have hread : readIpv4Addr (displayIpv4 ip) = some (ip, []) := by
      simpa using @readIpv4Addr_display ip [] nofun
    simp only [parseIpAddr, parseWith, readIpAddr, IpAddr.display, hread]
  | v6 ip =>
    simp only [parseIpAddr, parseWith, readIpAddr, IpAddr.display, readIpv4Addr_displayIpv6,
      readIpv6Addr_display, Option.map_some]

/-- **A printed IPv4 socket address is read back**, with its port. -/
theorem parseSocketAddr_display_v4 (ip : UInt32) (port : UInt16) :
    parseSocketAddr (SocketAddr.display (.v4 ip port)) = some (.v4 ip port) := by
  have hport : readPort (':' :: Nat.toDigits 10 port.toNat) = some (port.toNat, []) := by
    have hnumber := @readNumber_toDigits 10 65536 port.toNat none true (by decide) (by decide)
      port.toNat_lt nofun [] nofun
    rwa [List.append_nil] at hnumber
  have hcolon : ∀ c ∈ (':' :: Nat.toDigits 10 port.toNat).head?, isDigit 10 c = false := by
    rintro _ ⟨⟩
    decide
  simp only [parseSocketAddr, parseWith, readSocketAddr, readSocketAddrV4, SocketAddr.display,
    readIpv4Addr_display ip hcolon, Option.bind_eq_bind, Option.bind_some, hport,
    UInt16.ofNat_toNat, Option.some_or]

/-! ### The letters of addresses -/

/-- A letter of a printed IP address. -/
def IpChar (c : Char) : Prop := isDigit 16 c = true ∨ c ∈ ['.', ':']

/-- A letter of a printed address outside the brackets. -/
def AddrChar (c : Char) : Prop := isDigit 16 c = true ∨ c ∈ ['.', ':', '%']

/-- A letter of an IP address is one of an address. -/
theorem IpChar.addrChar {c : Char} (h : IpChar c) : AddrChar c :=
  h.imp_right fun hmark => List.mem_append_left ['%'] hmark

/-- The digits of a number, in a base up to 16, are letters of an IP address.
-/
theorem IpChar.of_mem_toDigits {base : ℕ} (hone : 1 < base) (hb : base ≤ 16) {n : ℕ} {c : Char}
    (hc : c ∈ Nat.toDigits base n) : IpChar c := by
  obtain ⟨d, hd, hlt⟩ := isDigit_eq_true_iff.1 (isDigit_of_mem_toDigits hone hb hc)
  exact .inl (isDigit_eq_true_iff.2 ⟨d, hd, lt_of_lt_of_le hlt hb⟩)

/-- The letters of joined words. -/
theorem eq_or_mem_of_mem_intercalate {sep c : Char} {words : List (List Char)}
    (h : c ∈ List.intercalate [sep] words) : c = sep ∨ ∃ w ∈ words, c ∈ w := by
  induction words with
  | nil => cases h
  | cons w words ih =>
    cases words with
    | nil => exact .inr ⟨w, List.mem_cons_self, by simpa using h⟩
    | cons w' words =>
      rw [List.intercalate_cons_cons, List.mem_append, List.mem_append] at h
      rcases h with (h | h) | h
      · exact .inr ⟨w, List.mem_cons_self, h⟩
      · exact .inl (List.mem_singleton.1 h)
      · obtain rfl | ⟨v, hv, hc⟩ := ih h
        · exact .inl rfl
        · exact .inr ⟨v, List.mem_cons_of_mem _ hv, hc⟩

/-- Numerals joined by a mark. -/
theorem IpChar.of_mem_intercalate {mark : Char} (hmark : IpChar mark) {base : ℕ}
    (hone : 1 < base) (hb : base ≤ 16) {numbers : List ℕ} :
    ∀ c ∈ List.intercalate [mark] (numbers.map (Nat.toDigits base)), IpChar c := by
  intro c hc
  obtain rfl | ⟨w, hw, hc⟩ := eq_or_mem_of_mem_intercalate hc
  · exact hmark
  · obtain ⟨n, -, rfl⟩ := List.mem_map.1 hw
    exact .of_mem_toDigits hone hb hc

/-- A decimal behind a mark. -/
theorem AddrChar.cons_toDigits {mark : Char} (hmark : AddrChar mark) (n : ℕ) :
    ∀ c ∈ mark :: Nat.toDigits 10 n, AddrChar c :=
  List.forall_mem_cons.2 ⟨hmark, fun _ hc =>
    (IpChar.of_mem_toDigits (by decide) (by decide) hc).addrChar⟩

/-- The letters of a printed IPv4 address. -/
theorem ipChar_displayIpv4 (ip : UInt32) : ∀ c ∈ displayIpv4 ip, IpChar c :=
  IpChar.of_mem_intercalate (.inr (by decide)) (by decide) (by decide)

/-- The letters of printed groups. -/
theorem ipChar_fmtSubslice (chunk : List ℕ) : ∀ c ∈ fmtSubslice chunk, IpChar c :=
  IpChar.of_mem_intercalate (.inr (by decide)) (by decide) (by decide)

/-- The letters of a printed IP address: hexadecimal digits, dots and colons.
-/
theorem ipChar_display (ip : IpAddr) : ∀ c ∈ ip.display, IpChar c := by
  cases ip with
  | v4 ip => exact ipChar_displayIpv4 ip
  | v6 ip =>
    have hdisplay := displayIpv6_cases ip
    rw [IpAddr.display]
    generalize displayIpv6 ip = text at hdisplay
    intro c hc
    cases hdisplay with
    | mapped =>
      simp only [List.mem_cons, List.mem_append, List.not_mem_nil, or_false] at hc
      rcases hc with rfl | rfl | (rfl | rfl | rfl | rfl) | rfl | hc
      · exact .inr (by decide)
      · exact .inr (by decide)
      · exact .inl (by decide)
      · exact .inl (by decide)
      · exact .inl (by decide)
      · exact .inl (by decide)
      · exact .inr (by decide)
      · exact ipChar_displayIpv4 _ c hc
    | gap =>
      simp only [List.mem_cons, List.mem_append] at hc
      rcases hc with hc | rfl | rfl | hc
      · exact ipChar_fmtSubslice _ c hc
      · exact .inr (by decide)
      · exact .inr (by decide)
      · exact ipChar_fmtSubslice _ c hc
    | plain => exact ipChar_fmtSubslice _ c hc

/-- They are letters of an address as well. -/
theorem addrChar_display (ip : IpAddr) : ∀ c ∈ ip.display, AddrChar c :=
  fun c hc => (ipChar_display ip c hc).addrChar

/-- No letter of an address is a bracket, so the brackets around an IPv6
address are its ends. -/
theorem AddrChar.ne_bracket {c : Char} (h : AddrChar c) : c ≠ '[' := by
  rintro rfl
  rcases h with h | h
  · exact absurd h (by decide)
  · exact absurd h (by decide)

/-! ### What is no address -/

/-- The socket address of an IPv6 address begins with a bracket. -/
theorem readSocketAddrV6_eq_none {s : List Char} (h : '[' ∉ s) : readSocketAddrV6 s = none := by
  cases s with
  | nil => rfl
  | cons c s =>
    have hc : c ≠ '[' := fun he => h (he ▸ List.mem_cons_self)
    simp [readSocketAddrV6, readGivenChar, hc]

/-- Without a bracket it is one of an IPv4 address. -/
theorem exists_v4_of_parseSocketAddr {s : List Char} {a : SocketAddr} (hbracket : '[' ∉ s)
    (h : parseSocketAddr s = some a) : ∃ ip port, a = .v4 ip port := by
  rw [parseSocketAddr, parseWith, readSocketAddr, readSocketAddrV6_eq_none hbracket,
    Option.or_none] at h
  cases hread : readSocketAddrV4 s with
  | none =>
    rw [hread] at h
    cases h
  | some p =>
    obtain ⟨b, rest⟩ := p
    have hb : ∃ ip port, b = .v4 ip port := by
      simp only [readSocketAddrV4, Option.bind_eq_bind, Option.bind_eq_some_iff] at hread
      obtain ⟨⟨ip, s'⟩, -, ⟨port, s''⟩, -, hread⟩ := hread
      exact ⟨ip, .ofNat port, (Prod.mk.inj (Option.some.inj hread)).1.symm⟩
    rw [hread] at h
    cases rest with
    | nil => exact Option.some.inj h ▸ hb
    | cons c rest => cases h

/-- An IP address alone is no socket address. -/
theorem parseSocketAddr_displayIp (ip : IpAddr) : parseSocketAddr ip.display = none := by
  have hbracket : '[' ∉ ip.display := fun h => (addrChar_display ip _ h).ne_bracket rfl
  have hv4 : readSocketAddrV4 ip.display = none := by
    cases ip with
    | v4 ip =>
      have hread : readIpv4Addr (displayIpv4 ip) = some (ip, []) := by
        simpa using @readIpv4Addr_display ip [] nofun
      simp [readSocketAddrV4, IpAddr.display, hread, readPort, readGivenChar]
    | v6 ip => simp [readSocketAddrV4, IpAddr.display, readIpv4Addr_displayIpv6]
  rw [parseSocketAddr, parseWith, readSocketAddr, hv4, readSocketAddrV6_eq_none hbracket]
  rfl

/-- A text without a colon and without a dot is no IPv6 address. -/
theorem readIpv6Addr_eq_none {s : List Char} (hcolon : ':' ∉ s) (hdot : '.' ∉ s) :
    readIpv6Addr s = none := by
  have hgiven : ∀ t : List Char, ':' ∉ t → readGivenChar ':' t = none := by
    intro t ht
    cases t with
    | nil => rfl
    | cons c t =>
      have hc : c ≠ ':' := fun he => ht (he ▸ List.mem_cons_self)
      exact if_neg hc
  have hv4 : readIpv4Addr s = none := by
    simpa using @readIpv4Addr_eq_none s [] hdot nofun
  cases hnumber : readNumber 16 (some 4) true 65536 s with
  | none =>
    have hgroups : readGroups true 8 s = ([], false, s) := by
      simp [readGroups, readSeparator, hv4, hnumber]
    simp [readIpv6Addr, hgroups, hgiven s hcolon]
  | some p =>
    obtain ⟨group, rest⟩ := p
    have hrest : ':' ∉ rest := fun h =>
      hcolon ((List.dropWhile_suffix _).subset (readNumber_rest hnumber ▸ h))
    have hgroups : readGroups true 8 s = ([group], false, rest) := by
      simp [readGroups, readSeparator, hv4, hnumber, hgiven rest hrest]
    simp [readIpv6Addr, hgroups, hgiven rest hrest]

/-- **Without a colon and a dot there is no address**, neither an IP address
nor one of a socket. -/
theorem parse_eq_none {s : List Char} (hcolon : ':' ∉ s) (hdot : '.' ∉ s) :
    parseIpAddr s = none ∧ parseSocketAddr s = none := by
  have hv4 : readIpv4Addr s = none := by
    simpa using @readIpv4Addr_eq_none s [] hdot nofun
  have hbracketed : readSocketAddrV6 s = none := by
    cases s with
    | nil => rfl
    | cons c s =>
      rw [List.mem_cons, not_or] at hcolon hdot
      by_cases hc : c = '['
      · simp [readSocketAddrV6, readGivenChar, hc, readIpv6Addr_eq_none hcolon.2 hdot.2]
      · simp [readSocketAddrV6, readGivenChar, hc]
  constructor
  · simp [parseIpAddr, parseWith, readIpAddr, hv4, readIpv6Addr_eq_none hcolon hdot]
  · simp [parseSocketAddr, parseWith, readSocketAddr, readSocketAddrV4, hv4, hbracketed]

end Backend
end Clustat
