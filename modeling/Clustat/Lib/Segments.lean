/-
# Streams in segments

A stream hands out its elements in segments, of lengths nobody knows beforehand, and then
ends: the next read waits for ever, or fails.  An empty segment is a read that was
interrupted and is made again.  `readExact` reads as often as it has to for a given number of
elements.  What it returns depends on the elements that are left alone, and not on how they
are cut (`readExact_of_le`, `readExact_of_lt`).

A sequence of records that has been cut short holds the records that lie wholly before the
cut, `wholes`.
-/

import Mathlib.Data.List.Basic

namespace Segments

variable {α ε β : Type*}

/-- What becomes of a call that reads: it has not returned, or it has. -/
inductive Outcome (ε β : Type*)
  | waiting
  | failed (e : ε)
  | done (x : β)
  deriving DecidableEq, Repr

/-- A stream: the segments that are left, and the failure behind them, if there is one. -/
structure Source (α ε : Type*) where
  segments : List (List α)
  ending : Option ε

/-- The elements that are left. -/
def Source.elements (s : Source α ε) : List α := s.segments.flatten

/-- What a read returns behind the last segment. -/
def Source.atEnd (s : Source α ε) : Outcome ε β :=
  match s.ending with
  | none => .waiting
  | some e => .failed e

/-- Reads until there are `n` elements or no more segments: the elements, and the segments that
are left. -/
def gather : ℕ → List (List α) → List α × List (List α)
  | 0, segments => ([], segments)
  | _ + 1, [] => ([], [])
  | n + 1, segment :: segments =>
    if segment.length ≤ n + 1 then
      let (got, rest) := gather (n + 1 - segment.length) segments
      (segment ++ got, rest)
    else (segment.take (n + 1), segment.drop (n + 1) :: segments)

/-- `read_exact`. -/
def Source.readExact (n : ℕ) (s : Source α ε) : Outcome ε (List α) × Source α ε :=
  let (got, rest) := gather n s.segments
  let s := { s with segments := rest }
  if got.length = n then (.done got, s) else (s.atEnd, s)

/-- However the elements are cut, the first ones are got and the others are left. -/
theorem gather_eq (n : ℕ) (segments : List (List α)) :
    (gather n segments).1 = segments.flatten.take n ∧
      (gather n segments).2.flatten = segments.flatten.drop n := by
  induction segments generalizing n with
  | nil => cases n <;> simp [gather]
  | cons segment segments ih =>
    cases n with
    | zero => simp [gather]
    | succ n =>
      rw [gather, List.flatten_cons]
      split_ifs with hle
      · obtain ⟨hgot, hrest⟩ := ih (n + 1 - segment.length)
        rw [List.take_append, List.drop_append, List.take_of_length_le hle,
          List.drop_of_length_le hle]
        exact ⟨congrArg _ hgot, hrest⟩
      · have hlt : n + 1 ≤ segment.length := by omega
        rw [List.take_append_of_le_length hlt, List.drop_append_of_le_length hlt]
        exact ⟨rfl, rfl⟩

variable {s : Source α ε} {n : ℕ}

/-- **Enough elements are read**, and the others stay, however the stream is
cut into segments; its ending stays too. -/
theorem readExact_of_le (h : n ≤ s.elements.length) :
    ∃ s' : Source α ε, s.readExact n = (.done (s.elements.take n), s') ∧
      s'.elements = s.elements.drop n ∧ s'.ending = s.ending := by
  obtain ⟨hgot, hrest⟩ := gather_eq n s.segments
  refine ⟨{ s with segments := (gather n s.segments).2 }, ?_, hrest, rfl⟩
  have hlen : (gather n s.segments).1.length = n := by
    rw [hgot, List.length_take]
    exact Nat.min_eq_left h
  rw [Source.readExact]
  dsimp only
  rw [if_pos hlen, hgot]
  rfl

/-- **Too few elements are not**: the call reads what there is and comes to
the end of the stream, an error or its close. -/
theorem readExact_of_lt (h : s.elements.length < n) : (s.readExact n).1 = s.atEnd := by
  have hlen : (gather n s.segments).1.length ≠ n := by
    rw [(gather_eq n s.segments).1, List.length_take]
    have hflat : s.segments.flatten.length < n := h
    omega
  rw [Source.readExact]
  dsimp only
  rw [if_neg hlen]
  rfl

/-! ### Records -/

/-- The records that lie wholly in the first `n` elements. -/
def wholes : ℕ → List (List α) → List (List α)
  | _, [] => []
  | n, record :: records =>
    if record.length ≤ n then record :: wholes (n - record.length) records else []

/-- What there is of a sequence of records begins with the first of them, or is a proper part
of it. -/
theorem prefix_flatten_cons {l record : List α} {records : List (List α)}
    (h : l <+: (record :: records).flatten) :
    (∃ rest, l = record ++ rest ∧ rest <+: records.flatten) ∨
      (l <+: record ∧ l.length < record.length) := by
  rw [List.flatten_cons] at h
  rcases Nat.lt_or_ge l.length record.length with hlt | hge
  · have hpart := List.prefix_of_prefix_length_le h (List.prefix_append _ _) (Nat.le_of_lt hlt)
    exact .inr ⟨hpart, hlt⟩
  · obtain ⟨rest, rfl⟩ := List.prefix_of_prefix_length_le (List.prefix_append _ _) h hge
    exact .inl ⟨rest, rfl, (List.prefix_append_right_inj record).1 h⟩

end Segments
