/-
# Filters on nodes

`wildcard_match` of `crates/client-backend/src/filter.rs`.  A pattern with a star is cut at
its stars; the first fragment has to be the front of the text, and each other one is looked
for in what is left and taken at its first occurrence.  For the last fragment, which has to
end the text, the first occurrence is the wrong one: `*.cluster` does not match
`a.cluster.cluster`.  What is accepted does match, and what is wrongly refused is exactly what
matches and has a proper part at its front that matches as well (`wildcardMatch_iff_glob`).

A `str` is its characters: offsets in bytes and offsets in characters pick out the same
parts of it.
-/

import Clustat.Lib.Glob

namespace Clustat
namespace Backend

open Wildcard

/-- The loop of `wildcard_match`; `none` where it returns `false`. -/
def wildcardLoop (pattern : List Char) : List (List Char) → Bool → List Char → Option (List Char)
  | [], _, rest => some rest
  | part :: parts, first, rest =>
    if part = [] then wildcardLoop pattern parts false rest
    else if first ∧ pattern.head? ≠ some '*' then
      if part <+: rest then wildcardLoop pattern parts false (rest.drop part.length) else none
    else
      match find part rest with
      | none => none
      | some pos => wildcardLoop pattern parts false (rest.drop (pos + part.length))

/-- `wildcard_match`. -/
def wildcardMatch (pattern text : String) : Bool :=
  let pattern := pattern.toList
  let text := text.toList
  if '*' ∉ pattern then (find pattern text).isSome
  else
    match wildcardLoop pattern (pattern.splitOn '*') true text with
    | none => false
    | some rest => pattern.getLast? == some '*' || rest == []

section Match

variable {pattern : List Char}

/-- After the first fragment the loop is the scan. -/
theorem wildcardLoop_eq_consume (parts : List (List Char)) (rest : List Char) :
    wildcardLoop pattern parts false rest = consume parts rest := by
  induction parts generalizing rest with
  | nil => rfl
  | cons part parts ih =>
    rw [wildcardLoop, consume]
    by_cases hnil : part = []
    · rw [if_pos hnil, hnil, find_nil, ih]
      rfl
    · rw [if_neg hnil, if_neg (by simp)]
      cases find part rest with
      | none => rfl
      | some pos => exact ih _

/-- **The loop is the scan.**  The first fragment is empty only when the pattern starts with
a star. -/
theorem wildcardLoop_eq_scan (hstar : '*' ∈ pattern) (text : List Char) :
    wildcardLoop pattern (pattern.splitOn '*') true text = scan (pattern.splitOn '*') text := by
  obtain ⟨f, q, hpattern, hf, hsplit⟩ := splitOn_of_mem hstar
  rw [hsplit, wildcardLoop, scan]
  cases f with
  | nil =>
    rw [if_pos rfl, if_pos List.nil_prefix]
    exact wildcardLoop_eq_consume _ _
  | cons c f =>
    have hhead : pattern.head? ≠ some '*' := by
      rw [hpattern]
      exact fun hc => hf (Option.some.inj hc ▸ List.mem_cons_self)
    rw [if_neg (List.cons_ne_nil c f), if_pos ⟨rfl, hhead⟩]
    simp only [wildcardLoop_eq_consume]

end Match

/-- A pattern that ends with a star matches as it should. -/
theorem wildcardMatch_of_getLast {pattern text : String} (hstar : '*' ∈ pattern.toList)
    (hlast : '*' ∈ pattern.toList.getLast?) :
    wildcardMatch pattern text = true ↔ Glob '*' pattern.toList text.toList := by
  obtain ⟨f, q, -, -, hsplit⟩ := splitOn_of_mem hstar
  have hne : (pattern.toList.splitOn '*').tail ≠ [] := by
    rw [hsplit]
    exact List.splitOn_ne_nil '*' q
  rw [glob_iff_fragments, ← scan_isSome_iff ((nil_mem_getLast_splitOn_iff hstar).2 hlast) hne,
    wildcardMatch, if_neg (not_not.2 hstar), wildcardLoop_eq_scan hstar]
  cases scan (pattern.toList.splitOn '*') text.toList with
  | none => simp
  | some rest => simp [Option.mem_def.1 hlast]

/-- Another one with a star matches a text when it should and matches no proper part at the
front of it. -/
theorem wildcardMatch_of_not_getLast {pattern text : String} (hstar : '*' ∈ pattern.toList)
    (hlast : '*' ∉ pattern.toList.getLast?) :
    wildcardMatch pattern text = true ↔ Glob '*' pattern.toList text.toList ∧
      ∀ u, u <+: text.toList → u ≠ text.toList → ¬Glob '*' pattern.toList u := by
  simp only [glob_iff_fragments]
  rw [← scan_eq_nil_iff, wildcardMatch, if_neg (not_not.2 hstar), wildcardLoop_eq_scan hstar]
  cases scan (pattern.toList.splitOn '*') text.toList with
  | none => simp
  | some rest =>
    have hends : (pattern.toList.getLast? == some '*') = false :=
      beq_eq_false_iff_ne.2 fun heq => hlast (Option.mem_def.2 heq)
    simp [hends]

/-- **When wildcards follow glob semantics**: the pattern ends with a star, or the text is
not one that matches and has a proper part at its front that matches too. -/
theorem wildcardMatch_iff_glob {pattern text : String} (hstar : '*' ∈ pattern.toList) :
    (wildcardMatch pattern text = true ↔ Glob '*' pattern.toList text.toList) ↔
      '*' ∈ pattern.toList.getLast? ∨
        ¬(Glob '*' pattern.toList text.toList ∧
          ∃ u, u <+: text.toList ∧ u ≠ text.toList ∧ Glob '*' pattern.toList u) := by
  by_cases hlast : '*' ∈ pattern.toList.getLast?
  · exact iff_of_true (wildcardMatch_of_getLast hstar hlast) (.inl hlast)
  · rw [wildcardMatch_of_not_getLast hstar hlast, or_iff_right hlast, and_iff_left_iff_imp]
    constructor
    · rintro himp ⟨hglob, u, hu, hne, hu'⟩
      exact himp hglob u hu hne hu'
    · exact fun hnot hglob u hu hne hu' => hnot ⟨hglob, u, hu, hne, hu'⟩

/-- An end of names, as a pattern. -/
theorem glob_suffix (w : List Char) : Glob '*' "*.cluster".toList (w ++ ".cluster".toList) :=
  .star w (glob_self (by decide))

/-- A pattern that ends with a star, and a host that is refused. -/
theorem wildcardMatch_iff_glob_cluster :
    (wildcardMatch "10.1.*" "10.1.2.3" = true ↔ Glob '*' "10.1.*".toList "10.1.2.3".toList) ∧
    ¬(wildcardMatch "*.cluster" "a.cluster.cluster" = true ↔
      Glob '*' "*.cluster".toList "a.cluster.cluster".toList) := by
  refine ⟨(wildcardMatch_iff_glob (by decide)).2 (.inl (by decide)), fun h => ?_⟩
  rcases (wildcardMatch_iff_glob (by decide)).1 h with hlast | hnot
  · exact absurd hlast (by decide)
  · exact hnot ⟨glob_suffix "a.cluster".toList, "a.cluster".toList, by decide, by decide,
      glob_suffix ['a']⟩

/-- **A host that is refused**: its name ends as it should, but not for the first time. -/
theorem suffix_refused : ¬∀ pattern text : String, '*' ∈ pattern.toList →
    (wildcardMatch pattern text = true ↔ Glob '*' pattern.toList text.toList) := by
  intro hall
  have hmatch := (hall "*.cluster" "a.cluster.cluster" (by decide)).2
    (glob_suffix "a.cluster".toList)
  exact absurd hmatch (by decide)

end Backend
end Clustat
