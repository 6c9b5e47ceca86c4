/-
# Wildcards

A pattern is a word in which one letter, the star, stands for any word: `Glob star p t` says
that `t` can be obtained from `p` by replacing each star.  Cut at its stars a pattern is a
first fragment and others that each have a gap in front (`glob_iff_fragments`).

A scan that takes each fragment at its first occurrence (`consume`) finds the shortest part of
a text that the fragments match (`exists_gaps_of_consume`, `consume_of_gaps`).
-/

import Mathlib.Data.List.Infix

namespace Wildcard

variable {α : Type*}

/-- The text can be obtained from the pattern by replacing each star with a word. -/
inductive Glob (star : α) : List α → List α → Prop
  | nil : Glob star [] []
  | letter {c : α} (hc : c ≠ star) {p t : List α} (h : Glob star p t) :
    Glob star (c :: p) (c :: t)
  | star (w : List α) {p t : List α} (h : Glob star p t) : Glob star (star :: p) (w ++ t)

section Inversion

variable {star c : α} {p t : List α}

/-- The empty pattern matches the empty text only. -/
theorem glob_nil_iff : Glob star [] t ↔ t = [] := by
  constructor
  · rintro ⟨⟩
    rfl
  · rintro rfl
    exact .nil

/-- A star matches any first part `w` of the text, and the rest of the pattern
what follows it. -/
theorem glob_star_iff : Glob star (star :: p) t ↔ ∃ w r, t = w ++ r ∧ Glob star p r := by
  constructor
  · intro h
    cases h with
    | letter hc h => exact absurd rfl hc
    | star w h => exact ⟨w, _, rfl, h⟩
  · rintro ⟨w, r, rfl, h⟩
    exact .star w h

/-- A letter of the pattern matches itself, at the start of the text. -/
theorem glob_letter_iff (hc : c ≠ star) :
    Glob star (c :: p) t ↔ ∃ r, t = c :: r ∧ Glob star p r := by
  constructor
  · intro h
    cases h with
    | letter _ h => exact ⟨_, rfl, h⟩
    | star w h => exact absurd rfl hc
  · rintro ⟨r, rfl, h⟩
    exact .letter hc h

/-- A word without stars is a text of itself. -/
theorem glob_self {w : List α} (h : star ∉ w) : Glob star w w := by
  induction w with
  | nil => exact .nil
  | cons c w ih =>
    rw [List.mem_cons, not_or] at h
    exact .letter (Ne.symm h.1) (ih h.2)

end Inversion

/-! ### Fragments -/

/-- The text is the fragments in order, with any word in front of each. -/
def Gaps : List (List α) → List α → Prop
  | [], t => t = []
  | f :: fs, t => ∃ w r, t = w ++ f ++ r ∧ Gaps fs r

/-- A last fragment that is empty matches whatever follows. -/
theorem Gaps.append {fs : List (List α)} {u : List α} (h : Gaps fs u) (hlast : [] ∈ fs.getLast?)
    (s : List α) : Gaps fs (u ++ s) := by
  induction fs generalizing u with
  | nil => cases hlast
  | cons f fs ih =>
    obtain ⟨w, r, rfl, hgaps⟩ := h
    cases fs with
    | nil =>
      obtain rfl : f = [] := (Option.some.inj hlast)
      obtain rfl : r = [] := hgaps
      exact ⟨w ++ s, [], by simp, rfl⟩
    | cons f' fs =>
      refine ⟨w, r ++ s, by simp, ih hgaps ?_⟩
      rwa [List.getLast?_cons_cons] at hlast

/-- The text is the first fragment, and the others with any word in front of each. -/
def Fragments : List (List α) → List α → Prop
  | [], _ => False
  | f :: fs, t => ∃ u, t = f ++ u ∧ Gaps fs u

variable [DecidableEq α]

/-- **A pattern is its fragments**: it matches a text exactly if what stands
between its stars is found there, in order and apart, the first fragment at
the start and the last at the end. -/
theorem glob_iff_fragments (star : α) (p t : List α) :
    Glob star p t ↔ Fragments (p.splitOn star) t := by
  induction p generalizing t with
  | nil =>
    rw [glob_nil_iff, List.splitOn_nil]
    constructor
    · rintro rfl
      exact ⟨[], rfl, rfl⟩
    · rintro ⟨u, rfl, rfl⟩
      rfl
  | cons c p ih =>
    obtain ⟨f, fs, hsplit⟩ := List.exists_cons_of_ne_nil (List.splitOn_ne_nil star p)
    rw [hsplit] at ih
    rw [List.splitOn_cons_eq_if_modifyHead, hsplit]
    by_cases hc : c = star
    · subst hc
      rw [glob_star_iff, if_pos (beq_self_eq_true c)]
      constructor
      · rintro ⟨w, r, rfl, h⟩
        obtain ⟨u, rfl, hgaps⟩ := (ih r).1 h
        exact ⟨_, rfl, w, u, (List.append_assoc ..).symm, hgaps⟩
      · rintro ⟨_, rfl, w, u, rfl, hgaps⟩
        exact ⟨w, f ++ u, List.append_assoc .., (ih _).2 ⟨u, rfl, hgaps⟩⟩
    · rw [glob_letter_iff hc, if_neg (by simpa using hc)]
      constructor
      · rintro ⟨r, rfl, h⟩
        obtain ⟨u, rfl, hgaps⟩ := (ih r).1 h
        exact ⟨u, rfl, hgaps⟩
      · rintro ⟨u, rfl, hgaps⟩
        exact ⟨f ++ u, rfl, (ih _).2 ⟨u, rfl, hgaps⟩⟩

/-- A pattern with a star, cut at the first one. -/
theorem splitOn_of_mem {star : α} {p : List α} (h : star ∈ p) :
    ∃ f q, p = f ++ star :: q ∧ star ∉ f ∧ p.splitOn star = f :: q.splitOn star := by
  obtain ⟨f, q, rfl, hf⟩ := List.eq_append_cons_of_mem h
  exact ⟨f, q, rfl, hf, List.splitOn_append_cons_self_of_not_mem hf q⟩

/-- The last fragment of a pattern with a star is empty when the pattern ends in one. -/
theorem nil_mem_getLast_splitOn_iff {star : α} {p : List α} (h : star ∈ p) :
    [] ∈ (p.splitOn star).getLast? ↔ star ∈ p.getLast? := by
  obtain ⟨f, q, hp, hf⟩ := List.eq_append_cons_of_mem (List.mem_reverse.2 h)
  have hp' : p = q.reverse ++ star :: f.reverse := by
    rw [← List.reverse_reverse p, hp]
    simp
  have hf' : star ∉ f.reverse := mt List.mem_reverse.1 hf
  rw [hp', List.splitOn_append_cons_self, List.splitOn_eq_singleton hf', List.getLast?_concat,
    Option.mem_some_iff]
  cases hc : f with
  | nil => simp
  | cons c f =>
    have hne : c ≠ star := fun heq => hf (hc ▸ heq ▸ List.mem_cons_self)
    simp [List.getLast?_cons, hne]

/-! ### First occurrences -/

/-- Where a word first occurs in a text. -/
def find (word : List α) : List α → Option ℕ
  | [] => if word = [] then some 0 else none
  | c :: t => if word <+: c :: t then some 0 else (find word t).map (· + 1)

/-- The empty pattern is found at the start of any text. -/
theorem find_nil (t : List α) : find [] t = some 0 := by
  cases t with
  | nil => rfl
  | cons c t => exact if_pos (List.nil_prefix)

/-- There it is. -/
theorem eq_of_find {word t : List α} {i : ℕ} (h : find word t = some i) :
    t = t.take i ++ word ++ t.drop (i + word.length) := by
  induction t generalizing i with
  | nil =>
    unfold find at h
    split_ifs at h with hnil
    obtain rfl := Option.some.inj h
    subst hnil
    rfl
  | cons c t ih =>
    unfold find at h
    split_ifs at h with hprefix
    · obtain rfl := Option.some.inj h
      rw [List.take_zero, List.nil_append, Nat.zero_add]
      exact List.prefix_iff_eq_append.1 hprefix |>.symm
    · obtain ⟨j, hj, rfl⟩ := Option.map_eq_some_iff.1 h
      rw [List.take_succ_cons, Nat.add_right_comm, List.drop_succ_cons, List.cons_append,
        List.cons_append, ← ih hj]

/-- No occurrence is earlier. -/
theorem find_append_le (x word s : List α) :
    ∃ i, find word (x ++ word ++ s) = some i ∧ i ≤ x.length := by
  induction x with
  | nil =>
    refine ⟨0, ?_, le_rfl⟩
    cases hw : [] ++ word ++ s with
    | nil =>
      have hnil : word = [] := by
        rw [List.nil_append] at hw
        exact (List.append_eq_nil_iff.1 hw).1
      rw [hnil]
      rfl
    | cons c t =>
      have hprefix : word <+: c :: t := ⟨s, by rw [← hw, List.nil_append]⟩
      exact if_pos hprefix
  | cons c x ih =>
    obtain ⟨i, hi, hle⟩ := ih
    rw [List.cons_append, List.cons_append, find]
    split_ifs with hprefix
    · exact ⟨0, rfl, Nat.zero_le _⟩
    · rw [hi]
      exact ⟨i + 1, rfl, Nat.succ_le_succ hle⟩

/-- **A word is found if it is there**, anywhere in the text; where it is
found first does not matter here. -/
theorem find_isSome_iff {word t : List α} : (find word t).isSome = true ↔ word <:+: t := by
  constructor
  · intro h
    obtain ⟨i, hi⟩ := Option.isSome_iff_exists.1 h
    exact ⟨_, _, (eq_of_find hi).symm⟩
  · rintro ⟨x, s, rfl⟩
    obtain ⟨i, hi, -⟩ := find_append_le x word s
    exact Option.isSome_iff_exists.2 ⟨i, hi⟩

/-! ### The scan -/

/-- What follows the fragments, each taken at its first occurrence. -/
def consume : List (List α) → List α → Option (List α)
  | [], t => some t
  | f :: fs, t =>
    match find f t with
    | none => none
    | some i => consume fs (t.drop (i + f.length))

/-- What has been passed matches. -/
theorem exists_gaps_of_consume {fs : List (List α)} {t r : List α} (h : consume fs t = some r) :
    ∃ u, t = u ++ r ∧ Gaps fs u := by
  induction fs generalizing t with
  | nil =>
    obtain rfl := Option.some.inj h
    exact ⟨[], rfl, rfl⟩
  | cons f fs ih =>
    unfold consume at h
    cases hf : find f t with
    | none =>
      rw [hf] at h
      cases h
    | some i =>
      rw [hf] at h
      obtain ⟨u, hu, hgaps⟩ := ih h
      refine ⟨t.take i ++ f ++ u, ?_, t.take i, u, rfl, hgaps⟩
      rw [List.append_assoc, ← hu]
      exact eq_of_find hf

/-- **The scan passes no more than it must**: as long as the fragments match a part of the
text, with any word in front, no more than that is passed. -/
theorem consume_of_gaps {fs : List (List α)} {x u s : List α} (h : Gaps fs u) :
    ∃ r, consume fs (x ++ u ++ s) = some r ∧ s.length ≤ r.length := by
  induction fs generalizing x u with
  | nil =>
    refine ⟨_, rfl, ?_⟩
    rw [List.length_append]
    exact Nat.le_add_left _ _
  | cons f fs ih =>
    obtain ⟨w, u', rfl, hgaps⟩ := h
    have htext : x ++ (w ++ f ++ u') ++ s = (x ++ w) ++ f ++ (u' ++ s) := by
      simp only [List.append_assoc]
    obtain ⟨i, hfind, hle⟩ := find_append_le (x ++ w) f (u' ++ s)
    -- what is left after the first occurrence still ends in `u'` and the rest of the text
    have hdrop : ∃ x', ((x ++ w) ++ f ++ (u' ++ s)).drop (i + f.length) = x' ++ u' ++ s := by
      rw [List.drop_append_of_le_length
        (by simp only [List.length_append] at hle ⊢; omega), ← List.append_assoc]
      exact ⟨_, rfl⟩
    obtain ⟨x', hx'⟩ := hdrop
    obtain ⟨r, hr, hlen⟩ := @ih x' u' hgaps
    refine ⟨r, ?_, hlen⟩
    rw [htext, consume, hfind]
    dsimp only
    rw [hx', hr]

/-- The scan of a whole text: the first fragment at its front, the others at their first
occurrences. -/
def scan : List (List α) → List α → Option (List α)
  | [], _ => none
  | f :: fs, t => if f <+: t then consume fs (t.drop f.length) else none

/-- What has been passed is a text of the fragments. -/
theorem exists_fragments_of_scan {fs : List (List α)} {t r : List α} (h : scan fs t = some r) :
    ∃ u, t = u ++ r ∧ Fragments fs u := by
  cases fs with
  | nil => cases h
  | cons f fs =>
    rw [scan] at h
    split_ifs at h with hprefix
    obtain ⟨t', rfl⟩ := hprefix
    rw [List.drop_left] at h
    obtain ⟨u, rfl, hgaps⟩ := exists_gaps_of_consume h
    exact ⟨f ++ u, (List.append_assoc ..).symm, u, rfl, hgaps⟩

/-- **The scan passes the shortest text of the fragments**: looking for each
where it comes first never needs more of the text than any other way of
placing them, so it does not fail where one of them succeeds. -/
theorem scan_of_fragments {fs : List (List α)} {u s : List α} (h : Fragments fs u) :
    ∃ r, scan fs (u ++ s) = some r ∧ s.length ≤ r.length := by
  cases fs with
  | nil => cases h
  | cons f fs =>
    obtain ⟨u, rfl, hgaps⟩ := h
    obtain ⟨r, hr, hlen⟩ := @consume_of_gaps _ _ fs [] u s hgaps
    refine ⟨r, ?_, hlen⟩
    rw [List.append_assoc, scan, if_pos (List.prefix_append _ _), List.drop_left]
    exact hr

/-- **A scan that ends with the text** has found the only text of the fragments there is at
its front. -/
theorem scan_eq_nil_iff {fs : List (List α)} {t : List α} :
    scan fs t = some [] ↔ Fragments fs t ∧ ∀ u, u <+: t → u ≠ t → ¬Fragments fs u := by
  constructor
  · intro h
    obtain ⟨u, hu, hfs⟩ := exists_fragments_of_scan h
    rw [List.append_nil] at hu
    subst hu
    refine ⟨hfs, fun v hv hne hfs' => hne ?_⟩
    obtain ⟨s, rfl⟩ := hv
    obtain ⟨r, hr, hlen⟩ := scan_of_fragments hfs'
    obtain rfl := Option.some.inj (h.symm.trans hr)
    rw [List.eq_nil_of_length_eq_zero (Nat.le_zero.1 hlen), List.append_nil]
  · rintro ⟨hfs, hleast⟩
    obtain ⟨r, hr, -⟩ := @scan_of_fragments _ _ fs t [] hfs
    rw [List.append_nil] at hr
    obtain ⟨u, rfl, hfs'⟩ := exists_fragments_of_scan hr
    by_contra hne
    refine hleast u (List.prefix_append u r) (fun heq => hne ?_) hfs'
    rw [hr, List.self_eq_append_right.1 heq]

/-- **A scan of fragments that end in an empty one** finds a text of them exactly when the
whole text is one. -/
theorem scan_isSome_iff {fs : List (List α)} {t : List α} (hlast : [] ∈ fs.getLast?)
    (hne : fs.tail ≠ []) : (scan fs t).isSome ↔ Fragments fs t := by
  constructor
  · intro h
    obtain ⟨r, hr⟩ := Option.isSome_iff_exists.1 h
    obtain ⟨u, rfl, hfs⟩ := exists_fragments_of_scan hr
    cases fs with
    | nil => cases hfs
    | cons f fs =>
      obtain ⟨u, rfl, hgaps⟩ := hfs
      cases fs with
      | nil => exact absurd rfl hne
      | cons f' fs =>
        rw [List.getLast?_cons_cons] at hlast
        exact ⟨u ++ r, List.append_assoc .., hgaps.append hlast r⟩
  · intro h
    obtain ⟨r, hr, -⟩ := @scan_of_fragments _ _ fs t [] h
    rw [List.append_nil] at hr
    rw [hr]
    rfl

end Wildcard
