/-
# A comma in a filter

`NodeFilter::parse` of `crates/client-backend/src/filter.rs`, for a filter of several items.
`split_filter_items` goes through the text with the number of open brackets, and a comma ends an
item if there is none.  A text that leaves no bracket open is therefore split on its own, whatever
stands behind the comma that follows it (`splitLoop_comma`), and the patterns of the whole are the
patterns of the parts.

Of equal patterns `parse` keeps the first, by a set of those that it has seen; and a filter
without patterns selects everything, so the two parts have to have some (`comma_matches_iff`).
Where `parse` panics for neither part, it does not for the whole.
-/

import Clustat.Backend.NodeFilter

namespace Clustat
namespace Backend

/-- `bracket_depth` at the end of the loop of `split_filter_items`. -/
def bracketDepth : ℕ → List Char → ℕ
  | depth, [] => depth
  | depth, c :: s =>
    bracketDepth (if c = '[' then depth + 1 else if c = ']' then depth - 1 else depth) s

/-- The patterns of `NodeFilter::parse`, before those that it has seen are left out. -/
def expandedPatterns (raw : Option String) : Option (List String) :=
  ((filterItems raw).mapM expandBracketExpression).map List.flatten

/-- The last `filter` of `NodeFilter::parse`: a pattern stays if it is new to `seen`. -/
def keepUnseen : List String → List String → List String
  | _, [] => []
  | seen, pattern :: patterns =>
    if pattern ∈ seen then keepUnseen seen patterns
    else pattern :: keepUnseen (pattern :: seen) patterns

/-! ### The set of seen patterns -/

/-- `keep_unseen` keeps the first of each pattern that was not seen before. -/
theorem keepUnseen_eq (seen patterns : List String) :
    keepUnseen seen patterns = (patterns.filter (· ∉ seen)).eraseDups := by
  induction patterns generalizing seen with
  | nil => rfl
  | cons pattern patterns ih =>
    rw [keepUnseen]
    split_ifs with hseen
    · rw [ih, List.filter_cons_of_neg (by simpa using hseen)]
    · rw [ih, List.filter_cons_of_pos (by simpa using hseen), List.eraseDups_cons,
        List.filter_filter]
      congr 3
      funext q
      simp [not_or, Bool.beq_eq_decide_eq]

/-- A filter is the patterns of its items, each once. -/
theorem parse_eq (raw : Option String) :
    NodeFilter.parse raw = (expandedPatterns raw).map fun patterns => ⟨keepUnseen [] patterns⟩ := by
  rw [NodeFilter.parse, expandedPatterns, Option.map_map]
  congr 1
  funext patterns
  rw [Function.comp_apply, keepUnseen_eq,
    List.filter_eq_self.2 fun _ _ => decide_eq_true List.not_mem_nil]

/-- **What a filter that is parsed consists of**: of a pattern that is left out an equal one has
stayed. -/
theorem exists_expandedPatterns {raw : Option String} {f : NodeFilter}
    (h : NodeFilter.parse raw = some f) :
    ∃ patterns, expandedPatterns raw = some patterns ∧
      ∀ pattern, pattern ∈ f.patterns ↔ pattern ∈ patterns := by
  obtain ⟨expanded, hexpanded, rfl⟩ := Option.map_eq_some_iff.1 h
  exact ⟨expanded.flatten, by rw [expandedPatterns, hexpanded]; rfl, fun _ => List.mem_eraseDups⟩

/-- A filter matches by the patterns that are in it, not by how often or in which order. -/
theorem matchesTarget_congr {f g : NodeFilter} (h : ∀ p, p ∈ f.patterns ↔ p ∈ g.patterns)
    (hostname : String) (addr : SocketAddr) (connectionId : String) :
    f.matchesTarget hostname addr connectionId = g.matchesTarget hostname addr connectionId := by
  have hempty : (f.patterns == []) = (g.patterns == []) := by
    rw [Bool.eq_iff_iff, beq_iff_eq, beq_iff_eq, List.eq_nil_iff_forall_not_mem,
      List.eq_nil_iff_forall_not_mem]
    exact forall_congr' fun p => not_congr (h p)
  have hany (match1 : String → Bool) : f.patterns.any match1 = g.patterns.any match1 := by
    rw [Bool.eq_iff_iff, List.any_eq_true, List.any_eq_true]
    exact exists_congr fun p => and_congr_left' (h p)
  rw [NodeFilter.matchesTarget, NodeFilter.matchesTarget, hempty, hany]

/-! ### The comma -/

/-- **A comma outside brackets** ends an item, and the rest is split on its
own: the depth is zero again, whatever the item was. -/
theorem splitLoop_comma {depth : ℕ} {a : List Char} (hdepth : bracketDepth depth a = 0)
    (item b : List Char) :
    splitLoop depth item (a ++ ',' :: b) = splitLoop depth item a ++ splitLoop 0 [] b := by
  induction a generalizing depth item with
  | nil =>
    cases hdepth
    rw [List.nil_append, splitLoop.eq_2, if_neg (by decide), if_neg (by decide),
      if_pos ⟨rfl, rfl⟩]
    rfl
  | cons c a ih =>
    rw [bracketDepth] at hdepth
    rw [List.cons_append, splitLoop, splitLoop]
    split_ifs at hdepth ⊢ with hopen hclose hcomma
    · exact ih hdepth _
    · exact ih hdepth _
    · rw [ih hdepth, List.cons_append]
    · exact ih hdepth _

/-- A comma outside brackets joins two filters: the patterns of the first come
before those of the second, and a panic in either is one of both. -/
theorem expandedPatterns_comma {a b : String} (hdepth : bracketDepth 0 a.toList = 0) :
    expandedPatterns (some (a ++ "," ++ b)) = do
      let patterns ← expandedPatterns (some a)
      let patterns' ← expandedPatterns (some b)
      return patterns ++ patterns' := by
  have htext : (a ++ "," ++ b).toList = a.toList ++ ',' :: b.toList := by simp
  have hsplit : splitFilterItems (a ++ "," ++ b) = splitFilterItems a ++ splitFilterItems b := by
    rw [splitFilterItems, htext, splitLoop_comma hdepth]
    rfl
  have hitems : filterItems (some (a ++ "," ++ b)) =
      filterItems (some a) ++ filterItems (some b) := by
    simp [filterItems, hsplit]
  rw [expandedPatterns, expandedPatterns, expandedPatterns, hitems, List.mapM_append]
  cases (filterItems (some a)).mapM expandBracketExpression with
  | none => rfl
  | some patterns =>
    cases (filterItems (some b)).mapM expandBracketExpression with
    | none => rfl
    | some patterns' => exact congrArg some List.flatten_append

/-- **A comma is union.**  If no bracket is open before the comma and the two sides have patterns,
the filter matches what one of the sides does; and of no filter it matters which of its patterns
were seen before. -/
theorem comma_matches_iff {a b : String} {f g : NodeFilter} (hdepth : bracketDepth 0 a.toList = 0)
    (hf : NodeFilter.parse (some a) = some f) (hg : NodeFilter.parse (some b) = some g)
    (ha : f.patterns ≠ []) (hb : g.patterns ≠ [])
    (hostname : String) (addr : SocketAddr) (connectionId : String) :
    (∃ k, NodeFilter.parse (some (a ++ "," ++ b)) = some k ∧
      (k.matchesTarget hostname addr connectionId = true ↔
        f.matchesTarget hostname addr connectionId = true ∨
          g.matchesTarget hostname addr connectionId = true)) ∧
    ∀ raw k, NodeFilter.parse raw = some k → ∃ patterns, expandedPatterns raw = some patterns ∧
      k.matchesTarget hostname addr connectionId =
        (NodeFilter.mk patterns).matchesTarget hostname addr connectionId := by
  refine ⟨?_, fun raw k hk => ?_⟩
  · obtain ⟨patterns, hpatterns, hmem⟩ := exists_expandedPatterns hf
    obtain ⟨patterns', hpatterns', hmem'⟩ := exists_expandedPatterns hg
    have hboth : expandedPatterns (some (a ++ "," ++ b)) = some (patterns ++ patterns') := by
      rw [expandedPatterns_comma hdepth, hpatterns, hpatterns']
      rfl
    have hparse : NodeFilter.parse (some (a ++ "," ++ b)) =
        some ⟨keepUnseen [] (patterns ++ patterns')⟩ := by rw [parse_eq, hboth, Option.map_some]
    obtain ⟨expanded, hexpanded, hk⟩ := exists_expandedPatterns hparse
    obtain rfl := Option.some.inj (hexpanded.symm.trans hboth)
    have hne : keepUnseen [] (patterns ++ patterns') ≠ [] := by
      obtain ⟨pattern, hpattern⟩ := List.exists_mem_of_ne_nil _ ha
      exact List.ne_nil_of_mem ((hk pattern).2 (List.mem_append_left _ ((hmem pattern).1 hpattern)))
    refine ⟨_, hparse, ?_⟩
    rw [matchesTarget_mk_iff hne, matchesTarget_mk_iff ha, matchesTarget_mk_iff hb]
    simp only [hk, hmem, hmem', List.mem_append, or_and_right, exists_or]
  · obtain ⟨patterns, hpatterns, hmem⟩ := exists_expandedPatterns hk
    exact ⟨patterns, hpatterns, matchesTarget_congr hmem hostname addr connectionId⟩

/-- A range with a comma and a word: the second pattern is there twice. -/
theorem comma_matches_iff_nodes :
    ∃ k, NodeFilter.parse (some ("node[1-2]" ++ "," ++ "node2, gpu*")) = some k ∧
      (k.matchesTarget "gpu7" (.v4 0 80) "conn-001" = true ↔
        (NodeFilter.mk ["node1", "node2"]).matchesTarget "gpu7" (.v4 0 80) "conn-001" = true ∨
          (NodeFilter.mk ["node2", "gpu*"]).matchesTarget "gpu7" (.v4 0 80) "conn-001" = true) :=
  (comma_matches_iff (by decide +kernel) (by decide +kernel) (by decide +kernel) (by decide)
    (by decide) "gpu7" (.v4 0 80) "conn-001").1

end Backend
end Clustat
