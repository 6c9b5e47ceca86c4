/-
# Items with keys

Items that have a key go into a table one after the other, and each takes the place of the one
that had its key: under a key stands the last item with it (`lookup_byKey`).  A table can be
listed in any order, but sorted by keys that are distinct there is only one list
(`mergeSort_eq_of_perm`).
-/

import Mathlib.Data.List.Induction
import Mathlib.Data.List.Sort
import Clustat.Lib.Table

namespace Keyed

section Table

variable {α κ : Type*} [DecidableEq κ] (key : α → κ)

/-- The last item with a key. -/
def latest (l : List α) (k : κ) : Option α := (l.filter (key · = k)).getLast?

/-- The items, each under its key. -/
def byKey (l : List α) : Table κ α := l.foldl (fun m x => m.insert (key x) x) ∅

/-- In two lists one after the other the latest entry of a key is that of the
second, or else that of the first. -/
theorem latest_append (l l' : List α) (k : κ) :
    latest key (l ++ l') k = (latest key l' k).or (latest key l k) := by
  rw [latest, List.filter_append, List.getLast?_append]
  rfl

/-- The latest entry of a key is an entry, and has that key. -/
theorem latest_eq_some {key : α → κ} {l : List α} {k : κ} {x : α} (h : latest key l k = some x) :
    x ∈ l ∧ key x = k := by
  simpa using List.mem_of_getLast? h

/-- **The last item with a key** is the one in the table, as each item that is
put in replaces the one that was there. -/
theorem lookup_byKey (l : List α) (k : κ) : (byKey key l).lookup k = latest key l k := by
  induction l using List.reverseRecOn with
  | nil => exact AList.lookup_empty k
  | append_singleton l x ih =>
    have hone : latest key [x] k = if key x = k then some x else none := by
      rw [latest, List.filter_singleton]
      split_ifs with h <;> simp [h]
    have hstep : byKey key (l ++ [x]) = (byKey key l).insert (key x) x := by
      rw [byKey, List.foldl_append]
      rfl
    rw [hstep, Table.lookup_insert_eq, ih, latest_append, hone]
    by_cases h : key x = k
    · rw [if_pos h.symm, if_pos h, Option.some_or]
    · rw [if_neg (Ne.symm h), if_neg h, Option.none_or]

/-- The first item with each key, but for the keys in a list. -/
def firsts (seen : List κ) : List α → List α
  | [] => []
  | x :: l => if key x ∈ seen then firsts seen l else x :: firsts (key x :: seen) l

/-- The first entries of the keys are entries of the list, in its order. -/
theorem firsts_sublist (seen : List κ) (l : List α) : (firsts key seen l).Sublist l := by
  induction l generalizing seen with
  | nil => exact .slnil
  | cons x l ih =>
    rw [firsts]
    split_ifs
    · exact (ih _).cons x
    · exact (ih _).cons_cons x

/-- **Which items are first**: those that a search for their key finds, if the
key has not been seen before the list. -/
theorem mem_firsts {seen : List κ} {l : List α} {x : α} :
    x ∈ firsts key seen l ↔ key x ∉ seen ∧ l.find? (key · = key x) = some x := by
  induction l generalizing seen with
  | nil => simp [firsts]
  | cons y l ih =>
    rw [firsts, List.find?_cons]
    by_cases hkey : key y = key x
    · rw [decide_eq_true hkey]
      split_ifs with hseen
      · rw [hkey] at hseen
        exact iff_of_false (fun h => (ih.1 h).1 hseen) fun h => h.1 hseen
      · rw [hkey] at hseen
        have hrest : x ∉ firsts key (key y :: seen) l := fun h =>
          (ih.1 h).1 (hkey ▸ List.mem_cons_self)
        rw [List.mem_cons, or_iff_left hrest, Option.some_inj, and_iff_right hseen, eq_comm]
    · rw [decide_eq_false hkey]
      split_ifs with hseen
      · exact ih
      · have hne : x ≠ y := fun h => hkey (h ▸ rfl)
        rw [List.mem_cons, or_iff_right hne, ih, List.mem_cons, not_or, and_assoc]
        exact and_iff_right fun h => hkey h.symm

/-- There is a first item with each key. -/
theorem mem_map_firsts {l : List α} {k : κ} :
    k ∈ (firsts key [] l).map key ↔ k ∈ l.map key := by
  constructor
  · exact fun h => (firsts_sublist key [] l).map key |>.subset h
  · intro h
    obtain ⟨x, hx, hk⟩ := List.mem_map.1 h
    obtain ⟨y, hy⟩ := Option.isSome_iff_exists.1
      (List.find?_isSome.2 ⟨x, hx, decide_eq_true hk⟩ : (l.find? (key · = k)).isSome = true)
    have hkey : key y = k := by simpa using List.find?_some hy
    exact List.mem_map.2 ⟨y, (mem_firsts key).2 ⟨List.not_mem_nil, hkey ▸ hy⟩, hkey⟩

/-- Their keys are distinct. -/
theorem nodup_firsts (seen : List κ) (l : List α) : ((firsts key seen l).map key).Nodup := by
  induction l generalizing seen with
  | nil => exact List.nodup_nil
  | cons x l ih =>
    rw [firsts]
    split_ifs
    · exact ih _
    · refine List.nodup_cons.2 ⟨fun h => ?_, ih _⟩
      obtain ⟨y, hy, heq⟩ := List.mem_map.1 h
      exact ((mem_firsts key).1 hy).1 (heq ▸ List.mem_cons_self)

/-- Where no two items have the same key, those with one key are at most one. -/
theorem filter_eq_toList {key : α → κ} {l : List α} (hl : (l.map key).Nodup) {k : κ}
    {o : Option α} (h : ∀ x, x ∈ l ∧ key x = k ↔ o = some x) :
    l.filter (key · = k) = o.toList := by
  have hmem (x : α) : x ∈ l.filter (key · = k) ↔ o = some x := by
    rw [List.mem_filter, decide_eq_true_iff, h]
  have hnodup : (l.filter (key · = k)).Nodup := (List.Nodup.of_map _ hl).filter _
  cases o with
  | none => exact List.eq_nil_iff_forall_not_mem.2 fun x hx => nomatch (hmem x).1 hx
  | some y =>
    refine List.perm_singleton.1
      ((List.perm_ext_iff_of_nodup hnodup (List.nodup_singleton y)).2 fun x => ?_)
    rw [hmem, List.mem_singleton, Option.some_inj, eq_comm]

/-- What a listing of a table has. -/
theorem mem_listing {m : Table κ α} {es : List (κ × α)}
    (hes : es.Perm (m.entries.map fun e => (e.1, e.2))) {x : α} :
    x ∈ es.map Prod.snd ↔ ∃ k, m.lookup k = some x := by
  rw [(hes.map Prod.snd).mem_iff]
  simp only [List.map_map, List.mem_map, Function.comp_apply]
  constructor
  · rintro ⟨⟨k, v⟩, he, rfl⟩
    exact ⟨k, AList.mem_lookup_iff.2 he⟩
  · rintro ⟨k, hk⟩
    exact ⟨⟨k, x⟩, AList.mem_lookup_iff.1 hk, rfl⟩

/-- A listing of a table whose items are under their keys has each key once. -/
theorem nodup_listing {key : α → κ} {m : Table κ α}
    (hm : ∀ k x, m.lookup k = some x → key x = k) {es : List (κ × α)}
    (hes : es.Perm (m.entries.map fun e => (e.1, e.2))) : ((es.map Prod.snd).map key).Nodup := by
  have hkeys : (m.entries.map fun e => (e.1, e.2)).map (fun e => key e.2) = m.keys := by
    rw [List.map_map]
    exact List.map_congr_left fun e he => hm e.1 e.2 (AList.mem_lookup_iff.2 he)
  rw [List.map_map]
  refine (hes.map fun e => key e.2).nodup_iff.2 ?_
  rw [hkeys]
  exact m.keys_nodup

/-- Labels that are distinct in a table are distinct in a list of its values. -/
theorem nodup_values {β : Type*} {f : α → β} {m : Table κ α} (hm : m.Distinct f) :
    (m.values.map f).Nodup := by
  rw [Table.values, List.map_map]
  have hentries : m.entries.Nodup := List.Nodup.of_map Sigma.fst m.nodupKeys
  refine hentries.map_on fun x hx y hy heq => ?_
  obtain ⟨k, v⟩ := x
  obtain ⟨k', v'⟩ := y
  have hv := AList.mem_lookup_iff.2 hx
  have hv' := AList.mem_lookup_iff.2 hy
  obtain rfl := hm k k' v v' hv hv' heq
  rw [Option.mem_unique hv hv']

end Table

/-! ### Sorting -/

section Listing

variable {α κ : Type*} [LinearOrder κ] (key : α → κ)

/-- The sorted list is in order, also pairwise. -/
theorem pairwise_mergeSort (l : List α) :
    (l.mergeSort fun a b => key a ≤ key b).Pairwise (key · ≤ key ·) := by
  simpa using @List.pairwise_mergeSort α (fun a b => decide (key a ≤ key b))
    (fun a b c hab hbc => by simpa using le_trans (by simpa using hab) (by simpa using hbc))
    (fun a b => by simpa using le_total (key a) (key b)) l

/-- **Sorted by distinct keys**, a list depends on its items only: in whatever
order a hash map gives them, the result is one. -/
theorem mergeSort_eq_of_perm {key : α → κ} {l l' : List α} (hperm : l.Perm l')
    (hl : (l.map key).Nodup) :
    (l.mergeSort fun a b => key a ≤ key b) = l'.mergeSort fun a b => key a ≤ key b := by
  have hsort := List.mergeSort_perm l fun a b => decide (key a ≤ key b)
  have hsort' := List.mergeSort_perm l' fun a b => decide (key a ≤ key b)
  refine List.Perm.eq_of_pairwise (fun a b ha hb hab hba => ?_) (pairwise_mergeSort key l)
    (pairwise_mergeSort key l') (hsort.trans (hperm.trans hsort'.symm))
  exact List.inj_on_of_nodup_map hl (hsort.subset ha) (hperm.symm.subset (hsort'.subset hb))
    (le_antisymm hab hba)

/-- Sorted by distinct keys, they go up. -/
theorem pairwise_lt_mergeSort {l : List α} (hl : (l.map key).Nodup) :
    (l.mergeSort fun a b => key a ≤ key b).Pairwise (key · < key ·) := by
  have hsort := List.mergeSort_perm l fun a b => decide (key a ≤ key b)
  have hne : (l.mergeSort fun a b => key a ≤ key b).Pairwise (key · ≠ key ·) :=
    List.pairwise_map.1 ((hsort.map key).nodup_iff.2 hl)
  exact ((pairwise_mergeSort key l).and hne).imp fun h => lt_of_le_of_ne h.1 h.2

end Listing

end Keyed
