/-
# Streams of fields

A list of fields is written as a stream of letters by closing each field with a separator
(`close`).  A field without the separator can be read back from the front of a stream
(`append_separator_inj`), one of a known length by its length, and words that can be read off
one after the other make a stream that is read back whole (`ReadOff.flatMap_eq_iff`).

A stream folded by a step that forgets neither its state nor its letter has another result if
a single letter is exchanged (`foldl_ne_of_exchange`): whatever follows, the difference stays.
-/

import Mathlib.Data.List.Forall2
import Mathlib.Data.List.TakeDrop

namespace Fields

variable {α β σ : Type*}

/-- The stream of the fields, a separator behind each. -/
def close (sep : α) (fields : List (List α)) : List α := fields.flatMap fun f => f ++ [sep]

/-! ### Reading back -/

/-- The first separator is where a field without it ends. -/
theorem append_separator_inj {sep : α} {a b x y : List α} (ha : sep ∉ a) (hb : sep ∉ b) :
    a ++ sep :: x = b ++ sep :: y ↔ a = b ∧ x = y := by
  constructor
  · intro h
    induction a generalizing b with
    | nil =>
      cases b with
      | nil => exact ⟨rfl, List.tail_eq_of_cons_eq h⟩
      | cons d b => exact absurd (List.head_eq_of_cons_eq h) fun e => hb (e ▸ List.mem_cons_self)
    | cons c a ih =>
      cases b with
      | nil =>
        exact absurd (List.head_eq_of_cons_eq h) fun e => ha (e ▸ List.mem_cons_self)
      | cons d b =>
        obtain rfl : c = d := List.head_eq_of_cons_eq h
        obtain ⟨rfl, hxy⟩ := ih (fun hc => ha (List.mem_cons_of_mem _ hc))
          (fun hd => hb (List.mem_cons_of_mem _ hd)) (List.tail_eq_of_cons_eq h)
        exact ⟨rfl, hxy⟩
  · rintro ⟨rfl, rfl⟩
    rfl

/-- The word of a value can be read off the front of a stream, up to a relation of values, and
is not empty. -/
structure ReadOff (word : α → List β) (R : α → α → Prop) : Prop where
  ne_nil : ∀ a, word a ≠ []
  append_eq_iff : ∀ a b x y, word a ++ x = word b ++ y ↔ R a b ∧ x = y

/-- **Word after word**, a stream of them is read back: where each word can be
read off the front of any stream, two streams are equal exactly if they are
made of the same words. -/
theorem ReadOff.flatMap_eq_iff {word : α → List β} {R : α → α → Prop} (h : ReadOff word R)
    {as bs : List α} : as.flatMap word = bs.flatMap word ↔ List.Forall₂ R as bs := by
  have hempty : ∀ a x, ([] : List β) ≠ word a ++ x := fun a x he =>
    h.ne_nil a (List.append_eq_nil_iff.1 he.symm).1
  induction as generalizing bs with
  | nil =>
    cases bs with
    | nil => exact iff_of_true rfl .nil
    | cons b bs => exact iff_of_false (hempty b _) nofun
  | cons a as ih =>
    cases bs with
    | nil => exact iff_of_false (hempty a _).symm nofun
    | cons b bs =>
      rw [List.flatMap_cons, List.flatMap_cons, h.append_eq_iff, List.forall₂_cons]
      exact and_congr_right fun _ => ih

/-! ### One letter exchanged -/

/-- **The fold tells streams apart that differ in one letter**, if each step is one-to-one in
the state and in the letter. -/
theorem foldl_ne_of_exchange {step : σ → α → σ} (hstate : ∀ a, Function.Injective (step · a))
    (hletter : ∀ s, Function.Injective (step s)) {a b : α} (hab : a ≠ b) (s : σ)
    (front rest : List α) :
    (front ++ a :: rest).foldl step s ≠ (front ++ b :: rest).foldl step s := by
  have hrun : Function.Injective fun s => rest.foldl step s := by
    induction rest with
    | nil => exact fun _ _ h => h
    | cons c rest ih => exact fun _ _ h => hstate c (ih h)
  rw [List.foldl_append, List.foldl_append, List.foldl_cons, List.foldl_cons]
  exact fun h => hab (hletter _ (hrun h))

/-- Lists of one length that differ at one place only are one list with a letter exchanged. -/
theorem exists_exchange {xs ys : List α} {i : ℕ} (hlen : xs.length = ys.length)
    (hne : xs[i]? ≠ ys[i]?) (heq : ∀ k, k ≠ i → xs[k]? = ys[k]?) :
    ∃ front a b rest, xs = front ++ a :: rest ∧ ys = front ++ b :: rest ∧
      xs[i]? = some a ∧ ys[i]? = some b := by
  have hx : i < xs.length := by
    by_contra hi
    have hi : xs.length ≤ i := Nat.le_of_not_lt hi
    exact hne (by rw [List.getElem?_eq_none hi, List.getElem?_eq_none (hlen ▸ hi)])
  have hy : i < ys.length := hlen ▸ hx
  have hfront : xs.take i = ys.take i := by
    refine List.ext_getElem? fun k => ?_
    rw [List.getElem?_take, List.getElem?_take]
    split_ifs with hk
    · exact heq k (Nat.ne_of_lt hk)
    · rfl
  have hrest : xs.drop (i + 1) = ys.drop (i + 1) := by
    refine List.ext_getElem? fun k => ?_
    rw [List.getElem?_drop, List.getElem?_drop]
    exact heq _ (by omega)
  refine ⟨xs.take i, xs[i], ys[i], xs.drop (i + 1), ?_, ?_, List.getElem?_eq_getElem hx,
    List.getElem?_eq_getElem hy⟩
  · rw [List.getElem_cons_drop, List.take_append_drop]
  · rw [hfront, hrest, List.getElem_cons_drop, List.take_append_drop]

/-- A letter of a field. -/
def letter? (fields : List (List α)) (field i : ℕ) : Option α := fields[field]?.bind (·[i]?)

/-- **Fields of the same lengths that differ in one letter of one field**: so do their
streams. -/
theorem exists_exchange_close (sep : α) {xs ys : List (List α)}
    (hlen : xs.map List.length = ys.map List.length)
    (hone : ∃! p : ℕ × ℕ, letter? xs p.1 p.2 ≠ letter? ys p.1 p.2) :
    ∃ front a b rest, close sep xs = front ++ a :: rest ∧ close sep ys = front ++ b :: rest ∧
      a ≠ b := by
  obtain ⟨⟨i, j⟩, hne, honly⟩ := hone
  have hcount : xs.length = ys.length := by simpa using congrArg List.length hlen
  have hfield : ∀ k, xs[k]?.map List.length = ys[k]?.map List.length := fun k => by
    rw [← List.getElem?_map, ← List.getElem?_map, hlen]
  -- The other fields agree in every letter.
  have heq : ∀ k, k ≠ i → xs[k]? = ys[k]? := by
    intro k hk
    have hletter : ∀ m, letter? xs k m = letter? ys k m := fun m => by
      by_contra hm
      exact hk (congrArg Prod.fst (honly (k, m) hm))
    have hk := hfield k
    unfold letter? at hletter
    cases hx : xs[k]? with
    | none =>
      rw [hx] at hk
      exact (Option.map_eq_none_iff.1 hk.symm).symm
    | some u =>
      rw [hx] at hk hletter
      obtain ⟨v, hv, -⟩ := Option.map_eq_some_iff.1 hk.symm
      rw [hv] at hletter ⊢
      exact congrArg some (List.ext_getElem? hletter)
  have hne' : xs[i]? ≠ ys[i]? := fun h => hne (by rw [letter?, letter?, h])
  obtain ⟨front, u, v, rest, hxs, hys, hu, hv⟩ := exists_exchange hcount hne' heq
  have huv : u.length = v.length := by simpa [hu, hv] using hfield i
  rw [letter?, letter?, hu, hv] at hne
  -- In the field itself all other letters agree.
  have hletter : ∀ k, k ≠ j → u[k]? = v[k]? := by
    intro k hk
    by_contra h
    have hk' := honly (i, k) (by simpa [letter?, hu, hv] using h)
    exact hk (congrArg Prod.snd hk')
  obtain ⟨front', a, b, rest', rfl, rfl, ha, hb⟩ := exists_exchange huv hne hletter
  refine ⟨close sep front ++ front', a, b, rest' ++ sep :: close sep rest, ?_, ?_, ?_⟩
  · simp [hxs, close]
  · simp [hys, close]
  · rintro rfl
    exact hne rfl

end Fields
