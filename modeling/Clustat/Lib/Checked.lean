/-
# Reads that can panic

An index, a slice, the copy of a slice into an array and an unsigned subtraction either have
a value or stop the program.  Here they are in `Option`, where `none` is the panic, so that a
computation made of them says itself where it can stop.  Every read comes with the lemma
that gives its value where it has one.
-/

import Clustat.Lib.BigEndian

namespace Checked

variable {α ε : Type*}

/-- `xs[i]`. -/
def index (xs : List α) (i : ℕ) : Option α := xs[i]?

/-- `xs[i] = a`. -/
def assign (xs : List α) (i : ℕ) (a : α) : Option (List α) :=
  if i < xs.length then some (xs.set i a) else none

/-- `xs[i..j]`. -/
def range (xs : List α) (i j : ℕ) : Option (List α) :=
  if i ≤ j ∧ j ≤ xs.length then some ((xs.drop i).take (j - i)) else none

/-- `xs[i..]`. -/
def rangeFrom (xs : List α) (i : ℕ) : Option (List α) :=
  if i ≤ xs.length then some (xs.drop i) else none

/-- The array of `n` elements that a slice is converted to, or copied into. -/
def array (n : ℕ) (xs : List α) : Option (List α) := if xs.length = n then some xs else none

/-- `a - b`, unsigned. -/
def sub (a b : ℕ) : Option ℕ := if b ≤ a then some (a - b) else none

/-- `a + b`, of a type with `bound` values. -/
def add (bound a b : ℕ) : Option ℕ := if a + b < bound then some (a + b) else none

/-- `a % b`. -/
def rem (a b : ℕ) : Option ℕ := if b = 0 then none else some (a % b)

/-- The width of a formatted argument that is an argument itself: it has to be a `u16`. -/
def formatWidth (width : ℕ) : Option ℕ := if width < 2 ^ 16 then some width else none

/-- A big-endian field: the slice `xs[i..j]`, as an array of `w` bytes. -/
def field (w : ℕ) (xs : List UInt8) (i j : ℕ) : Option ℕ := do
  let bytes ← range xs i j
  let bytes ← array w bytes
  return BigEndian.ofBytes bytes

/-- `for x in xs { body(x)?; }`. -/
def forEach (body : α → Option (Except ε Unit)) : List α → Option (Except ε Unit)
  | [] => some (.ok ())
  | x :: xs => do
    match ← body x with
    | .error e => return .error e
    | .ok () => forEach body xs

/-- `for x in xs { s = step(s, x)?; }`. -/
def fold {σ : Type*} (step : σ → α → Option (Except ε σ)) : σ → List α → Option (Except ε σ)
  | s, [] => some (.ok s)
  | s, x :: xs =>
    match step s x with
    | none => none
    | some (.error e) => some (.error e)
    | some (.ok s) => fold step s xs

/-! ### Where the reads have a value -/

/-- An assignment inside the bounds does not panic. -/
theorem assign_of_lt {xs : List α} {i : ℕ} (h : i < xs.length) (a : α) :
    assign xs i a = some (xs.set i a) := if_pos h

/-- The rest of a list from an index up to its length is there, empty at the
end. -/
theorem rangeFrom_of_le {xs : List α} {i : ℕ} (h : i ≤ xs.length) :
    rangeFrom xs i = some (xs.drop i) := if_pos h

/-- A subtraction that stays at zero or above does not underflow. -/
theorem sub_of_le {a b : ℕ} (h : b ≤ a) : sub a b = some (a - b) := if_pos h

/-- An addition that stays below the bound of its type does not overflow. -/
theorem add_of_lt {bound a b : ℕ} (h : a + b < bound) : add bound a b = some (a + b) := if_pos h

/-- A remainder by what is not zero does not panic. -/
theorem rem_of_ne_zero (a : ℕ) {b : ℕ} (h : b ≠ 0) : rem a b = some (a % b) := if_neg h

/-- A format width that fits 16 bits is accepted as it is. -/
theorem formatWidth_of_lt {width : ℕ} (h : width < 2 ^ 16) : formatWidth width = some width :=
  if_pos h

/-- From `2 ^ 16` on a format width panics: the formatter holds it in 16 bits.
-/
theorem formatWidth_of_le {width : ℕ} (h : 2 ^ 16 ≤ width) : formatWidth width = none :=
  if_neg (Nat.not_lt.2 h)

/-- An index inside the bounds reads its byte. -/
theorem index_of_lt {xs : List UInt8} {i : ℕ} (h : i < xs.length) :
    index xs i = some (BigEndian.byteAt xs i) := by
  rw [index, BigEndian.byteAt, List.getElem?_eq_getElem h, Option.getD_some]

/-- A range inside the bounds, with its ends in order, is the slice. -/
theorem range_of_le {xs : List UInt8} {i j : ℕ} (hij : i ≤ j) (hj : j ≤ xs.length) :
    range xs i j = some (BigEndian.slice xs i j) := if_pos ⟨hij, hj⟩

/-- A fixed-size field inside the bounds converts to its array, so its number
is read. -/
theorem field_of_le {w i j : ℕ} {xs : List UInt8} (hw : i + w = j) (hj : j ≤ xs.length) :
    field w xs i j = some (BigEndian.ofBytes (BigEndian.slice xs i j)) := by
  have hlen : (BigEndian.slice xs i j).length = w := by
    rw [BigEndian.length_slice hj]
    omega
  have harray : array w (BigEndian.slice xs i j) = some (BigEndian.slice xs i j) := if_pos hlen
  rw [field, range_of_le (by omega) hj, Option.bind_eq_bind, Option.bind_some, harray]
  rfl

/-- **A loop that collects values** has one if every turn has: it comes to the
list of them, in the order of the elements. -/
theorem mapM_eq_some {β : Type*} {f : β → Option α} {g : β → α} {xs : List β}
    (h : ∀ x ∈ xs, f x = some (g x)) : xs.mapM f = some (xs.map g) := by
  induction xs with
  | nil => rfl
  | cons x xs ih =>
    rw [List.mapM_cons, h x List.mem_cons_self, ih fun y hy => h y (List.mem_cons_of_mem _ hy)]
    rfl

/-- **A loop that panics in one of its turns** comes to nothing, whatever the
turns before it have collected. -/
theorem mapM_eq_none {β : Type*} {f : β → Option α} {xs : List β} {x : β} (hx : x ∈ xs)
    (h : f x = none) : xs.mapM f = none := by
  induction xs with
  | nil => cases hx
  | cons y xs ih =>
    rw [List.mapM_cons]
    rcases List.mem_cons.1 hx with rfl | hx
    · rw [h]
      rfl
    · cases f y with
      | none => rfl
      | some a =>
        rw [ih hx]
        rfl

/-- **A loop whose turns have a value under a condition** has one if it holds of all of them. -/
theorem mapM_ite {β : Type*} {p : β → Prop} [DecidablePred p] (g : β → α) (xs : List β) :
    (xs.mapM fun x => if p x then some (g x) else none) =
      if ∀ x ∈ xs, p x then some (xs.map g) else none := by
  split_ifs with h
  · exact mapM_eq_some fun x hx => if_pos (h x hx)
  · push Not at h
    obtain ⟨x, hx, hp⟩ := h
    exact mapM_eq_none hx (if_neg hp)

/-- **A loop that skips some elements** goes through the others, in their
order: it comes to what the loop over those that are left comes to. -/
theorem mapM_filterMap {β γ : Type*} (f : β → Option γ) (g : γ → Option (List α)) (xs : List β) :
    (xs.mapM fun x => (f x).elim (some []) g).map List.flatten =
      ((xs.filterMap f).mapM g).map List.flatten := by
  induction xs with
  | nil => rfl
  | cons x xs ih =>
    rw [List.mapM_cons, List.filterMap_cons]
    cases f x with
    | none =>
      rw [← ih]
      cases xs.mapM fun x => (f x).elim (some []) g <;> rfl
    | some y =>
      rw [Option.elim_some, List.mapM_cons]
      cases g y with
      | none => rfl
      | some a =>
        have happend := congrArg (Option.map (a ++ ·)) ih
        rw [Option.map_map, Option.map_map] at happend
        revert happend
        cases (xs.mapM fun x => (f x).elim (some []) g) <;>
          cases (xs.filterMap f).mapM g <;> exact id

/-- **A loop whose turns are checks** runs to the first that fails. None of
its turns panics, so it accepts if all of them do and otherwise has the error
of the check. -/
theorem forEach_of_checks {body : α → Option (Except ε Unit)} {ok : α → Bool} {e : ε}
    {xs : List α} (h : ∀ x ∈ xs, body x = some (if ok x then .ok () else .error e)) :
    forEach body xs = some (if xs.all ok then .ok () else .error e) := by
  induction xs with
  | nil => rfl
  | cons x xs ih =>
    have ih := ih fun y hy => h y (List.mem_cons_of_mem x hy)
    rw [forEach, h x List.mem_cons_self, List.all_cons]
    cases ok x with
    | false => rfl
    | true => exact ih

/-- **A run of steps with an invariant** has a state after every step, if a step has one
where the invariant holds and keeps it. -/
theorem foldlM_eq {σ ι : Type*} {step : σ → ι → Option σ} {next : σ → ι → σ} {Inv : σ → Prop}
    (hstep : ∀ s x, Inv s → step s x = some (next s x) ∧ Inv (next s x)) {s : σ} (hs : Inv s)
    (xs : List ι) : xs.foldlM step s = some (xs.foldl next s) ∧ Inv (xs.foldl next s) := by
  induction xs generalizing s with
  | nil => exact ⟨rfl, hs⟩
  | cons x xs ih =>
    obtain ⟨hx, hinv⟩ := hstep s x hs
    rw [List.foldlM_cons, hx]
    exact ih hinv

section Fold

variable {σ : Type*} {step : σ → α → Option (Except ε σ)}

/-- **What every step keeps** holds where the loop ends, if it ends without an
error and without a panic. -/
theorem fold_keeps {P : σ → Prop}
    (hstep : ∀ s x s', P s → step s x = some (.ok s') → P s') {s s' : σ} {xs : List α}
    (hs : P s) (h : fold step s xs = some (.ok s')) : P s' := by
  induction xs generalizing s with
  | nil =>
    cases h
    exact hs
  | cons x xs ih =>
    rw [fold] at h
    split at h
    · cases h
    · cases h
    · rename_i next hnext
      exact ih (hstep _ _ _ hs hnext) h

/-- **Where a loop panics**: at the first step that does not succeed, if that one panics.  What
becomes of a step is to depend on the element alone. -/
theorem fold_eq_none_iff {accepted panics : α → Prop}
    (haccepted : ∀ s x, accepted x ↔ ∃ s', step s x = some (.ok s'))
    (hpanics : ∀ s x, panics x ↔ step s x = none) {s : σ} {xs : List α} :
    fold step s xs = none ↔
      ∃ front x back, xs = front ++ x :: back ∧ (∀ y ∈ front, accepted y) ∧ panics x := by
  induction xs generalizing s with
  | nil => exact iff_of_false nofun fun ⟨_, _, _, h, _⟩ => by simp at h
  | cons x xs ih =>
    have hcons : (∃ front y back, x :: xs = front ++ y :: back ∧ (∀ z ∈ front, accepted z) ∧
          panics y) ↔
        panics x ∨ accepted x ∧ ∃ front y back, xs = front ++ y :: back ∧
          (∀ z ∈ front, accepted z) ∧ panics y := by
      constructor
      · rintro ⟨front, y, back, hsplit, hfront, hy⟩
        cases front with
        | nil =>
          cases hsplit
          exact .inl hy
        | cons z front =>
          cases hsplit
          rw [List.forall_mem_cons] at hfront
          exact .inr ⟨hfront.1, front, y, back, rfl, hfront.2, hy⟩
      · rintro (hx | ⟨hx, front, y, back, rfl, hfront, hy⟩)
        · exact ⟨[], x, xs, rfl, List.forall_mem_nil _, hx⟩
        · exact ⟨x :: front, y, back, rfl, List.forall_mem_cons.2 ⟨hx, hfront⟩, hy⟩
    rw [hcons, hpanics s, haccepted s, fold]
    split
    · rename_i hnone
      exact iff_of_true rfl (.inl hnone)
    · rename_i e herror
      simp [herror]
    · rename_i next hnext
      simp [hnext, ih]

end Fold

end Checked
