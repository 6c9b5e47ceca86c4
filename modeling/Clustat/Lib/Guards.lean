/-
# Checks with early returns

A validator is a sequence of checks, and the first that refuses is its result.  It accepts
exactly if every check does, whatever their order: one lemma for a check, one for what follows it,
and one for a loop of checks.  What it refuses with is what one of its checks refuses with.
-/

import Mathlib.Data.List.Basic
import Mathlib.Data.List.Forall2
import Mathlib.Tactic.SplitIfs

namespace Guards

variable {ε ε' α β : Type}

/-- `if bad { return Err(error) }`. -/
def refuseIf (bad : Prop) [Decidable bad] (error : ε) : Except ε Unit :=
  if bad then .error error else .ok ()

/-- `ok_or`. -/
def okOr (error : ε) : Option α → Except ε α
  | none => .error error
  | some a => .ok a

/-- **A check accepts** if it does not refuse; this is the guard that a
function starts with. -/
theorem refuseIf_eq_ok {bad : Prop} [Decidable bad] {error : ε} {u : Unit} :
    refuseIf bad error = .ok u ↔ ¬bad := by
  rw [refuseIf]
  split_ifs with h
  · exact iff_of_false nofun (not_not_intro h)
  · exact iff_of_true rfl h

/-- **What follows** is reached if what comes first comes to something. With
this a chain of checks is taken apart one by one, and nothing needs to be
unfolded. -/
theorem bind_eq_ok {x : Except ε α} {next : α → Except ε β} {b : β} :
    (x >>= next) = .ok b ↔ ∃ a, x = .ok a ∧ next a = .ok b := by
  cases x with
  | error e => exact iff_of_false nofun fun ⟨_, h, _⟩ => nomatch h
  | ok a => exact ⟨fun h => ⟨a, rfl, h⟩, fun ⟨_, ha, h⟩ => Except.ok.inj ha ▸ h⟩

/-- **A loop of checks** accepts if every turn does, whatever their order. -/
theorem forM_eq_ok {check : α → Except ε Unit} {xs : List α} {u : Unit} :
    xs.forM check = .ok u ↔ ∀ x ∈ xs, check x = .ok () := by
  induction xs with
  | nil => exact iff_of_true rfl (List.forall_mem_nil _)
  | cons x xs ih =>
    rw [List.forall_mem_cons, ← ih]
    exact bind_eq_ok.trans ⟨fun ⟨_, h, h'⟩ => ⟨h, h'⟩, fun ⟨h, h'⟩ => ⟨(), h, h'⟩⟩

/-- **A loop that collects** comes to something if every turn does, and then
it has collected what the turns come to, one for one. -/
theorem mapM_eq_ok {f : α → Except ε β} {xs : List α} {ys : List β} :
    xs.mapM f = .ok ys ↔ List.Forall₂ (fun x y => f x = .ok y) xs ys := by
  induction xs generalizing ys with
  | nil =>
    rw [List.forall₂_nil_left_iff]
    exact ⟨fun h => (Except.ok.inj h).symm, fun h => h ▸ rfl⟩
  | cons x xs ih =>
    rw [List.mapM_cons, bind_eq_ok, List.forall₂_cons_left_iff]
    constructor
    · rintro ⟨y, hy, h⟩
      obtain ⟨ys', hys', h⟩ := bind_eq_ok.1 h
      exact ⟨y, ys', hy, ih.1 hys', (Except.ok.inj h).symm⟩
    · rintro ⟨y, ys', hy, hys', rfl⟩
      exact ⟨y, hy, bind_eq_ok.2 ⟨ys', ih.2 hys', rfl⟩⟩

/-- **A loop that collects** collects if every turn can; what it collects is
not said here. -/
theorem exists_mapM_eq_ok {f : α → Except ε β} {xs : List α} :
    (∃ ys, xs.mapM f = .ok ys) ↔ ∀ x ∈ xs, ∃ y, f x = .ok y := by
  simp only [mapM_eq_ok]
  induction xs with
  | nil => exact iff_of_true ⟨[], .nil⟩ (List.forall_mem_nil _)
  | cons x xs ih =>
    rw [List.forall_mem_cons, ← ih]
    constructor
    · rintro ⟨_, hy | ⟨hy, hys⟩⟩
      exact ⟨⟨_, hy⟩, _, hys⟩
    · rintro ⟨⟨y, hy⟩, ys, hys⟩
      exact ⟨y :: ys, .cons hy hys⟩

/-- `ok_or` succeeds with what is there. -/
theorem okOr_eq_ok {o : Option α} {error : ε} {a : α} : okOr error o = .ok a ↔ o = some a := by
  cases o <;> simp [okOr]

/-- Changing the error leaves a success alone. -/
theorem mapError_eq_ok {x : Except ε α} {g : ε → ε'} {a : α} :
    x.mapError g = .ok a ↔ x = .ok a := by
  cases x <;> simp [Except.mapError]

/-! ### What is refused with -/

/-- A guard fails with its own error, and only where its condition holds. -/
theorem refuseIf_eq_error {bad : Prop} [Decidable bad] {error e : ε} :
    refuseIf bad error = .error e ↔ bad ∧ error = e := by
  rw [refuseIf]
  split_ifs with h <;> simp [h]

/-- **What is refused** is refused by what comes first, or by what follows;
this tells where an error has come from. -/
theorem bind_eq_error {x : Except ε α} {next : α → Except ε β} {e : ε} :
    (x >>= next) = .error e ↔ x = .error e ∨ ∃ a, x = .ok a ∧ next a = .error e := by
  cases x with
  | error e' =>
    exact ⟨fun h => .inl (Except.error.inj h ▸ rfl), fun h => h.elim (fun h => h ▸ rfl)
      fun ⟨_, ha, _⟩ => nomatch ha⟩
  | ok a =>
    exact ⟨fun h => .inr ⟨a, rfl, h⟩, fun h => h.elim (fun h => nomatch h)
      fun ⟨_, ha, h⟩ => Except.ok.inj ha ▸ h⟩

/-- A loop of checks is refused what one of its turns is refused. -/
theorem forM_eq_error {check : α → Except ε Unit} {xs : List α} {e : ε}
    (h : xs.forM check = .error e) : ∃ x ∈ xs, check x = .error e := by
  induction xs with
  | nil => cases h
  | cons x xs ih =>
    rcases bind_eq_error.1 h with h | ⟨_, -, h⟩
    · exact ⟨x, List.mem_cons_self, h⟩
    · obtain ⟨x', hx', hcheck⟩ := ih h
      exact ⟨x', List.mem_cons_of_mem _ hx', hcheck⟩

/-- A loop that collects is refused what one of its turns is refused. -/
theorem mapM_eq_error {f : α → Except ε β} {xs : List α} {e : ε} (h : xs.mapM f = .error e) :
    ∃ x ∈ xs, f x = .error e := by
  induction xs with
  | nil => cases h
  | cons x xs ih =>
    rw [List.mapM_cons, bind_eq_error] at h
    rcases h with h | ⟨y, -, h⟩
    · exact ⟨x, List.mem_cons_self, h⟩
    · rcases bind_eq_error.1 h with h | ⟨_, -, h⟩
      · obtain ⟨x', hx', hf⟩ := ih h
        exact ⟨x', List.mem_cons_of_mem _ hx', hf⟩
      · cases h

/-- `ok_or` fails with its own error where nothing is there. -/
theorem okOr_eq_error {o : Option α} {error e : ε} :
    okOr error o = .error e ↔ o = none ∧ error = e := by
  cases o <;> simp [okOr]

/-- A changed error comes from an error of the computation. -/
theorem mapError_eq_error {x : Except ε α} {g : ε → ε'} {e : ε'} :
    x.mapError g = .error e ↔ ∃ e', x = .error e' ∧ g e' = e := by
  cases x <;> simp [Except.mapError]

/-! ### Checks that can panic -/

/-- What is asked of a step that can be refused, and can panic: it comes to something as it is to
be, or is refused for a reason. -/
inductive Outcome (accepts : α → Prop) (refuses : ε → Prop) : ExceptT ε Option α → Prop
  | ok {a : α} (h : accepts a) : Outcome accepts refuses (.mk (some (.ok a)))
  | error {e : ε} (h : refuses e) : Outcome accepts refuses (.mk (some (.error e)))

namespace Outcome

variable {accepts : α → Prop} {refuses : ε → Prop}

/-- A step that cannot panic. -/
theorem of {x : Except ε α} (hok : ∀ a, x = .ok a → accepts a)
    (herror : ∀ e, x = .error e → refuses e) : Outcome accepts refuses (.mk (some x)) := by
  cases x with
  | ok a => exact .ok (hok a rfl)
  | error e => exact .error (herror e rfl)

/-- A check that accepts exactly what is as it is to be: where it is refused, nothing is. -/
theorem of_iff {x : Except ε α} (hok : ∀ a, x = .ok a ↔ accepts a)
    (herror : ∀ e, x = .error e → (∀ a, ¬accepts a) → refuses e) :
    Outcome accepts refuses (.mk (some x)) := by
  refine .of (fun a => (hok a).1) fun e he => herror e he fun a ha => ?_
  rw [← hok a, he] at ha
  cases ha

/-- **A step after another** is taken with what is known of the first: its
outcome is accepted or refused as the second's is, for every value that the
first may have. -/
theorem bind {x : ExceptT ε Option α} {next : α → ExceptT ε Option β} {accepts' : β → Prop}
    (hx : Outcome accepts refuses x) (hnext : ∀ a, accepts a → Outcome accepts' refuses (next a)) :
    Outcome accepts' refuses (x >>= next) := by
  cases hx with
  | ok h => exact hnext _ h
  | error h => exact .error h

/-- What is said of the outcomes may be weakened, on the successes and on the
errors apart. -/
theorem imp {x : ExceptT ε Option α} {accepts' : α → Prop} {refuses' : ε → Prop}
    (hx : Outcome accepts refuses x) (hok : ∀ a, accepts a → accepts' a)
    (herror : ∀ e, refuses e → refuses' e) : Outcome accepts' refuses' x := by
  cases hx with
  | ok h => exact .ok (hok _ h)
  | error h => exact .error (herror _ h)

end Outcome

end Guards
