/-
# Regions of a program that one thread at a time is in

Threads run the same program, and `threads` gives the local state of each.  A
region is a set of local states (a critical section, the stretch between a claim
and its release), and `Tracks region threads owner` says that `owner` is the one
thread in it, or that there is none.  A step changes the local state of one
thread, so it stays on its side of the border, enters or leaves: one rule for
each.
-/

import Mathlib.Logic.Function.Basic

namespace Region

variable {τ ℓ : Type*} {R : ℓ → Prop} {threads : τ → ℓ} {owner : Option τ}
  {t u : τ} {l : ℓ}

/-- `owner` is the one thread in the region, if any is. -/
def Tracks (R : ℓ → Prop) (threads : τ → ℓ) (owner : Option τ) : Prop :=
  ∀ t, R (threads t) ↔ owner = some t

/-- At most one thread is in a tracked region. -/
theorem Tracks.unique (h : Tracks R threads owner) (ht : R (threads t)) (hu : R (threads u)) :
    t = u :=
  Option.some.inj (((h t).1 ht).symm.trans ((h u).1 hu))

/-- There is an owner exactly while some thread is in the region. -/
theorem Tracks.isSome_iff (h : Tracks R threads owner) :
    owner.isSome ↔ ∃ t, R (threads t) := by
  rw [Option.isSome_iff_exists]
  exact exists_congr fun t => (h t).symm

/-- What keeps every thread on its side of the border keeps the owner. -/
theorem Tracks.map {f : ℓ → ℓ} (h : Tracks R threads owner) (hf : ∀ l, R (f l) ↔ R l) :
    Tracks R (fun t => f (threads t)) owner :=
  fun t => (hf (threads t)).trans (h t)

variable [DecidableEq τ]

/-- A step on one side of the border. -/
theorem Tracks.stay (h : Tracks R threads owner) (hl : R l ↔ R (threads t)) :
    Tracks R (Function.update threads t l) owner := by
  intro u
  by_cases hu : u = t
  · subst hu
    rw [Function.update_self, hl, h u]
  · rw [Function.update_of_ne hu, h u]

/-- A step into the empty region. -/
theorem Tracks.enter (h : Tracks R threads none) (hl : R l) :
    Tracks R (Function.update threads t l) (some t) := by
  intro u
  by_cases hu : u = t
  · subst hu
    rw [Function.update_self]
    exact iff_of_true hl rfl
  · rw [Function.update_of_ne hu, h u]
    exact iff_of_false nofun fun he => hu (Option.some.inj he).symm

/-- A step out of the region. -/
theorem Tracks.leave (h : Tracks R threads owner) (ht : R (threads t)) (hl : ¬ R l) :
    Tracks R (Function.update threads t l) none := by
  intro u
  by_cases hu : u = t
  · subst hu
    rw [Function.update_self]
    exact iff_of_false hl nofun
  · rw [Function.update_of_ne hu]
    exact iff_of_false (fun hr => hu (h.unique hr ht)) nofun

end Region
