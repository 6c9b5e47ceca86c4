/-
# Colourings of a ring

A permutation `σ` puts the points of a type on rings.  A colouring respects a
set `D` of marked points if every marked point has its own colour on both of
its neighbours (`Respects`).  How far does that tie the marked points to each
other?  Exactly as far as one can walk from marked point to marked point in
strides of at most two places: such a colouring is constant along the walk
(`Respects.of_linked`), and two marked points with no walk between them get
different colours from some such colouring (`exists_respects`).
-/

import Mathlib.Logic.Equiv.Defs
import Mathlib.Logic.Relation
import Mathlib.Data.Set.Defs

namespace Colouring

variable {α : Type*} {σ : Equiv.Perm α} {D : Set α} {o : α → Prop} {a b : α}

/-- Each marked point and its two neighbours have one colour. -/
def Respects (σ : Equiv.Perm α) (D : Set α) (o : α → Prop) : Prop :=
  ∀ j ∈ D, (o (σ j) ↔ o j) ∧ (o (σ.symm j) ↔ o j)

/-- The two points are equal or neighbours. -/
def Beside (σ : Equiv.Perm α) (a b : α) : Prop := b = a ∨ b = σ a ∨ b = σ.symm a

/-- The two points are at most two places apart. -/
def Near (σ : Equiv.Perm α) (a b : α) : Prop := ∃ c, Beside σ a c ∧ Beside σ b c

/-- The second point is reached from the first over marked points, in strides
of at most two places. -/
def Linked (σ : Equiv.Perm α) (D : Set α) : α → α → Prop :=
  Relation.ReflTransGen fun a b => b ∈ D ∧ Near σ a b

/-- Each place of a ring is beside itself. -/
theorem Beside.refl (σ : Equiv.Perm α) (a : α) : Beside σ a a := .inl rfl

/-- A choice that respects the differing places is the same on two of them
that stand beside each other. -/
theorem Respects.of_beside (h : Respects σ D o) (ha : a ∈ D) (hab : Beside σ a b) :
    o b ↔ o a := by
  rcases hab with rfl | rfl | rfl
  · exact Iff.rfl
  · exact (h a ha).1
  · exact (h a ha).2

/-- **A walk keeps the colour**: along places that differ and stand beside
each other, a choice that respects them cannot change. -/
theorem Respects.of_linked (h : Respects σ D o) (ha : a ∈ D) (hab : Linked σ D a b) :
    o b ↔ o a := by
  have hmem : b ∈ D ∧ (o b ↔ o a) := by
    induction hab with
    | refl => exact ⟨ha, Iff.rfl⟩
    | tail _ hstep ih =>
      obtain ⟨hc, d, hbd, hcd⟩ := hstep
      exact ⟨hc, (h.of_beside hc hcd).symm.trans ((h.of_beside ih.1 hbd).trans ih.2)⟩
  exact hmem.2

/-- **Points with no walk between them** are told apart: colour what lies
beside the walks from the first. -/
theorem exists_respects (hb : b ∈ D) (hab : ¬Linked σ D a b) :
    ∃ o, Respects σ D o ∧ o a ∧ ¬o b := by
  have hwalk : ∀ {c d e}, Linked σ D a c → Beside σ c e → d ∈ D → Beside σ d e →
      Linked σ D a d := fun hc hce hd hde => hc.tail ⟨hd, _, hce, hde⟩
  have hiff : ∀ j ∈ D, ∀ e, Beside σ j e →
      ((∃ c, Linked σ D a c ∧ Beside σ c e) ↔ Linked σ D a j) := fun j hj e he =>
    ⟨fun ⟨_, hc, hce⟩ => hwalk hc hce hj he, fun hlink => ⟨j, hlink, he⟩⟩
  refine ⟨fun e => ∃ c, Linked σ D a c ∧ Beside σ c e, fun j hj => ⟨?_, ?_⟩, ?_, ?_⟩
  · exact (hiff j hj _ (.inr (.inl rfl))).trans (hiff j hj _ (.refl σ j)).symm
  · exact (hiff j hj _ (.inr (.inr rfl))).trans (hiff j hj _ (.refl σ j)).symm
  · exact ⟨a, .refl, .refl σ a⟩
  · exact mt (hiff b hb _ (.refl σ b)).1 hab

end Colouring
