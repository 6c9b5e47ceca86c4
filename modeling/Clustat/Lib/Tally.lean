/-
# Counting the members of a family

A machine has a family of parts, and a step changes one of them.  `tally p f` is the number of
those with a property; it changes with the part that is changed (`tally_update`), and not with
what the property does not see (`tally_congr`).
-/

import Mathlib.Algebra.Order.BigOperators.Group.Finset
import Mathlib.Data.Fintype.BigOperators

open scoped BigOperators

variable {ι α : Type*} [Fintype ι]

/-- The number of members of a family that have a property. -/
def tally (p : α → Bool) (f : ι → α) : ℕ := ∑ i, (p (f i)).toNat

namespace Tally

variable {p q : α → Bool} {f g : ι → α}

/-- Two families with the same properties are counted alike. -/
theorem tally_congr (h : ∀ i, p (g i) = p (f i)) : tally p g = tally p f :=
  Finset.sum_congr rfl fun i _ => by rw [h i]

/-- A member that is changed is counted anew. -/
theorem tally_update [DecidableEq ι] (i : ι) (x : α) :
    tally p (Function.update f i x) + (p (f i)).toNat = tally p f + (p x).toNat := by
  have hrest : ∑ j ∈ Finset.univ.erase i, (p (Function.update f i x j)).toNat =
      ∑ j ∈ Finset.univ.erase i, (p (f j)).toNat :=
    Finset.sum_congr rfl fun j hj => by rw [Function.update_of_ne (Finset.ne_of_mem_erase hj)]
  rw [tally, tally, ← Finset.add_sum_erase _ _ (Finset.mem_univ i), hrest,
    ← Finset.add_sum_erase Finset.univ (fun j => (p (f j)).toNat) (Finset.mem_univ i),
    Function.update_self]
  omega

/-- Where nothing has the property the count is zero. -/
theorem tally_eq_zero (h : ∀ i, p (f i) = false) : tally p f = 0 :=
  Finset.sum_eq_zero fun i _ => by rw [h i]; rfl

/-- A weaker property counts no less. -/
theorem tally_le (h : ∀ x, p x = true → q x = true) : tally p f ≤ tally q f :=
  Finset.sum_le_sum fun i _ => Bool.toNat_le_toNat (Bool.le_iff_imp.2 (h (f i)))

end Tally
