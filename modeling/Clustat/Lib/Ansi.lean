/-
# Colours on a terminal

A terminal takes an escape character and what follows it, up to the next `m`, for a change of
colours; the rest it shows.  A text `Shows` another if that is what is to be seen of it,
whatever comes behind it, so that a text made of parts shows what its parts do.
-/

import Mathlib.Data.List.Basic

namespace Ansi

/-- What is to be seen of a text; `inside` an escape sequence, nothing up to its end. -/
def strip (inside : Bool) : List Char → List Char
  | [] => []
  | c :: cs =>
    if inside then strip (c != 'm') cs
    else if c = '\x1b' then strip true cs
    else c :: strip false cs

/-- All that is to be seen of a text is another. -/
def Shows (text shown : List Char) : Prop :=
  ∀ rest, strip false (text ++ rest) = shown ++ strip false rest

/-- What a text shows is what is left of it when the escape sequences are
taken out. -/
theorem Shows.strip_eq {text shown : List Char} (h : Shows text shown) :
    strip false text = shown := by
  have hnil := h []
  rwa [List.append_nil, strip, List.append_nil] at hnil

/-- The empty text shows nothing. -/
theorem Shows.nil : Shows [] [] := fun _ => rfl

/-- What one text shows after another, as no escape sequence runs over the
seam. -/
theorem Shows.append {a b a' b' : List Char} (h : Shows a a') (h' : Shows b b') :
    Shows (a ++ b) (a' ++ b') := by
  intro rest
  rw [List.append_assoc, h, h', List.append_assoc]

/-- A concatenation shows what its parts show, in their order. -/
theorem Shows.flatMap {α : Type*} {l : List α} {f g : α → List Char}
    (h : ∀ x ∈ l, Shows (f x) (g x)) : Shows (l.flatMap f) (l.flatMap g) := by
  induction l with
  | nil => exact .nil
  | cons x l ih =>
    rw [List.flatMap_cons, List.flatMap_cons]
    exact (h x List.mem_cons_self).append (ih fun y hy => h y (List.mem_cons_of_mem _ hy))

/-- A text without escape characters is shown as it is. -/
theorem Shows.plain {l : List Char} (h : '\x1b' ∉ l) : Shows l l := by
  intro rest
  induction l with
  | nil => rfl
  | cons c l ih =>
    rw [List.mem_cons, not_or] at h
    rw [List.cons_append, strip, if_neg Bool.false_ne_true, if_neg (Ne.symm h.1), ih h.2]
    rfl

/-- An escape sequence shows nothing. -/
theorem Shows.escape {code : List Char} (h : 'm' ∉ code) :
    Shows ('\x1b' :: (code ++ ['m'])) [] := by
  intro rest
  rw [List.cons_append, strip, if_neg Bool.false_ne_true, if_pos rfl, List.nil_append]
  induction code with
  | nil => rfl
  | cons c code ih =>
    rw [List.mem_cons, not_or] at h
    rw [List.cons_append, List.cons_append, strip, if_pos rfl, bne_iff_ne.2 (Ne.symm h.1)]
    exact ih h.2

end Ansi
