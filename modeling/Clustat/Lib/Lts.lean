/-
# Labelled transition systems

Concurrent and sequential components are modelled alike: a set of initial
states and a labelled step relation (`Lts`).  What is proved about them is
proved of every reachable state, and always in the same way: a predicate that
holds initially and that every step keeps holds in every reachable state
(`Reachable.invariant`).  What every run comes to (`Inevitable`) is proved with
a variant that every step makes smaller (`inevitable_of_variant`).  `restrict`
is the system whose steps all meet a condition, so that "in every run whose
steps all meet the condition" is reachability in it; `ofFn` is the system of an
executable step function, whose runs are computed by `exec`.
-/

import Mathlib.Data.List.Basic
import Mathlib.Order.RelClasses
import Mathlib.Tactic.SplitIfs

/-- A transition system: initial states and labelled steps. -/
structure Lts (σ α : Type*) where
  init : σ → Prop
  step : σ → α → σ → Prop

namespace Lts

variable {σ α : Type*} {M : Lts σ α}

/-- A finite run, with the labels of its steps. -/
inductive Run (M : Lts σ α) : σ → List α → σ → Prop
  | nil (s : σ) : Run M s [] s
  | cons {s t u : σ} {a : α} {as : List α} : M.step s a t → Run M t as u → Run M s (a :: as) u

/-- A state some run from an initial state ends in. -/
def Reachable (M : Lts σ α) (s : σ) : Prop := ∃ s₀ as, M.init s₀ ∧ M.Run s₀ as s

/-- Two runs, one from where the other ends, are one run. -/
theorem Run.append {s t u : σ} {as bs : List α} (h : M.Run s as t) (h' : M.Run t bs u) :
    M.Run s (as ++ bs) u := by
  induction h with
  | nil => exact h'
  | cons hs _ ih => exact .cons hs (ih h')

/-- One step is a run. -/
theorem Run.single {s t : σ} {a : α} (h : M.step s a t) : M.Run s [a] t := .cons h (.nil t)

/-- **The invariant rule for runs**: what holds at the start and is kept by
every step holds where the run ends. -/
theorem Run.invariant {I : σ → Prop} {s t : σ} {as : List α} (h : M.Run s as t)
    (hstep : ∀ s a t, I s → M.step s a t → I t) (hs : I s) : I t := by
  induction h with
  | nil => exact hs
  | cons h _ ih => exact ih (hstep _ _ _ hs h)

/-- An initial state is reachable, by the run of no steps. -/
theorem Reachable.of_init {s : σ} (h : M.init s) : M.Reachable s := ⟨s, [], h, .nil s⟩

/-- A run from a reachable state leads to a reachable state. -/
theorem Reachable.run {s t : σ} {as : List α} (h : M.Reachable s) (h' : M.Run s as t) :
    M.Reachable t := by
  obtain ⟨s₀, bs, h₀, hb⟩ := h
  exact ⟨s₀, bs ++ as, h₀, hb.append h'⟩

/-- A step from a reachable state leads to a reachable state. -/
theorem Reachable.step {s t : σ} {a : α} (h : M.Reachable s) (h' : M.step s a t) :
    M.Reachable t := h.run (.single h')

/-- **The invariant rule.**  What holds initially and is kept by every step
holds in every reachable state. -/
theorem Reachable.invariant {I : σ → Prop} {s : σ} (h : M.Reachable s)
    (hinit : ∀ s, M.init s → I s) (hstep : ∀ s a t, I s → M.step s a t → I t) : I s := by
  obtain ⟨s₀, as, h₀, hr⟩ := h
  exact hr.invariant hstep (hinit s₀ h₀)

/-- A run is one of another system that allows its steps. -/
theorem Run.mono {N : Lts σ α} {s t : σ} {as : List α} (h : M.Run s as t)
    (hstep : ∀ a ∈ as, ∀ s t, M.step s a t → N.step s a t) : N.Run s as t := by
  induction h with
  | nil s => exact .nil s
  | cons hs _ ih =>
    exact .cons (hstep _ List.mem_cons_self _ _ hs)
      (ih fun a ha => hstep a (List.mem_cons_of_mem _ ha))

/-! ### Runs whose steps all meet a condition -/

/-- The system with the steps that meet `C` in the state they are taken from. -/
def restrict (M : Lts σ α) (C : σ → α → Prop) : Lts σ α where
  init := M.init
  step s a t := M.step s a t ∧ C s a

/-- What is reachable under a condition on the steps is reachable without it.
-/
theorem Reachable.of_restrict {C : σ → α → Prop} {s : σ} (h : (M.restrict C).Reachable s) :
    M.Reachable s := by
  obtain ⟨s₀, as, h₀, hr⟩ := h
  exact ⟨s₀, as, h₀, hr.mono fun _ _ _ _ hs => hs.1⟩

/-! ### What every run comes to -/

/-- Every run from the state comes to one of `P`: the state is one already, or there is a
step, and whichever is taken, every run from there does. -/
inductive Inevitable (M : Lts σ α) (P : σ → Prop) : σ → Prop
  | now {s : σ} (h : P s) : Inevitable M P s
  | later {s : σ} (hsome : ∃ a t, M.step s a t)
    (hall : ∀ a t, M.step s a t → Inevitable M P t) : Inevitable M P s

/-- **The variant rule.**  Where `I` holds but not yet `P`, there is a step, and every step
keeps `I` and makes `f` smaller. -/
theorem inevitable_of_variant {β : Type*} [LT β] [WellFoundedLT β] (f : σ → β) {I P : σ → Prop}
    (hsome : ∀ s, I s → ¬P s → ∃ a t, M.step s a t)
    (hstep : ∀ s a t, I s → ¬P s → M.step s a t → I t ∧ f t < f s) {s : σ} (hs : I s) :
    M.Inevitable P s := by
  induction s using (InvImage.wf f wellFounded_lt).induction with
  | _ s ih =>
    by_cases hP : P s
    · exact .now hP
    · refine .later (hsome s hs hP) fun a t ht => ?_
      obtain ⟨hI, hlt⟩ := hstep s a t hs hP ht
      exact ih t hlt hI

/-- What every run comes to, some run does. -/
theorem Inevitable.exists_run {P : σ → Prop} {s : σ} (h : M.Inevitable P s) :
    ∃ as t, M.Run s as t ∧ P t := by
  induction h with
  | now h => exact ⟨[], _, .nil _, h⟩
  | later hsome _ ih =>
    obtain ⟨a, t, hstep⟩ := hsome
    obtain ⟨as, u, hrun, hu⟩ := ih a t hstep
    exact ⟨a :: as, u, .cons hstep hrun, hu⟩

/-! ### Executable systems -/

/-- The system of a partial step function from one initial state. -/
def ofFn (s₀ : σ) (f : σ → α → Option σ) : Lts σ α where
  init s := s = s₀
  step s a t := f s a = some t

/-- The state a list of labels leads to, if every step is enabled. -/
def exec (f : σ → α → Option σ) : σ → List α → Option σ
  | s, [] => some s
  | s, a :: as => (f s a).bind fun t => exec f t as

/-- The runs of a function's system are what its execution computes. -/
theorem run_of_exec {s₀ : σ} {f : σ → α → Option σ} {s t : σ} {as : List α}
    (h : exec f s as = some t) : (ofFn s₀ f).Run s as t := by
  induction as generalizing s with
  | nil =>
      obtain rfl := Option.some.inj h
      exact .nil s
  | cons a as ih =>
      obtain ⟨u, hu, ht⟩ := Option.bind_eq_some_iff.1 h
      exact .cons hu (ih ht)

/-- The labels of a run determine where it ends. -/
theorem Run.ofFn_unique {s₀ : σ} {f : σ → α → Option σ} {s t u : σ} {as : List α}
    (h : (ofFn s₀ f).Run s as t) (h' : (ofFn s₀ f).Run s as u) : t = u := by
  induction h with
  | nil s =>
    cases h'
    rfl
  | cons hs _ ih =>
    cases h' with
    | cons hs' hr' =>
      obtain rfl := Option.some.inj (hs.symm.trans hs')
      exact ih hr'

/-- A run whose steps are checked against a condition as it is computed. -/
theorem run_restrict_of_exec {s₀ : σ} {f : σ → α → Option σ} {C : σ → α → Prop}
    [∀ s a, Decidable (C s a)] {s t : σ} {as : List α}
    (h : exec (fun s a => if C s a then f s a else none) s as = some t) :
    ((ofFn s₀ f).restrict C).Run s as t := by
  refine (run_of_exec h : (ofFn s₀ _).Run s as t).mono fun a _ s t hs => ?_
  change (if C s a then f s a else none) = some t at hs
  split_ifs at hs with hC
  exact ⟨hs, hC⟩

/-- Checking a condition does not change where a run leads. -/
theorem exec_of_checked {f : σ → α → Option σ} {C : σ → α → Prop} [∀ s a, Decidable (C s a)]
    {s t : σ} {as : List α} (h : exec (fun s a => if C s a then f s a else none) s as = some t) :
    exec f s as = some t := by
  induction as generalizing s with
  | nil => exact h
  | cons a as ih =>
    obtain ⟨u, hu, ht⟩ := Option.bind_eq_some_iff.1 h
    dsimp only at hu
    split_ifs at hu
    exact Option.bind_eq_some_iff.2 ⟨u, hu, ih ht⟩

/-- A computed run whose labels meet a condition in every state. -/
theorem run_restrict_of_forall {s₀ : σ} {f : σ → α → Option σ} {C : σ → α → Prop} {s t : σ}
    {as : List α} (h : exec f s as = some t) (hC : ∀ s, ∀ a ∈ as, C s a) :
    ((ofFn s₀ f).restrict C).Run s as t :=
  (run_of_exec h : (ofFn s₀ f).Run s as t).mono fun a ha s _ hs => ⟨hs, hC s a ha⟩

/-! ### Loops -/

/-- A condition on every step of a loop. -/
def Along (f : σ → α → σ) (C : σ → α → Prop) : σ → List α → Prop
  | _, [] => True
  | s, a :: as => C s a ∧ Along f C (f s a) as

instance Along.decidable (f : σ → α → σ) (C : σ → α → Prop) [∀ s a, Decidable (C s a)] :
    ∀ s as, Decidable (Along f C s as)
  | _, [] => .isTrue trivial
  | s, a :: as => @instDecidableAnd _ _ _ (Along.decidable f C (f s a) as)

/-- A condition that each action meets in every state holds along the whole
run. -/
theorem along_of_forall {f : σ → α → σ} {C : σ → α → Prop} {s : σ} {as : List α}
    (h : ∀ a ∈ as, ∀ s, C s a) : Along f C s as := by
  induction as generalizing s with
  | nil => trivial
  | cons a as ih =>
    exact ⟨h a List.mem_cons_self s, ih fun b hb => h b (List.mem_cons_of_mem _ hb)⟩

/-- **The invariant rule for loops**: what holds before the loop, and is kept
by every turn that meets its condition, holds after it. -/
theorem foldl_invariant {f : σ → α → σ} {C : σ → α → Prop} {I : σ → Prop} {s : σ} {as : List α}
    (h : Along f C s as) (hstep : ∀ s a, I s → C s a → I (f s a)) (hs : I s) :
    I (as.foldl f s) := by
  induction as generalizing s with
  | nil => exact hs
  | cons a as ih => exact ih h.2 (hstep s a hs h.1)

end Lts
