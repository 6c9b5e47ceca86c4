/-
# Threads that take locks in order

The locks a program takes, and nothing else of it: `Prog` has a block that runs
with a lock, sequence, branches that the rest of the program decides, and loops.
A thread is the stack of what it still has to do (`Instr`), and holds the locks it
still has to give back.  A lock is free while no thread holds it.

A deadlock is a cycle of threads that each wait for a lock the next one holds.
There is none if the locks have a rank and every program takes each lock above
all those it already holds (`Prog.Ascends`): along a chain of waiting threads the
ranks go up (`no_cycle`).
-/

import Clustat.Lib.Lts
import Mathlib.Logic.Relation
import Mathlib.Order.Basic

namespace Locks

/-- The locking of a program: `L` is the locks, and `ι` what it may pick a branch by. -/
inductive Prog (L ι : Type*)
  | skip
  /-- `body`, with the lock held. -/
  | locked (l : L) (body : Prog L ι)
  | seq (p q : Prog L ι)
  | either (p q : Prog L ι)
  | pick (p : ι → Prog L ι)
  /-- Any number of times. -/
  | loop (p : Prog L ι)

/-- What is left to do: run a program, or give a lock back. -/
inductive Instr (L ι : Type*)
  | run (p : Prog L ι)
  | unlock (l : L)

variable {L ι τ : Type*}

namespace Prog

/-- The program or nothing, as after a `?`. -/
def opt (p : Prog L ι) : Prog L ι := .either .skip p

/-- One after the other. -/
def all : List (Prog L ι) → Prog L ι
  | [] => .skip
  | p :: ps => .seq p (all ps)

/-- One after the other, or only the first few of them: every one may be the last,
as in a function that may return after it. -/
def upTo : List (Prog L ι) → Prog L ι
  | [] => .skip
  | p :: ps => .seq p (opt (upTo ps))

end Prog

/-- The locks a thread holds. -/
def held : List (Instr L ι) → List L
  | [] => []
  | .run _ :: k => held k
  | .unlock l :: k => l :: held k

/-- What is left of a thread that panics: it gives its locks back. -/
def unwinding : List (Instr L ι) → List (Instr L ι)
  | [] => []
  | .run _ :: k => unwinding k
  | .unlock l :: k => .unlock l :: unwinding k

/-- One step of a thread, when `free` says which locks are free. -/
inductive Step (free : L → Prop) : List (Instr L ι) → List (Instr L ι) → Prop
  | skip (k : List (Instr L ι)) : Step free (.run .skip :: k) k
  | lock {l : L} (p : Prog L ι) (k : List (Instr L ι)) (h : free l) :
    Step free (.run (.locked l p) :: k) (.run p :: .unlock l :: k)
  | unlock (l : L) (k : List (Instr L ι)) : Step free (.unlock l :: k) k
  | seq (p q : Prog L ι) (k : List (Instr L ι)) :
    Step free (.run (.seq p q) :: k) (.run p :: .run q :: k)
  | left (p q : Prog L ι) (k : List (Instr L ι)) : Step free (.run (.either p q) :: k) (.run p :: k)
  | right (p q : Prog L ι) (k : List (Instr L ι)) :
    Step free (.run (.either p q) :: k) (.run q :: k)
  | pick (p : ι → Prog L ι) (i : ι) (k : List (Instr L ι)) :
    Step free (.run (.pick p) :: k) (.run (p i) :: k)
  | stop (p : Prog L ι) (k : List (Instr L ι)) : Step free (.run (.loop p) :: k) k
  | again (p : Prog L ι) (k : List (Instr L ι)) :
    Step free (.run (.loop p) :: k) (.run p :: .run (.loop p) :: k)
  | panic (k : List (Instr L ι)) : Step free k (unwinding k)

/-- A lock no thread holds. -/
def Free (s : τ → List (Instr L ι)) (l : L) : Prop := ∀ t, l ∉ held (s t)

/-- Threads that each run a program. -/
def system [DecidableEq τ] (program : τ → Prog L ι) : Lts (τ → List (Instr L ι)) τ where
  init s := s = fun t => [.run (program t)]
  step s t s' := ∃ k, Step (Free s) (s t) k ∧ s' = Function.update s t k

/-- A thread waits for a lock it is about to take. -/
def Waits (k : List (Instr L ι)) (l : L) : Prop := ∃ p k', k = .run (.locked l p) :: k'

/-- A thread waits for a lock another one holds, or itself. -/
def WaitsFor (s : τ → List (Instr L ι)) (t u : τ) : Prop := ∃ l, Waits (s t) l ∧ l ∈ held (s u)

/-- Some threads wait for each other in a circle. -/
def Deadlocked (s : τ → List (Instr L ι)) : Prop := ∃ t, Relation.TransGen (WaitsFor s) t t

section Rank

variable {α : Type*} [Preorder α] {rank : L → α}

/-- A lock is above some others. -/
def Above (rank : L → α) (h : List L) (l : L) : Prop := ∀ m ∈ h, rank m < rank l

/-- Run with some locks held, the program takes every lock above those it then holds. -/
def Prog.Ascends (rank : L → α) : List L → Prog L ι → Prop
  | _, .skip => True
  | h, .locked l p => Above rank h l ∧ p.Ascends rank (l :: h)
  | h, .seq p q => p.Ascends rank h ∧ q.Ascends rank h
  | h, .either p q => p.Ascends rank h ∧ q.Ascends rank h
  | h, .pick p => ∀ i, (p i).Ascends rank h
  | h, .loop p => p.Ascends rank h

namespace Prog

variable {h : List L}

/-- A program that does nothing takes no lock. -/
@[simp] theorem ascends_skip : (skip : Prog L ι).Ascends rank h := trivial

/-- A block under lock `l` ascends, if `l` ranks above what is held and the
block ascends with `l` held as well. -/
theorem Ascends.locked {l : L} {p : Prog L ι} (hl : Above rank h l)
    (hp : p.Ascends rank (l :: h)) : (Prog.locked l p).Ascends rank h := ⟨hl, hp⟩

/-- A lock that is given back at once. -/
theorem ascends_locked_skip {l : L} (hl : Above rank h l) :
    (Prog.locked l skip : Prog L ι).Ascends rank h := ⟨hl, trivial⟩

/-- A branch ascends if both of its arms do. -/
theorem Ascends.either {p q : Prog L ι} (hp : p.Ascends rank h) (hq : q.Ascends rank h) :
    (Prog.either p q).Ascends rank h := ⟨hp, hq⟩

/-- A program that may be left out ascends if it does when it is run. -/
theorem Ascends.opt {p : Prog L ι} (hp : p.Ascends rank h) : p.opt.Ascends rank h := ⟨trivial, hp⟩

/-- Programs run one after the other ascend if each of them does: between two
of them the locks held are the same. -/
theorem ascends_all {ps : List (Prog L ι)} (hps : ∀ p ∈ ps, p.Ascends rank h) :
    (all ps).Ascends rank h := by
  induction ps with
  | nil => trivial
  | cons p ps ih =>
    obtain ⟨hp, hps⟩ := List.forall_mem_cons.1 hps
    exact ⟨hp, ih hps⟩

/-- The same when the run may end after any of them. -/
theorem ascends_upTo {ps : List (Prog L ι)} (hps : ∀ p ∈ ps, p.Ascends rank h) :
    (upTo ps).Ascends rank h := by
  induction ps with
  | nil => trivial
  | cons p ps ih =>
    obtain ⟨hp, hps⟩ := List.forall_mem_cons.1 hps
    exact ⟨hp, (ih hps).opt⟩

end Prog

/-- All that a thread still has to run takes locks above those it will hold then. -/
def Ordered (rank : L → α) : List (Instr L ι) → Prop
  | [] => True
  | .run p :: k => p.Ascends rank (held k) ∧ Ordered rank k
  | .unlock _ :: k => Ordered rank k

/-- Giving up what is held takes no lock, so it is in order for any ranking.
-/
theorem ordered_unwinding (k : List (Instr L ι)) : Ordered rank (unwinding k) := by
  induction k with
  | nil => trivial
  | cons i k ih => cases i <;> exact ih

/-- **The step lemma**: a thread that is ordered stays so, whichever
instruction it runs and whatever locks the others have left free. -/
theorem Ordered.step {free : L → Prop} {k k' : List (Instr L ι)} (h : Ordered rank k)
    (hs : Step free k k') : Ordered rank k' := by
  cases hs with
  | skip => exact h.2
  | lock p k hfree => exact ⟨h.1.2, h.2⟩
  | unlock => exact h
  | seq p q k => exact ⟨h.1.1, h.1.2, h.2⟩
  | left p q k => exact ⟨h.1.1, h.2⟩
  | right p q k => exact ⟨h.1.2, h.2⟩
  | pick p i k => exact ⟨h.1 i, h.2⟩
  | stop p k => exact h.2
  | again p k => exact ⟨h.1, h⟩
  | panic => exact ordered_unwinding _

/-- What an ordered thread waits for is above all it holds. -/
theorem Ordered.above {k : List (Instr L ι)} {l : L} (h : Ordered rank k) (hw : Waits k l) :
    Above rank (held k) l := by
  obtain ⟨p, k', rfl⟩ := hw
  exact h.1.1

/-- Along a chain of waiting threads the ranks go up. -/
theorem exists_le_of_waitsFor {s : τ → List (Instr L ι)} (h : ∀ t, Ordered rank (s t)) {t u : τ}
    (hc : Relation.TransGen (WaitsFor s) t u) :
    ∃ l, Waits (s t) l ∧ ∃ m ∈ held (s u), rank l ≤ rank m := by
  induction hc with
  | single hw =>
    obtain ⟨l, hl, hu⟩ := hw
    exact ⟨l, hl, l, hu, le_rfl⟩
  | @tail u v _ hw ih =>
    obtain ⟨l, hl, m, hm, hle⟩ := ih
    obtain ⟨l', hl', hv⟩ := hw
    have hlt : rank m < rank l' := (h u).above hl' m hm
    exact ⟨l, hl, l', hv, hle.trans hlt.le⟩

/-- **Ordered threads are not deadlocked**: along a circle of threads that
wait for each other the ranks of the locks would go up for ever. -/
theorem no_cycle {s : τ → List (Instr L ι)} (h : ∀ t, Ordered rank (s t)) : ¬ Deadlocked s := by
  rintro ⟨t, ht⟩
  obtain ⟨l, hl, m, hm, hle⟩ := exists_le_of_waitsFor h ht
  -- `t` holds a lock that is not below the one it waits for
  exact absurd ((h t).above hl m hm) (not_lt_of_ge hle)

/-- **Programs that ascend never deadlock**, however many threads run them and
however their steps interleave. -/
theorem not_deadlocked_of_reachable [DecidableEq τ] {program : τ → Prog L ι}
    (hp : ∀ t, (program t).Ascends rank []) {s : τ → List (Instr L ι)}
    (h : (system program).Reachable s) : ¬ Deadlocked s := by
  have hord : ∀ t, Ordered rank (s t) := by
    refine h.invariant (I := fun s => ∀ t, Ordered rank (s t)) ?_ ?_
    · rintro s rfl t
      exact ⟨hp t, trivial⟩
    · rintro s t s' hord ⟨k, hs, rfl⟩ u
      by_cases hu : u = t
      · rw [hu, Function.update_self]
        exact (hord t).step hs
      · rw [Function.update_of_ne hu]
        exact hord u
  exact no_cycle hord

end Rank

end Locks
