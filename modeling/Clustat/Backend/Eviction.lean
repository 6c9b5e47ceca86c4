/-
# Evictions after failed queries

`refresh_stale_cache_for_query` of `crates/client-backend/src/local_api.rs`, when
a query fails: the handler takes the pool lock and removes the entry of the
address, then takes the row lock and removes the row of the address.  It does not
look whether the entry is the connection that failed.  Meanwhile other handlers
can have failed on the same connection, and a reconcile can have connected anew.

A failed query leaves the other connections and their rows alone exactly if the
handler finds its own connection, or none, under the address (`OwnEviction`), and
in a run where it always does a connection stays in the pool until a query to it
fails or a connection to its host replaces it (`evictions_own`).
-/

import Clustat.Backend.Pool

namespace Clustat
namespace Backend

open LocalApiState

variable {τ : Type*} [DecidableEq τ]

/-- The connection whose query has failed, while the handler has yet to remove the
entry or the row of the target. -/
def Pc.failing? : Pc → Option (RefreshTarget × Connection)
  | .evicting target c | .removing target c => some (target, c)
  | _ => none

/-- Every pooled connection but this one stays, and so does its row, the one of its
address. -/
def Spares (c : Connection) (api api' : LocalApiState) : Prop :=
  ∀ addr c', api.connections.lookup addr = some c' → c' ≠ c →
    api'.connections.lookup addr = some c' ∧
      api'.rows.lookup addr.cacheKey = api.rows.lookup addr.cacheKey

/-- The handler of a failed query finds no connection but its own: in the pool,
before it removes the entry of the address; and for the row, before it removes
that, unless there is none. -/
def Pc.OwnEviction (api : LocalApiState) : Pc → Prop
  | .evicting target c => ∀ c', api.connections.lookup target.addr = some c' → c' = c
  | .removing target c =>
    ∀ addr c', api.connections.lookup addr = some c' → addr.cacheKey = target.addr.cacheKey →
      c' ≠ c → api.rows.lookup addr.cacheKey = none
  | _ => True

/-- The same of a step of the system. -/
def OwnEviction (s : PoolState τ) (a : τ × Event) : Prop :=
  (s.threads a.1).pc.OwnEviction s.api

section Steps

variable {cfg : Config} {rows : CacheMap} {api : LocalApiState} {target : RefreshTarget}
  {c : Connection}

/-- The removal of the entry spares the others if it is the connection's own. -/
theorem spares_evictConnection :
    Spares c api (api.evictConnection target) ↔ (Pc.evicting target c).OwnEviction api := by
  constructor
  · intro h c' hc'
    by_contra hne
    have hgone := (h target.addr c' hc' hne).1
    rw [evictConnection, Table.lookup_erase_eq, if_pos rfl] at hgone
    cases hgone
  · intro h addr c' hc' hne
    refine ⟨?_, rfl⟩
    have haddr : addr ≠ target.addr := fun heq => hne (h c' (heq ▸ hc'))
    rw [evictConnection, Table.lookup_erase_eq, if_neg haddr]
    exact hc'

/-- The removal of the row spares the others if none of them has it. -/
theorem spares_removeRow :
    Spares c api (api.removeRow target) ↔ (Pc.removing target c).OwnEviction api := by
  constructor
  · intro h addr c' hc' hkey hne
    have hrow := (h addr c' hc' hne).2
    rw [removeRow, Table.lookup_erase_eq, if_pos hkey] at hrow
    exact hrow.symm
  · intro h addr c' hc' hne
    refine ⟨hc', ?_⟩
    rw [removeRow, Table.lookup_erase_eq]
    split_ifs with hkey
    · exact (h addr c' hc' hkey hne).symm
    · rfl

/-- **A step after a failed query** spares the other connections exactly if it
finds its own. -/
theorem spares_step {s s' : PoolState τ} {t : τ} {env : StepEnv}
    (hpc : (s.threads t).pc.failing? = some (target, c))
    (hs : s.step cfg (t, .step env) = some s') :
    Spares c s.api s'.api ↔ OwnEviction s (t, .step env) := by
  obtain ⟨⟨th, api, note⟩, hnext, rfl⟩ := Option.map_eq_some_iff.1 hs
  unfold OwnEviction
  dsimp only at hnext ⊢
  simp only [Handler.next] at hnext
  cases hat : (s.threads t).pc <;> rw [hat] at hpc hnext <;> cases hpc <;> cases hnext
  · exact spares_evictConnection
  · exact spares_removeRow

end Steps

/-! ### Runs -/

/-- A thread whose query has failed has it noted. -/
def FailuresNoted (s : PoolState τ) : Prop :=
  ∀ t target c, (s.threads t).pc.failing? = some (target, c) → c ∈ s.failed

/-- A connection is in the pool, or there is a note of why it is not. -/
def Kept (addr : SocketAddr) (c : Connection) (s : PoolState τ) : Prop :=
  s.api.connections.lookup addr = some c ∨ c ∈ s.failed ∨ c ∈ s.replaced

section Runs

variable {cfg : Config} {rows : CacheMap} {s s' : PoolState τ} {a : τ × Event}

/-- A thread comes to remove what has failed by a query that fails, and goes on
with it. -/
theorem PoolMove.failing {api api' : LocalApiState} {th th' : Handler} {e : Event} {note : Note}
    (hm : PoolMove cfg api th e th' api' note) {target : RefreshTarget} {c : Connection}
    (h : th'.pc.failing? = some (target, c)) :
    th.pc.failing? = some (target, c) ∨ note = .failed c := by
  -- Only a handler that serves a target can have failed on it.
  have hserved : th'.pc.served? = some (target, c) := by
    cases hat : th'.pc <;> rw [hat] at h <;> cases h <;> rfl
  cases hm with
  | other _ _ hs | installed _ _ _ hs | queried _ _ _ _ hs =>
    rw [hs] at hserved
    cases hserved
  | connected _ hpc | carried _ hpc | found _ hpc =>
    rw [hpc] at h
    cases h
  | failed _ _ hpc' =>
    rw [hpc'] at h
    cases h
    exact .inr rfl
  | evicted hpc hpc' =>
    rw [hpc'] at h
    cases h
    exact .inl (by rw [hpc]; rfl)

/-- What has been noted stays. -/
theorem PoolState.noted_subset (hs : s.step cfg a = some s') :
    s.failed ⊆ s'.failed ∧ s.replaced ⊆ s'.replaced := by
  obtain ⟨th, note, -, -, hfailed, hreplaced⟩ := PoolState.step_cases hs
  rw [hfailed, hreplaced]
  cases note with
  | nothing => exact ⟨List.Subset.refl _, List.Subset.refl _⟩
  | failed c => exact ⟨List.subset_cons_self _ _, List.Subset.refl _⟩
  | replaced c => exact ⟨List.Subset.refl _, List.subset_cons_self _ _⟩

/-- Every step keeps failures noted. -/
theorem failuresNoted_step (h : FailuresNoted s) (hs : s.step cfg a = some s') :
    FailuresNoted s' := by
  have hsub := (PoolState.noted_subset hs).1
  obtain ⟨th, note, hm, hthreads, hfailed, -⟩ := PoolState.step_cases hs
  rw [FailuresNoted, hthreads, Function.forall_update_iff _ fun _ (th : Handler) =>
    ∀ target c, th.pc.failing? = some (target, c) → c ∈ s'.failed]
  refine ⟨fun target c ht => ?_, fun t _ target c ht => hsub (h t target c ht)⟩
  rcases hm.failing ht with hbefore | rfl
  · exact hsub (h a.1 target c hbefore)
  · rw [hfailed]
    exact List.mem_cons_self

/-- In every reachable state a thread whose query has failed has it noted. -/
theorem failuresNoted_of_reachable (h : (poolSystem τ cfg rows).Reachable s) :
    FailuresNoted s := by
  refine h.invariant ?_ fun s a s' hi hs => failuresNoted_step hi hs
  rintro s rfl t target c ht
  cases ht

/-- **A step keeps the connections**, if a failed query removes only its own:
a connection goes only by a failed query to it, or for a new one to its host.
-/
theorem kept_step (hin : InOrder cfg s) (hnoted : FailuresNoted s)
    (hs : s.step cfg a = some s') (hown : OwnEviction s a) {addr : SocketAddr} {c : Connection}
    (h : Kept addr c s) : Kept addr c s' := by
  obtain ⟨hfailed, hreplaced⟩ := PoolState.noted_subset hs
  rcases h with hl | hf | hr
  · obtain ⟨th, note, hm, -, -, hrep⟩ := PoolState.step_cases hs
    by_cases hl' : s'.api.connections.lookup addr = some c
    · exact .inl hl'
    rcases hm.left hin.pooled.room hl hl' with ⟨target, c', hpc, rfl⟩ | ⟨_, _, _, _, rfl, _, _⟩
    · -- The failed query removes the entry of its address, which is its own.
      rw [OwnEviction, hpc] at hown
      obtain rfl := hown c hl
      exact .inr (.inl (hfailed (hnoted a.1 target c (by rw [hpc]; rfl))))
    · rw [Kept, hrep]
      exact .inr (.inr List.mem_cons_self)
  · exact .inr (.inl (hfailed hf))
  · exact .inr (.inr (hreplaced hr))

/-- **A failed query and the other connections.**  In every reachable state a
handler whose query has failed removes the entry and the row of the address of its
connection, and it spares the other connections and their rows exactly if it finds
none of them there.  In a run where that is always so, a connection stays in the
pool unless a query to it fails or a connection to its host replaces it. -/
theorem evictions_own (h : (poolSystem τ cfg rows).Reachable s) :
    (∀ t env s' target c, (s.threads t).pc.failing? = some (target, c) →
      s.step cfg (t, .step env) = some s' →
        c.addr = target.addr ∧ c ∈ s.failed ∧
          (Spares c s.api s'.api ↔ OwnEviction s (t, .step env))) ∧
      ∀ as s', ((poolSystem τ cfg rows).restrict OwnEviction).Run s as s' →
        ∀ addr c, s.api.connections.lookup addr = some c → Kept addr c s' := by
  have hin := inOrder_of_reachable h
  have hnoted := failuresNoted_of_reachable h
  constructor
  · intro t env s' target c hpc hs
    refine ⟨(hin.carries t).served target c ?_, hnoted t target c hpc, spares_step hpc hs⟩
    cases hat : (s.threads t).pc <;> rw [hat] at hpc <;> cases hpc <;> rfl
  · intro as s' hr addr c hl
    have hkept := hr.invariant (I := fun u : PoolState τ =>
      InOrder cfg u ∧ FailuresNoted u ∧ Kept addr c u) ?_ ⟨hin, hnoted, .inl hl⟩
    · exact hkept.2.2
    · rintro u a v ⟨hi, hn, hk⟩ ⟨hs, hown⟩
      exact ⟨inOrder_step hi hs, failuresNoted_step hn hs, kept_step hi hn hs hown hk⟩

end Runs

/-! ### Handlers that fail on one connection -/

/-- A thread connects to an address and has the connection in the pool. -/
def installRun {τ : Type*} (t : τ) (addr : SocketAddr) (hostname : String) : List (τ × Event) :=
  connectRun t addr hostname ++ [(t, .step atZero), (t, .step atZero), (t, .step atZero)]

/-- A thread begins a refresh, and with it the query of the first target. -/
def queryRun {τ : Type*} (t : τ) : List (τ × Event) :=
  [(t, .refreshStaleCacheForQuery (.list _ _) 0), (t, .step atZero)]

/-- A query fails next to another host. -/
def failedRun : List (Fin 3 × Event) :=
  installRun 0 (.v4 2 7070) "b" ++ installRun 0 (.v4 1 7070) "a" ++ queryRun 0 ++
    [(0, .queryReturns (.error "timed out"))]

/-- The connection to the other host stays. -/
theorem evictions_own_failedRun :
    ∃ s', (PoolState.after (roomFor 2) ∅ failedRun).step (roomFor 2) (0, .step atZero) = some s' ∧
      s'.api.connections.lookup (.v4 2 7070) = some { serial := 0, addr := .v4 2 7070 } := by
  let s : PoolState (Fin 3) := .after (roomFor 2) ∅ failedRun
  let c : Connection := { serial := 1, addr := .v4 1 7070 }
  let target : RefreshTarget :=
    { connectionId := connectionId 2, hostname := "a", addr := .v4 1 7070, hadSnapshot := false }
  have hreach : (poolSystem (Fin 3) (roomFor 2) ∅).Reachable s :=
    (PoolState.reachable_after (C := fun _ _ => True) (by decide +kernel)
      fun _ _ _ => trivial).of_restrict
  have hpc : (s.threads 0).pc = .evicting target c := by decide +kernel
  obtain ⟨s', hs'⟩ := Option.isSome_iff_exists.1
    (by decide +kernel : (s.step (roomFor 2) (0, .step atZero)).isSome = true)
  have hfound : s.api.connections.lookup (.v4 1 7070) = some c := by decide +kernel
  have hother : s.api.connections.lookup (.v4 2 7070) =
      some { serial := 0, addr := .v4 2 7070 } := by decide +kernel
  obtain ⟨-, -, hspares⟩ := (evictions_own hreach).1 0 atZero s' target c (by rw [hpc]; rfl) hs'
  have hown : OwnEviction s (0, .step atZero) := by
    rw [OwnEviction, hpc]
    exact fun c' hc' => Option.some.inj (hc'.symm.trans hfound)
  exact ⟨s', hs', (hspares.2 hown _ _ hother (by decide)).1⟩

/-- Two handlers fail on a connection; one of them removes it, and a reconcile
connects anew. -/
def lateRun : List (Fin 3 × Event) :=
  installRun 0 (.v4 1 7070) "a" ++ queryRun 0 ++ queryRun 1 ++
    [(0, .queryReturns (.error "timed out")), (1, .queryReturns (.error "timed out")),
      (0, .step atZero), (0, .step atZero)] ++
    installRun 2 (.v4 1 7070) "a"

/-- **A failed query evicts a newer connection**: the other handler removes what the
reconcile has put in the pool. -/
theorem evicts_newer :
    ¬ ∀ (s s' : PoolState (Fin 3)) (t : Fin 3) (env : StepEnv) (target : RefreshTarget)
      (c : Connection), (poolSystem (Fin 3) (roomFor 1) ∅).Reachable s →
        (s.threads t).pc.failing? = some (target, c) →
          s.step (roomFor 1) (t, .step env) = some s' → Spares c s.api s'.api := by
  intro h
  let s : PoolState (Fin 3) := .after (roomFor 1) ∅ lateRun
  let c : Connection := { serial := 0, addr := .v4 1 7070 }
  let target : RefreshTarget :=
    { connectionId := connectionId 1, hostname := "a", addr := .v4 1 7070, hadSnapshot := false }
  have hreach : (poolSystem (Fin 3) (roomFor 1) ∅).Reachable s :=
    (PoolState.reachable_after (C := fun _ _ => True) (by decide +kernel)
      fun _ _ _ => trivial).of_restrict
  have hpc : (s.threads 1).pc = .evicting target c := by decide +kernel
  obtain ⟨s', hs'⟩ := Option.isSome_iff_exists.1
    (by decide +kernel : (s.step (roomFor 1) (1, .step atZero)).isSome = true)
  have hleft : (s.step (roomFor 1) (1, .step atZero)).map
      (fun s' => s'.api.connections.lookup (.v4 1 7070)) = some none := by decide +kernel
  have hnewer : s.api.connections.lookup (.v4 1 7070) =
      some { serial := 1, addr := .v4 1 7070 } := by decide +kernel
  have hstays := (h s s' 1 atZero target c hreach (by rw [hpc]; rfl) hs' _ _ hnewer (by decide)).1
  rw [hs', Option.map_some, hstays] at hleft
  cases hleft

end Backend
end Clustat
