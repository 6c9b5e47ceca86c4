/-
# Reservations

`establish_one_connection` of `crates/client-backend/src/local_api.rs` puts an address
into the `connecting` set before it connects, without a lock held over the connect,
and takes it out after, whatever the connect has come to.

What is in the set is what threads are connecting to, each address one thread's
(`Reserved`), so no two connect to an address at once; and no address stays behind,
since the thread that has it takes it out by its own steps (`reservations_held`).
-/

import Clustat.Backend.Pool

namespace Clustat
namespace Backend

open LocalApiState

/-- The address that a thread has reserved. -/
def Pc.reserved? : Pc → Option SocketAddr
  | .connecting _ addr | .unreserving _ addr _ => some addr
  | _ => none

/-- What a step can do to the reservations: the thread takes one that is free, gives
up the one it has, or leaves them as they are. -/
inductive ReserveMove (api : LocalApiState) (th th' : Handler) (api' : LocalApiState) : Prop
  | takes (addr : SocketAddr) (hnone : th.pc.reserved? = none)
      (hsome : th'.pc.reserved? = some addr) (hfree : addr ∉ api.connecting)
      (hmem : ∀ a, a ∈ api'.connecting ↔ a = addr ∨ a ∈ api.connecting)
  | gives (addr : SocketAddr) (hsome : th.pc.reserved? = some addr)
      (hnone : th'.pc.reserved? = none)
      (hmem : ∀ a, a ∈ api'.connecting ↔ a ≠ addr ∧ a ∈ api.connecting)
  | keeps (hpc : th'.pc.reserved? = th.pc.reserved?) (hsame : api'.connecting = api.connecting)

/-! ### What a step does to the reservations -/

section Step

variable {cfg : Config} {api api' : LocalApiState} {th th' : Handler} {e : Event} {note : Note}

/-- Making way in the pool does not touch the reservations. -/
theorem connecting_makeWay (order : Iteration SocketAddr Connection) (c : Connection) :
    (api.makeWay order c).connecting = api.connecting := by
  rw [makeWay]
  split <;> rfl

/-- Installing a connection does not touch the reservations. -/
theorem connecting_install {order : Iteration SocketAddr Connection} {addr : SocketAddr}
    {c : Connection} {pooled : Bool} (h : api.install cfg order addr c = (api', pooled)) :
    api'.connecting = api.connecting := by
  rcases install_cases h with ⟨-, rfl, -⟩ | ⟨-, -, rfl, -⟩ | ⟨-, -, rfl, -⟩
  · rfl
  · exact connecting_makeWay order c
  · exact connecting_makeWay order c

/-- Marking a target as unavailable does not touch the reservations. -/
theorem connecting_unavailable (target : RefreshTarget) (nowMs : Int64) :
    (api.unavailable cfg target nowMs).connecting = api.connecting := by
  rw [unavailable]
  split <;> rfl

/-- Giving an address back takes it alone out of the set. -/
theorem mem_unreserve {addr a : SocketAddr} :
    a ∈ (api.unreserve addr).connecting ↔ a ≠ addr ∧ a ∈ api.connecting := by
  rw [unreserve, List.mem_filter, decide_eq_true_iff, and_comm]

/-- **What a step does to the reservations**: the thread takes one that is
free, gives up its own, or leaves them as they are. -/
theorem Handler.reserveMove_of_next (h : th.next cfg api e = some (th', api', note)) :
    ReserveMove api th th' api' := by
  cases Handler.move_of_next h with
  | discovered nodes | skips => exact .keeps rfl rfl
  | reserved hpc hres =>
    rw [reserve] at hres
    split_ifs at hres with hmem
    obtain rfl := Option.some.inj hres
    exact .takes _ (by rw [hpc]; rfl) rfl hmem fun a => List.mem_cons
  | unreserved hpc => exact .gives _ (by rw [hpc]; rfl) rfl fun a => mem_unreserve
  | carried hpc => exact .gives _ (by rw [hpc]; rfl) rfl fun a => mem_unreserve
  | installed hpc hinst => exact .keeps (by rw [hpc]; rfl) (connecting_install hinst)
  | turnedAway hpc hinst => exact .keeps (by rw [hpc]; rfl) (connecting_install hinst)
  | reported hpc => exact .keeps (by rw [hpc]; rfl) (connecting_unavailable ..)
  | asked _ hpc | refreshes _ _ hpc | refused _ hpc | connected _ hpc | queried _ _ hpc
  | failed _ hpc | indexed hpc | established hpc | returns hpc | tries hpc | taken hpc
  | placed hpc | refreshed hpc | found hpc | missed hpc | refound hpc | lost hpc | stored hpc
  | evicted hpc | removed hpc => exact .keeps (by rw [hpc]; rfl) rfl

end Step

/-! ### Every reservation is one thread's -/

variable {τ : Type*} [DecidableEq τ] {cfg : Config} {rows : CacheMap} {s s' : PoolState τ}

/-- The addresses in the set are those that threads have reserved, each by one. -/
structure Reserved (s : PoolState τ) : Prop where
  mem_iff : ∀ addr, addr ∈ s.api.connecting ↔ ∃ t, (s.threads t).pc.reserved? = some addr
  unique : ∀ t u addr, (s.threads t).pc.reserved? = some addr →
    (s.threads u).pc.reserved? = some addr → t = u

/-- Every step keeps that. -/
theorem reserved_step {a : τ × Event} (h : Reserved s) (hs : s.step cfg a = some s') :
    Reserved s' := by
  obtain ⟨t, e⟩ := a
  obtain ⟨⟨th, api, note⟩, hnext, rfl⟩ := Option.map_eq_some_iff.1 hs
  have hself : ∀ u, (Function.update s.threads t th u).pc.reserved? =
      if u = t then th.pc.reserved? else (s.threads u).pc.reserved? := by
    intro u
    rw [Function.update_apply]
    split_ifs <;> rfl
  constructor
  · intro addr
    simp only [hself]
    cases Handler.reserveMove_of_next hnext with
    | takes addr' hnone hsome hfree hmem =>
      rw [hmem, h.mem_iff]
      constructor
      · rintro (rfl | ⟨u, hu⟩)
        · exact ⟨t, by rw [if_pos rfl, hsome]⟩
        · have hut : u ≠ t := by
            rintro rfl
            cases hnone.symm.trans hu
          exact ⟨u, by rw [if_neg hut, hu]⟩
      · rintro ⟨u, hu⟩
        split_ifs at hu
        · exact .inl (Option.some.inj (hu.symm.trans hsome))
        · exact .inr ⟨u, hu⟩
    | gives addr' hsome hnone hmem =>
      rw [hmem, h.mem_iff]
      constructor
      · rintro ⟨hne, u, hu⟩
        have hut : u ≠ t := by
          rintro rfl
          exact hne (Option.some.inj (hu.symm.trans hsome))
        exact ⟨u, by rw [if_neg hut, hu]⟩
      · rintro ⟨u, hu⟩
        split_ifs at hu with hut
        · cases hnone.symm.trans hu
        · refine ⟨?_, u, hu⟩
          rintro rfl
          exact hut (h.unique u t addr hu hsome)
    | keeps hpc hsame =>
      rw [hsame, h.mem_iff]
      refine exists_congr fun u => ?_
      split_ifs with hut
      · rw [hpc, hut]
      · rfl
  · intro u v addr hu hv
    simp only [hself] at hu hv
    cases Handler.reserveMove_of_next hnext with
    | takes addr' hnone hsome hfree hmem =>
      have hother : ∀ w, (s.threads w).pc.reserved? = some addr → th.pc.reserved? ≠ some addr := by
        intro w hw hth
        obtain rfl := Option.some.inj (hth.symm.trans hsome)
        exact hfree ((h.mem_iff addr).2 ⟨w, hw⟩)
      split_ifs at hu hv with hut hvt hvt
      · rw [hut, hvt]
      · exact absurd hu (hother v hv)
      · exact absurd hv (hother u hu)
      · exact h.unique u v addr hu hv
    | gives addr' hsome hnone hmem =>
      split_ifs at hu hv
      · cases hnone.symm.trans hu
      · cases hnone.symm.trans hu
      · cases hnone.symm.trans hv
      · exact h.unique u v addr hu hv
    | keeps hpc hsame =>
      have hkept : ∀ w, (if w = t then th.pc.reserved? else (s.threads w).pc.reserved?) =
          (s.threads w).pc.reserved? := by
        intro w
        split_ifs with hwt
        · rw [hpc, hwt]
        · rfl
      exact h.unique u v addr ((hkept u).symm.trans hu) ((hkept v).symm.trans hv)

/-- **In every reachable state** the addresses in the set are those that
threads have reserved, and each is reserved by one thread. -/
theorem reserved_of_reachable (h : (poolSystem τ cfg rows).Reachable s) : Reserved s := by
  refine h.invariant ?_ fun s a s' hi hs => reserved_step hi hs
  rintro s rfl
  constructor
  · intro addr
    refine iff_of_false List.not_mem_nil ?_
    rintro ⟨t, ht⟩
    cases ht
  · intro t u addr ht
    cases ht

/-! ### Every reservation is given up -/

/-- A thread that is connecting can go on, whether the server has answered or
not. -/
theorem exists_connects (cfg : Config) {t : τ} {index : ℕ} {addr : SocketAddr}
    (hpc : (s.threads t).pc = .connecting index addr) (result : Except String HostMetadata) :
    ∃ s' connected, s.step cfg (t, .connects result) = some s' ∧
      (s'.threads t).pc = .unreserving index addr connected := by
  obtain ⟨th, api, note, connected, hnext, hpc'⟩ : ∃ th api note connected,
      (s.threads t).next cfg s.api (.connects result) = some (th, api, note) ∧
        th.pc = .unreserving index addr connected := by
    simp only [Handler.next, hpc]
    cases result with
    | error => exact ⟨_, _, _, _, rfl, rfl⟩
    | ok metadata => exact ⟨_, _, _, _, rfl, rfl⟩
  refine ⟨_, connected, by rw [PoolState.step, hnext]; rfl, ?_⟩
  rw [← hpc']
  exact congrArg Handler.pc (Function.update_self ..)

/-- A thread that is done connecting can give its address back, and then has
none reserved. -/
theorem exists_unreserve (cfg : Config) {t : τ} {index : ℕ} {addr : SocketAddr}
    {connected : Option Connection} (hpc : (s.threads t).pc = .unreserving index addr connected)
    (env : StepEnv) :
    ∃ s', s.step cfg (t, .step env) = some s' ∧ addr ∉ s'.api.connecting ∧
      (s'.threads t).pc.reserved? = none := by
  obtain ⟨th, note, hnext, hpc'⟩ : ∃ th note,
      (s.threads t).next cfg s.api (.step env) = some (th, s.api.unreserve addr, note) ∧
        th.pc.reserved? = none := by
    simp only [Handler.next, hpc]
    cases connected with
    | none => exact ⟨_, _, rfl, rfl⟩
    | some c => exact ⟨_, _, rfl, rfl⟩
  refine ⟨_, by rw [PoolState.step, hnext]; rfl, ?_, ?_⟩
  · rw [mem_unreserve]
    exact fun h => h.1 rfl
  · rw [← hpc']
    exact congrArg (fun th : Handler => th.pc.reserved?) (Function.update_self ..)

/-- A thread that has reserved an address gives it up by at most two steps of its
own, whatever its connect comes to. -/
theorem exists_release {t : τ} {addr : SocketAddr} (h : (s.threads t).pc.reserved? = some addr)
    (result : Except String HostMetadata) (env : StepEnv) :
    ∃ as s', (∀ a ∈ as, a = (t, .connects result) ∨ a = (t, .step env)) ∧ as.length ≤ 2 ∧
      (poolSystem τ cfg rows).Run s as s' ∧ addr ∉ s'.api.connecting ∧
        (s'.threads t).pc.reserved? = none := by
  cases hpc : (s.threads t).pc with
  | connecting index addr' =>
    obtain rfl : addr' = addr := by simpa [hpc, Pc.reserved?] using h
    obtain ⟨s₁, connected, hs₁, hpc₁⟩ := exists_connects cfg hpc result
    obtain ⟨s₂, hs₂, hgone, hnone⟩ := exists_unreserve cfg hpc₁ env
    exact ⟨[(t, .connects result), (t, .step env)], s₂, by simp, le_rfl,
      .cons hs₁ (.single hs₂), hgone, hnone⟩
  | unreserving index addr' connected =>
    obtain rfl : addr' = addr := by simpa [hpc, Pc.reserved?] using h
    obtain ⟨s', hs', hgone, hnone⟩ := exists_unreserve cfg hpc env
    exact ⟨[(t, .step env)], s', by simp, Nat.le_succ 1, .single hs', hgone, hnone⟩
  | _ => simp [hpc, Pc.reserved?] at h

/-- **A reservation is one thread's, and does not stay behind.**  In every reachable
state an address is in the set exactly if a thread has it; no two threads have the same; and
the one that has it gives it up by at most two steps of its own, whatever its connect comes
to. -/
theorem reservations_held (h : (poolSystem τ cfg rows).Reachable s) :
    (∀ addr, addr ∈ s.api.connecting ↔ ∃ t, (s.threads t).pc.reserved? = some addr) ∧
      (∀ t u addr, (s.threads t).pc.reserved? = some addr →
        (s.threads u).pc.reserved? = some addr → t = u) ∧
      ∀ t addr, (s.threads t).pc.reserved? = some addr →
        ∀ (result : Except String HostMetadata) (env : StepEnv),
          ∃ as s', (∀ a ∈ as, a = (t, .connects result) ∨ a = (t, .step env)) ∧ as.length ≤ 2 ∧
            (poolSystem τ cfg rows).Run s as s' ∧ addr ∉ s'.api.connecting ∧
              (s'.threads t).pc.reserved? = none := by
  obtain ⟨hmem, hunique⟩ := reserved_of_reachable h
  exact ⟨hmem, hunique, fun t addr ht result env => exists_release ht result env⟩

/-- One thread connects, another finds the address reserved, and the connect fails. -/
theorem reservations_held_failed :
    ∃ s', (poolSystem Bool (roomFor 1) ∅).Reachable s' ∧ (.v4 1 7070) ∉ s'.api.connecting := by
  let s : PoolState Bool :=
    .after (roomFor 1) ∅ ((connectRun false (.v4 1 7070) "a").take 4 ++
      (connectRun true (.v4 1 7070) "a").take 4)
  have hreach : (poolSystem Bool (roomFor 1) ∅).Reachable s :=
    (PoolState.reachable_after (C := fun _ _ => True) (by decide +kernel)
      fun _ _ _ => trivial).of_restrict
  have hpc : (s.threads false).pc.reserved? = some (.v4 1 7070) := by decide +kernel
  obtain ⟨as, s', -, -, hrun, hgone, -⟩ :=
    (reservations_held hreach).2.2 false _ hpc (.error "") atZero
  exact ⟨s', hreach.run hrun, hgone⟩

end Backend
end Clustat
