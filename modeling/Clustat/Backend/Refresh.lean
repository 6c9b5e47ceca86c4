/-
# Concurrent refreshes of a row

`refresh_stale_cache_for_query` of `crates/client-backend/src/local_api.rs` asks a
connection for its snapshot in the io lock of the connection, and stores it later
in the row lock: `upsert_snapshot` of `cache.rs` writes over the row whatever it
holds, and stamps it with the time of the store.  In between a handler has neither
lock, so that two handlers may store their replies in another order than the server
sent them in.

The system is that of the pool, next to what the server sends: its replies have
numbers, in the order of sending, and with every row goes the number of the snapshot
it holds (`Numbered.stamped`).  As long as no handler stores a reply while another
has yet to store an earlier one for the row, no row goes back; and when one does, the
other can take the row back at once (`rows_never_go_back`).
-/

import Clustat.Backend.Eviction

namespace Clustat
namespace Backend

open LocalApiState

/-- The row a thread has asked for a snapshot for and not stored it in yet. -/
def Pc.awaited? : Pc → Option CacheKey
  | .querying target _ | .storing target _ => some target.addr.cacheKey
  | _ => none

/-- The row that an event of a thread stores a snapshot in. -/
def Pc.stores? : Pc → Event → Option CacheKey
  | .storing target _, .step _ => some target.addr.cacheKey
  | _, _ => none

/-- The snapshot in a row. -/
def snapshotAt (api : LocalApiState) (key : CacheKey) : Option ServerGresSnapshot :=
  (api.rows.lookup key).bind ConnectionCacheEntry.lastSnapshot

/-! ### What a step does to the snapshots -/

/-- No row has a snapshot it did not have before. -/
def SnapshotsFrom (api api' : LocalApiState) : Prop :=
  ∀ key snapshot, snapshotAt api' key = some snapshot → snapshotAt api key = some snapshot

section Snapshots

variable {cfg : Config} {api api' : LocalApiState}

/-- Unchanged rows have no new snapshot. -/
theorem SnapshotsFrom.of_rows (h : api'.rows = api.rows) : SnapshotsFrom api api' := by
  intro key snapshot hs
  rwa [snapshotAt, h] at hs

/-- Two changes that bring no new snapshot bring none together. -/
theorem SnapshotsFrom.trans {api'' : LocalApiState} (h : SnapshotsFrom api api')
    (h' : SnapshotsFrom api' api'') : SnapshotsFrom api api'' :=
  fun key snapshot hs => h key snapshot (h' key snapshot hs)

/-- A row that is removed has none. -/
theorem SnapshotsFrom.erase {key : CacheKey} (h : api'.rows = api.rows.erase key) :
    SnapshotsFrom api api' := by
  intro k snapshot hs
  rw [snapshotAt, h, Table.lookup_erase_eq] at hs
  split_ifs at hs
  · cases hs
  · exact hs

/-- A row that is written anew without one, or with the one it had. -/
theorem SnapshotsFrom.insert {key : CacheKey} {entry : ConnectionCacheEntry}
    (h : api'.rows = api.rows.insert key entry)
    (hentry : ∀ snapshot, entry.lastSnapshot = some snapshot →
      snapshotAt api key = some snapshot) : SnapshotsFrom api api' := by
  intro k snapshot hs
  rw [snapshotAt, h, Table.lookup_insert_eq] at hs
  split_ifs at hs with hk
  · rw [hk]
    exact hentry snapshot hs
  · exact hs

/-- Discovered nodes bring no snapshot: their rows start without one. -/
theorem snapshotsFrom_addDiscoveredNodes (api : LocalApiState) (nodes : List DiscoveredNode) :
    SnapshotsFrom api (api.addDiscoveredNodes nodes) := by
  suffices h : ∀ (xs : List (DiscoveredNode × ℕ)) (rows : CacheMap),
      SnapshotsFrom { api with rows }
        { api with rows := xs.foldl (addDiscoveredNode api.rows.size) rows } from
    h nodes.zipIdx api.rows
  intro xs
  induction xs with
  | nil => exact fun _ => .of_rows rfl
  | cons x xs ih =>
    intro rows
    refine .trans ?_ (ih (addDiscoveredNode api.rows.size rows x))
    unfold addDiscoveredNode
    dsimp only
    split_ifs
    · exact .of_rows rfl
    · exact .of_rows rfl
    · exact .insert rfl nofun

/-- A new connection brings no snapshot: its row keeps the one it had. -/
theorem snapshotsFrom_install {order : Iteration SocketAddr Connection} {addr : SocketAddr}
    {c : Connection} {pooled : Bool} (h : api.install cfg order addr c = (api', pooled)) :
    SnapshotsFrom api api' := by
  have hway : SnapshotsFrom api (api.makeWay order c) := by
    unfold LocalApiState.makeWay
    split
    · exact .erase rfl
    · exact .of_rows rfl
  rcases install_cases h with ⟨-, rfl, -⟩ | ⟨-, -, rfl, -⟩ | ⟨-, -, rfl, -⟩
  · exact .of_rows rfl
  · exact hway
  · exact hway

/-- The placeholder of a connection keeps the snapshot of the row. -/
theorem snapshotsFrom_placeholder (index : ℕ) (c : Connection) (nowMs : Int64) :
    SnapshotsFrom api (api.upsertConnectionPlaceholder index c nowMs) := by
  refine .insert rfl fun snapshot hs => ?_
  unfold LocalApiState.placeholder at hs
  unfold snapshotAt
  split at hs
  · rename_i hrow
    rw [hrow]
    exact hs
  · cases hs

/-- Marking a target as unavailable brings no snapshot. -/
theorem snapshotsFrom_unavailable (target : RefreshTarget) (nowMs : Int64) :
    SnapshotsFrom api (api.unavailable cfg target nowMs) := by
  unfold LocalApiState.unavailable
  dsimp only
  split_ifs
  · exact .insert rfl nofun
  · exact .erase rfl

end Snapshots

/-- **The steps that matter to the snapshots of the rows**: a query begins, returns
a snapshot, and this is stored. -/
inductive RowMove (api : LocalApiState) (th : Handler) :
    Event → Handler → LocalApiState → Prop
  | other {e : Event} {th' : Handler} {api' : LocalApiState} (hstores : th.pc.stores? e = none)
      (hrows : SnapshotsFrom api api') (hawaited : th'.pc.awaited? = none) :
    RowMove api th e th' api'
  | asked {env : StepEnv} {target : RefreshTarget} {c : Connection} {th' : Handler}
      (hpc : th.pc = .looking ∨ ∃ target, th.pc = .relooking target)
      (hpc' : th'.pc = .querying target c) :
    RowMove api th (.step env) th' api
  | returned {target : RefreshTarget} {c : Connection} {snapshot : ServerGresSnapshot}
      {metadata : HostMetadata} {th' : Handler} (hpc : th.pc = .querying target c)
      (hpc' : th'.pc = .storing target snapshot) :
    RowMove api th (.queryReturns (.ok (snapshot, metadata))) th' (api.setMetadata c metadata)
  | stored {env : StepEnv} {target : RefreshTarget} {snapshot : ServerGresSnapshot}
      {th' : Handler} (hpc : th.pc = .storing target snapshot) (hpc' : th'.pc = .looking) :
    RowMove api th (.step env) th' (api.storeSnapshot target snapshot env.latencyUs env.nowMs)

/-- **What a step can do to the snapshots**: store the reply of its query, or
bring no new one. -/
theorem Handler.rowMove_of_next {cfg : Config} {api api' : LocalApiState} {th th' : Handler}
    {e : Event} {note : Note} (h : th.next cfg api e = some (th', api', note)) :
    RowMove api th e th' api' := by
  cases Handler.move_of_next h with
  | discovered nodes hpc =>
    exact .other (by rw [hpc]; rfl) (snapshotsFrom_addDiscoveredNodes api nodes) (by rw [hpc]; rfl)
  | queried _ _ hpc => exact .returned hpc rfl
  | skips hpc => exact .other (by rw [hpc]; rfl) (.of_rows rfl) (by rw [hpc]; rfl)
  | reserved hpc hres =>
    unfold LocalApiState.reserve at hres
    split_ifs at hres
    obtain rfl := Option.some.inj hres
    exact .other (by rw [hpc]; rfl) (.of_rows rfl) rfl
  | installed hpc hinst | turnedAway hpc hinst =>
    exact .other (by rw [hpc]; rfl) (snapshotsFrom_install hinst) rfl
  | placed hpc => exact .other (by rw [hpc]; rfl) (snapshotsFrom_placeholder _ _ _) rfl
  | found hpc => exact .asked (.inl hpc) rfl
  | refound hpc => exact .asked (.inr ⟨_, hpc⟩) rfl
  | reported hpc => exact .other (by rw [hpc]; rfl) (snapshotsFrom_unavailable _ _) rfl
  | stored hpc => exact .stored hpc rfl
  | removed hpc => exact .other (by rw [hpc]; rfl) (.erase rfl) rfl
  | asked _ hpc | refreshes _ _ hpc | refused _ hpc | connected _ hpc | failed _ hpc | indexed hpc
  | established hpc | returns hpc | tries hpc | taken hpc | unreserved hpc | carried hpc
  | refreshed hpc | missed hpc | lost hpc | evicted hpc =>
    exact .other (by rw [hpc]; rfl) (.of_rows rfl) rfl

/-! ### Replies and their numbers -/

/-- The backend and the replies of the server: `io` has the thread in the io lock of a
connection, `sent` the snapshots that have been sent, and `reply` the number of the
reply to a thread that has not stored it yet.  `stamps` has the number of the snapshot
in a row, and `overwritten` those of the old and the new one at each store. -/
structure RefreshState (τ : Type*) where
  pool : PoolState τ
  io : ℕ → Option τ := fun _ => none
  sent : List ServerGresSnapshot := []
  reply : τ → Option ℕ := fun _ => none
  stamps : CacheKey → Option ℕ := fun _ => none
  overwritten : List (ℕ × ℕ) := []

/-- What happens. -/
inductive RefreshAct (τ : Type*)
  /-- A thread in `query` takes the io lock of its connection. -/
  | lockIo (t : τ)
  /-- The server sends the reply to a thread in the lock. -/
  | send (t : τ) (snapshot : ServerGresSnapshot)
  /-- An event of a thread. -/
  | thread (t : τ) (e : Event)

variable {τ : Type*} [DecidableEq τ]

/-- A thread takes an io lock. -/
def RefreshState.lockIo (s : RefreshState τ) (t : τ) (serial : ℕ) : RefreshState τ :=
  { s with io := Function.update s.io serial (some t) }

/-- A reply to a thread is sent, under the next number. -/
def RefreshState.send (s : RefreshState τ) (t : τ) (snapshot : ServerGresSnapshot) :
    RefreshState τ :=
  { s with
    sent := s.sent ++ [snapshot]
    reply := Function.update s.reply t (some s.sent.length) }

/-- The snapshot in the reply to a thread. -/
def RefreshState.replied (s : RefreshState τ) (t : τ) : Option ServerGresSnapshot :=
  (s.reply t).bind fun n => s.sent[n]?

/-- A query returns in the io lock, and a snapshot only from the reply to it. -/
def RefreshState.mayReturn (s : RefreshState τ) (t : τ) : Event → Bool
  | .queryReturns result =>
    match (s.pool.threads t).pc with
    | .querying _ c =>
      s.io c.serial = some t && match result with
        | .ok (snapshot, _) => s.replied t == some snapshot
        | .error _ => true
    | _ => false
  | _ => true

/-- The locks after an event of a thread: a query that returns leaves its own. -/
def RefreshState.ioAfter (s : RefreshState τ) (t : τ) : Event → ℕ → Option τ
  | .queryReturns _ => fun serial => if s.io serial = some t then none else s.io serial
  | _ => s.io

/-- The numbers of the rows after an event of a thread, should they have snapshots. -/
def RefreshState.stampsAfter (s : RefreshState τ) (t : τ) (e : Event) : CacheKey → Option ℕ :=
  match (s.pool.threads t).pc.stores? e with
  | some key => Function.update s.stamps key (s.reply t)
  | none => s.stamps

/-- What an event of a thread writes over. -/
def RefreshState.overwrites (s : RefreshState τ) (t : τ) (e : Event) : List (ℕ × ℕ) :=
  match (s.pool.threads t).pc.stores? e with
  | some key =>
    match s.stamps key, s.reply t with
    | some m, some n => [(m, n)]
    | _, _ => []
  | none => []

/-- The state after an event of a thread that leads to this pool. -/
def RefreshState.after (s : RefreshState τ) (t : τ) (e : Event) (pool : PoolState τ) :
    RefreshState τ where
  pool
  io := s.ioAfter t e
  sent := s.sent
  reply :=
    if (pool.threads t).pc.awaited?.isSome then s.reply else Function.update s.reply t none
  stamps key := if (snapshotAt pool.api key).isSome then s.stampsAfter t e key else none
  overwritten := s.overwrites t e ++ s.overwritten

/-- One step. -/
def RefreshState.step (cfg : Config) (s : RefreshState τ) : RefreshAct τ → Option (RefreshState τ)
  | .lockIo t =>
    match (s.pool.threads t).pc with
    | .querying _ c =>
      if s.io c.serial = none then some (s.lockIo t c.serial) else none
    | _ => none
  | .send t snapshot =>
    match (s.pool.threads t).pc with
    | .querying _ c =>
      if s.io c.serial = some t ∧ s.reply t = none then some (s.send t snapshot) else none
    | _ => none
  | .thread t e =>
    if s.mayReturn t e then (s.pool.step cfg (t, e)).map (s.after t e) else none

/-- Any number of threads, from what has been discovered and an empty pool. -/
def refreshSystem (τ : Type*) [DecidableEq τ] (cfg : Config) (discovered : List DiscoveredNode) :
    Lts (RefreshState τ) (RefreshAct τ) :=
  Lts.ofFn { pool := { api := { rows := buildCache discovered } } } (RefreshState.step cfg)

section Steps

variable {cfg : Config} {s s' : RefreshState τ} {t : τ} {e : Event} {pool : PoolState τ}

/-- **What a step can be**: a thread locks the io, a reply is sent to it, or
one of its events on the pool happens. -/
theorem RefreshState.step_cases {a : RefreshAct τ} (h : s.step cfg a = some s') :
    (∃ t target c, a = .lockIo t ∧ (s.pool.threads t).pc = .querying target c ∧
      s.io c.serial = none ∧ s' = s.lockIo t c.serial) ∨
    (∃ t snapshot target c, a = .send t snapshot ∧ (s.pool.threads t).pc = .querying target c ∧
      s.io c.serial = some t ∧ s.reply t = none ∧ s' = s.send t snapshot) ∨
    ∃ t e pool, a = .thread t e ∧ s.mayReturn t e = true ∧ s.pool.step cfg (t, e) = some pool ∧
      s' = s.after t e pool := by
  cases a with
  | lockIo t =>
    simp only [step] at h
    split at h
    · rename_i target c hpc
      split_ifs at h with hfree
      exact .inl ⟨t, target, c, rfl, hpc, hfree, (Option.some.inj h).symm⟩
    · cases h
  | send t snapshot =>
    simp only [step] at h
    split at h
    · rename_i target c hpc
      split_ifs at h with hcond
      exact .inr (.inl ⟨t, snapshot, target, c, rfl, hpc, hcond.1, hcond.2,
        (Option.some.inj h).symm⟩)
    · cases h
  | thread t e =>
    simp only [step] at h
    split_ifs at h with hmay
    obtain ⟨pool, hpool, rfl⟩ := Option.map_eq_some_iff.1 h
    exact .inr (.inr ⟨t, e, pool, rfl, hmay, hpool, rfl⟩)

/-- What an event of a thread does to the snapshots. -/
theorem PoolState.rowMove_of_step {p : PoolState τ} (h : p.step cfg (t, e) = some pool) :
    ∃ th, RowMove p.api (p.threads t) e th pool.api ∧
      pool.threads = Function.update p.threads t th := by
  obtain ⟨⟨th, api, note⟩, hnext, rfl⟩ := Option.map_eq_some_iff.1 h
  exact ⟨th, Handler.rowMove_of_next hnext, rfl⟩

/-- What a query may return is in the reply. -/
theorem RefreshState.replied_of_mayReturn {target : RefreshTarget} {c : Connection}
    {snapshot : ServerGresSnapshot} {metadata : HostMetadata}
    (h : s.mayReturn t (.queryReturns (.ok (snapshot, metadata))) = true)
    (hpc : (s.pool.threads t).pc = .querying target c) : s.replied t = some snapshot := by
  simp only [mayReturn, hpc, Bool.and_eq_true, beq_iff_eq] at h
  exact h.2

/-- The reply to a thread is done with when the thread is. -/
theorem RefreshState.reply_after (u : τ) :
    (s.after t e pool).reply u =
      if u = t ∧ (pool.threads t).pc.awaited? = none then none else s.reply u := by
  unfold after
  dsimp only
  cases hpc : (pool.threads t).pc.awaited? with
  | some key => simp
  | none => simp [Function.update_apply]

/-- A lock stays with its thread, except that of a query that returns. -/
theorem RefreshState.io_after {serial : ℕ} {u : τ} (h : s.io serial = some u) (hne : u ≠ t) :
    (s.after t e pool).io serial = some u := by
  change s.ioAfter t e serial = some u
  unfold ioAfter
  split
  · rw [if_neg (by rw [h]; exact fun heq => hne (Option.some.inj heq)), h]
  · exact h

/-- A thread stores what it has awaited. -/
theorem Pc.awaited_of_stores {pc : Pc} {key : CacheKey} (h : pc.stores? e = some key) :
    pc.awaited? = some key := by
  unfold stores? at h
  split at h
  · exact h
  · cases h

/-- Who awaits a reply after a step has begun to in it, or has done so before. -/
theorem RowMove.awaited {api api' : LocalApiState} {th th' : Handler}
    (hm : RowMove api th e th' api') {key : CacheKey} (h : th'.pc.awaited? = some key) :
    th.pc.stores? e = none ∧ (th.pc.awaited? = none ∨ th.pc.awaited? = some key) := by
  cases hm with
  | other _ _ hawaited =>
    rw [hawaited] at h
    cases h
  | asked hpc _ => rcases hpc with hpc | ⟨_, hpc⟩ <;> simp [hpc, Pc.stores?, Pc.awaited?]
  | returned hpc hpc' =>
    rw [hpc'] at h
    exact ⟨by rw [hpc]; rfl, .inr (by rw [hpc]; exact h)⟩
  | stored _ hpc' =>
    rw [hpc'] at h
    cases h

end Steps

/-! ### The numbers are those of the snapshots -/

/-- The numbers next to the pool: a reply that a thread has not stored is one that has
been sent, to a query that is in its io lock or has returned it; and the number of a
row is that of the snapshot in it. -/
structure Numbered (s : RefreshState τ) : Prop where
  reply_lt : ∀ t n, s.reply t = some n → n < s.sent.length
  awaited : ∀ t, (s.pool.threads t).pc.awaited? = none → s.reply t = none
  locked : ∀ t target c, (s.pool.threads t).pc = .querying target c → s.reply t ≠ none →
    s.io c.serial = some t
  storing : ∀ t target snapshot, (s.pool.threads t).pc = .storing target snapshot →
    s.replied t = some snapshot
  stamp_lt : ∀ key m, s.stamps key = some m → m < s.sent.length
  stamped : ∀ key, snapshotAt s.pool.api key = (s.stamps key).bind fun n => s.sent[n]?

section Numbers

variable {cfg : Config} {discovered : List DiscoveredNode} {s s' : RefreshState τ}
  {a : RefreshAct τ} {t : τ} {e : Event} {pool : PoolState τ}

omit [DecidableEq τ] in
/-- A thread that locks the io of a connection keeps the numbers. -/
theorem Numbered.lockIo (h : Numbered s) {serial : ℕ} (hfree : s.io serial = none) :
    Numbered (s.lockIo t serial) where
  reply_lt := h.reply_lt
  awaited := h.awaited
  locked u target c hpc hreply := by
    have hu := h.locked u target c hpc hreply
    have hne : c.serial ≠ serial := by
      intro heq
      rw [heq, hfree] at hu
      cases hu
    exact (Function.update_of_ne hne _ _).trans hu
  storing := h.storing
  stamp_lt := h.stamp_lt
  stamped := h.stamped

/-- A reply to one thread is not one to another. -/
theorem RefreshState.reply_send_of_ne {u : τ} (hut : u ≠ t) (snapshot : ServerGresSnapshot) :
    (s.send t snapshot).reply u = s.reply u := Function.update_of_ne hut _ _

/-- What has been sent stays under its number. -/
theorem RefreshState.sent_send {n : ℕ} (hn : n < s.sent.length) (snapshot : ServerGresSnapshot) :
    (s.send t snapshot).sent[n]? = s.sent[n]? := List.getElem?_append_left hn

/-- One more reply has been sent. -/
theorem RefreshState.length_sent_send (snapshot : ServerGresSnapshot) :
    (s.send t snapshot).sent.length = s.sent.length + 1 := List.length_append

/-- A reply to the thread that has the io lock keeps the numbers: it gets the
next one. -/
theorem Numbered.send (h : Numbered s) {target : RefreshTarget} {c : Connection}
    (hpc : (s.pool.threads t).pc = .querying target c) (hio : s.io c.serial = some t)
    (snapshot : ServerGresSnapshot) : Numbered (s.send t snapshot) where
  reply_lt u n hu := by
    rw [RefreshState.length_sent_send]
    by_cases hut : u = t
    · have hn : some s.sent.length = some n := by
        rw [← hu, hut]
        exact (Function.update_self t _ s.reply).symm
      exact Nat.lt_succ_of_le (Option.some.inj hn).ge
    · rw [RefreshState.reply_send_of_ne hut] at hu
      exact (h.reply_lt u n hu).trans (Nat.lt_succ_self _)
  awaited u hu := by
    have hut : u ≠ t := by
      rintro rfl
      exact absurd (congrArg Pc.awaited? hpc ▸ hu : some _ = none) nofun
    rw [RefreshState.reply_send_of_ne hut]
    exact h.awaited u hu
  locked u target' d hu hreply := by
    by_cases hut : u = t
    · subst hut
      cases hpc.symm.trans hu
      exact hio
    · rw [RefreshState.reply_send_of_ne hut] at hreply
      exact h.locked u target' d hu hreply
  storing u target' stored hu := by
    have hut : u ≠ t := by
      rintro rfl
      cases hpc.symm.trans hu
    obtain ⟨n, hn, hget⟩ := Option.bind_eq_some_iff.1 (h.storing u target' stored hu)
    refine Option.bind_eq_some_iff.2 ⟨n, (RefreshState.reply_send_of_ne hut _).trans hn, ?_⟩
    rw [RefreshState.sent_send (h.reply_lt u n hn), hget]
  stamp_lt key m hm := by
    rw [RefreshState.length_sent_send]
    exact (h.stamp_lt key m hm).trans (Nat.lt_succ_self _)
  stamped key := by
    refine (h.stamped key).trans ?_
    cases hm : s.stamps key with
    | none =>
      have hnone : (s.send t snapshot).stamps key = none := hm
      rw [hnone]
      rfl
    | some m =>
      have hsome : (s.send t snapshot).stamps key = some m := hm
      rw [hsome]
      exact (RefreshState.sent_send (h.stamp_lt key m hm) snapshot).symm

omit [DecidableEq τ] in
/-- The number of a row that an event of a thread stores nothing in. -/
theorem RefreshState.stampsAfter_of_ne {key : CacheKey}
    (h : (s.pool.threads t).pc.stores? e ≠ some key) : s.stampsAfter t e key = s.stamps key := by
  unfold stampsAfter
  cases hk : (s.pool.threads t).pc.stores? e with
  | none => rfl
  | some k => exact Function.update_of_ne (fun heq => h (hk.trans (congrArg some heq.symm))) _ _

omit [DecidableEq τ] in
/-- The number of a row that one stores a reply in. -/
theorem RefreshState.stampsAfter_of_stores {key : CacheKey}
    (h : (s.pool.threads t).pc.stores? e = some key) : s.stampsAfter t e key = s.reply t := by
  unfold stampsAfter
  rw [h]
  exact Function.update_self ..

/-- What an event of a thread that stores nothing in a row leaves there. -/
theorem RowMove.snapshotAt_of_ne {api api' : LocalApiState} {th th' : Handler}
    (hm : RowMove api th e th' api') {key : CacheKey} (h : th.pc.stores? e ≠ some key)
    {snapshot : ServerGresSnapshot} (hs : snapshotAt api' key = some snapshot) :
    snapshotAt api key = some snapshot := by
  cases hm with
  | other _ hrows _ => exact hrows key snapshot hs
  | asked => exact hs
  | returned => exact hs
  | stored hpc _ =>
    rw [hpc] at h
    rw [snapshotAt, storeSnapshot, upsertSnapshot,
      AList.lookup_insert_ne fun heq => h (congrArg some heq.symm)] at hs
    exact hs

/-- What one leaves that stores a reply there. -/
theorem RowMove.snapshotAt_of_stores {api api' : LocalApiState} {th th' : Handler}
    (hm : RowMove api th e th' api') {key : CacheKey} (h : th.pc.stores? e = some key) :
    ∃ target snapshot, th.pc = .storing target snapshot ∧ th'.pc = .looking ∧
      snapshotAt api' key = some snapshot := by
  cases hm with
  | other hno =>
    rw [hno] at h
    cases h
  | asked hpc => rcases hpc with hpc | ⟨_, hpc⟩ <;> rw [hpc] at h <;> cases h
  | returned hpc =>
    rw [hpc] at h
    cases h
  | @stored env target snapshot _ hpc hpc' =>
    rw [hpc] at h
    cases h
    refine ⟨target, snapshot, hpc, hpc', ?_⟩
    rw [snapshotAt, storeSnapshot, upsertSnapshot, AList.lookup_insert]
    rfl

/-- The number of a row after an event of a thread is that of its snapshot. -/
theorem Numbered.stamped_after (h : Numbered s) {th : Handler}
    (hm : RowMove s.pool.api (s.pool.threads t) e th pool.api) (key : CacheKey) :
    snapshotAt pool.api key = ((s.after t e pool).stamps key).bind fun n => s.sent[n]? := by
  change _ = (if (snapshotAt pool.api key).isSome then s.stampsAfter t e key else none).bind _
  by_cases hstores : (s.pool.threads t).pc.stores? e = some key
  · obtain ⟨target, snapshot, hpc, -, hnew⟩ := hm.snapshotAt_of_stores hstores
    rw [hnew, Option.isSome_some, if_pos rfl, RefreshState.stampsAfter_of_stores hstores]
    exact (h.storing t target snapshot hpc).symm
  · cases hnew : snapshotAt pool.api key with
    | none => rfl
    | some snapshot =>
      rw [Option.isSome_some, if_pos rfl, RefreshState.stampsAfter_of_ne hstores, ← h.stamped key]
      exact (hm.snapshotAt_of_ne hstores hnew).symm

/-- **Every event of a thread keeps the numbers**: it stores the reply it has,
under the number of that, or changes no snapshot. -/
theorem Numbered.after (h : Numbered s) (hmay : s.mayReturn t e = true)
    (hs : s.pool.step cfg (t, e) = some pool) : Numbered (s.after t e pool) := by
  obtain ⟨th, hm, hthreads⟩ := PoolState.rowMove_of_step hs
  have hself : pool.threads t = th := by rw [hthreads, Function.update_self]
  have hother : ∀ u, u ≠ t → pool.threads u = s.pool.threads u := fun u hu => by
    rw [hthreads, Function.update_of_ne hu]
  have hreply : ∀ u, u ≠ t → (s.after t e pool).reply u = s.reply u := fun u hu => by
    rw [RefreshState.reply_after, if_neg fun hc => hu hc.1]
  refine ⟨fun u n hu => ?_, fun u hu => ?_, fun u target c hpc hu => ?_,
    fun u target snapshot hpc => ?_, fun key m hm => ?_, h.stamped_after hm⟩
  · rw [RefreshState.reply_after] at hu
    split_ifs at hu
    exact h.reply_lt u n hu
  · rw [RefreshState.reply_after]
    split_ifs with hdone
    · rfl
    · have hne : u ≠ t := by
        rintro rfl
        exact hdone ⟨rfl, hu⟩
      exact h.awaited u (hother u hne ▸ hu)
  · by_cases hut : u = t
    · -- Only a query that has just begun has it after the step, and is sent nothing yet.
      subst hut
      replace hpc : th.pc = .querying target c := hself ▸ hpc
      generalize pool.api = api' at hm
      cases hm with
      | other _ _ hawaited =>
        rw [hpc] at hawaited
        cases hawaited
      | asked hlooking _ =>
        have hnone : s.reply u = none :=
          h.awaited u (by rcases hlooking with hl | ⟨_, hl⟩ <;> rw [hl] <;> rfl)
        rw [RefreshState.reply_after, hnone, ite_self] at hu
        exact absurd rfl hu
      | returned _ hpc' => cases hpc'.symm.trans hpc
      | stored _ hpc' => cases hpc'.symm.trans hpc
    · rw [hreply u hut] at hu
      exact RefreshState.io_after (h.locked u target c (hother u hut ▸ hpc) hu) hut
  · by_cases hut : u = t
    · subst hut
      have hkept : (s.after u e pool).replied u = s.replied u := by
        have hawaited : (pool.threads u).pc.awaited? ≠ none := by
          rw [show (pool.threads u).pc = .storing target snapshot from hpc]
          exact nofun
        rw [RefreshState.replied, RefreshState.reply_after, if_neg fun hc => hawaited hc.2]
        rfl
      replace hpc : th.pc = .storing target snapshot := hself ▸ hpc
      rw [hkept]
      generalize pool.api = api' at hm
      cases hm with
      | other _ _ hawaited =>
        rw [hpc] at hawaited
        cases hawaited
      | asked _ hpc' => cases hpc'.symm.trans hpc
      | returned hquerying hpc' =>
        cases hpc'.symm.trans hpc
        exact RefreshState.replied_of_mayReturn hmay hquerying
      | stored _ hpc' => cases hpc'.symm.trans hpc
    · rw [RefreshState.replied, hreply u hut]
      exact h.storing u target snapshot (hother u hut ▸ hpc)
  · change (if (snapshotAt pool.api key).isSome then s.stampsAfter t e key else none) = some m at hm
    split_ifs at hm
    by_cases hstores : (s.pool.threads t).pc.stores? e = some key
    · rw [RefreshState.stampsAfter_of_stores hstores] at hm
      exact h.reply_lt t m hm
    · rw [RefreshState.stampsAfter_of_ne hstores] at hm
      exact h.stamp_lt key m hm

/-- **Every step keeps the numbers**, going through the three kinds of steps.
-/
theorem numbered_step (h : Numbered s) (hs : s.step cfg a = some s') : Numbered s' := by
  rcases RefreshState.step_cases hs with ⟨t, target, c, rfl, hpc, hfree, rfl⟩ |
    ⟨t, snapshot, target, c, rfl, hpc, hio, -, rfl⟩ | ⟨t, e, pool, rfl, hmay, hpool, rfl⟩
  · exact h.lockIo hfree
  · exact h.send hpc hio snapshot
  · exact h.after hmay hpool

/-- What has only been discovered has no snapshot. -/
theorem snapshotAt_buildCache (key : CacheKey) :
    snapshotAt { rows := buildCache discovered } key = none := by
  suffices h : ∀ (xs : List (DiscoveredNode × ℕ)) (rows : CacheMap),
      snapshotAt { rows } key = none → snapshotAt { rows := xs.foldl (fun rows x =>
        rows.insert x.1.addr.cacheKey (.discovered (connectionId (x.2 + 1)) x.1)) rows } key =
          none from h discovered.zipIdx ∅ rfl
  intro xs
  induction xs with
  | nil => exact fun _ h => h
  | cons x xs ih =>
    intro rows h
    refine ih _ ?_
    rw [snapshotAt, Table.lookup_insert_eq]
    split_ifs
    · rfl
    · exact h

omit [DecidableEq τ] in
/-- At the start nothing has been sent. -/
theorem numbered_init (h : s = { pool := { api := { rows := buildCache discovered } } }) :
    Numbered s := by
  subst h
  exact ⟨nofun, fun _ _ => rfl, nofun, nofun, nofun, snapshotAt_buildCache⟩

/-- **The numbers are right in every reachable state**: at the start nothing
is numbered, and every step keeps them. -/
theorem numbered_of_reachable (h : (refreshSystem τ cfg discovered).Reachable s) : Numbered s :=
  h.invariant (fun _ => numbered_init) fun _ _ _ hi hs => numbered_step hi hs

end Numbers

/-! ### Replies that overtake each other -/

/-- No snapshot has been written over by one that was sent before it. -/
def RefreshState.NeverBack (s : RefreshState τ) : Prop := ∀ p ∈ s.overwritten, p.1 ≤ p.2

/-- A thread that stores a reply leaves none behind: no other has yet to store an
earlier one for the row. -/
def NoOvertaking (s : RefreshState τ) : RefreshAct τ → Prop
  | .thread t e => (s.pool.threads t).pc.stores? e ≠ none →
    ∀ u, (s.pool.threads u).pc.awaited? = (s.pool.threads t).pc.stores? e →
      ∀ m ∈ s.reply u, ∀ n ∈ s.reply t, n ≤ m
  | _ => True

/-- The invariant: what is yet to be stored in a row was sent after what it holds. -/
structure InSequence (s : RefreshState τ) : Prop where
  ahead : ∀ key m t n, s.stamps key = some m → (s.pool.threads t).pc.awaited? = some key →
    s.reply t = some n → m ≤ n
  never : s.NeverBack

section Sequence

variable {cfg : Config} {discovered : List DiscoveredNode} {s s' : RefreshState τ}
  {a : RefreshAct τ} {t : τ} {e : Event} {pool : PoolState τ}

omit [DecidableEq τ] in
/-- What is written over is what the row holds, by what the thread has to store. -/
theorem RefreshState.overwrites_eq {key : CacheKey} {m n : ℕ}
    (h : (s.pool.threads t).pc.stores? e = some key) (hm : s.stamps key = some m)
    (hn : s.reply t = some n) : s.overwrites t e = [(m, n)] := by
  unfold overwrites
  rw [h]
  dsimp only
  rw [hm, hn]

omit [DecidableEq τ] in
/-- What a step overwrites: the reply that its row has the number of, by the
reply that its thread has not stored yet. -/
theorem RefreshState.mem_overwrites {p : ℕ × ℕ} (h : p ∈ s.overwrites t e) :
    ∃ key, (s.pool.threads t).pc.stores? e = some key ∧ s.stamps key = some p.1 ∧
      s.reply t = some p.2 := by
  unfold overwrites at h
  cases hstores : (s.pool.threads t).pc.stores? e with
  | none =>
    rw [hstores] at h
    cases h
  | some key =>
    rw [hstores] at h
    dsimp only at h
    split at h
    · rename_i m n hm hn
      obtain rfl := List.mem_singleton.1 h
      exact ⟨key, rfl, hm, hn⟩
    · cases h

/-- **An event of a thread keeps the sequence**, if it overtakes nobody: what
it stores was sent after what the row holds. -/
theorem InSequence.after (h : InSequence s) (hnum : Numbered s)
    (hs : s.pool.step cfg (t, e) = some pool) (hno : NoOvertaking s (.thread t e)) :
    InSequence (s.after t e pool) := by
  obtain ⟨th, hm, hthreads⟩ := PoolState.rowMove_of_step hs
  have hself : pool.threads t = th := by rw [hthreads, Function.update_self]
  have hother : ∀ u, u ≠ t → pool.threads u = s.pool.threads u := fun u hu => by
    rw [hthreads, Function.update_of_ne hu]
  constructor
  · intro key m u n hstamp hawaited hreply
    change (pool.threads u).pc.awaited? = some key at hawaited
    have hreply' : s.reply u = some n := by
      rw [RefreshState.reply_after] at hreply
      split_ifs at hreply
      exact hreply
    change (if (snapshotAt pool.api key).isSome then s.stampsAfter t e key else none) = some m
      at hstamp
    split_ifs at hstamp
    by_cases hut : u = t
    · -- It has stored nothing in the step, and has awaited the reply before it.
      subst hut
      rw [hself] at hawaited
      obtain ⟨hstores, hbefore⟩ := hm.awaited hawaited
      rw [RefreshState.stampsAfter_of_ne (by rw [hstores]; exact nofun)] at hstamp
      rcases hbefore with hbefore | hbefore
      · rw [hnum.awaited u hbefore] at hreply'
        cases hreply'
      · exact h.ahead key m u n hstamp hbefore hreply'
    · rw [hother u hut] at hawaited
      by_cases hstores : (s.pool.threads t).pc.stores? e = some key
      · rw [RefreshState.stampsAfter_of_stores hstores] at hstamp
        exact hno (by rw [hstores]; exact nofun) u (hawaited.trans hstores.symm) n hreply' m hstamp
      · rw [RefreshState.stampsAfter_of_ne hstores] at hstamp
        exact h.ahead key m u n hstamp hawaited hreply'
  · intro p hp
    rcases List.mem_append.1 hp with hp | hp
    · obtain ⟨key, hstores, hold, hnew⟩ := RefreshState.mem_overwrites hp
      exact h.ahead key p.1 t p.2 hold (Pc.awaited_of_stores hstores) hnew
    · exact h.never p hp

/-- **Every step keeps the sequence**, if it overtakes nobody; a reply that is
sent is the latest of all. -/
theorem inSequence_step (h : InSequence s) (hnum : Numbered s) (hs : s.step cfg a = some s')
    (hno : NoOvertaking s a) : InSequence s' := by
  rcases RefreshState.step_cases hs with ⟨t, target, c, rfl, hpc, hfree, rfl⟩ |
    ⟨t, snapshot, target, c, rfl, hpc, hio, -, rfl⟩ | ⟨t, e, pool, rfl, -, hpool, rfl⟩
  · exact ⟨h.ahead, h.never⟩
  · refine ⟨fun key m u n hstamp hawaited hreply => ?_, h.never⟩
    by_cases hut : u = t
    · have hn : some s.sent.length = some n := by
        rw [← hreply, hut]
        exact (Function.update_self t _ s.reply).symm
      exact (hnum.stamp_lt key m hstamp).le.trans (Option.some.inj hn).le
    · rw [RefreshState.reply_send_of_ne hut] at hreply
      exact h.ahead key m u n hstamp hawaited hreply
  · exact h.after hnum hpool hno

/-- A thread that has an earlier reply to store than the row holds can store it. -/
theorem RefreshState.back_of_storing {u : τ} {target : RefreshTarget}
    {snapshot : ServerGresSnapshot} {m n : ℕ}
    (hpc : (s.pool.threads u).pc = .storing target snapshot) (hreply : s.reply u = some m)
    (hstamp : s.stamps target.addr.cacheKey = some n) (hlt : m < n) :
    ∃ s', s.step cfg (.thread u (.step atZero)) = some s' ∧ ¬ s'.NeverBack := by
  have hnext : (s.pool.step cfg (u, .step atZero)).isSome = true := by
    simp only [PoolState.step, Handler.next, hpc, Option.isSome_map, Option.isSome_some]
  obtain ⟨pool, hpool⟩ := Option.isSome_iff_exists.1 hnext
  have hwritten : s.overwrites u (.step atZero) = [(n, m)] :=
    overwrites_eq (by rw [hpc]; rfl) hstamp hreply
  refine ⟨s.after u (.step atZero) pool, by simp [step, mayReturn, hpool], fun hback => ?_⟩
  have hmem : (n, m) ∈ (s.after u (.step atZero) pool).overwritten :=
    List.mem_append_left _ (by rw [hwritten]; exact List.mem_singleton_self _)
  exact absurd (hback _ hmem) (Nat.not_le_of_lt hlt)

/-- A query that has been sent its reply can return it, and leaves the row alone. -/
theorem Numbered.step_of_querying (hnum : Numbered s) {u : τ} {target : RefreshTarget}
    {c : Connection} {snapshot : ServerGresSnapshot} {m n : ℕ}
    (hpc : (s.pool.threads u).pc = .querying target c) (hreply : s.reply u = some m)
    (hsent : s.sent[m]? = some snapshot) (hstamp : s.stamps target.addr.cacheKey = some n) :
    ∃ e s', s.step cfg (.thread u e) = some s' ∧
      (s'.pool.threads u).pc = .storing target snapshot ∧ s'.reply u = some m ∧
        s'.stamps target.addr.cacheKey = some n := by
  have hio := hnum.locked u target c hpc (by rw [hreply]; exact Option.some_ne_none m)
  have hreplied : s.replied u = some snapshot := by
    rw [RefreshState.replied, hreply]
    exact hsent
  let e : Event := .queryReturns (.ok (snapshot, s.pool.api.metadata c.serial))
  let api := s.pool.api.setMetadata c (s.pool.api.metadata c.serial)
  let th : Handler := { s.pool.threads u with pc := .storing target snapshot }
  let pool : PoolState τ :=
    { s.pool with api, threads := Function.update s.pool.threads u th }
  have hpool : s.pool.step cfg (u, e) = some pool := by
    simp only [PoolState.step, e, Handler.next, hpc, Option.map_some]
    rfl
  have hmay : s.mayReturn u e = true := by
    simp only [RefreshState.mayReturn, e, hpc, hio, hreplied, decide_true, beq_self_eq_true,
      Bool.and_self]
  have hth : (pool.threads u).pc = .storing target snapshot := by
    simp only [pool, Function.update_self, th]
  refine ⟨e, s.after u e pool, by simp [RefreshState.step, hmay, hpool], hth, ?_, ?_⟩
  · have hawaits : (pool.threads u).pc.awaited? ≠ none := by
      rw [hth]
      exact Option.some_ne_none _
    rw [RefreshState.reply_after, if_neg fun hc => hawaits hc.2, hreply]
  · have hrow : snapshotAt pool.api target.addr.cacheKey = s.sent[n]? := by
      refine (hnum.stamped target.addr.cacheKey).trans ?_
      rw [hstamp]
      rfl
    have hother : (s.pool.threads u).pc.stores? e ≠ some target.addr.cacheKey := by
      rw [hpc]
      exact (Option.some_ne_none _).symm
    change (if (snapshotAt pool.api target.addr.cacheKey).isSome then
      s.stampsAfter u e target.addr.cacheKey else none) = some n
    rw [hrow, List.getElem?_eq_getElem (hnum.stamp_lt _ n hstamp), Option.isSome_some, if_pos rfl,
      RefreshState.stampsAfter_of_ne hother, hstamp]

/-- **A reply that has been overtaken** can take the row back at once: its
thread goes on, and stores the earlier reply over the later one. -/
theorem exists_run_back (hnum : Numbered s) (hs : s.step cfg a = some s')
    (hno : ¬ NoOvertaking s a) :
    ∃ as s'', (refreshSystem τ cfg discovered).Run s' as s'' ∧ ¬ s''.NeverBack := by
  have hnum' := numbered_step hnum hs
  rcases RefreshState.step_cases hs with ⟨t, target, c, rfl, -⟩ |
    ⟨t, snapshot, target, c, rfl, -⟩ | ⟨t, e, pool, rfl, -, hpool, rfl⟩
  · exact absurd trivial hno
  · exact absurd trivial hno
  simp only [NoOvertaking, not_forall, Nat.not_le] at hno
  obtain ⟨hstores, u, hawaited, m, hm, n, hn, hlt⟩ := hno
  obtain ⟨key, hkey⟩ := Option.ne_none_iff_exists'.1 hstores
  rw [hkey] at hawaited
  obtain ⟨th, hmove, hthreads⟩ := PoolState.rowMove_of_step hpool
  have hut : u ≠ t := by
    rintro rfl
    exact absurd (Option.some.inj (hm.symm.trans hn)) hlt.ne
  have hpc : ((s.after t e pool).pool.threads u).pc = (s.pool.threads u).pc := by
    change (pool.threads u).pc = _
    rw [hthreads, Function.update_of_ne hut]
  have hreply : (s.after t e pool).reply u = some m := by
    rw [RefreshState.reply_after, if_neg fun hc => hut hc.1]
    exact hm
  have hstamp : (s.after t e pool).stamps key = some n := by
    obtain ⟨_, snapshot, -, -, hnew⟩ := hmove.snapshotAt_of_stores hkey
    change (if (snapshotAt pool.api key).isSome then s.stampsAfter t e key else none) = some n
    rw [hnew, Option.isSome_some, if_pos rfl, RefreshState.stampsAfter_of_stores hkey]
    exact hn
  cases hat : (s.pool.threads u).pc <;> rw [hat] at hawaited <;> cases hawaited
  · have hsent := List.getElem?_eq_getElem (hnum'.reply_lt u m hreply)
    obtain ⟨e', s₁, hs₁, hpc₁, hreply₁, hstamp₁⟩ :=
      hnum'.step_of_querying (hpc.trans hat) hreply hsent hstamp
    obtain ⟨s₂, hs₂, hback⟩ := RefreshState.back_of_storing hpc₁ hreply₁ hstamp₁ hlt
    exact ⟨_, s₂, .cons hs₁ (.single hs₂), hback⟩
  · obtain ⟨s₁, hs₁, hback⟩ := RefreshState.back_of_storing (hpc.trans hat) hreply hstamp hlt
    exact ⟨_, s₁, .single hs₁, hback⟩

/-- **Rows that never go back.**  In every run in which no thread stores a reply while
another has yet to store an earlier one for the row, no snapshot is written over by
one that was sent before it, in any order of the queries and the stores; and the
numbers that say so are those of the snapshots in the rows.  After a step of any run
that does overtake a reply, the run can go on to take the row back. -/
theorem rows_never_go_back :
    (∀ s, ((refreshSystem τ cfg discovered).restrict NoOvertaking).Reachable s →
      s.NeverBack ∧
        ∀ key, snapshotAt s.pool.api key = (s.stamps key).bind fun n => s.sent[n]?) ∧
      ∀ s a s', (refreshSystem τ cfg discovered).Reachable s → s.step cfg a = some s' →
        ¬ NoOvertaking s a →
          ∃ as s'', (refreshSystem τ cfg discovered).Run s' as s'' ∧ ¬ s''.NeverBack := by
  constructor
  · intro s h
    have hseq : Numbered s ∧ InSequence s := by
      refine h.invariant (I := fun s => Numbered s ∧ InSequence s) ?_ ?_
      · intro s hinit
        refine ⟨numbered_init hinit, ?_⟩
        obtain rfl : s = _ := hinit
        exact ⟨nofun, nofun⟩
      · rintro s a s' ⟨hnum, hseq⟩ ⟨hs, hno⟩
        exact ⟨numbered_step hnum hs, inSequence_step hseq hnum hs hno⟩
    exact ⟨hseq.2.never, hseq.1.stamped⟩
  · intro s a s' h hs hno
    exact exists_run_back (numbered_of_reachable h) hs hno

end Sequence

/-! ### Two handlers and one row -/

/-- A snapshot of a host without resources. -/
def emptySnapshot (driverVersion : String) : ServerGresSnapshot where
  hostname := "a"
  driverVersion := some driverVersion
  gres := []

/-- The query of a thread, from its lock to its return. -/
def answeredRun (t : Bool) (snapshot : ServerGresSnapshot) : List (RefreshAct Bool) :=
  [.lockIo t, .send t snapshot, .thread t (.queryReturns (.ok (snapshot,
    { hostname := "a", driverVersion := none, gres := [] })))]

/-- Two threads refresh a row, and the connection answers one after the other. -/
def refreshRun : List (RefreshAct Bool) :=
  (installRun false (.v4 1 7070) "a" ++ queryRun false ++ queryRun true).map
      (fun a => .thread a.1 a.2) ++
    answeredRun false (emptySnapshot "1") ++ answeredRun true (emptySnapshot "2")

/-- A thread stores its snapshot. -/
def storeStep (t : Bool) : RefreshAct Bool := .thread t (.step atZero)

instance NoOvertaking.decidable [Fintype τ] (s : RefreshState τ) :
    ∀ a, Decidable (NoOvertaking s a)
  | .lockIo _ => .isTrue trivial
  | .send _ _ => .isTrue trivial
  | .thread t e => inferInstanceAs (Decidable
    ((s.pool.threads t).pc.stores? e ≠ none →
      ∀ u, (s.pool.threads u).pc.awaited? = (s.pool.threads t).pc.stores? e →
        ∀ m ∈ s.reply u, ∀ n ∈ s.reply t, n ≤ m))

/-- The snapshots are stored in the order of the replies, and the later one stays. -/
theorem rows_never_go_back_inOrder :
    ∃ s, ((refreshSystem Bool (roomFor 1) []).restrict NoOvertaking).Reachable s ∧
      s.overwritten = [(0, 1)] ∧ s.NeverBack ∧
        snapshotAt s.pool.api (.v4 1, 7070) = some (emptySnapshot "2") := by
  let step (s : RefreshState Bool) (a : RefreshAct Bool) :=
    if NoOvertaking s a then s.step (roomFor 1) a else none
  have hrun : (Lts.exec step { pool := { api := { rows := buildCache [] } } }
      (refreshRun ++ [storeStep false, storeStep true])).map
        (fun s => (s.overwritten, snapshotAt s.pool.api (.v4 1, 7070))) =
          some ([(0, 1)], some (emptySnapshot "2")) := by decide +kernel
  obtain ⟨s, hs, hview⟩ := Option.map_eq_some_iff.1 hrun
  have hreach : ((refreshSystem Bool (roomFor 1) []).restrict NoOvertaking).Reachable s :=
    ⟨_, _, rfl, Lts.run_restrict_of_exec hs⟩
  obtain ⟨hwritten, hrow⟩ := Prod.mk.inj hview
  exact ⟨s, hreach, hwritten, (rows_never_go_back.1 s hreach).1, hrow⟩

/-- **A row goes back**: the earlier reply is stored after the later one, and
stays. Two queries are enough, on two threads. -/
theorem row_goes_back :
    ¬ ∀ s, (refreshSystem Bool (roomFor 1) []).Reachable s → s.NeverBack := by
  intro h
  have hrun : (Lts.exec (RefreshState.step (roomFor 1))
      { pool := { api := { rows := buildCache [] } } }
      (refreshRun ++ [storeStep true, storeStep false])).map RefreshState.overwritten =
        some [(1, 0)] := by decide +kernel
  obtain ⟨s, hs, hwritten⟩ := Option.map_eq_some_iff.1 hrun
  have hback := h s ⟨_, _, rfl, Lts.run_of_exec hs⟩ (1, 0)
    (by rw [hwritten]; exact List.mem_singleton_self _)
  exact absurd hback (by decide)

end Backend
end Clustat
