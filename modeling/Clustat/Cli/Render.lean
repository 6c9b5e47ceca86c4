/-
# What the CLI shows

`crates/client-cli/src/render.rs`: which nodes, resources and processes of a response
`render_table` prints.  With a user, a resource is printed if one of its processes is shown
as that user's, or if it has no list of processes, and a node if one of its resources is
printed, or if it is stale.

The backend has filtered by the same user before (`apply_user_filter`), but not in the same
way: the CLI trims the user and takes a blank one for none, and it compares with the name it
displays, which is trimmed and made up from the uid where there is none; the backend compares
the two texts as they are.  The table is the same with and without the backend's filter if
and only if it keeps every process that the CLI shows (`renderTable_applyUserFilter_iff`).
-/

import Clustat.Backend.Adapter
import Clustat.Common.Text

namespace Clustat
namespace Cli

open Backend

/-! ### Users -/

/-- `resolve_username_for_uid`, with what `getent passwd` prints if it succeeds. -/
def resolveUsernameForUid (getent : UInt32 → Option String) (uid : UInt32) : Option String :=
  (getent uid).bind fun line =>
    let name := trim (.ofList (line.toList.takeWhile (· ≠ ':')))
    if name = "" then none else some name

/-- `username_for_uid`.  It keeps what it has found, so that `getent` is asked once for each
uid. -/
def usernameForUid (getent : UInt32 → Option String) (uid : UInt32) : String :=
  if uid = 0 then "root"
  else if uid = 0xffffffff then "?"
  else (resolveUsernameForUid getent uid).getD (toString uid.toNat)

/-- `display_username`. -/
def displayUsername (getent : UInt32 → Option String) (process : ProcessView) : String :=
  let username := trim process.username
  if username ≠ "" ∧ username ≠ "?" then username else usernameForUid getent process.uid

/-- `normalized_user_filter`. -/
def normalizedUserFilter (userFilter : Option String) : Option String :=
  userFilter.bind fun s =>
    let trimmed := trim s
    if trimmed = "" then none else some trimmed

/-! ### Rows -/

/-- `should_render_gres`. -/
def shouldRenderGres (getent : UInt32 → Option String) (userFilter : Option String)
    (gres : GresView) : Bool :=
  match normalizedUserFilter userFilter with
  | none => true
  | some user =>
    match gres.processes with
    | some processes => processes.any fun process => displayUsername getent process == user
    | none => true

/-- `visible_processes`. -/
def visibleProcesses (getent : UInt32 → Option String) (userFilter : Option String)
    (gres : GresView) : List ProcessView :=
  match gres.processes with
  | none => []
  | some processes =>
    match normalizedUserFilter userFilter with
    | none => processes
    | some user => processes.filter fun process => displayUsername getent process == user

/-- What is printed of a resource: itself, and the processes behind it. -/
structure Row where
  gres : GresView
  processes : List ProcessView
  deriving DecidableEq, Repr

/-- `render_gres_row`. -/
def renderGresRow (getent : UInt32 → Option String) (userFilter : Option String)
    (gres : GresView) : Row where
  gres := { gres with processes := none }
  processes := visibleProcesses getent userFilter gres

/-- `render_table`: the nodes that are printed, and the rows below each. -/
def renderTable (getent : UInt32 → Option String) (userFilter : Option String)
    (resp : Backend.QueryResponse) : List (NodeView × List Row) :=
  resp.nodes.filterMap fun node =>
    let visibleGres := node.gres.filter (shouldRenderGres getent userFilter)
    if visibleGres.isEmpty && !node.stale then none
    else some ({ node with gres := [] }, visibleGres.map (renderGresRow getent userFilter))

/-! ### The two filters -/

section Filters

variable {getent : UInt32 → Option String} {user : Option String}

/-- The CLI shows a process to a user. -/
def showsProcess (getent : UInt32 → Option String) (userFilter : Option String)
    (process : ProcessView) : Bool :=
  match normalizedUserFilter userFilter with
  | none => true
  | some user => displayUsername getent process == user

/-- The backend keeps every process of a response that the CLI shows. -/
def FiltersAgree (getent : UInt32 → Option String) (user : Option String)
    (resp : Backend.QueryResponse) : Prop :=
  ∀ node ∈ resp.nodes, ∀ gres ∈ node.gres, ∀ processes ∈ gres.processes,
    ∀ p ∈ processes, showsProcess getent user p = true → keepsProcess user p = true

/-- The processes in the table are those of the device that the user filter of
the CLI shows. -/
theorem visibleProcesses_eq (gres : GresView) :
    visibleProcesses getent user gres =
      (gres.processes.getD []).filter (showsProcess getent user) := by
  unfold visibleProcesses showsProcess
  cases gres.processes with
  | none => rfl
  | some processes =>
    cases normalizedUserFilter user with
    | none => exact (List.filter_eq_self.2 fun _ _ => rfl).symm
    | some u => rfl

/-- A resource is printed unless there is a user and a list, and nothing of the list is
visible. -/
theorem shouldRenderGres_eq (gres : GresView) :
    shouldRenderGres getent user gres =
      ((normalizedUserFilter user).isNone || gres.processes.isNone ||
        !(visibleProcesses getent user gres).isEmpty) := by
  unfold shouldRenderGres visibleProcesses
  cases normalizedUserFilter user with
  | none => rfl
  | some u =>
    cases gres.processes with
    | none => rfl
    | some processes =>
      rw [Bool.eq_iff_iff]
      simp

/-- A resource with a visible process is printed. -/
theorem shouldRenderGres_of_mem {gres : GresView} {p : ProcessView}
    (hp : p ∈ visibleProcesses getent user gres) : shouldRenderGres getent user gres = true := by
  have hne : (visibleProcesses getent user gres).isEmpty = false :=
    List.isEmpty_eq_false_iff_exists_mem.2 ⟨p, hp⟩
  rw [shouldRenderGres_eq, hne]
  simp

/-- The processes of a table are the visible ones of the response. -/
theorem mem_renderTable_iff {resp : Backend.QueryResponse} {p : ProcessView} :
    (∃ entry ∈ renderTable getent user resp, ∃ row ∈ entry.2, p ∈ row.processes) ↔
      ∃ node ∈ resp.nodes, ∃ gres ∈ node.gres, p ∈ visibleProcesses getent user gres := by
  simp only [renderTable, List.mem_filterMap]
  constructor
  · rintro ⟨entry, ⟨node, hnode, hentry⟩, row, hrow, hp⟩
    split_ifs at hentry
    obtain rfl := Option.some.inj hentry
    obtain ⟨gres, hgres, rfl⟩ := List.mem_map.1 hrow
    exact ⟨node, hnode, gres, (List.mem_filter.1 hgres).1, hp⟩
  · rintro ⟨node, hnode, gres, hgres, hp⟩
    have hmem : gres ∈ node.gres.filter (shouldRenderGres getent user) :=
      List.mem_filter.2 ⟨hgres, shouldRenderGres_of_mem hp⟩
    have hne : (node.gres.filter (shouldRenderGres getent user)).isEmpty = false :=
      List.isEmpty_eq_false_iff_exists_mem.2 ⟨gres, hmem⟩
    refine ⟨_, ⟨node, hnode, if_neg ?_⟩, _, List.mem_map_of_mem hmem, hp⟩
    rw [hne]
    exact Bool.false_ne_true

/-- With the user filter of the backend in front, they have to pass both. -/
theorem visibleProcesses_keepProcesses (gres : GresView) :
    visibleProcesses getent user (gres.keepProcesses user) =
      (visibleProcesses getent user gres).filter (keepsProcess user) := by
  rw [visibleProcesses_eq, visibleProcesses_eq, GresView.keepProcesses]
  cases gres.processes with
  | none => rfl
  | some ps =>
    simp only [Option.map_some, Option.getD_some, List.filter_filter]
    exact List.filter_congr fun p _ => Bool.and_comm _ _

/-- A resource of which the backend keeps what is visible looks the same afterwards. -/
theorem same_of_keeps {gres : GresView}
    (h : ∀ p ∈ visibleProcesses getent user gres, keepsProcess user p = true) :
    shouldRenderGres getent user (gres.keepProcesses user) = shouldRenderGres getent user gres ∧
      renderGresRow getent user (gres.keepProcesses user) = renderGresRow getent user gres := by
  have hvisible : visibleProcesses getent user (gres.keepProcesses user) =
      visibleProcesses getent user gres := by
    rw [visibleProcesses_keepProcesses, List.filter_eq_self.2 h]
  constructor
  · rw [shouldRenderGres_eq, shouldRenderGres_eq, hvisible, GresView.keepProcesses,
      Option.isNone_map]
  · rw [renderGresRow, renderGresRow, hvisible]
    rfl

/-- The visible processes of a response are those of its lists that the CLI shows. -/
theorem filtersAgree_iff {resp : Backend.QueryResponse} :
    FiltersAgree getent user resp ↔ ∀ node ∈ resp.nodes, ∀ gres ∈ node.gres,
      ∀ p ∈ visibleProcesses getent user gres, keepsProcess user p = true := by
  refine forall₄_congr fun node _ gres _ => ?_
  rw [visibleProcesses_eq]
  cases gres.processes with
  | none => simp
  | some ps => simp

/-- **The filters agree** if and only if the backend keeps every process that the CLI
shows. -/
theorem renderTable_applyUserFilter_iff (resp : Backend.QueryResponse) :
    renderTable getent user (resp.applyUserFilter user) = renderTable getent user resp ↔
      FiltersAgree getent user resp := by
  rw [filtersAgree_iff]
  constructor
  · intro htable node hnode gres hgres p hp
    -- a visible process is in the table, and then in the one after the backend's filter
    have hshown := mem_renderTable_iff.2 ⟨node, hnode, gres, hgres, hp⟩
    rw [← htable] at hshown
    obtain ⟨node', hnode', gres', hgres', hp'⟩ := mem_renderTable_iff.1 hshown
    obtain ⟨m, -, rfl⟩ := List.mem_map.1 hnode'
    rw [applyUserFilter_eq] at hgres'
    obtain ⟨g, -, rfl⟩ := List.mem_map.1 hgres'
    rw [visibleProcesses_keepProcesses] at hp'
    exact (List.mem_filter.1 hp').2
  · intro hkeeps
    rw [renderTable, Backend.QueryResponse.applyUserFilter, List.filterMap_map, renderTable]
    refine List.filterMap_congr fun node hnode => ?_
    have hsame := fun gres hgres => same_of_keeps (hkeeps node hnode gres hgres)
    have hvisible : (node.gres.map (GresView.keepProcesses user)).filter
        (shouldRenderGres getent user) =
          (node.gres.filter (shouldRenderGres getent user)).map (GresView.keepProcesses user) := by
      rw [List.filter_map]
      exact congrArg _ (List.filter_congr fun gres hgres => (hsame gres hgres).1)
    have hrows : ((node.gres.filter (shouldRenderGres getent user)).map
        (GresView.keepProcesses user)).map (renderGresRow getent user) =
          (node.gres.filter (shouldRenderGres getent user)).map (renderGresRow getent user) := by
      rw [List.map_map]
      exact List.map_congr_left fun gres hgres => (hsame gres (List.mem_filter.1 hgres).1).2
    simp only [Function.comp_apply, applyUserFilter_eq, hvisible, hrows, List.isEmpty_map]

/-- A response with one process, of `alice`. -/
def aliceResponse : Backend.QueryResponse where
  queryMeta := { status := "ok", timestampMs := 0, nodeCount := 1, errors := [] }
  nodes :=
    [{ connectionId := "conn-001", hostname := "node-a", addr := "10.0.0.1:7000",
       timestampMs := 0, driverVersion := none, num := 1, stale := false, error := none,
       delayUs := none
       gres :=
        [{ index := 0, name := "GPU", temperatureC := none, util := 42, memUsedMb := 1024,
           memTotalMb := 8192
           processes := some
            [{ uid := 1000, username := "alice", pid := 7, command := none,
               usedMemoryMb := 512 }] }] }]

/-- With a space before her name, the CLI shows the process of `alice`, and the backend has
left it out. -/
theorem renderTable_alice :
    renderTable (fun _ => none) (some " alice") (aliceResponse.applyUserFilter (some " alice")) ≠
      renderTable (fun _ => none) (some " alice") aliceResponse := by
  decide

/-- The filters agree on a trimmed user, where every process has a trimmed name. -/
theorem filtersAgree_of_trimmed {name : String} (hname : trim name = name)
    {resp : Backend.QueryResponse} (hresp : ∀ node ∈ resp.nodes, ∀ gres ∈ node.gres,
      ∀ processes ∈ gres.processes, ∀ p ∈ processes,
        trim p.username = p.username ∧ p.username ≠ "" ∧ p.username ≠ "?") :
    FiltersAgree getent (some name) resp := by
  intro node hnode gres hgres processes hprocesses p hp hshows
  obtain ⟨htrim, hblank, hunknown⟩ := hresp node hnode gres hgres processes hprocesses p hp
  unfold keepsProcess
  by_cases hempty : name = ""
  · rw [hempty]
    rfl
  · have hdisplay : displayUsername getent p = p.username := by
      rw [displayUsername, htrim, if_pos ⟨hblank, hunknown⟩]
    have hnormal : normalizedUserFilter (some name) = some name := by
      rw [normalizedUserFilter, Option.bind_some, hname, if_neg hempty]
    rw [showsProcess, hnormal, hdisplay] at hshows
    rw [Option.filter_some_pos (by simpa using hempty)]
    exact hshows

end Filters

end Cli
end Clustat
