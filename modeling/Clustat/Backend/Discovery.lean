/-
# Discovered and configured nodes

`merge_discovered_nodes` of `crates/client-backend/src/discovery.rs`: the nodes that have been
discovered and those of the configuration go into a hash map under the texts of their addresses,
a later one in the place of an earlier, and the values are sorted by these texts.  The order in
which the map is iterated leaves no trace, because the texts are distinct (`merged_nodes`).

A text is that of one address, but for the flow information of IPv6, which is not printed
(`printed_eq_iff`).
-/

import Mathlib.Data.String.Basic
import Clustat.Backend.LocalApi
import Clustat.Backend.NodeFilter
import Clustat.Lib.Keyed

namespace Clustat
namespace Backend

open Keyed Numeral

/-- `to_string` of a `SocketAddr`. -/
def SocketAddr.printed (addr : SocketAddr) : String := .ofList addr.display

/-- An address without its flow information. -/
def SocketAddr.withoutFlowinfo : SocketAddr → SocketAddr
  | .v4 ip port => .v4 ip port
  | .v6 ip port _ scopeId => .v6 ip port 0 scopeId

/-- `merge_discovered_nodes`. -/
def mergeDiscoveredNodes (order : Iteration String DiscoveredNode)
    (discovered staticNodes : List DiscoveredNode) : List DiscoveredNode :=
  let map : Table String DiscoveredNode :=
    (discovered ++ staticNodes).foldl (fun map node => map.insert node.addr.printed node) ∅
  ((order.entries map).map Prod.snd).mergeSort fun a b => a.addr.printed ≤ b.addr.printed

/-! ### Printed addresses -/

/-- An IPv6 address is printed in brackets, with its port behind them. -/
theorem display_v6 (ip : BitVec 128) (port : UInt16) (flowinfo scopeId : UInt32) :
    (SocketAddr.v6 ip port flowinfo scopeId).display =
      '[' :: (bracketed ip scopeId ++ ']' :: ':' :: Nat.toDigits 10 port.toNat) := by
  simp [SocketAddr.display, bracketed]

/-- Different numbers have different digits. -/
theorem toDigits_injective : Function.Injective (Nat.toDigits 10) := by
  intro m n h
  have hvalue := congrArg (value 10) h
  rwa [value_toDigits (by decide) (by decide), value_toDigits (by decide) (by decide)] at hvalue

/-- The address and the scope id are read off what is between the brackets: the address has no
percent sign. -/
theorem bracketed_inj {ip ip' : BitVec 128} {scopeId scopeId' : UInt32}
    (h : bracketed ip scopeId = bracketed ip' scopeId') : ip = ip' ∧ scopeId = scopeId' := by
  have hpercent (ip : BitVec 128) : ∀ c ∈ displayIpv6 ip, decide (c ≠ '%') = true := by
    intro c hc
    refine decide_eq_true fun he => ?_
    rcases he ▸ ipChar_display (.v6 ip) c hc with h | h
    · exact absurd h (by decide)
    · exact absurd h (by decide)
  have hfront (ip : BitVec 128) (scopeId : UInt32) :
      (bracketed ip scopeId).takeWhile (· ≠ '%') = displayIpv6 ip := by
    rw [bracketed, List.takeWhile_append_of_pos (hpercent ip)]
    split_ifs <;> simp
  have hip : displayIpv6 ip = displayIpv6 ip' := by
    rw [← hfront ip scopeId, h, hfront]
  have hread := parseIpAddr_display (.v6 ip)
  rw [IpAddr.display, hip] at hread
  refine ⟨(IpAddr.v6.inj (Option.some.inj ((parseIpAddr_display (.v6 ip')).symm.trans hread))).symm,
    ?_⟩
  rw [bracketed, bracketed, hip] at h
  have hzone := List.append_cancel_left h
  split_ifs at hzone with hs hs'
  · rw [hs, hs']
  · exact UInt32.toNat_inj.1 (toDigits_injective (List.cons.inj hzone).2)

/-- **A printed address** is that of one address, up to its flow information,
which is not printed; a scope id is. -/
theorem printed_eq_iff (a b : SocketAddr) :
    a.printed = b.printed ↔ a.withoutFlowinfo = b.withoutFlowinfo := by
  have hv6 (ip : UInt32) (port : UInt16) (ip' : BitVec 128) (port' : UInt16)
      (flowinfo scopeId : UInt32) :
      (SocketAddr.v4 ip port).display ≠ (SocketAddr.v6 ip' port' flowinfo scopeId).display := by
    intro h
    have hchars : ∀ c ∈ (SocketAddr.v4 ip port).display, AddrChar c :=
      List.forall_mem_append.2 ⟨addrChar_display (.v4 ip), .cons_toDigits (.inr (by decide)) _⟩
    rw [h, display_v6] at hchars
    exact (hchars '[' List.mem_cons_self).ne_bracket rfl
  rw [SocketAddr.printed, SocketAddr.printed, String.ofList_inj]
  cases a with
  | v4 ip port =>
    cases b with
    | v4 ip' port' =>
      refine ⟨fun h => ?_, fun h => congrArg SocketAddr.display h⟩
      have hread := parseSocketAddr_display_v4 ip port
      rw [h, parseSocketAddr_display_v4] at hread
      exact (Option.some.inj hread).symm
    | v6 ip' port' flowinfo' scopeId' => exact ⟨fun h => (hv6 _ _ _ _ _ _ h).elim, nofun⟩
  | v6 ip port flowinfo scopeId =>
    cases b with
    | v4 ip' port' => exact ⟨fun h => (hv6 _ _ _ _ _ _ h.symm).elim, nofun⟩
    | v6 ip' port' flowinfo' scopeId' =>
      have hclose (ip : BitVec 128) (scopeId : UInt32) : ']' ∉ bracketed ip scopeId := fun hc =>
        (addrChar_bracketed ip scopeId _ hc).plain.1.ne.2.2 rfl
      rw [display_v6, display_v6]
      constructor
      · intro h
        have hparts := congrArg (splitOnce ']') (List.cons.inj h).2
        rw [splitOnce_append (hclose ip scopeId), splitOnce_append (hclose ip' scopeId')] at hparts
        obtain ⟨hbracketed, hport⟩ := Prod.mk.inj (Option.some.inj hparts)
        obtain ⟨rfl, rfl⟩ := bracketed_inj hbracketed
        rw [UInt16.toNat_inj.1 (toDigits_injective (List.cons.inj hport).2)]
        rfl
      · intro h
        obtain ⟨rfl, rfl, -, rfl⟩ := SocketAddr.v6.inj h
        rfl

/-! ### The merged nodes -/

/-- The key of a node in the map. -/
abbrev DiscoveredNode.printed (node : DiscoveredNode) : String := node.addr.printed

/-- What `merge_discovered_nodes` returns for a printed address. -/
def mergedAt (discovered staticNodes : List DiscoveredNode) (printed : String) :
    Option DiscoveredNode :=
  (latest DiscoveredNode.printed staticNodes printed).or
    (latest DiscoveredNode.printed discovered printed)

section Merge

variable (order : Iteration String DiscoveredNode) (discovered staticNodes : List DiscoveredNode)

/-- The values of the map, as they are iterated. -/
def listed : List DiscoveredNode :=
  (order.entries (byKey DiscoveredNode.printed (discovered ++ staticNodes))).map Prod.snd

/-- The merged nodes are the values of the map, sorted by the printed address.
-/
theorem mergeDiscoveredNodes_eq : mergeDiscoveredNodes order discovered staticNodes =
    (listed order discovered staticNodes).mergeSort fun a b => a.printed ≤ b.printed :=
  rfl

/-- No two values of the map have one printed address, since each stands under
its own. -/
theorem nodup_listed : ((listed order discovered staticNodes).map DiscoveredNode.printed).Nodup :=
  nodup_listing (fun _ _ hnode => (latest_eq_some
    (lookup_byKey DiscoveredNode.printed _ _ ▸ hnode)).2) (order.perm _)

/-- The values of the map are what there is for some printed address. -/
theorem mem_listed {node : DiscoveredNode} : node ∈ listed order discovered staticNodes ↔
    mergedAt discovered staticNodes node.printed = some node := by
  rw [listed, mem_listing (order.perm _)]
  simp only [lookup_byKey]
  constructor
  · rintro ⟨k, hk⟩
    obtain rfl := (latest_eq_some hk).2
    rwa [latest_append] at hk
  · intro h
    exact ⟨node.printed, by rwa [latest_append]⟩

/-- **The nodes are sorted by their addresses**, which are distinct, because
the map has one node for each printed address. -/
theorem pairwise_mergeDiscoveredNodes :
    (mergeDiscoveredNodes order discovered staticNodes).Pairwise fun a b =>
      a.printed < b.printed :=
  pairwise_lt_mergeSort DiscoveredNode.printed (nodup_listed order discovered staticNodes)

/-- **What is in the merged list**: for each printed address the node that the
map has for it in the end. -/
theorem mem_mergeDiscoveredNodes {node : DiscoveredNode} :
    node ∈ mergeDiscoveredNodes order discovered staticNodes ↔
      mergedAt discovered staticNodes node.printed = some node := by
  rw [mergeDiscoveredNodes_eq, List.mem_mergeSort, mem_listed]

/-- **Of every address one node**: the last of the configuration, or else the
last discovered, or none if there is neither. -/
theorem filter_mergeDiscoveredNodes (printed : String) :
    (mergeDiscoveredNodes order discovered staticNodes).filter (·.printed = printed) =
      (mergedAt discovered staticNodes printed).toList := by
  have hnodup : ((mergeDiscoveredNodes order discovered staticNodes).map
      DiscoveredNode.printed).Nodup :=
    List.pairwise_map.2
      ((pairwise_mergeDiscoveredNodes order discovered staticNodes).imp fun h => h.ne)
  refine filter_eq_toList hnodup fun node => ?_
  rw [mem_mergeDiscoveredNodes]
  constructor
  · rintro ⟨h, rfl⟩
    exact h
  · intro h
    have hprinted : node.printed = printed := by
      rw [mergedAt, ← latest_append] at h
      exact (latest_eq_some h).2
    exact ⟨hprinted ▸ h, hprinted⟩

/-- Two merges with the same nodes for every address return one list. -/
theorem mergeDiscoveredNodes_congr {order' : Iteration String DiscoveredNode}
    {discovered' staticNodes' : List DiscoveredNode}
    (h : ∀ printed, mergedAt discovered staticNodes printed =
      mergedAt discovered' staticNodes' printed) :
    mergeDiscoveredNodes order discovered staticNodes =
      mergeDiscoveredNodes order' discovered' staticNodes' := by
  have hnodup := nodup_listed order discovered staticNodes
  have hnodup' := nodup_listed order' discovered' staticNodes'
  rw [mergeDiscoveredNodes_eq, mergeDiscoveredNodes_eq]
  refine mergeSort_eq_of_perm ?_ hnodup
  refine (List.perm_ext_iff_of_nodup (.of_map _ hnodup) (.of_map _ hnodup')).2 fun node => ?_
  rw [mem_listed, mem_listed, h]

/-- The merged nodes, merged again with the same configuration. -/
theorem mergedAt_merge (printed : String) :
    mergedAt (mergeDiscoveredNodes order discovered staticNodes) staticNodes printed =
      mergedAt discovered staticNodes printed := by
  have hone (o : Option DiscoveredNode) : o.toList.getLast? = o := by cases o <;> rfl
  have hlatest : latest DiscoveredNode.printed
      (mergeDiscoveredNodes order discovered staticNodes) printed =
        mergedAt discovered staticNodes printed := by
    rw [latest, filter_mergeDiscoveredNodes, hone]
  rw [mergedAt, hlatest, mergedAt, ← Option.or_assoc, Option.or_self]

/-- **Merging is a union by printed address.**  The result is sorted by the printed addresses; of
each it has the last node of the configuration, or else the last that was discovered, and none if
there is neither; the order of the map does not count, and a second merge with the same
configuration changes nothing.  A printed address is an address but for its flow information. -/
theorem merged_nodes :
    (mergeDiscoveredNodes order discovered staticNodes).Pairwise (fun a b =>
      a.addr.printed < b.addr.printed) ∧
    (∀ printed, (mergeDiscoveredNodes order discovered staticNodes).filter
      (·.addr.printed = printed) = (mergedAt discovered staticNodes printed).toList) ∧
    (∀ order', mergeDiscoveredNodes order' discovered staticNodes =
      mergeDiscoveredNodes order discovered staticNodes) ∧
    (∀ order', mergeDiscoveredNodes order' (mergeDiscoveredNodes order discovered staticNodes)
      staticNodes = mergeDiscoveredNodes order discovered staticNodes) ∧
    ∀ a b : SocketAddr, a.printed = b.printed ↔ a.withoutFlowinfo = b.withoutFlowinfo :=
  ⟨pairwise_mergeDiscoveredNodes order discovered staticNodes,
    filter_mergeDiscoveredNodes order discovered staticNodes,
    fun _ => mergeDiscoveredNodes_congr _ _ _ fun _ => rfl,
    fun _ => mergeDiscoveredNodes_congr _ _ _ (mergedAt_merge order discovered staticNodes),
    printed_eq_iff⟩

end Merge

/-- A discovered and a configured node at `[::1]:80`, the second with flow information: only the
second is returned. -/
theorem flowinfo_merged :
    ¬∀ (order : Iteration String DiscoveredNode) (discovered staticNodes : List DiscoveredNode),
      ∀ node ∈ discovered ++ staticNodes,
        ∃ node' ∈ mergeDiscoveredNodes order discovered staticNodes, node'.addr = node.addr := by
  intro h
  obtain ⟨node', hnode', haddr⟩ := h (.list _ _) [⟨"::1", .v6 1 80 0 0, 0⟩]
    [⟨"::1", .v6 1 80 7 0, 0⟩] ⟨"::1", .v6 1 80 0 0, 0⟩ List.mem_cons_self
  have hprinted : node'.printed = (SocketAddr.v6 1 80 7 0).printed := by
    rw [DiscoveredNode.printed, haddr]
    rfl
  rw [mem_mergeDiscoveredNodes, hprinted] at hnode'
  have hstatic : mergedAt [⟨"::1", .v6 1 80 0 0, 0⟩] [⟨"::1", .v6 1 80 7 0, 0⟩]
      (SocketAddr.v6 1 80 7 0).printed = some ⟨"::1", .v6 1 80 7 0, 0⟩ := by
    simp [mergedAt, latest]
  rw [hstatic] at hnode'
  rw [← Option.some.inj hnode'] at haddr
  exact absurd haddr (by decide)

end Backend
end Clustat
