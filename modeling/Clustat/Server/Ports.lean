/-
# The ports of a server

`crates/server/src/main.rs`: a port that the configuration leaves open is the first of its range
that can be bound and is not taken by the other protocol.  The range is gone through from a place
that the clock gives, so that servers on one host do not all try the same port first
(`port_candidates`).

The arithmetic is that of `u32` and `u16`, and every step that could overflow is checked here, as
`none`.  None does, and the candidates are the range, turned (`portCandidates_eq`).
-/

import Mathlib.Data.List.Rotate
import Clustat.Common.Snapshot
import Clustat.Lib.Checked

namespace Clustat
namespace Server

/-- `StartupError`. -/
structure StartupError where
  code : ErrorCode
  message : String
  hint : Option String := none
  deriving DecidableEq, Repr

/-- `validate_port_range`. -/
def validatePortRange (start stop : UInt16) : Except StartupError Unit :=
  if start = 0 ∨ stop = 0 ∨ stop < start then
    .error
      { code := .configInvalid
        message := "invalid port_range [" ++ toString start.toNat ++ ", " ++
          toString stop.toNat ++ "]" }
  else .ok ()

/-- `port_candidates`, with the nanoseconds of the clock. -/
def portCandidates (start stop : UInt16) (nanos : UInt32) : Option (List UInt16) := do
  let count ← Checked.add (2 ^ 32) (← Checked.sub stop.toNat start.toNat) 1
  let offset ← Checked.rem nanos.toNat count
  (List.range count).mapM fun idx => do
    let turned ← Checked.rem (← Checked.add (2 ^ 32) offset idx) count
    let port ← Checked.add (2 ^ 16) start.toNat (turned % 2 ^ 16)
    some (.ofNat port)

/-- How a picker names its setting, the port it must not have, and its protocol. -/
structure PortTexts where
  setting : String
  other : String
  protocol : String

/-- The two pickers, which differ in their texts and in what they bind. -/
def pickPort (texts : PortTexts) (bindable : UInt16 → Bool) (start stop requested : UInt16)
    (exclude : Option UInt16) (nanos : UInt32) : Option (Except StartupError UInt16) :=
  if requested ≠ 0 then
    let configured := "configured " ++ texts.setting ++ " " ++ toString requested.toNat
    if some requested = exclude then
      some (.error
        { code := .portExhausted, message := configured ++ " conflicts with " ++ texts.other })
    else if bindable requested then some (.ok requested)
    else some (.error { code := .portExhausted, message := configured ++ " is not available" })
  else
    (portCandidates start stop nanos).map fun ports =>
      match ports.find? fun port => some port ≠ exclude ∧ bindable port with
      | some port => .ok port
      | none =>
        .error
          { code := .portExhausted
            message := "all " ++ texts.protocol ++ " ports exhausted in range [" ++
              toString start.toNat ++ ", " ++ toString stop.toNat ++ "]" }

/-- `pick_udp_port_excluding`. -/
def pickUdpPortExcluding := pickPort ⟨"udp_port", "another UDP port", "UDP"⟩

/-- `pick_udp_port`. -/
def pickUdpPort (bindable : UInt16 → Bool) (start stop requested : UInt16) (nanos : UInt32) :
    Option (Except StartupError UInt16) :=
  pickUdpPortExcluding bindable start stop requested none nanos

/-- `pick_tcp_port`. -/
def pickTcpPort := pickPort ⟨"tcp_port", "udp_port", "TCP"⟩

/-! ### The candidates -/

/-- A range that has been validated. -/
theorem validatePortRange_eq_ok {start stop : UInt16} :
    validatePortRange start stop = .ok () ↔ 1 ≤ start ∧ start ≤ stop := by
  rw [validatePortRange]
  split_ifs with h
  · refine iff_of_false nofun ?_
    simp only [UInt16.le_iff_toNat_le, UInt16.lt_iff_toNat_lt, ← UInt16.toNat_inj] at h ⊢
    have hone : (1 : UInt16).toNat = 1 := rfl
    have hzero : (0 : UInt16).toNat = 0 := rfl
    omega
  · refine iff_of_true rfl ?_
    simp only [UInt16.le_iff_toNat_le, UInt16.lt_iff_toNat_lt, ← UInt16.toNat_inj] at h ⊢
    have hone : (1 : UInt16).toNat = 1 := rfl
    have hzero : (0 : UInt16).toNat = 0 := rfl
    omega

/-- **No step overflows**, and the candidates are the range, turned by what
the clock says. -/
theorem portCandidates_eq {start stop : UInt16} (h : start ≤ stop) (nanos : UInt32) :
    portCandidates start stop nanos =
      some (((List.range' start.toNat (stop.toNat - start.toNat + 1)).rotate
        (nanos.toNat % (stop.toNat - start.toNat + 1))).map UInt16.ofNat) := by
  have hle : start.toNat ≤ stop.toNat := UInt16.le_iff_toNat_le.1 h
  have hstop : stop.toNat < 2 ^ 16 := stop.toNat_lt
  have hcount : 0 < stop.toNat - start.toNat + 1 := Nat.succ_pos _
  have hbound : stop.toNat - start.toNat + 1 ≤ 2 ^ 16 := by omega
  rw [portCandidates, Checked.sub_of_le hle, Option.bind_eq_bind, Option.bind_some,
    Checked.add_of_lt (by omega), Option.bind_some]
  generalize hn : stop.toNat - start.toNat + 1 = count at hcount hbound
  have hoffset : nanos.toNat % count < count := Nat.mod_lt _ hcount
  rw [Checked.rem_of_ne_zero _ hcount.ne', Option.bind_some]
  generalize nanos.toNat % count = offset at hoffset
  have hturn : ∀ idx ∈ List.range count, (do
      let turned ← Checked.rem (← Checked.add (2 ^ 32) offset idx) count
      let port ← Checked.add (2 ^ 16) start.toNat (turned % 2 ^ 16)
      some (UInt16.ofNat port)) = some (UInt16.ofNat (start.toNat + (offset + idx) % count)) := by
    intro idx hidx
    have hidx : idx < count := List.mem_range.1 hidx
    have hturned : (offset + idx) % count < count := Nat.mod_lt _ hcount
    have hcast : (offset + idx) % count % 2 ^ 16 = (offset + idx) % count :=
      Nat.mod_eq_of_lt (by omega)
    simp only [Option.bind_eq_bind, Option.bind_some,
      Checked.add_of_lt (show offset + idx < 2 ^ 32 by omega),
      Checked.rem_of_ne_zero _ hcount.ne', hcast,
      Checked.add_of_lt (show start.toNat + (offset + idx) % count < 2 ^ 16 by omega)]
  rw [Checked.mapM_eq_some hturn]
  refine congrArg some (List.ext_getElem (by simp) fun idx _ _ => ?_)
  simp [List.getElem_rotate, Nat.add_comm idx]

/-- **The candidates are the ports of the range**, each once, wherever the
clock makes them start. -/
theorem candidates_of_range {start stop : UInt16} (h : start ≤ stop) (nanos : UInt32) :
    ∃ ports, portCandidates start stop nanos = some ports ∧ ports.Nodup ∧
      ∀ p, p ∈ ports ↔ start ≤ p ∧ p ≤ stop := by
  have hle : start.toNat ≤ stop.toNat := UInt16.le_iff_toNat_le.1 h
  have hstop : stop.toNat < 2 ^ 16 := stop.toNat_lt
  refine ⟨_, portCandidates_eq h nanos, ?_, fun p => ?_⟩
  · refine List.Nodup.map_on (fun a ha b hb hab => ?_) (List.nodup_rotate.2 List.nodup_range')
    rw [List.mem_rotate, List.mem_range'_1] at ha hb
    rw [← UInt16.toNat_inj, UInt16.toNat_ofNat_of_lt' (show a < 2 ^ 16 by omega),
      UInt16.toNat_ofNat_of_lt' (show b < 2 ^ 16 by omega)] at hab
    exact hab
  · rw [UInt16.le_iff_toNat_le, UInt16.le_iff_toNat_le, List.mem_map]
    constructor
    · rintro ⟨n, hn, rfl⟩
      rw [List.mem_rotate, List.mem_range'_1] at hn
      rw [UInt16.toNat_ofNat_of_lt' (show n < 2 ^ 16 by omega)]
      omega
    · intro hp
      refine ⟨p.toNat, ?_, UInt16.ofNat_toNat⟩
      rw [List.mem_rotate, List.mem_range'_1]
      omega

/-! ### The port that is picked -/

/-- What is asked of a picker that may take any port of a range: it comes to a port of the range
that can be bound and is not the excluded one, or says that there is none. -/
structure PicksFrom (bindable : UInt16 → Bool) (start stop : UInt16) (exclude : Option UInt16)
    (picked : Option (Except StartupError UInt16)) : Prop where
  returns : picked ≠ none
  port : ∀ p, picked = some (.ok p) →
    bindable p = true ∧ start ≤ p ∧ p ≤ stop ∧ some p ≠ exclude
  error : ∀ e, picked = some (.error e) → e.code = .portExhausted ∧
    ∀ p, start ≤ p → p ≤ stop → some p ≠ exclude → bindable p = false

/-- A port is picked from the range as it is given, with its ends in order. -/
theorem picksFrom_pickPort (texts : PortTexts) (bindable : UInt16 → Bool) {start stop : UInt16}
    (h : start ≤ stop) (exclude : Option UInt16) (nanos : UInt32) :
    PicksFrom bindable start stop exclude
      (pickPort texts bindable start stop 0 exclude nanos) := by
  obtain ⟨ports, hports, -, hmem⟩ := candidates_of_range h nanos
  rw [pickPort, if_neg (by decide), hports, Option.map_some]
  cases hfind : ports.find? fun port => some port ≠ exclude ∧ bindable port with
  | some port =>
    have hkeep : some port ≠ exclude ∧ bindable port = true := by
      simpa using List.find?_some hfind
    have hrange := (hmem port).1 (List.mem_of_find?_eq_some hfind)
    refine ⟨nofun, fun p hp => ?_, nofun⟩
    obtain rfl := Except.ok.inj (Option.some.inj hp)
    exact ⟨hkeep.2, hrange.1, hrange.2, hkeep.1⟩
  | none =>
    refine ⟨nofun, nofun, fun e he => ?_⟩
    obtain rfl := Except.error.inj (Option.some.inj he)
    refine ⟨rfl, fun p hstart hstop hp => ?_⟩
    simpa [hp] using List.find?_eq_none.1 hfind p ((hmem p).2 ⟨hstart, hstop⟩)

/-- **Automatic ports are picked from all of the range.**  The candidates are its ports, each
once, with no overflow; and either picker comes to one of them that can be bound and is not
excluded, if there is one. -/
theorem automatic_port (bindable : UInt16 → Bool) {start stop : UInt16}
    (h : 1 ≤ start ∧ start ≤ stop) (exclude : Option UInt16) (nanos : UInt32) :
    (∃ ports, portCandidates start stop nanos = some ports ∧ ports.Nodup ∧
      ∀ p, p ∈ ports ↔ start ≤ p ∧ p ≤ stop) ∧
    PicksFrom bindable start stop exclude
      (pickTcpPort bindable start stop 0 exclude nanos) ∧
    PicksFrom bindable start stop exclude
      (pickUdpPortExcluding bindable start stop 0 exclude nanos) :=
  ⟨candidates_of_range h.2 nanos, picksFrom_pickPort _ bindable h.2 exclude nanos,
    picksFrom_pickPort _ bindable h.2 exclude nanos⟩

/-- The full range. -/
theorem automatic_port_full :
    (∃ ports, portCandidates 1 65535 999999999 = some ports ∧ ports.Nodup ∧
      ∀ p, p ∈ ports ↔ 1 ≤ p ∧ p ≤ 65535) ∧
    PicksFrom (· == 30000) 1 65535 (some 30001)
      (pickTcpPort (· == 30000) 1 65535 0 (some 30001) 999999999) ∧
    PicksFrom (· == 30000) 1 65535 (some 30001)
      (pickUdpPortExcluding (· == 30000) 1 65535 0 (some 30001) 999999999) :=
  automatic_port (· == 30000) (by decide) (some 30001) 999999999

end Server
end Clustat
