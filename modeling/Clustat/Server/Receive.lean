/-
# The server loop over many turns

`server_loop` of `crates/server/src/udp_transport.rs`, from its start with empty maps.  What
a turn meets is a `LoopEvent`: a datagram, its sender and the family of the sender's
address, the clock, what the handlers find in the cache, and the payload capacity for the
peer.

The `..Checked` functions are the receiving half of a turn with the slices, the indices and
the `expect`s of the functions it calls.  A turn has none when all its reassemblers are well-formed, and leaves them so:
an expired reassembler is replaced by a new one, a `Disconnect` removes one, and every other
change is an insert.
-/

import Clustat.Server.UdpLoop
import Clustat.Udp.Checked

namespace Clustat
namespace Server

open Udp

/-- What a turn of `server_loop` meets. -/
structure LoopEvent (Addr : Type*) where
  peer : Addr
  ipv4 : Bool
  datagram : Bytes
  now : ℕ
  latest : Latest
  capacity : ℕ

/-- The maps at the start. -/
def LoopState.empty {Addr : Type*} : LoopState Addr := ⟨fun _ => none, fun _ => none⟩

section Loop

variable {Addr : Type} [DecidableEq Addr] (w : Wire) (crc : Crc32) (idleTimeout : ℕ)

/-- One turn of `server_loop`. -/
def LoopState.turn (st : LoopState Addr) (e : LoopEvent Addr) : LoopState Addr :=
  (serverLoopStep w crc e.latest e.ipv4 idleTimeout e.now e.capacity st e.peer e.datagram).1

/-- `server_loop` after some turns. -/
def serverLoop (events : List (LoopEvent Addr)) : LoopState Addr :=
  events.foldl (LoopState.turn w crc idleTimeout) .empty

/-! ### With its slices and indices -/

/-- The receiving half of a turn. -/
def receiveFrameChecked (now : ℕ) (st : LoopState Addr) (peer : Addr) (datagram : Bytes) :
    Option (LoopState Addr × Option Bytes) := do
  match ← decodeUdpSingleChunkRefChecked crc datagram with
  | .error _ => return (st, none)
  | .ok (some frame) => return (st, some frame)
  | .ok none =>
    let current := (st.reassemblers peer).getD (.new now idleTimeout)
    let current := if current.isExpired now then .new now idleTimeout else current
    let out ← current.insertChecked crc datagram
    let frame := match out.2 with
      | .ok frame => frame
      | .error _ => none
    return ({ st with reassemblers := Function.update st.reassemblers peer (some out.1) }, frame)

/-- Whether the frame is a `Disconnect`. -/
def isDisconnectChecked (frame : Bytes) : Option Bool := do
  match ← decodeFrameChecked frame with
  | .error _ => return false
  | .ok (header, _) => return header.frameType == .disconnect

/-- One turn of `server_loop`.  The handlers decode the frame once more, by the same
`decode_frame`. -/
def LoopState.turnChecked (st : LoopState Addr) (e : LoopEvent Addr) :
    Option (LoopState Addr) := do
  match ← receiveFrameChecked crc idleTimeout e.now st e.peer e.datagram with
  | (st, none) => return st
  | (st, some frame) =>
    let disconnect ← isDisconnectChecked frame
    return if disconnect then
        { st with reassemblers := Function.update st.reassemblers e.peer none }
      else if asksCapacity w e.latest frame then
        { st with
          payloadCaps := Function.update st.payloadCaps e.peer
            (some (payloadCap st e.peer e.capacity)) }
      else st

/-- `server_loop` after some turns. -/
def serverLoopChecked (events : List (LoopEvent Addr)) : Option (LoopState Addr) :=
  events.foldlM (LoopState.turnChecked w crc idleTimeout) .empty

end Loop

/-- All reassemblers are well-formed. -/
def LoopState.WellFormed {Addr : Type*} (st : LoopState Addr) : Prop :=
  ∀ peer r, st.reassemblers peer = some r → r.WellFormed

section Turn

variable {Addr : Type} [DecidableEq Addr] {w : Wire} {crc : Crc32} {idleTimeout : ℕ}
variable {st : LoopState Addr}

/-- Storing a reassembler, or none, for a peer. -/
theorem LoopState.WellFormed.update (h : st.WellFormed) (peer : Addr)
    {r? : Option UdpFrameReassembler} (hr : ∀ r, r? = some r → r.WellFormed)
    (caps : Addr → Option ℕ) :
    LoopState.WellFormed ⟨Function.update st.reassemblers peer r?, caps⟩ := by
  intro peer' r hr'
  dsimp only at hr'
  by_cases hpeer : peer' = peer
  · subst hpeer
    rw [Function.update_self] at hr'
    exact hr r hr'
  · rw [Function.update_of_ne hpeer] at hr'
    exact h peer' r hr'

omit [DecidableEq Addr] in
/-- The reassembler a datagram is given to. -/
theorem LoopState.WellFormed.current (h : st.WellFormed) (peer : Addr) (now : ℕ) :
    (if ((st.reassemblers peer).getD (.new now idleTimeout)).isExpired now then
      UdpFrameReassembler.new now idleTimeout
    else (st.reassemblers peer).getD (.new now idleTimeout)).WellFormed := by
  split_ifs
  · exact .new now idleTimeout
  · cases hr : st.reassemblers peer with
    | none => exact .new now idleTimeout
    | some r => exact h peer r hr

/-- A datagram leaves the reassemblers of all peers well formed, whatever its
bytes are. -/
theorem LoopState.WellFormed.receiveFrame (h : st.WellFormed) (now : ℕ) (peer : Addr)
    (datagram : Bytes) :
    (Server.receiveFrame crc idleTimeout now st peer datagram).1.WellFormed := by
  unfold Server.receiveFrame
  rcases decodeUdpSingleChunkRef crc datagram with e | _ | frame
  · exact h
  · refine h.update peer (fun r hr => ?_) _
    obtain rfl := Option.some.inj hr
    exact (h.current peer now).insert crc datagram
  · exact h

/-- Receiving a datagram never panics, for any bytes and any peer. -/
theorem receiveFrameChecked_eq (h : st.WellFormed) (now : ℕ) (peer : Addr) (datagram : Bytes) :
    receiveFrameChecked crc idleTimeout now st peer datagram =
      some (receiveFrame crc idleTimeout now st peer datagram) := by
  rw [receiveFrameChecked, decodeUdpSingleChunkRefChecked_eq, receiveFrame, Option.bind_eq_bind,
    Option.bind_some]
  rcases decodeUdpSingleChunkRef crc datagram with e | _ | frame
  · rfl
  · have hinsert := UdpFrameReassembler.insertChecked_eq
      (@LoopState.WellFormed.current _ idleTimeout _ h peer now) crc datagram
    dsimp only
    rw [hinsert, Option.bind_eq_bind, Option.bind_some]
    rfl
  · rfl

/-- Asking a frame whether it disconnects never panics. -/
theorem isDisconnectChecked_eq (frame : Bytes) :
    isDisconnectChecked frame = some (isDisconnect frame) := by
  rw [isDisconnectChecked, decodeFrameChecked_eq, isDisconnect, decodeTransportFrame,
    Option.bind_eq_bind, Option.bind_some]
  cases decodeFrame frame <;> rfl

/-- **A turn does not panic**, and leaves the reassemblers well-formed, for a
datagram with any bytes of any peer. -/
theorem LoopState.WellFormed.turnChecked_eq (h : st.WellFormed) (e : LoopEvent Addr) :
    st.turnChecked w crc idleTimeout e = some (st.turn w crc idleTimeout e) ∧
      (st.turn w crc idleTimeout e).WellFormed := by
  have hrecv := @receiveFrameChecked_eq _ _ crc idleTimeout _ h e.now e.peer e.datagram
  have hwf := @LoopState.WellFormed.receiveFrame _ _ crc idleTimeout _ h e.now e.peer e.datagram
  rw [LoopState.turnChecked, hrecv, LoopState.turn, serverLoopStep, Option.bind_eq_bind,
    Option.bind_some]
  rcases hout : Server.receiveFrame crc idleTimeout e.now st e.peer e.datagram with ⟨st', _ | frame⟩
  · rw [hout] at hwf
    exact ⟨rfl, hwf⟩
  · rw [hout] at hwf
    simp only [isDisconnectChecked_eq, Option.bind_eq_bind, Option.bind_some, Option.pure_def]
    cases isDisconnect frame with
    | true =>
      have hnone : ∀ r, (none : Option UdpFrameReassembler) = some r → r.WellFormed :=
        fun _ hr => nomatch hr
      exact ⟨rfl, hwf.update e.peer hnone _⟩
    | false =>
      cases asksCapacity w e.latest frame with
      | true => exact ⟨rfl, hwf⟩
      | false => exact ⟨rfl, hwf⟩

/-- **The loop does not panic**, whatever the datagrams: by induction on them,
with well-formed reassemblers as the invariant. -/
theorem serverLoopChecked_eq (events : List (LoopEvent Addr)) :
    serverLoopChecked w crc idleTimeout events = some (serverLoop w crc idleTimeout events) ∧
      (serverLoop w crc idleTimeout events).WellFormed := by
  have hempty : (LoopState.empty : LoopState Addr).WellFormed := fun _ _ h => nomatch h
  have hturn : ∀ (st : LoopState Addr) e, st.WellFormed →
      st.turnChecked w crc idleTimeout e = some (st.turn w crc idleTimeout e) ∧
        (st.turn w crc idleTimeout e).WellFormed := fun _ e h => h.turnChecked_eq e
  exact Checked.foldlM_eq hturn hempty events

end Turn

end Server
end Clustat
