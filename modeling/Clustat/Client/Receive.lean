/-
# Neither receive loop panics

`recv_frame` of `crates/client-backend/src/udp_client.rs` with the panics of the functions
it calls, beside `server_loop` of `Clustat.Server.Receive`: on any datagrams, in any order
and at any times, both go on as if there were none (`receivers_never_panic`).
-/

import Clustat.Client.RecvFrame
import Clustat.Server.Receive

namespace Clustat
namespace Client

open Udp

/-- What the loop makes of a frame. -/
def acceptFrameChecked (requestId : UInt64) (frame : Bytes) :
    Option (Option (Except RecvError Bytes)) := do
  match ← decodeFrameChecked frame with
  | .error e => return some (.error (.frame e))
  | .ok (header, _) => return if header.requestId = requestId then some (.ok frame) else none

/-- The branch of `recv_frame` for a datagram. -/
def RecvLoop.receiveChecked (crc : Crc32) (requestId : UInt64) (timeout : ℕ) (st : RecvLoop)
    (arrived : ℕ) (datagram : Bytes) : Option RecvLoop := do
  let received := st.received ++ [datagram]
  match ← decodeUdpSingleChunkRefChecked crc datagram with
  | .error e => return { st with received, result := some (.error (.chunk e)) }
  | .ok (some frame) =>
    let result ← acceptFrameChecked requestId frame
    return { st with received, result }
  | .ok none =>
    let out ← (st.reassembler.getD (.new arrived timeout)).insertChecked crc datagram
    match out.2 with
    | .ok (some frame) =>
      let result ← acceptFrameChecked requestId frame
      return { reassembler := some out.1, received, result }
    | .ok none => return { reassembler := some out.1, received, result := none }
    | .error e =>
      return { reassembler := some out.1, received, result := some (.error (.chunk e)) }

/-- One turn of the loop of `recv_frame`, unless it has ended. -/
def RecvLoop.turnChecked (crc : Crc32) (requestId : UInt64) (timeout deadline : ℕ)
    (st : RecvLoop) (t : Turn) : Option RecvLoop :=
  if st.result.isSome then some st
  else if t.now < deadline ∧ st.reassembler.all fun r => !r.isExpired t.checked then
    match t.received with
    | .datagram datagram => st.receiveChecked crc requestId timeout t.arrived datagram
    | .timedOut => some { st with result := some (.error .waiting) }
    | .failed message => some { st with result := some (.error (.recv message)) }
  else some { st with result := some (.error .reassembling) }

/-- `recv_frame`, called at instant `start`, after some turns. -/
def recvFrameChecked (crc : Crc32) (requestId : UInt64) (timeout start : ℕ)
    (turns : List Turn) : Option RecvLoop :=
  turns.foldlM (RecvLoop.turnChecked crc requestId timeout (start + timeout)) {}

/-- The reassembler of the loop is well-formed, once there is one. -/
def RecvLoop.WellFormed (st : RecvLoop) : Prop := ∀ r, st.reassembler = some r → r.WellFormed

variable {crc : Crc32} {requestId : UInt64} {timeout : ℕ} {st : RecvLoop}

/-- Taking a frame for the reply never panics, whatever the frame is. -/
theorem acceptFrameChecked_eq (requestId : UInt64) (frame : Bytes) :
    acceptFrameChecked requestId frame = some (acceptFrame requestId frame) := by
  rw [acceptFrameChecked, decodeFrameChecked_eq, acceptFrame, Option.bind_eq_bind,
    Option.bind_some]
  cases decodeFrame frame <;> rfl

/-- A datagram never makes the client panic, and leaves it well formed,
whatever its bytes are. -/
theorem RecvLoop.WellFormed.receiveChecked_eq (h : st.WellFormed) (arrived : ℕ) (datagram : Bytes) :
    st.receiveChecked crc requestId timeout arrived datagram =
        some (st.receive crc requestId timeout arrived datagram) ∧
      (st.receive crc requestId timeout arrived datagram).WellFormed := by
  have hcurrent : (st.reassembler.getD (.new arrived timeout)).WellFormed := by
    cases hr : st.reassembler with
    | none => exact .new arrived timeout
    | some r => exact h r hr
  rw [RecvLoop.receiveChecked, decodeUdpSingleChunkRefChecked_eq, RecvLoop.receive,
    Option.bind_eq_bind, Option.bind_some]
  rcases decodeUdpSingleChunkRef crc datagram with e | _ | frame
  · exact ⟨rfl, h⟩
  · simp only [UdpFrameReassembler.insertChecked_eq hcurrent, acceptFrameChecked_eq,
      Option.bind_eq_bind, Option.bind_some, Option.pure_def]
    refine ⟨?_, fun r hr => Option.some.inj hr ▸ hcurrent.insert crc datagram⟩
    rcases ((st.reassembler.getD (.new arrived timeout)).insert crc datagram).2 with e | _ | frame
    · rfl
    · rfl
    · rfl
  · simp only [acceptFrameChecked_eq, Option.pure_def]
    exact ⟨rfl, h⟩

/-- **Neither does a turn of the loop**: the deadline, the timeout, an error
or a datagram. -/
theorem RecvLoop.WellFormed.turnChecked_eq {deadline : ℕ} (h : st.WellFormed) (t : Turn) :
    st.turnChecked crc requestId timeout deadline t =
        some (st.turn crc requestId timeout deadline t) ∧
      (st.turn crc requestId timeout deadline t).WellFormed := by
  unfold RecvLoop.turnChecked RecvLoop.turn
  split_ifs
  · exact ⟨rfl, h⟩
  · cases t.received with
    | datagram datagram => exact h.receiveChecked_eq t.arrived datagram
    | timedOut => exact ⟨rfl, h⟩
    | failed message => exact ⟨rfl, h⟩
  · exact ⟨rfl, h⟩

/-- **No datagram crashes a receiver.**  Whatever was inserted before, each group of a
reassembler is stored under its own request id and has exactly its number of slots, at least
one, and the next insert reads no slice, index or `expect` that has no value; neither do the
decoders of a datagram and of a frame, on any bytes.  So the loops of the server and the
client run through every list of datagrams. -/
theorem receivers_never_panic {Addr : Type} [DecidableEq Addr] (crc : Crc32) :
    (∀ (now timeout : ℕ) (history : List Bytes),
      let r := (UdpFrameReassembler.new now timeout).run crc history
      (∀ id g, r.groups id = some g → g.requestId = id ∧ 1 ≤ g.totalChunks.toNat ∧
        g.chunks.length = g.totalChunks.toNat) ∧
      ∀ datagram, r.insertChecked crc datagram = some (r.insert crc datagram)) ∧
    (∀ bytes, decodeUdpSingleChunkRefChecked crc bytes = some (decodeUdpSingleChunkRef crc bytes) ∧
      decodeFrameChecked bytes = some (decodeFrame bytes)) ∧
    (∀ (w : Wire) (idleTimeout : ℕ) (events : List (Server.LoopEvent Addr)),
      Server.serverLoopChecked w crc idleTimeout events =
        some (Server.serverLoop w crc idleTimeout events)) ∧
    ∀ (requestId : UInt64) (timeout start : ℕ) (turns : List Turn),
      recvFrameChecked crc requestId timeout start turns =
        some (recvFrame crc requestId timeout start turns) := by
  refine ⟨fun now timeout history => ?_, fun bytes => ?_, fun w idleTimeout events => ?_,
    fun requestId timeout start turns => ?_⟩
  · have hwf := (UdpFrameReassembler.WellFormed.new now timeout).run crc history
    refine ⟨fun id g hg => ?_, UdpFrameReassembler.insertChecked_eq hwf crc⟩
    obtain ⟨hid, hsized⟩ := hwf id g hg
    exact ⟨hid, hsized.total_pos, hsized.length_chunks⟩
  · exact ⟨decodeUdpSingleChunkRefChecked_eq crc bytes, decodeFrameChecked_eq bytes⟩
  · exact (Server.serverLoopChecked_eq events).1
  · have hnew : RecvLoop.WellFormed {} := fun r hr => nomatch hr
    have hturn : ∀ (st : RecvLoop) t, st.WellFormed →
        st.turnChecked crc requestId timeout (start + timeout) t =
            some (st.turn crc requestId timeout (start + timeout) t) ∧
          (st.turn crc requestId timeout (start + timeout) t).WellFormed :=
      fun _ t h => h.turnChecked_eq t
    exact (Checked.foldlM_eq hturn hnew turns).1

end Client
end Clustat
