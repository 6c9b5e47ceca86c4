/-
# Datagrams and the path they take

`effective_udp_payload_capacity` of `crates/common/src/udp.rs` leaves room in the MTU of a
path for the headers of IP, UDP and the chunk, and `send_frame` of the client
(`crates/client-backend/src/udp_client.rs`) and `server_loop` of the server
(`crates/server/src/udp_transport.rs`) cut a frame into datagrams of that capacity.  No
datagram is too long for its path.  But UDP has a limit of its own, 65507 bytes over IPv4 and
65527 over IPv6, and the capacity is not held below it: on the loopback device of Linux, whose
MTU is 65536, a full datagram over IPv4 is one byte too long (`datagrams_fit_iff`).
-/

import Clustat.Client.UdpNode
import Clustat.Udp.Fields

namespace Clustat
namespace Client

open Udp Chunks

/-- The bytes of an IP header without options. -/
def ipHeader (ipv4 : Bool) : ℕ := if ipv4 then 20 else 40

/-- The MTU that `effective_udp_payload_capacity` uses. -/
def pathMtu (configuredMtu : UInt16) (routeMtu : Option ℕ) : ℕ :=
  if 0 < configuredMtu then configuredMtu.toNat else routeMtu.getD UDP_FALLBACK_MTU

/-- A datagram that the path takes. -/
def FitsPath (ipv4 : Bool) (mtu : ℕ) (datagram : Bytes) : Prop :=
  datagram.length + 8 + ipHeader ipv4 ≤ mtu ∧ datagram.length ≤ maxUdpPayload ipv4

/-- The encoder that is asked refuses the frame. -/
def Refused (capacity : ℕ) (frame : Bytes) : Prop :=
  if frame.length ≤ capacity then U16_MAX < frame.length
  else 2 ^ 32 ≤ frame.length ∨ U16_MAX * capacity < frame.length

instance (capacity : ℕ) (frame : Bytes) : Decidable (Refused capacity frame) :=
  inferInstanceAs (Decidable (if frame.length ≤ capacity then U16_MAX < frame.length
    else 2 ^ 32 ≤ frame.length ∨ U16_MAX * capacity < frame.length))

/-- The capacity, when the MTU is large enough for its lower bound. -/
theorem capacity_eq {ipv4 : Bool} {configuredMtu : UInt16} {routeMtu : Option ℕ}
    (hmtu : UDP_MIN_PAYLOAD + (ipHeader ipv4 + 8 + UDP_CHUNK_HEADER_LEN) ≤
      pathMtu configuredMtu routeMtu) :
    effectiveUdpPayloadCapacity ipv4 configuredMtu routeMtu +
      (ipHeader ipv4 + 8 + UDP_CHUNK_HEADER_LEN) = pathMtu configuredMtu routeMtu := by
  have hdef : effectiveUdpPayloadCapacity ipv4 configuredMtu routeMtu =
      max (pathMtu configuredMtu routeMtu - (ipHeader ipv4 + 8 + UDP_CHUNK_HEADER_LEN))
        UDP_MIN_PAYLOAD := rfl
  rw [hdef, Nat.max_eq_left (Nat.le_sub_of_add_le hmtu)]
  exact Nat.sub_add_cancel ((Nat.le_add_left _ _).trans hmtu)

section Sent

variable {crc : Crc32} {frame : Bytes} {h : FrameHeader} {p : Bytes} {capacity : ℕ}

/-- The client sends what the server would. -/
theorem responseDatagrams_of_sendFrame {datagrams : List Bytes}
    (hsend : sendFrame crc frame capacity = .ok datagrams) :
    Server.responseDatagrams crc capacity frame = datagrams := by
  unfold sendFrame at hsend
  unfold Server.responseDatagrams
  split_ifs at hsend ⊢ with hfits
  · cases hencode : encodeUdpSingleChunk crc frame with
    | error e =>
      rw [hencode] at hsend
      cases hsend
    | ok datagram =>
      rw [hencode] at hsend
      exact Except.ok.inj hsend
  · cases hencode : encodeUdpChunks crc frame capacity with
    | error e =>
      rw [hencode] at hsend
      cases hsend
    | ok chunks =>
      rw [hencode] at hsend
      exact Except.ok.inj hsend

/-- Nothing is sent of a frame that is refused. -/
theorem responseDatagrams_of_refused (hpos : 0 < capacity) (hrefused : Refused capacity frame) :
    Server.responseDatagrams crc capacity frame = [] := by
  unfold Refused at hrefused
  unfold Server.responseDatagrams
  split_ifs at hrefused ⊢ with hfits
  · rw [encodeUdpSingleChunk_of_long hrefused]
  · cases hencode : encodeUdpChunks crc frame capacity with
    | error e => rfl
    | ok datagrams =>
      obtain ⟨-, h32, hcount, -⟩ := encodeUdpChunks_eq_ok_iff.1 hencode
      rw [divCeil_le_iff hpos] at hcount
      omega

/-- A frame that fits is sent in one datagram. -/
theorem responseDatagrams_of_fits (hd : decodeFrame frame = .ok (h, p))
    (hfits : frame.length ≤ capacity) (hlen : frame.length ≤ U16_MAX) :
    Server.responseDatagrams crc capacity frame =
      [(singleHeader h.frameType h.requestId frame.length (crc.hash frame)).encode ++ frame] := by
  rw [Server.responseDatagrams, if_pos hfits, encodeUdpSingleChunk_of_decodeFrame hd hlen]

/-- A longer one is cut into chunks. -/
theorem responseDatagrams_of_long (hd : decodeFrame frame = .ok (h, p))
    (hmin : UDP_MIN_PAYLOAD ≤ capacity) (hlong : capacity < frame.length)
    (hrefused : ¬Refused capacity frame) :
    Server.responseDatagrams crc capacity frame =
      chunkDatagrams crc h frame.length (chunks capacity frame) := by
  have hpos : 0 < capacity := lt_of_lt_of_le (by decide) hmin
  rw [Refused, if_neg (Nat.not_le.2 hlong), not_or, Nat.not_le, Nat.not_lt] at hrefused
  have hencode : encodeUdpChunks crc frame capacity = .ok _ :=
    encodeUdpChunks_eq_ok_iff.2 ⟨hmin, hrefused.1, (divCeil_le_iff hpos).2 hrefused.2, h, p, hd,
      rfl⟩
  rw [Server.responseDatagrams, if_neg (Nat.not_le.2 hlong), hencode]

/-- **When every datagram fits its path.**  For an MTU with room for the headers and 256
bytes, the datagrams of a well-formed frame, sent by either side with the capacity for that
MTU, are no longer than the MTU and UDP allow exactly when the MTU is at most the longest
packet of UDP (65535 bytes over IPv4, 65575 over IPv6), or the frame and a chunk header are at
most its longest payload, or the encoder refuses the frame. -/
theorem datagrams_fit_iff (crc : Crc32) (ipv4 : Bool) (configuredMtu : UInt16)
    (routeMtu : Option ℕ) (hd : decodeFrame frame = .ok (h, p))
    (hmtu : UDP_MIN_PAYLOAD + (ipHeader ipv4 + 8 + UDP_CHUNK_HEADER_LEN) ≤
      pathMtu configuredMtu routeMtu) :
    let mtu := pathMtu configuredMtu routeMtu
    let capacity := effectiveUdpPayloadCapacity ipv4 configuredMtu routeMtu
    ((∀ d ∈ Server.responseDatagrams crc capacity frame, FitsPath ipv4 mtu d) ∧
      ∀ datagrams, sendFrame crc frame capacity = .ok datagrams →
        ∀ d ∈ datagrams, FitsPath ipv4 mtu d) ↔
      mtu ≤ maxUdpPayload ipv4 + 8 + ipHeader ipv4 ∨
        UDP_CHUNK_HEADER_LEN + frame.length ≤ maxUdpPayload ipv4 ∨ Refused capacity frame := by
  intro mtu capacity
  have hcap : capacity + (ipHeader ipv4 + 8 + UDP_CHUNK_HEADER_LEN) = mtu := capacity_eq hmtu
  have hmin : UDP_MIN_PAYLOAD ≤ capacity := le_max_right _ _
  have hpos : 0 < capacity := lt_of_lt_of_le (by decide) hmin
  have hserver : ((∀ d ∈ Server.responseDatagrams crc capacity frame, FitsPath ipv4 mtu d) ∧
      ∀ datagrams, sendFrame crc frame capacity = .ok datagrams →
        ∀ d ∈ datagrams, FitsPath ipv4 mtu d) ↔
      ∀ d ∈ Server.responseDatagrams crc capacity frame, FitsPath ipv4 mtu d :=
    and_iff_left_of_imp fun hall datagrams hsend => responseDatagrams_of_sendFrame hsend ▸ hall
  rw [hserver]
  by_cases hrefused : Refused capacity frame
  · rw [responseDatagrams_of_refused hpos hrefused]
    exact iff_of_true nofun (.inr (.inr hrefused))
  · rw [or_iff_left hrefused]
    rcases Nat.lt_or_ge capacity frame.length with hlong | hfits
    · obtain ⟨d, ds, hcons, hlen⟩ :=
        @exists_cons_chunkDatagrams crc h _ _ frame.length hpos hlong
      rw [responseDatagrams_of_long hd hmin hlong hrefused]
      refine ⟨fun hall => .inl ?_, fun hor d hmem => ?_⟩
      · have hudp := (hall d (hcons ▸ List.mem_cons_self)).2
        omega
      · have hd := length_le_of_mem_chunkDatagrams hmem
        exact ⟨by omega, by omega⟩
    · have hlen : frame.length ≤ U16_MAX := by
        rw [Refused, if_pos hfits] at hrefused
        exact Nat.not_lt.1 hrefused
      rw [responseDatagrams_of_fits hd hfits hlen, List.forall_mem_singleton, FitsPath,
        List.length_append, UdpChunkHeader.length_encode]
      omega

/-- A datagram that is one byte too long for UDP: of a frame of 65477 bytes, over IPv4 on the
loopback device. -/
theorem exists_too_long (crc : Crc32) : ∃ d ∈ Server.responseDatagrams crc
    (effectiveUdpPayloadCapacity true 0 (some 65536)) (heartbeat 65459),
      ¬FitsPath true 65536 d := by
  obtain ⟨header, p, hd⟩ := decodeFrame_heartbeat (show 65459 < 2 ^ 32 by decide)
  have hcap : effectiveUdpPayloadCapacity true 0 (some 65536) = 65476 := by decide
  have hlen : (heartbeat 65459).length = 65477 := length_heartbeat 65459
  rw [hcap]
  have hrefused : ¬Refused 65476 (heartbeat 65459) := by
    rw [Refused, hlen]
    decide
  have hlong : 65476 < (heartbeat 65459).length := hlen ▸ by decide
  obtain ⟨d, ds, hcons, hsize⟩ :=
    @exists_cons_chunkDatagrams crc header _ 65476 (heartbeat 65459).length (by decide) hlong
  rw [responseDatagrams_of_long hd (by decide) hlong hrefused]
  refine ⟨d, hcons ▸ List.mem_cons_self, fun hfits => ?_⟩
  have hudp := hfits.2
  rw [hsize] at hudp
  exact absurd hudp (by decide)

end Sent

/-- An MTU of 65535 bytes and one of 65536, over IPv4, for a frame of 65477 bytes. -/
theorem datagrams_fit_heartbeat :
    let fit (mtu : ℕ) : Prop :=
      (∀ d ∈ Server.responseDatagrams Crc32.ieee
        (effectiveUdpPayloadCapacity true 0 (some mtu)) (heartbeat 65459), FitsPath true mtu d) ∧
      ∀ datagrams, sendFrame Crc32.ieee (heartbeat 65459)
          (effectiveUdpPayloadCapacity true 0 (some mtu)) = .ok datagrams →
        ∀ d ∈ datagrams, FitsPath true mtu d
    fit 65535 ∧ ¬fit 65536 := by
  intro fit
  obtain ⟨header, p, hd⟩ := decodeFrame_heartbeat (show 65459 < 2 ^ 32 by decide)
  have hlen : (heartbeat 65459).length = 65477 := length_heartbeat 65459
  refine ⟨(datagrams_fit_iff Crc32.ieee true 0 (some 65535) hd (by decide)).2 (.inl (by decide)),
    fun hfit => ?_⟩
  have hcond := (datagrams_fit_iff Crc32.ieee true 0 (some 65536) hd (by decide)).1 hfit
  rw [Refused, hlen] at hcond
  exact absurd hcond (by decide)

/-- **Datagrams that UDP cannot carry**, over IPv4 on the loopback device: its
MTU is 65536, so the capacity is 65476, and a full datagram has 65508 bytes.
-/
theorem loopback_too_long : ¬∀ (ipv4 : Bool) (configuredMtu : UInt16) (routeMtu : Option ℕ)
    (frame : Bytes) (header : FrameHeader) (p : Bytes),
    decodeFrame frame = .ok (header, p) →
      UDP_MIN_PAYLOAD + (ipHeader ipv4 + 8 + UDP_CHUNK_HEADER_LEN) ≤
        pathMtu configuredMtu routeMtu →
      ∀ d ∈ Server.responseDatagrams Crc32.ieee
        (effectiveUdpPayloadCapacity ipv4 configuredMtu routeMtu) frame,
        FitsPath ipv4 (pathMtu configuredMtu routeMtu) d := by
  intro hall
  obtain ⟨header, p, hd⟩ := decodeFrame_heartbeat (show 65459 < 2 ^ 32 by decide)
  obtain ⟨d, hmem, hlong⟩ := exists_too_long Crc32.ieee
  exact hlong (hall true 0 (some 65536) _ header p hd (by decide) d hmem)

end Client
end Clustat
