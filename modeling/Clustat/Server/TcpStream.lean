/-
# Frames on a TCP connection

`handle_query_stream` and `read_tcp_frame` of `crates/server/src/main.rs`, and `read_frame` of
`crates/client-backend/src/tcp_client.rs`.  Both readers take a frame off a stream with two
calls of `read_exact`; the server takes a stream that ends in a header for the end of the
connection.  What they read is what `Clustat.readFrame` says of the bytes that are left,
however the stream is cut into segments (`readFrameStream_whole`).

The server answers frame after frame, until there are no more, or a frame is a `Disconnect`,
or `handle_frame` fails on it (`tcp_framing`).
-/

import Clustat.Lib.Segments
import Clustat.Common.Stream
import Clustat.Server.UdpLoop

namespace Clustat
namespace Tcp

open Segments
open Server (Latest handleFrame isDisconnect)

/-- `std::io::ErrorKind`, as far as it matters here. -/
inductive IoErrorKind
  | unexpectedEof
  | connectionReset
  | invalidData
  | other
  deriving DecidableEq, Repr

/-- A stream of bytes; where the peer has closed it, it ends with `unexpectedEof`. -/
abbrev TcpStream := Source UInt8 IoErrorKind

/-! ### Readers -/

/-- Where reading a frame fails. -/
inductive ReadError
  | header (e : IoErrorKind)
  | decode (e : FrameHeaderError)
  | payload (e : IoErrorKind)
  deriving DecidableEq, Repr

/-- What both readers do. -/
def readFrameStream (stream : TcpStream) : Outcome ReadError Bytes × TcpStream :=
  match stream.readExact FRAME_HEADER_LEN with
  | (.waiting, stream) => (.waiting, stream)
  | (.failed e, stream) => (.failed (.header e), stream)
  | (.done headerBytes, stream) =>
    match FrameHeader.decode headerBytes with
    | .error e => (.failed (.decode e), stream)
    | .ok header =>
      let payloadLen := header.payloadLen.toNat
      if payloadLen > 0 then
        match stream.readExact payloadLen with
        | (.waiting, stream) => (.waiting, stream)
        | (.failed e, stream) => (.failed (.payload e), stream)
        | (.done payload, stream) => (.done (headerBytes ++ payload), stream)
      else (.done headerBytes, stream)

/-- `read_tcp_frame`. -/
def readTcpFrame (stream : TcpStream) : Outcome IoErrorKind (Option Bytes) × TcpStream :=
  match readFrameStream stream with
  | (.waiting, stream) => (.waiting, stream)
  | (.failed (.header e), stream) =>
    if e = .unexpectedEof ∨ e = .connectionReset then (.done none, stream)
    else (.failed e, stream)
  | (.failed (.decode _), stream) => (.failed .invalidData, stream)
  | (.failed (.payload e), stream) => (.failed e, stream)
  | (.done frame, stream) => (.done (some frame), stream)

/-- `TcpClientError`, as far as `read_frame` returns it. -/
inductive TcpClientError
  | io (what : String) (e : IoErrorKind)
  | decode (what : String) (e : FrameHeaderError)
  deriving DecidableEq, Repr

/-- `read_frame`. -/
def readFrame (stream : TcpStream) : Outcome TcpClientError Bytes × TcpStream :=
  match readFrameStream stream with
  | (.waiting, stream) => (.waiting, stream)
  | (.failed (.header e), stream) => (.failed (.io "read frame header failed" e), stream)
  | (.failed (.decode e), stream) => (.failed (.decode "invalid frame header" e), stream)
  | (.failed (.payload e), stream) => (.failed (.io "read frame payload failed" e), stream)
  | (.done frame, stream) => (.done frame, stream)

section Read

variable {stream : TcpStream}

/-- A header is decoded from its own bytes. -/
theorem decode_take {bytes : Bytes} (h : FRAME_HEADER_LEN ≤ bytes.length) :
    FrameHeader.decode (bytes.take FRAME_HEADER_LEN) = FrameHeader.decode bytes := by
  have hlen : FRAME_HEADER_LEN ≤ (bytes.take FRAME_HEADER_LEN).length := by
    rw [List.length_take]
    omega
  rw [← FrameHeader.decode_append hlen (bytes.drop FRAME_HEADER_LEN), List.take_append_drop]

/-- With the bytes of a header there, it is decoded, and the payload is to be read. -/
theorem readFrameStream_of_le (h : FRAME_HEADER_LEN ≤ stream.elements.length) :
    ∃ s₁ : TcpStream, s₁.elements = stream.elements.drop FRAME_HEADER_LEN ∧
      s₁.ending = stream.ending ∧
      readFrameStream stream =
        match FrameHeader.decode stream.elements with
        | .error e => (.failed (.decode e), s₁)
        | .ok header =>
          if header.payloadLen.toNat > 0 then
            match s₁.readExact header.payloadLen.toNat with
            | (.waiting, s₂) => (.waiting, s₂)
            | (.failed e, s₂) => (.failed (.payload e), s₂)
            | (.done payload, s₂) =>
              (.done (stream.elements.take FRAME_HEADER_LEN ++ payload), s₂)
          else (.done (stream.elements.take FRAME_HEADER_LEN), s₁) := by
  obtain ⟨s₁, hread, hrest, hend⟩ := readExact_of_le h
  refine ⟨s₁, hrest, hend, ?_⟩
  rw [readFrameStream, hread]
  dsimp only
  rw [decode_take h]

/-- **A whole frame is read**, however it is cut, and what comes behind it
stays on the stream, with its ending. -/
theorem readFrameStream_whole {len : ℕ} (h : Clustat.readFrame stream.elements = .whole len) :
    ∃ stream' : TcpStream, readFrameStream stream = (.done (stream.elements.take len), stream') ∧
      stream'.elements = stream.elements.drop len ∧ stream'.ending = stream.ending := by
  unfold Clustat.readFrame at h
  split_ifs at h with hshort
  obtain ⟨s₁, hrest₁, hend₁, hread⟩ := readFrameStream_of_le (Nat.le_of_not_lt hshort)
  cases hd : FrameHeader.decode stream.elements with
  | error e => simp only [hd, reduceCtorEq] at h
  | ok header =>
    simp only [hd] at h
    split_ifs at h with hpart
    obtain rfl := FrameRead.whole.inj h
    simp only [hread, hd]
    split_ifs with hpos
    · have hpayload : header.payloadLen.toNat ≤ s₁.elements.length := by
        rw [hrest₁, List.length_drop]
        omega
      obtain ⟨s₂, hread₂, hrest₂, hend₂⟩ := readExact_of_le hpayload
      rw [hread₂]
      dsimp only
      rw [hrest₁, ← List.take_add]
      exact ⟨s₂, rfl, by rw [hrest₂, hrest₁, List.drop_drop], hend₂.trans hend₁⟩
    · have hzero : header.payloadLen.toNat = 0 := by omega
      rw [hzero]
      exact ⟨s₁, rfl, hrest₁, hend₁⟩

/-- **Less than a frame is not read**: the reader comes to the end of the stream. -/
theorem readFrameStream_more (h : Clustat.readFrame stream.elements = .more) :
    (readFrameStream stream).1 =
      match stream.ending with
      | none => .waiting
      | some e =>
        .failed (if stream.elements.length < FRAME_HEADER_LEN then .header e else .payload e) := by
  unfold Clustat.readFrame at h
  split_ifs at h with hshort
  · have hread := readExact_of_lt hshort
    rw [readFrameStream]
    rcases hr : stream.readExact FRAME_HEADER_LEN with ⟨out, s₁⟩
    rw [hr] at hread
    obtain rfl : out = stream.atEnd := hread
    cases hend : stream.ending with
    | none => simp only [Source.atEnd, hend]
    | some e => simp only [Source.atEnd, hend, if_pos hshort]
  · obtain ⟨s₁, hrest₁, hend₁, hread⟩ := readFrameStream_of_le (Nat.le_of_not_lt hshort)
    cases hd : FrameHeader.decode stream.elements with
    | error e => simp only [hd, reduceCtorEq] at h
    | ok header =>
      simp only [hd] at h
      split_ifs at h with hpart
      have hpayload : s₁.elements.length < header.payloadLen.toNat := by
        rw [hrest₁, List.length_drop]
        omega
      have hread₂ := readExact_of_lt hpayload
      simp only [hread, hd]
      rw [if_pos (Nat.zero_lt_of_lt hpayload)]
      rcases hr : s₁.readExact header.payloadLen.toNat with ⟨out, s₂⟩
      rw [hr] at hread₂
      obtain rfl : out = s₁.atEnd := hread₂
      cases hend : stream.ending with
      | none => simp only [Source.atEnd, hend₁, hend]
      | some e => simp only [Source.atEnd, hend₁, hend, if_neg hshort]

/-- A header that is not one stops the reader. -/
theorem readFrameStream_invalid {e : FrameHeaderError}
    (h : Clustat.readFrame stream.elements = .invalid e) :
    (readFrameStream stream).1 = .failed (.decode e) := by
  unfold Clustat.readFrame at h
  split_ifs at h with hshort
  obtain ⟨s₁, -, -, hread⟩ := readFrameStream_of_le (Nat.le_of_not_lt hshort)
  cases hd : FrameHeader.decode stream.elements with
  | error e' =>
    simp only [hd] at h
    obtain rfl := FrameRead.invalid.inj h
    simp only [hread, hd]
  | ok header =>
    simp only [hd] at h
    split_ifs at h

/-- What has been read is a whole frame. -/
theorem readFrame_of_done {frame : Bytes} {stream' : TcpStream}
    (h : readFrameStream stream = (.done frame, stream')) :
    ∃ len, Clustat.readFrame stream.elements = .whole len ∧ frame = stream.elements.take len ∧
      stream'.elements = stream.elements.drop len := by
  have hout : (readFrameStream stream).1 = .done frame := congrArg Prod.fst h
  cases hread : Clustat.readFrame stream.elements with
  | more =>
    rw [readFrameStream_more hread] at hout
    cases hend : stream.ending <;> rw [hend] at hout <;> cases hout
  | invalid e =>
    rw [readFrameStream_invalid hread] at hout
    cases hout
  | whole len =>
    obtain ⟨s', hwhole, hrest, -⟩ := readFrameStream_whole hread
    obtain ⟨hframe, rfl⟩ := Prod.mk.inj (h.symm.trans hwhole)
    exact ⟨len, rfl, Outcome.done.inj hframe, hrest⟩

/-- The server gets the same frames. -/
theorem readTcpFrame_some_iff {frame : Bytes} {stream' : TcpStream} :
    readTcpFrame stream = (.done (some frame), stream') ↔
      readFrameStream stream = (.done frame, stream') := by
  unfold readTcpFrame
  split
  case h_2 e s hr =>
    rw [hr]
    split_ifs <;> simp
  all_goals
    rename_i hr
    rw [hr]
    simp

/-- Reading a frame uses up some of the stream. -/
theorem length_of_readTcpFrame {frame : Bytes} {stream' : TcpStream}
    (h : readTcpFrame stream = (.done (some frame), stream')) :
    stream'.elements.length < stream.elements.length := by
  obtain ⟨len, hread, -, hrest⟩ := readFrame_of_done (readTcpFrame_some_iff.1 h)
  obtain ⟨hmin, hmax⟩ := bounds_of_readFrame hread
  rw [FRAME_HEADER_LEN] at hmin
  rw [hrest, List.length_drop]
  omega

end Read

/-! ### The server -/

/-- Why `handle_query_stream` has returned, if it has. -/
inductive Stop
  | waiting
  | closed
  | failed (e : IoErrorKind)
  | disconnect
  | rejected (e : Server.TransportError)
  | unwritable
  deriving DecidableEq, Repr

/-- What `handle_query_stream` has done: the frames it has read, the responses it has written,
and how it has ended. -/
structure Session where
  frames : List Bytes
  responses : List Bytes
  stop : Stop
  deriving DecidableEq, Repr

/-- `handle_query_stream`.  Of the frames that are left, number `i` finds `latest i` in the
cache, and its response can be written if `writes i`. -/
def handleQueryStream (w : Wire) (latest : ℕ → Latest) (writes : ℕ → Bool) (stream : TcpStream) :
    Session :=
  match _h : readTcpFrame stream with
  | (.waiting, _) => { frames := [], responses := [], stop := .waiting }
  | (.failed e, _) => { frames := [], responses := [], stop := .failed e }
  | (.done none, _) => { frames := [], responses := [], stop := .closed }
  | (.done (some frame), stream) =>
    if isDisconnect frame then { frames := [frame], responses := [], stop := .disconnect }
    else
      match handleFrame w (latest 0) frame with
      | .error e => { frames := [frame], responses := [], stop := .rejected e }
      | .ok response =>
        if writes 0 then
          let rest := handleQueryStream w (fun i => latest (i + 1)) (fun i => writes (i + 1)) stream
          { frames := frame :: rest.frames
            responses := response :: rest.responses
            stop := rest.stop }
        else { frames := [frame], responses := [], stop := .unwritable }
termination_by stream.elements.length
decreasing_by exact length_of_readTcpFrame _h

/-- What is to be done with the frames of a connection: each is read and gets the response of
`handle_frame`, up to the first that is a `Disconnect` or that `handle_frame` rejects, which is
still read. -/
structure Served (w : Wire) (latest : ℕ → Latest) (frames read responses : List Bytes) :
    Prop where
  read_eq : read = frames.take (responses.length + 1)
  response_of : ∀ (i : ℕ) (response : Bytes), responses[i]? = some response →
    ∃ frame, frames[i]? = some frame ∧ isDisconnect frame = false ∧
      handleFrame w (latest i) frame = .ok response
  stops : ∀ frame, frames[responses.length]? = some frame →
    isDisconnect frame = true ∨ ∃ e, handleFrame w (latest responses.length) frame = .error e

section Serve

variable {w : Wire} {latest : ℕ → Latest} {frame response : Bytes}
  {frames read responses : List Bytes}

/-- Nothing was asked and nothing is answered. -/
theorem served_nil : Served w latest [] [] [] where
  read_eq := rfl
  response_of := nofun
  stops := nofun

/-- The first frame is the last that is read. -/
theorem served_stop
    (h : isDisconnect frame = true ∨ ∃ e, handleFrame w (latest 0) frame = .error e) :
    Served w latest (frame :: frames) [frame] [] where
  read_eq := rfl
  response_of := nofun
  stops _ hf := Option.some.inj hf ▸ h

/-- The first frame has got its response. -/
theorem Served.cons (h : Served w (fun i => latest (i + 1)) frames read responses)
    (hdisconnect : isDisconnect frame = false)
    (hresponse : handleFrame w (latest 0) frame = .ok response) :
    Served w latest (frame :: frames) (frame :: read) (response :: responses) where
  read_eq := by rw [h.read_eq, List.length_cons, List.take_succ_cons]
  response_of i r hr := by
    cases i with
    | zero => exact ⟨frame, rfl, hdisconnect, Option.some.inj hr ▸ hresponse⟩
    | succ i => exact h.response_of i r hr
  stops f hf := h.stops f hf

/-- A turn of the loop. -/
theorem handleQueryStream_some {writes : ℕ → Bool} {stream stream' : TcpStream}
    (h : readTcpFrame stream = (.done (some frame), stream')) :
    handleQueryStream w latest writes stream =
      if isDisconnect frame then { frames := [frame], responses := [], stop := .disconnect }
      else
        match handleFrame w (latest 0) frame with
        | .error e => { frames := [frame], responses := [], stop := .rejected e }
        | .ok response =>
          if writes 0 then
            let rest := handleQueryStream w (fun i => latest (i + 1)) (fun i => writes (i + 1))
              stream'
            { frames := frame :: rest.frames
              responses := response :: rest.responses
              stop := rest.stop }
          else { frames := [frame], responses := [], stop := .unwritable } := by
  rw [handleQueryStream]
  split
  case h_4 f s hr =>
    obtain ⟨hf, rfl⟩ := Prod.mk.inj (hr.symm.trans h)
    obtain rfl := Option.some.inj (Outcome.done.inj hf)
    rfl
  all_goals
    rename_i hr
    cases hr.symm.trans h

/-- Bytes that are short of a frame hold none. -/
theorem handleQueryStream_more (w : Wire) (latest : ℕ → Latest) (writes : ℕ → Bool)
    {stream : TcpStream} (h : Clustat.readFrame stream.elements = .more) :
    (handleQueryStream w latest writes stream).frames = [] ∧
      (handleQueryStream w latest writes stream).responses = [] := by
  rw [handleQueryStream]
  split
  case h_4 hr =>
    obtain ⟨len, hread, -⟩ := readFrame_of_done (readTcpFrame_some_iff.1 hr)
    rw [h] at hread
    cases hread
  all_goals exact ⟨rfl, rfl⟩

/-- **The frames of a stream that has been cut short** are served, as far as they are whole. -/
theorem served_handleQueryStream {stream : TcpStream}
    (hframes : ∀ f ∈ frames, ∃ hp, decodeFrame f = .ok hp)
    (hcut : stream.elements <+: frames.flatten) :
    Served w latest (wholes stream.elements.length frames)
      (handleQueryStream w latest (fun _ => true) stream).frames
      (handleQueryStream w latest (fun _ => true) stream).responses := by
  induction frames generalizing stream latest with
  | nil =>
    have hnil : stream.elements = [] := List.prefix_nil.1 hcut
    have hmore : Clustat.readFrame stream.elements = .more := by
      rw [hnil]
      rfl
    obtain ⟨hread, hwritten⟩ := handleQueryStream_more w latest (fun _ => true) hmore
    rw [hread, hwritten]
    exact served_nil
  | cons frame frames ih =>
    obtain ⟨hp, hd⟩ := hframes frame List.mem_cons_self
    have hframes' := fun f hf => hframes f (List.mem_cons_of_mem _ hf)
    rcases prefix_flatten_cons hcut with ⟨rest, hrest, hcut'⟩ | ⟨hpart, hlt⟩
    · have hwhole : Clustat.readFrame stream.elements = .whole frame.length :=
        hrest ▸ readFrame_append hd
      obtain ⟨stream', hread, hleft, -⟩ := readFrameStream_whole hwhole
      rw [hrest, List.take_left] at hread
      rw [hrest, List.drop_left] at hleft
      have hwholes : wholes stream.elements.length (frame :: frames) =
          frame :: wholes stream'.elements.length frames := by
        rw [wholes, hrest, hleft, List.length_append, if_pos (Nat.le_add_right _ _),
          Nat.add_sub_cancel_left]
      rw [hwholes, handleQueryStream_some (readTcpFrame_some_iff.2 hread)]
      by_cases hdisconnect : isDisconnect frame = true
      · rw [if_pos hdisconnect]
        exact served_stop (.inl hdisconnect)
      · rw [if_neg hdisconnect]
        cases hresponse : handleFrame w (latest 0) frame with
        | error e => exact served_stop (.inr ⟨e, hresponse⟩)
        | ok response =>
          exact (ih hframes' (hleft ▸ hcut')).cons (Bool.eq_false_of_not_eq_true hdisconnect)
            hresponse
    · have hmore : Clustat.readFrame stream.elements = .more := by
        rw [readFrame_of_part hd hpart, if_pos hlt]
      obtain ⟨hread, hwritten⟩ := handleQueryStream_more w latest (fun _ => true) hmore
      rw [hread, hwritten, wholes, if_neg (Nat.not_le.2 hlt)]
      exact served_nil

/-- Every response is a frame. -/
theorem Served.decodeFrame_response (hw : w.ShortResponses)
    (h : Served w latest frames read responses) :
    ∀ response ∈ responses, ∃ hp, decodeFrame response = .ok hp := by
  intro response hmem
  obtain ⟨i, hi⟩ := List.mem_iff_getElem?.1 hmem
  obtain ⟨frame, -, -, hresponse⟩ := h.response_of i response hi
  obtain ⟨t, requestId, payload, rfl, hlen⟩ := Server.exists_of_handleFrame hw hresponse
  exact ⟨_, Server.decodeFrame_encodeTransportFrame hlen⟩

end Serve

/-! ### The client -/

/-- Calls of `read_frame` return these frames, one after the other. -/
inductive Reads : TcpStream → List Bytes → TcpStream → Prop
  | nil (stream : TcpStream) : Reads stream [] stream
  | cons {stream stream' stream'' : TcpStream} {frame : Bytes} {frames : List Bytes}
      (hread : readFrame stream = (.done frame, stream')) (hrest : Reads stream' frames stream'') :
      Reads stream (frame :: frames) stream''

/-- **Frames on a stream are read one after the other**, and what comes behind them stays. -/
theorem exists_reads {frames : List Bytes} (hframes : ∀ f ∈ frames, ∃ hp, decodeFrame f = .ok hp)
    {stream : TcpStream} {rest : Bytes} (hstream : stream.elements = frames.flatten ++ rest) :
    ∃ stream', Reads stream frames stream' ∧ stream'.elements = rest := by
  induction frames generalizing stream with
  | nil => exact ⟨stream, .nil stream, hstream⟩
  | cons frame frames ih =>
    obtain ⟨hp, hd⟩ := hframes frame List.mem_cons_self
    rw [List.flatten_cons, List.append_assoc] at hstream
    have hwhole : Clustat.readFrame stream.elements = .whole frame.length :=
      hstream ▸ readFrame_append hd
    obtain ⟨stream', hread, hleft, -⟩ := readFrameStream_whole hwhole
    rw [hstream, List.take_left] at hread
    rw [hstream, List.drop_left] at hleft
    obtain ⟨stream'', hreads, hrest⟩ := ih (fun f hf => hframes f (List.mem_cons_of_mem _ hf)) hleft
    exact ⟨stream'', .cons (by rw [readFrame, hread]) hreads, hrest⟩

/-- **Framing on TCP is lossless and in order.**  However the concatenation of some frames is
cut short and cut into segments, the server reads the frames that are whole, and writes what
`handle_frame` responds to each, up to the first that is a `Disconnect` or is rejected.  However
what it has written is cut into segments, the client reads these responses. -/
theorem tcp_framing {w : Wire} (hw : w.ShortResponses) (latest : ℕ → Latest)
    {frames : List Bytes} (hframes : ∀ f ∈ frames, ∃ hp, decodeFrame f = .ok hp)
    {stream : TcpStream} (hcut : stream.elements <+: frames.flatten) :
    let session := handleQueryStream w latest (fun _ => true) stream
    Served w latest (wholes stream.elements.length frames) session.frames session.responses ∧
      ∀ (written : TcpStream) (rest : Bytes),
        written.elements = session.responses.flatten ++ rest →
        ∃ written', Reads written session.responses written' ∧ written'.elements = rest := by
  have hserved : Served w latest (wholes stream.elements.length frames) _ _ :=
    served_handleQueryStream hframes hcut
  exact ⟨hserved, fun written rest hwritten =>
    exists_reads (hserved.decodeFrame_response hw) hwritten⟩

/-- An empty query in two segments, and the first bytes of another. -/
def cutQueries : TcpStream where
  segments := [(Udp.emptyQuery 7).take 3, (Udp.emptyQuery 7).drop 3, (Udp.emptyQuery 7).take 5]
  ending := some .unexpectedEof

/-- Two queries, in the pieces they arrive in, are two frames for the server,
and what it answers reaches the client whole. -/
theorem tcp_framing_cutQueries :
    let session := handleQueryStream Server.failingWire (fun _ => .error .internal)
      (fun _ => true) cutQueries
    Served Server.failingWire (fun _ => .error .internal)
        (wholes cutQueries.elements.length [Udp.emptyQuery 7, Udp.emptyQuery 7])
        session.frames session.responses ∧
      ∀ (written : TcpStream) (rest : Bytes),
        written.elements = session.responses.flatten ++ rest →
        ∃ written', Reads written session.responses written' ∧ written'.elements = rest := by
  have hframes : ∀ f ∈ [Udp.emptyQuery 7, Udp.emptyQuery 7], ∃ hp, decodeFrame f = .ok hp :=
    fun f hf => ⟨_, (List.eq_of_mem_replicate (n := 2) hf) ▸ Udp.decodeFrame_emptyQuery 7⟩
  exact tcp_framing Server.shortResponses_failingWire (fun _ => .error .internal) hframes
    (by decide +kernel)

end Tcp
end Clustat
