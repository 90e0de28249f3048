import NetNodeGateway.Common.Bytes

/-!
# `TcpFramer` of `control_node/tcp_framer.cpp`

The control channel's codec: a frame is a four-byte big-endian length and the payload.  The
receive buffer and the queue of ready frames are `deque`s, here lists; a `std::string` payload
is its list of bytes.  In `try_extract_frames` the test `buffer_.size() < 4 + frame_len` is
reached only with `frame_len ≤ 10 MiB`, so its `uint32_t` sum does not wrap and is the natural
number sum here.
-/

namespace NetNodeGateway

/-- The sanity bound of `try_extract_frames`: `10 * 1024 * 1024`. -/
def maxFrameLen : Nat := 10 * 1024 * 1024

/-- The length prefix `encode` writes: the `uint32_t` length, most significant byte first. -/
def beLength (beLen : UInt32) : List UInt8 :=
  [((beLen >>> 24) &&& 0xFF).toUInt8, ((beLen >>> 16) &&& 0xFF).toUInt8,
    ((beLen >>> 8) &&& 0xFF).toUInt8, (beLen &&& 0xFF).toUInt8]

/-- The `uint32_t` length `try_extract_frames` reads from the first four bytes. -/
def readLength (b0 b1 b2 b3 : UInt8) : UInt32 :=
  (b0.toUInt32 <<< 24) ||| (b1.toUInt32 <<< 16) ||| (b2.toUInt32 <<< 8) ||| b3.toUInt32

/-- `TcpFramer::encode(payload)`: the length, cast to `uint32_t`, then the payload. -/
def encode (payload : List UInt8) : List UInt8 :=
  beLength (UInt32.ofNat payload.length) ++ payload

/-- `try_extract_frames()` on the buffer and the ready queue: the frames that are complete are
moved to the queue, and a length over the bound clears the buffer. -/
def tryExtractFrames (buffer : List UInt8) (ready : List (List UInt8)) :
    List UInt8 × List (List UInt8) :=
  if buffer.length ≥ 4 then
    let frameLen :=
      readLength (buffer.getD 0 0) (buffer.getD 1 0) (buffer.getD 2 0) (buffer.getD 3 0)
    if frameLen.toNat > maxFrameLen then ([], ready)
    else if buffer.length < 4 + frameLen.toNat then (buffer, ready)
    else
      tryExtractFrames (buffer.drop (4 + frameLen.toNat))
        (ready ++ [(buffer.drop 4).take frameLen.toNat])
  else (buffer, ready)
termination_by buffer.length
decreasing_by simp only [List.length_drop]; omega

/-- `TcpFramer`: the receive buffer and the queue of ready frames. -/
structure TcpFramer where
  buffer : List UInt8 := []
  readyFrames : List (List UInt8) := []
  deriving DecidableEq, Repr

namespace TcpFramer

/-- `feed(data, len)`. -/
def feed (s : TcpFramer) (data : List UInt8) : TcpFramer :=
  let r := tryExtractFrames (s.buffer ++ data) s.readyFrames
  { buffer := r.1, readyFrames := r.2 }

/-- `has_frame()`. -/
def hasFrame (s : TcpFramer) : Bool := !s.readyFrames.isEmpty

/-- `pop_frame()`: the front frame, or the empty string when there is none. -/
def popFrame (s : TcpFramer) : List UInt8 × TcpFramer :=
  match s.readyFrames with
  | [] => ([], s)
  | f :: fs => (f, { s with readyFrames := fs })

/-- `reset()`. -/
def reset (_ : TcpFramer) : TcpFramer := {}

/-- `buffered_bytes()`. -/
def bufferedBytes (s : TcpFramer) : Nat := s.buffer.length

end TcpFramer

end NetNodeGateway
