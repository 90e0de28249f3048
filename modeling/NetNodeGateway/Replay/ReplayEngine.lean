import NetNodeGateway.Common.Bytes

/-!
# `ReplayFrameSource` of `replay/replay_engine.cpp`

The `ifstream` is the list of bytes not yet read.  A `read` of `n` bytes succeeds when `n`
bytes remain; otherwise it consumes what is left and fails, which is when `good()` turns
false.  `peek() == EOF` is "no byte remains".  The playback speed enters only through
`speed_multiplier_ > 0.0` (`timed`): the sleep it causes is real time and is not modelled, the
bookkeeping of the first frame's timestamp is.
-/

namespace NetNodeGateway

/-- `ReplayFrameSource`. -/
structure ReplayFrameSource where
  isOpen : Bool := false
  rest : List UInt8 := []
  timed : Bool := true
  framesReplayed : UInt64 := 0
  done : Bool := false
  firstFrame : Bool := true
  firstFrameTsNs : UInt64 := 0
  deriving DecidableEq, Repr

/-- `file_.read(p, n)`: the bytes read and the rest, or `none` when fewer than `n` remain. -/
def readBytes (rest : List UInt8) (n : Nat) : Option (List UInt8 × List UInt8) :=
  if n ≤ rest.length then some (rest.take n, rest.drop n) else none

namespace ReplayFrameSource

/-- `open(path)`, with `contents` the file's bytes, or `none` when it cannot be opened (then the
`close()` that `open` starts with has set `done_`). -/
def «open» (r : ReplayFrameSource) (contents : Option (List UInt8)) : Bool × ReplayFrameSource :=
  match contents with
  | none => (false, { r with isOpen := false, done := true })
  | some bytes =>
    (true, { r with isOpen := true, rest := bytes, framesReplayed := 0, done := false,
                    firstFrame := true })

/-- `set_speed(multiplier)`, through the sign of the multiplier. -/
def setSpeed (r : ReplayFrameSource) (positive : Bool) : ReplayFrameSource :=
  { r with timed := positive }

/-- The end of a successful `receive`: the timing bookkeeping, the counter, and the `peek`. -/
def deliver (r : ReplayFrameSource) (tsNs : UInt64) (rest : List UInt8) : ReplayFrameSource :=
  let r := if r.timed && r.firstFrame then { r with firstFrame := false, firstFrameTsNs := tsNs }
    else r
  { r with rest := rest, framesReplayed := r.framesReplayed + 1, done := rest.isEmpty }

/-- `receive(buf)`: whether a frame was received, `buf` after the call, and the source. -/
def receive (r : ReplayFrameSource) : Bool × List UInt8 × ReplayFrameSource :=
  if !r.isOpen || r.done then (false, [], r) else
  match readBytes r.rest 8 with
  | none => (false, [], { r with rest := [], done := true })
  | some (tsBytes, rest) =>
    match readBytes rest 4 with
    | none => (false, [], { r with rest := [], done := true })
    | some (lenBytes, rest) =>
      let len := ofLe32 lenBytes
      if len.toNat > 0 then
        match readBytes rest len.toNat with
        | none => (false, [], { r with rest := [], done := true })
        | some (data, rest) => (true, data, r.deliver (ofLe64 tsBytes) rest)
      else (true, [], r.deliver (ofLe64 tsBytes) rest)

/-- `k` consecutive `receive` calls: each call's result and `buf`, and the source after. -/
def receiveN (r : ReplayFrameSource) : Nat → List (Bool × List UInt8) × ReplayFrameSource
  | 0 => ([], r)
  | k + 1 =>
    let x := r.receive
    let y := x.2.2.receiveN k
    ((x.1, x.2.1) :: y.1, y.2)

end ReplayFrameSource

end NetNodeGateway
