import NetNodeGateway.Gateway.Gateway
import NetNodeGateway.Replay.ReplayEngine

/-!
# `Gateway::run`, from `gateway/gateway.cpp`

`run()` sets up a frame source, opens the recorder when recording is enabled, loops until
`stop()`, and closes the recorder when recording is enabled.

With a non-empty `replay_path`, the source is a fresh `ReplayFrameSource` opened on the file
(`run()` returns at once if it cannot be opened) and set to speed `0.0`; a frame received goes to
`process_frame`, and a failed `receive` ends the loop if the source is done and is retried
otherwise.  Without one, the source is a `UdpFrameSource` bound to `udp_port` (`run()` returns at
once if the bind fails) with a `100` ms timeout; each `receive` polls, and when a datagram is
waiting reads it with `recvfrom` into a buffer of `65536` bytes, failing when `recvfrom` returns
`0`, that is for an empty datagram.

The loop runs `while (!should_stop_)`; a `stop()` from another thread is not modelled, so here a
replay runs until the replay ends, for at most `fuel` iterations, and a UDP run is the list of
the `receive` calls made before the stop.  `rxClock k` is the `steady_clock` reading taken for
the `k`-th frame received, and `clock` stamps the published records as in `processFrame`.  The
`running_` flag, the log lines and the socket errors other than an empty datagram are not
modelled.
-/

namespace NetNodeGateway

namespace Gateway

/-- The `while (!should_stop_)` loop of `run()` over a replay source, for at most `fuel`
iterations, `k` frames having been received before it: the gateway and the source after it. -/
def replayLoop (clock rxClock : Nat → UInt64) :
    Nat → Gateway → ReplayFrameSource → Nat → Gateway × ReplayFrameSource
  | 0, g, src, _ => (g, src)
  | fuel + 1, g, src, k =>
    let r := src.receive
    if r.1 then replayLoop clock rxClock fuel (g.processFrame clock r.2.1 (rxClock k)) r.2.2 (k + 1)
    else if r.2.2.done then (g, r.2.2)
    else replayLoop clock rxClock fuel g r.2.2 k

/-- The source `run()` sets up for a replay path: a fresh `ReplayFrameSource` opened on the file
and set to speed `0.0`, or `none` when the file cannot be opened. -/
def replaySourceOf (contents : Option (List UInt8)) : Option ReplayFrameSource :=
  let (opened, src) := ({} : ReplayFrameSource).open contents
  if opened then some (src.setSpeed false) else none

/-- The part of `run()` around its loop: the recorder opened before it when recording is
enabled (`recordOpened` is whether the record file can be opened), and closed after it. -/
def withRecording (g : Gateway) (recordOpened : Bool) (loop : Gateway → Gateway) : Gateway :=
  let g := if g.config.recordEnabled then { g with recorder := (g.recorder.open recordOpened).2 }
    else g
  let g := loop g
  if g.config.recordEnabled then { g with recorder := g.recorder.close } else g

/-- `run()` with a replay path: `contents` is the file's bytes (`none` when it cannot be
opened) and `recordOpened` whether the record file can be opened. -/
def runReplay (g : Gateway) (contents : Option (List UInt8)) (recordOpened : Bool)
    (clock rxClock : Nat → UInt64) (fuel : Nat) : Gateway :=
  match replaySourceOf contents with
  | none => g
  | some src => g.withRecording recordOpened fun g => (replayLoop clock rxClock fuel g src 0).1

/-- `UdpFrameSource::receive` when `poll` reports a datagram `d`: `recvfrom` into a buffer of
`65536` bytes, which fails when it returns `0`. -/
def udpDatagram (d : List UInt8) : Option (List UInt8) :=
  if (d.take 65536).isEmpty then none else some (d.take 65536)

/-- The `while (!should_stop_)` loop of `run()` over a UDP source, `k` frames having been
received before it: each event is one `receive`, `none` when `poll` times out or reports no
datagram and `some d` when the datagram `d` is waiting. -/
def udpLoop (clock rxClock : Nat → UInt64) : Gateway → List (Option (List UInt8)) → Nat → Gateway
  | g, [], _ => g
  | g, ev :: evs, k =>
    match ev.bind udpDatagram with
    | some buf => udpLoop clock rxClock (g.processFrame clock buf (rxClock k)) evs (k + 1)
    | none => udpLoop clock rxClock g evs k

/-- `run()` without a replay path: `bound` is whether `bind(udp_port)` succeeds, and `events`
the results of the `receive` calls made before `stop()`. -/
def runUdp (g : Gateway) (bound recordOpened : Bool) (clock rxClock : Nat → UInt64)
    (events : List (Option (List UInt8))) : Gateway :=
  if bound then g.withRecording recordOpened fun g => udpLoop clock rxClock g events 0 else g

end Gateway

end NetNodeGateway
