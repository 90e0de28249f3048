import NetNodeGateway.Gateway.TelemetryParser
import NetNodeGateway.Gateway.SequenceTracker
import NetNodeGateway.Gateway.StatsManager
import NetNodeGateway.Gateway.FrameRecorder
import NetNodeGateway.Common.EventBus

/-!
# `Gateway::process_frame` of `gateway/gateway.cpp`

The gateway owns a sequence tracker, a stats manager, a frame recorder and an event bus.  The
bus only hands each published `EventRecord` to its subscribers and is not changed by
`publish`, so the gateway's effect on it is the list of records it publishes, in order.  The
`steady_clock` reading that stamps a record is the clock's value at the record's position in
that list; the logger and the event names it prints are not modelled.

Only the fields `process_frame` reads are kept from `GatewayConfig` (the port, paths and log
level are read by `run`, whose socket loop is not modelled).
-/

namespace NetNodeGateway

/-- The fields of `GatewayConfig` that `process_frame` reads. -/
structure GatewayConfig where
  crcEnabled : Bool := true
  recordEnabled : Bool := false
  deriving DecidableEq, Repr

/-- The `ParsedFrame parsed;` that `process_frame` hands to `parse_frame`.  Its header is left
indeterminate in the source; every field the gateway reads after an `OK` is written by
`parse_frame` (`parseFrame_eq_of_checks`), so the value chosen here is never observed. -/
def ParsedFrame.init : ParsedFrame :=
  ⟨⟨0, 0, 0, 0, 0, 0⟩, none, 0, false⟩

/-- The name the `switch (err)` of `process_frame` gives a parse error. -/
def ParseError.name : ParseError → String
  | .tooShort => "TOO_SHORT"
  | .badVersion => "BAD_VERSION"
  | .badMsgType => "BAD_MSG_TYPE"
  | .payloadTooLong => "PAYLOAD_TOO_LONG"
  | .truncated => "TRUNCATED"
  | .crcMismatch => "CRC_MISMATCH"
  | .ok => "UNKNOWN"

/-- The event the heartbeat case publishes for a subsystem state. -/
def heartbeatEvent (state : UInt8) : EventId × Severity :=
  if state = SubsystemState.degraded.toUInt8 then (.evtHeartbeatDegrade, .warn)
  else if state = SubsystemState.error.toUInt8 ∨ state = SubsystemState.offline.toUInt8 then
    (.evtHeartbeatError, .alarm)
  else (.evtHeartbeatOk, .debug)

/-- The `switch (msg_type)` of `process_frame`: the event it publishes for an accepted frame
with header `h` whose payload starts at `payload`, if any. -/
def payloadEvent (h : TelemetryHeader) (payload : List UInt8) :
    Option (EventId × EventCategory × Severity × String) :=
  match MsgType.ofUInt8? h.msgType with
  | some .track =>
    if h.payloadLen.toNat ≥ trackPayloadSize then
      let track := deserializeTrack payload
      some (.evtTrackUpdate, .tracking, .debug,
        "src_id=" ++ toString h.srcId ++ " track_id=" ++ toString track.trackId ++
          " class=" ++ toString track.classification ++ " threat=" ++ toString track.threatLevel)
    else none
  | some .plot =>
    if h.payloadLen.toNat ≥ plotPayloadSize then
      let plot := deserializePlot payload
      some (.evtTrackNew, .tracking, .debug,
        "src_id=" ++ toString h.srcId ++ " plot_id=" ++ toString plot.plotId ++
          " range=" ++ toString plot.rangeM ++ "m")
    else none
  | some .heartbeat =>
    if h.payloadLen.toNat ≥ heartbeatPayloadSize then
      let hb := deserializeHeartbeat payload
      let (evtId, sev) := heartbeatEvent hb.state
      some (evtId, .health, sev,
        "subsystem=" ++ toString hb.subsystemId ++ " state=" ++ toString hb.state ++
          " cpu=" ++ toString hb.cpuPct ++ "%" ++ " mem=" ++ toString hb.memPct ++ "%")
    else none
  | some .engagement =>
    if h.payloadLen.toNat ≥ engagementPayloadSize then
      let eng := deserializeEngagement payload
      some (.evtWeaponStatus, .engagement, .info,
        "weapon=" ++ toString eng.weaponId ++ " mode=" ++ toString eng.mode ++
          " track=" ++ toString eng.assignedTrack ++ " rounds=" ++ toString eng.roundsRemaining)
    else none
  | none => none

/-- `Gateway`: its configuration and the components `process_frame` drives, with the records
published on its event bus so far. -/
structure Gateway where
  config : GatewayConfig
  tracker : SequenceTracker := .empty
  stats : StatsManager := {}
  recorder : FrameRecorder := {}
  published : List EventRecord := []

namespace Gateway

/-- `publish_event(id, cat, sev, detail)`, stamped with the clock's reading for the next
record. -/
def publishEvent (g : Gateway) (clock : Nat → UInt64) (id : EventId) (cat : EventCategory)
    (sev : Severity) (detail : String) : Gateway :=
  { g with published := g.published ++ [⟨id, cat, sev, clock g.published.length, detail⟩] }

/-- The sequence-result switch of `process_frame`, for an accepted frame from `srcId`. -/
def handleSeqResult (g : Gateway) (clock : Nat → UInt64) (srcId : UInt16) (ev : SeqEvent) :
    Gateway :=
  match ev.result with
  | .first => g.publishEvent clock .evtSourceOnline .network .info ("src_id=" ++ toString srcId)
  | .gap =>
    { g with stats := g.stats.recordGap srcId ev.gapSize }.publishEvent clock .evtSeqGap .network
      .warn ("src_id=" ++ toString srcId ++ " expected=" ++ toString ev.expectedSeq ++
        " actual=" ++ toString ev.actualSeq ++ " gap=" ++ toString ev.gapSize)
  | .reorder =>
    { g with stats := g.stats.recordReorder srcId }.publishEvent clock .evtSeqReorder .network
      .warn ("src_id=" ++ toString srcId ++ " expected=" ++ toString ev.expectedSeq ++
        " actual=" ++ toString ev.actualSeq)
  | .duplicate => { g with stats := g.stats.recordDuplicate srcId }
  | .ok => g

/-- The recording at the top of `process_frame`. -/
def recordFrame (g : Gateway) (frame : List UInt8) (rxTimestampNs : UInt64) : Gateway :=
  if g.config.recordEnabled && g.recorder.isOpen then
    { g with recorder := (g.recorder.record rxTimestampNs frame).2 }
  else g

/-- The rest of `process_frame`: parsing, the accounting of a rejected frame, and the
tracking, accounting and events of an accepted one. -/
def handleFrame (g : Gateway) (clock : Nat → UInt64) (frame : List UInt8)
    (rxTimestampNs : UInt64) : Gateway :=
  let (err, parsed) := parseFrame frame g.config.crcEnabled ParsedFrame.init
  if err ≠ .ok then
    let g := { g with stats := g.stats.recordMalformed 0 }
    if err = .crcMismatch then
      { g with stats := g.stats.recordCrcFail 0 }.publishEvent clock .evtCrcFail .network .warn
        ("error=" ++ err.name)
    else
      g.publishEvent clock .evtFrameMalformed .network .warn
        ("error=" ++ err.name ++ " len=" ++ toString frame.length)
  else
    let srcId := parsed.header.srcId
    let (ev, tracker) := g.tracker.track srcId parsed.header.seq
    let g := { g with tracker := tracker,
                      stats := g.stats.recordRx srcId parsed.header.seq rxTimestampNs }
    let g := g.handleSeqResult clock srcId ev
    match payloadEvent parsed.header (frame.drop (parsed.payloadPtr.getD 0)) with
    | some (id, cat, sev, detail) => g.publishEvent clock id cat sev detail
    | none => g

/-- `process_frame(frame, rx_timestamp_ns)`. -/
def processFrame (g : Gateway) (clock : Nat → UInt64) (frame : List UInt8)
    (rxTimestampNs : UInt64) : Gateway :=
  (g.recordFrame frame rxTimestampNs).handleFrame clock frame rxTimestampNs

/-- `process_frame` on each datagram in turn, with its receive timestamp. -/
def processFrames (g : Gateway) (clock : Nat → UInt64) (frames : List (List UInt8 × UInt64)) :
    Gateway :=
  frames.foldl (fun g x => g.processFrame clock x.1 x.2) g

end Gateway

end NetNodeGateway
