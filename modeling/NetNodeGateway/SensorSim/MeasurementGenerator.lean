import NetNodeGateway.Common.Protocol

/-!
# `MeasurementGenerator` of `sensor_sim/measurement_generator.cpp`

The generator numbers its frames with the `uint32_t` counter `seq_`, its plots with `plot_id_`,
and counts the updates of each track in `track_update_counts_[id & 0xFFFF]`.  The Mersenne
Twister and the floating-point arithmetic are not modelled: what they decide (whether a plot is
detected, the noisy angles, ranges and amplitudes, the load figures of a heartbeat) enters as
the values they produce, already converted to the payload's integer fields.  Every other field
is computed as in the source.
-/

namespace NetNodeGateway

/-- The fields of `WorldObject` that `generate_tracks` reads besides the floating-point ones. -/
structure WorldObject where
  id : UInt32
  classification : TrackClass
  isHostile : Bool
  deriving DecidableEq, Repr

/-- What the noise and the floating-point conversions give a track's measured fields. -/
structure TrackMeasurement where
  azimuthMdeg : UInt32
  elevationMdeg : UInt32
  rangeM : UInt32
  velocityMps : UInt16
  rcsDbsm : UInt16
  deriving DecidableEq, Repr

/-- What the detection draw, the noise and the conversions give a detected plot. -/
structure PlotMeasurement where
  azimuthMdeg : UInt32
  elevationMdeg : UInt32
  rangeM : UInt32
  amplitudeDb : UInt16
  dopplerMps : UInt16
  quality : UInt8
  deriving DecidableEq, Repr

/-- The threat level `generate_tracks` gives an object. -/
def threatLevel (obj : WorldObject) : ThreatLevel :=
  if !obj.isHostile then .low
  else match obj.classification with
    | .missile | .rocketArtillery => .critical
    | .uavSmall | .uavLarge => .high
    | _ => .medium

/-- `MeasurementGenerator`: the configured source, `seq_`, `plot_id_` and the track update
counters. -/
structure MeasurementGenerator where
  srcId : UInt16
  seq : UInt32 := 0
  plotId : UInt32 := 1
  trackUpdateCounts : UInt16 → UInt16 := fun _ => 0

/-- One call of a generator method, with the values its random draws produce. -/
inductive GenCall
  | plots (objects : List (Option PlotMeasurement)) (timestampNs : UInt64)
  | tracks (objects : List (WorldObject × TrackMeasurement)) (timestampNs : UInt64)
  | heartbeat (cpuPct memPct : UInt8) (timestampNs : UInt64)
  | engagement (weaponId : UInt16) (mode : WeaponMode) (assignedTrack : UInt32)
      (rounds barrelTemp bursts : UInt16) (timestampNs : UInt64)

namespace MeasurementGenerator

/-- `build_frame(type, payload, payload_len, timestamp_ns)`: the header with the next `seq_`,
followed by the payload bytes. -/
def buildFrame (g : MeasurementGenerator) (type : MsgType) (payload : List UInt8)
    (payloadLen : UInt16) (timestampNs : UInt64) : List UInt8 × MeasurementGenerator :=
  let hdr : TelemetryHeader :=
    { version := protocolVersion, msgType := type.toUInt8, srcId := g.srcId, seq := g.seq,
      tsNs := timestampNs, payloadLen := payloadLen }
  (serializeHeader hdr ++ payload, { g with seq := g.seq + 1 })

/-- The `PlotPayload` built for a detected object, with the next `plot_id_`. -/
def plotPayload (g : MeasurementGenerator) (m : PlotMeasurement) :
    PlotPayload × MeasurementGenerator :=
  ({ plotId := g.plotId, azimuthMdeg := m.azimuthMdeg, elevationMdeg := m.elevationMdeg,
     rangeM := m.rangeM, amplitudeDb := m.amplitudeDb, dopplerMps := m.dopplerMps,
     quality := m.quality },
   { g with plotId := g.plotId + 1 })

/-- `generate_plots(objects, timestamp_ns)`, with `none` for an object the draw does not
detect: the frames in order, and the generator after. -/
def generatePlots (g : MeasurementGenerator) :
    List (Option PlotMeasurement) → UInt64 → List (List UInt8) × MeasurementGenerator
  | [], _ => ([], g)
  | none :: objects, timestampNs => g.generatePlots objects timestampNs
  | some m :: objects, timestampNs =>
    let pp := g.plotPayload m
    let frame :=
      pp.2.buildFrame .plot (serializePlot pp.1) (UInt16.ofNat plotPayloadSize) timestampNs
    let r := frame.2.generatePlots objects timestampNs
    (frame.1 :: r.1, r.2)

/-- The `TrackPayload` built for an object, with its update counter incremented. -/
def trackPayload (g : MeasurementGenerator) (obj : WorldObject) (m : TrackMeasurement) :
    TrackPayload × MeasurementGenerator :=
  let tidIdx : UInt16 := (obj.id &&& 0xFFFF).toUInt16
  let count := g.trackUpdateCounts tidIdx + 1
  ({ trackId := obj.id, classification := obj.classification.toUInt8,
     threatLevel := (threatLevel obj).toUInt8,
     iffStatus := if obj.isHostile then IffStatus.foe.toUInt8 else IffStatus.friend.toUInt8,
     azimuthMdeg := m.azimuthMdeg, elevationMdeg := m.elevationMdeg, rangeM := m.rangeM,
     velocityMps := m.velocityMps, rcsDbsm := m.rcsDbsm, updateCount := count },
   { g with trackUpdateCounts := Function.update g.trackUpdateCounts tidIdx count })

/-- `generate_tracks(objects, timestamp_ns)`: the frames in order, and the generator after. -/
def generateTracks (g : MeasurementGenerator) :
    List (WorldObject × TrackMeasurement) → UInt64 → List (List UInt8) × MeasurementGenerator
  | [], _ => ([], g)
  | obj :: objects, timestampNs =>
    let tp := g.trackPayload obj.1 obj.2
    let frame :=
      tp.2.buildFrame .track (serializeTrack tp.1) (UInt16.ofNat trackPayloadSize) timestampNs
    let r := frame.2.generateTracks objects timestampNs
    (frame.1 :: r.1, r.2)

/-- The `HeartbeatPayload` of `generate_heartbeat`, with the two load figures drawn. -/
def heartbeatPayload (g : MeasurementGenerator) (cpuPct memPct : UInt8) (timestampNs : UInt64) :
    HeartbeatPayload :=
  { subsystemId := g.srcId, state := SubsystemState.ok.toUInt8, cpuPct := cpuPct,
    memPct := memPct, uptimeS := (timestampNs / 1000000000).toUInt32, errorCode := 0 }

/-- `generate_heartbeat(timestamp_ns)`. -/
def generateHeartbeat (g : MeasurementGenerator) (cpuPct memPct : UInt8) (timestampNs : UInt64) :
    List UInt8 × MeasurementGenerator :=
  g.buildFrame .heartbeat (serializeHeartbeat (g.heartbeatPayload cpuPct memPct timestampNs))
    (UInt16.ofNat heartbeatPayloadSize) timestampNs

/-- The `EngagementPayload` of `generate_engagement`. -/
def engagementPayload (weaponId : UInt16) (mode : WeaponMode) (assignedTrack : UInt32)
    (rounds barrelTemp bursts : UInt16) : EngagementPayload :=
  { weaponId := weaponId, mode := mode.toUInt8, assignedTrack := assignedTrack,
    roundsRemaining := rounds, barrelTempC := barrelTemp, burstCount := bursts }

/-- `generate_engagement(weapon_id, mode, assigned_track, rounds, barrel_temp, bursts,
timestamp_ns)`. -/
def generateEngagement (g : MeasurementGenerator) (weaponId : UInt16) (mode : WeaponMode)
    (assignedTrack : UInt32) (rounds barrelTemp bursts : UInt16) (timestampNs : UInt64) :
    List UInt8 × MeasurementGenerator :=
  g.buildFrame .engagement
    (serializeEngagement (engagementPayload weaponId mode assignedTrack rounds barrelTemp bursts))
    (UInt16.ofNat engagementPayloadSize) timestampNs

/-- The frames one call emits, in order, and the generator after it. -/
def call (g : MeasurementGenerator) : GenCall → List (List UInt8) × MeasurementGenerator
  | .plots objects timestampNs => g.generatePlots objects timestampNs
  | .tracks objects timestampNs => g.generateTracks objects timestampNs
  | .heartbeat cpuPct memPct timestampNs =>
    let r := g.generateHeartbeat cpuPct memPct timestampNs
    ([r.1], r.2)
  | .engagement weaponId mode assignedTrack rounds barrelTemp bursts timestampNs =>
    let r := g.generateEngagement weaponId mode assignedTrack rounds barrelTemp bursts timestampNs
    ([r.1], r.2)

/-- A sequence of calls on one generator: every frame emitted, in emission order. -/
def run (g : MeasurementGenerator) : List GenCall → List (List UInt8) × MeasurementGenerator
  | [] => ([], g)
  | c :: calls =>
    let r := g.call c
    let r' := r.2.run calls
    (r.1 ++ r'.1, r'.2)

end MeasurementGenerator

end NetNodeGateway
