import NetNodeGateway.Common.Bytes

/-!
# The wire types of `common/types.h` and `common/protocol.h`

The enumerations and size constants of `types.h`, the packed header and the four payload
structs of `protocol.h`, and their `memcpy` codecs.  A `memcpy` of a packed struct on a
little-endian host is the concatenation of the fields' little-endian images, so
`serializeHeader` and the `serialize*` functions are concatenations of `le*` images, and the
`deserialize*` functions read each field from its fixed offset with `slice`.  Signed fields
(`int32_t`, `int16_t`) are held as their two's-complement bits, which is all `memcpy` sees.

Each struct round-trips: `deserialize (serialize x ++ rest) = x`
(`deserializeHeader_serializeHeader` and the payload analogues), and a header read from at least
18 bytes serializes back to those bytes (`serializeHeader_deserializeHeader`).
-/

namespace NetNodeGateway

/-! ### `types.h` -/

/-- `PROTOCOL_VERSION`. -/
def protocolVersion : UInt8 := 1

/-- `FRAME_HEADER_SIZE`. -/
def frameHeaderSize : Nat := 18

/-- `FRAME_CRC_SIZE`. -/
def frameCrcSize : Nat := 4

/-- `MAX_PAYLOAD_SIZE`. -/
def maxPayloadSize : Nat := 1024

/-- `MsgType`, a `uint8_t` enumeration. -/
inductive MsgType
  | plot | track | heartbeat | engagement
  deriving DecidableEq, Repr

/-- The wire value of a `MsgType`. -/
@[simp] def MsgType.toUInt8 : MsgType → UInt8
  | plot => 0x01 | track => 0x02 | heartbeat => 0x03 | engagement => 0x04

/-- `static_cast<MsgType>` of a wire value the parser has accepted (`0x01..0x04`). -/
def MsgType.ofUInt8? (b : UInt8) : Option MsgType :=
  if b = 0x01 then some .plot else if b = 0x02 then some .track
  else if b = 0x03 then some .heartbeat else if b = 0x04 then some .engagement else none

/-- `TrackClass`. -/
inductive TrackClass
  | unknown | fixedWing | rotaryWing | uavSmall | uavLarge | missile | rocketArtillery | bird
  | decoy
  deriving DecidableEq, Repr

/-- The wire value of a `TrackClass`. -/
def TrackClass.toUInt8 : TrackClass → UInt8
  | unknown => 0x00 | fixedWing => 0x01 | rotaryWing => 0x02 | uavSmall => 0x03
  | uavLarge => 0x04 | missile => 0x05 | rocketArtillery => 0x06 | bird => 0x07 | decoy => 0x08

/-- `ThreatLevel`. -/
inductive ThreatLevel
  | unknown | low | medium | high | critical
  deriving DecidableEq, Repr

/-- The wire value of a `ThreatLevel`. -/
def ThreatLevel.toUInt8 : ThreatLevel → UInt8
  | unknown => 0 | low => 1 | medium => 2 | high => 3 | critical => 4

/-- `IffStatus`. -/
inductive IffStatus
  | noResponse | friend | foe | pending
  deriving DecidableEq, Repr

/-- The wire value of an `IffStatus`. -/
def IffStatus.toUInt8 : IffStatus → UInt8
  | noResponse => 0 | friend => 1 | foe => 2 | pending => 3

/-- `SubsystemState`, the heartbeat state. -/
inductive SubsystemState
  | ok | degraded | error | offline
  deriving DecidableEq, Repr

/-- The wire value of a `SubsystemState`. -/
def SubsystemState.toUInt8 : SubsystemState → UInt8
  | ok => 0 | degraded => 1 | error => 2 | offline => 3

/-- `WeaponMode`. -/
inductive WeaponMode
  | safe | armed | engaging | ceaseFire
  deriving DecidableEq, Repr

/-- The wire value of a `WeaponMode`. -/
def WeaponMode.toUInt8 : WeaponMode → UInt8
  | safe => 0 | armed => 1 | engaging => 2 | ceaseFire => 3

/-- `Severity`, in its declared order. -/
inductive Severity
  | debug | info | warn | alarm | error | fatal
  deriving DecidableEq, Repr

/-- `EventCategory`. -/
inductive EventCategory
  | tracking | threat | iff | engagement | network | health | control
  deriving DecidableEq, Repr

/-- `EventId`. -/
inductive EventId
  | evtTrackNew | evtTrackUpdate | evtTrackLost | evtTrackClassify | evtThreatEval
  | evtThreatCritical | evtIffResponse | evtIffFoe | evtEngageStart | evtEngageCease
  | evtWeaponStatus | evtAmmoLow | evtSeqGap | evtSeqReorder | evtFrameMalformed | evtCrcFail
  | evtSourceOnline | evtSourceTimeout | evtHeartbeatOk | evtHeartbeatDegrade
  | evtHeartbeatError | evtConfigChange
  deriving DecidableEq, Repr

/-! ### Byte slices and single bytes -/

/-- The `n` bytes of `buf` from offset `off`: what a `memcpy` from `buf + off` reads. -/
def slice (buf : List UInt8) (off n : Nat) : List UInt8 := (buf.drop off).take n

/-- The one byte of a `uint8_t`. -/
def le8 (x : UInt8) : List UInt8 := [x]

/-- The `uint8_t` read from one byte. -/
def ofLe8 (bs : List UInt8) : UInt8 := UInt8.ofNat (leNat bs)

@[simp] theorem length_le8 (x : UInt8) : (le8 x).length = 1 := rfl

@[simp] theorem ofLe8_le8 (x : UInt8) : ofLe8 (le8 x) = x := by
  have := x.toNat_lt_size
  apply UInt8.toNat.inj
  simp only [ofLe8, le8, leNat, toNat_uint8_ofNat, uint8_size] at *
  omega

theorem le8_ofLe8 {bs : List UInt8} (h : bs.length = 1) : le8 (ofLe8 bs) = bs := by
  match bs, h with
  | [b], _ =>
    have := b.toNat_lt_size
    simp only [le8, ofLe8, leNat, List.cons.injEq, and_true]
    exact UInt8.toNat.inj (by simp only [toNat_uint8_ofNat, uint8_size] at *; omega)

/-- Reading a field at offset `off` of `a ++ rest` when `a` covers it. -/
@[simp] theorem slice_append_of_le {a rest : List UInt8} {off n : Nat}
    (h : off + n ≤ a.length) : slice (a ++ rest) off n = slice a off n := by
  rw [slice, slice, List.drop_append_of_le_length (by omega),
    List.take_append_of_le_length (by simp; omega)]

/-- Reading a field past the end of `a` reads it from `rest`. -/
@[simp] theorem slice_append_of_length_le {a rest : List UInt8} {off n : Nat}
    (h : a.length ≤ off) : slice (a ++ rest) off n = slice rest (off - a.length) n := by
  rw [slice, slice, List.drop_append_eq_append_drop, List.drop_eq_nil_of_le h, List.nil_append]

/-- A read from offset `0` that covers all of `a` is `a`. -/
@[simp] theorem slice_zero_of_length_le {a : List UInt8} {n : Nat} (h : a.length ≤ n) :
    slice a 0 n = a := by
  rw [slice, List.drop_zero, List.take_of_length_le h]

@[simp] theorem slice_cons_succ (b : UInt8) (buf : List UInt8) (off n : Nat) :
    slice (b :: buf) (off + 1) n = slice buf off n := rfl

theorem length_slice {buf : List UInt8} {off n : Nat} (h : off + n ≤ buf.length) :
    (slice buf off n).length = n := by
  simp only [slice, List.length_take, List.length_drop]
  omega

/-- Two adjacent reads are one read. -/
theorem slice_append_slice (buf : List UInt8) (off n k m l : Nat) (hk : off + n = k)
    (hl : n + m = l) : slice buf off n ++ slice buf k m = slice buf off l := by
  subst hk hl
  rw [slice, slice, slice, List.take_add, List.drop_drop]

/-! ### `TelemetryHeader` -/

/-- `TelemetryHeader`: 18 packed bytes. -/
structure TelemetryHeader where
  version : UInt8
  msgType : UInt8
  srcId : UInt16
  seq : UInt32
  tsNs : UInt64
  payloadLen : UInt16
  deriving DecidableEq, Repr

/-- `serialize_header`. -/
def serializeHeader (h : TelemetryHeader) : List UInt8 :=
  le8 h.version ++ le8 h.msgType ++ le16 h.srcId ++ le32 h.seq ++ le64 h.tsNs ++
    le16 h.payloadLen

/-- `deserialize_header`: the header `memcpy` reads from the first 18 bytes at `buf`. -/
def deserializeHeader (buf : List UInt8) : TelemetryHeader where
  version := ofLe8 (slice buf 0 1)
  msgType := ofLe8 (slice buf 1 1)
  srcId := ofLe16 (slice buf 2 2)
  seq := ofLe32 (slice buf 4 4)
  tsNs := ofLe64 (slice buf 8 8)
  payloadLen := ofLe16 (slice buf 16 2)

@[simp] theorem length_serializeHeader (h : TelemetryHeader) :
    (serializeHeader h).length = frameHeaderSize := by
  simp [serializeHeader, frameHeaderSize]

@[simp] theorem deserializeHeader_serializeHeader (h : TelemetryHeader) (rest : List UInt8) :
    deserializeHeader (serializeHeader h ++ rest) = h := by
  simp [deserializeHeader, serializeHeader]

/-- The 18 bytes a header is read from are the bytes it serializes to. -/
theorem serializeHeader_deserializeHeader {buf : List UInt8} (h : frameHeaderSize ≤ buf.length) :
    serializeHeader (deserializeHeader buf) = slice buf 0 frameHeaderSize := by
  unfold frameHeaderSize at h
  rw [serializeHeader, deserializeHeader, le8_ofLe8 (length_slice (by omega)),
    le8_ofLe8 (@length_slice buf 1 1 (by omega)), le16_ofLe16 (@length_slice buf 2 2 (by omega)),
    le32_ofLe32 (@length_slice buf 4 4 (by omega)), le64_ofLe64 (@length_slice buf 8 8 (by omega)),
    le16_ofLe16 (@length_slice buf 16 2 (by omega))]
  rw [slice_append_slice buf 0 1 1 1 2 rfl rfl, slice_append_slice buf 0 2 2 2 4 rfl rfl,
    slice_append_slice buf 0 4 4 4 8 rfl rfl, slice_append_slice buf 0 8 8 8 16 rfl rfl,
    slice_append_slice buf 0 16 16 2 18 rfl rfl]
  rfl

/-! ### Payloads -/

/-- `sizeof(PlotPayload)`. -/
def plotPayloadSize : Nat := 21

/-- `sizeof(TrackPayload)`. -/
def trackPayloadSize : Nat := 25

/-- `sizeof(HeartbeatPayload)`. -/
def heartbeatPayloadSize : Nat := 11

/-- `sizeof(EngagementPayload)`. -/
def engagementPayloadSize : Nat := 13

/-- `PlotPayload`: 21 packed bytes. -/
structure PlotPayload where
  plotId : UInt32
  azimuthMdeg : UInt32
  elevationMdeg : UInt32
  rangeM : UInt32
  amplitudeDb : UInt16
  dopplerMps : UInt16
  quality : UInt8
  deriving DecidableEq, Repr

/-- `TrackPayload`: 25 packed bytes. -/
structure TrackPayload where
  trackId : UInt32
  classification : UInt8
  threatLevel : UInt8
  iffStatus : UInt8
  azimuthMdeg : UInt32
  elevationMdeg : UInt32
  rangeM : UInt32
  velocityMps : UInt16
  rcsDbsm : UInt16
  updateCount : UInt16
  deriving DecidableEq, Repr

/-- `HeartbeatPayload`: 11 packed bytes. -/
structure HeartbeatPayload where
  subsystemId : UInt16
  state : UInt8
  cpuPct : UInt8
  memPct : UInt8
  uptimeS : UInt32
  errorCode : UInt16
  deriving DecidableEq, Repr

/-- `EngagementPayload`: 13 packed bytes. -/
structure EngagementPayload where
  weaponId : UInt16
  mode : UInt8
  assignedTrack : UInt32
  roundsRemaining : UInt16
  barrelTempC : UInt16
  burstCount : UInt16
  deriving DecidableEq, Repr

/-- `serialize_plot`. -/
def serializePlot (p : PlotPayload) : List UInt8 :=
  le32 p.plotId ++ le32 p.azimuthMdeg ++ le32 p.elevationMdeg ++ le32 p.rangeM ++
    le16 p.amplitudeDb ++ le16 p.dopplerMps ++ le8 p.quality

/-- `deserialize_plot`. -/
def deserializePlot (buf : List UInt8) : PlotPayload where
  plotId := ofLe32 (slice buf 0 4)
  azimuthMdeg := ofLe32 (slice buf 4 4)
  elevationMdeg := ofLe32 (slice buf 8 4)
  rangeM := ofLe32 (slice buf 12 4)
  amplitudeDb := ofLe16 (slice buf 16 2)
  dopplerMps := ofLe16 (slice buf 18 2)
  quality := ofLe8 (slice buf 20 1)

/-- `serialize_track`. -/
def serializeTrack (t : TrackPayload) : List UInt8 :=
  le32 t.trackId ++ le8 t.classification ++ le8 t.threatLevel ++ le8 t.iffStatus ++
    le32 t.azimuthMdeg ++ le32 t.elevationMdeg ++ le32 t.rangeM ++ le16 t.velocityMps ++
    le16 t.rcsDbsm ++ le16 t.updateCount

/-- `deserialize_track`. -/
def deserializeTrack (buf : List UInt8) : TrackPayload where
  trackId := ofLe32 (slice buf 0 4)
  classification := ofLe8 (slice buf 4 1)
  threatLevel := ofLe8 (slice buf 5 1)
  iffStatus := ofLe8 (slice buf 6 1)
  azimuthMdeg := ofLe32 (slice buf 7 4)
  elevationMdeg := ofLe32 (slice buf 11 4)
  rangeM := ofLe32 (slice buf 15 4)
  velocityMps := ofLe16 (slice buf 19 2)
  rcsDbsm := ofLe16 (slice buf 21 2)
  updateCount := ofLe16 (slice buf 23 2)

/-- `serialize_heartbeat`. -/
def serializeHeartbeat (hb : HeartbeatPayload) : List UInt8 :=
  le16 hb.subsystemId ++ le8 hb.state ++ le8 hb.cpuPct ++ le8 hb.memPct ++ le32 hb.uptimeS ++
    le16 hb.errorCode

/-- `deserialize_heartbeat`. -/
def deserializeHeartbeat (buf : List UInt8) : HeartbeatPayload where
  subsystemId := ofLe16 (slice buf 0 2)
  state := ofLe8 (slice buf 2 1)
  cpuPct := ofLe8 (slice buf 3 1)
  memPct := ofLe8 (slice buf 4 1)
  uptimeS := ofLe32 (slice buf 5 4)
  errorCode := ofLe16 (slice buf 9 2)

/-- `serialize_engagement`. -/
def serializeEngagement (e : EngagementPayload) : List UInt8 :=
  le16 e.weaponId ++ le8 e.mode ++ le32 e.assignedTrack ++ le16 e.roundsRemaining ++
    le16 e.barrelTempC ++ le16 e.burstCount

/-- `deserialize_engagement`. -/
def deserializeEngagement (buf : List UInt8) : EngagementPayload where
  weaponId := ofLe16 (slice buf 0 2)
  mode := ofLe8 (slice buf 2 1)
  assignedTrack := ofLe32 (slice buf 3 4)
  roundsRemaining := ofLe16 (slice buf 7 2)
  barrelTempC := ofLe16 (slice buf 9 2)
  burstCount := ofLe16 (slice buf 11 2)

@[simp] theorem length_serializePlot (p : PlotPayload) : (serializePlot p).length = 21 := by
  simp [serializePlot]

@[simp] theorem length_serializeTrack (t : TrackPayload) : (serializeTrack t).length = 25 := by
  simp [serializeTrack]

@[simp] theorem length_serializeHeartbeat (hb : HeartbeatPayload) :
    (serializeHeartbeat hb).length = 11 := by
  simp [serializeHeartbeat]

@[simp] theorem length_serializeEngagement (e : EngagementPayload) :
    (serializeEngagement e).length = 13 := by
  simp [serializeEngagement]

@[simp] theorem deserializePlot_serializePlot (p : PlotPayload) (rest : List UInt8) :
    deserializePlot (serializePlot p ++ rest) = p := by
  simp [deserializePlot, serializePlot]

@[simp] theorem deserializeTrack_serializeTrack (t : TrackPayload) (rest : List UInt8) :
    deserializeTrack (serializeTrack t ++ rest) = t := by
  simp [deserializeTrack, serializeTrack]

@[simp] theorem deserializeHeartbeat_serializeHeartbeat (hb : HeartbeatPayload)
    (rest : List UInt8) : deserializeHeartbeat (serializeHeartbeat hb ++ rest) = hb := by
  simp [deserializeHeartbeat, serializeHeartbeat]

@[simp] theorem deserializeEngagement_serializeEngagement (e : EngagementPayload)
    (rest : List UInt8) : deserializeEngagement (serializeEngagement e ++ rest) = e := by
  simp [deserializeEngagement, serializeEngagement]

end NetNodeGateway
