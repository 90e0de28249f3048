import NetNodeGateway.Common.Protocol
import NetNodeGateway.Common.Crc32

/-!
# `parse_frame` of `gateway/telemetry_parser.cpp`

The datagram is a byte list (the `buf`/`len` pair), and `ParsedFrame`'s `payload_ptr` is the
offset it points at in the datagram (`none` for `nullptr`).  `out` is an in-out parameter in
the source, so `parseFrame` takes the caller's `ParsedFrame` and returns it as the function
leaves it, next to the `ParseError`: the header is written before the version check, and the
payload pointer, `has_crc` and `crc` only once the length check has passed.
-/

namespace NetNodeGateway

/-- `ParseError`. -/
inductive ParseError
  | ok | tooShort | badVersion | badMsgType | payloadTooLong | truncated | crcMismatch
  deriving DecidableEq, Repr

/-- `ParsedFrame`. -/
structure ParsedFrame where
  header : TelemetryHeader
  payloadPtr : Option Nat
  crc : UInt32
  hasCrc : Bool
  deriving DecidableEq, Repr

/-- `parse_frame(buf, buf.size(), crc_enabled, out)`. -/
def parseFrame (buf : List UInt8) (crcEnabled : Bool) (out : ParsedFrame) :
    ParseError × ParsedFrame :=
  if buf.length < frameHeaderSize then (.tooShort, out) else
  let out := { out with header := deserializeHeader buf }
  if out.header.version ≠ protocolVersion then (.badVersion, out) else
  let mt := out.header.msgType
  if mt < MsgType.plot.toUInt8 ∨ mt > MsgType.engagement.toUInt8 then (.badMsgType, out) else
  if out.header.payloadLen.toNat > maxPayloadSize then (.payloadTooLong, out) else
  let expected :=
    frameHeaderSize + out.header.payloadLen.toNat + if crcEnabled then frameCrcSize else 0
  if buf.length < expected then (.truncated, out) else
  let out := { out with payloadPtr := some frameHeaderSize, hasCrc := crcEnabled }
  if crcEnabled then
    let crcOffset := frameHeaderSize + out.header.payloadLen.toNat
    let out := { out with crc := ofLe32 (slice buf crcOffset frameCrcSize) }
    let computed := crc32 (slice buf 0 (frameHeaderSize + out.header.payloadLen.toNat))
    if computed ≠ out.crc then (.crcMismatch, out) else (.ok, out)
  else (.ok, { out with crc := 0 })

/-! ### The header checks -/

/-- The header checks `parse_frame` makes before looking at the length: version `1`, a message
type in `0x01..0x04`, and a payload of at most `MAX_PAYLOAD_SIZE` bytes. -/
def HeaderValid (h : TelemetryHeader) : Prop :=
  h.version = protocolVersion ∧ 1 ≤ h.msgType ∧ h.msgType ≤ 4 ∧
    h.payloadLen.toNat ≤ maxPayloadSize

instance (h : TelemetryHeader) : Decidable (HeaderValid h) :=
  inferInstanceAs (Decidable (_ ∧ _ ∧ _ ∧ _))

/-- The bytes a valid frame occupies: header, payload, and the CRC when it is enabled. -/
def frameLength (h : TelemetryHeader) (crcEnabled : Bool) : Nat :=
  frameHeaderSize + h.payloadLen.toNat + if crcEnabled then frameCrcSize else 0

/-- The CRC test of `parse_frame`: with CRC enabled, the CRC of the header and payload equals
the little-endian word that follows them. -/
def CrcMatches (buf : List UInt8) (crcEnabled : Bool) (h : TelemetryHeader) : Prop :=
  crcEnabled = true →
    crc32 (slice buf 0 (frameHeaderSize + h.payloadLen.toNat)) =
      ofLe32 (slice buf (frameHeaderSize + h.payloadLen.toNat) frameCrcSize)

instance (buf : List UInt8) (c : Bool) (h : TelemetryHeader) : Decidable (CrcMatches buf c h) :=
  inferInstanceAs (Decidable (_ → _))

end NetNodeGateway
