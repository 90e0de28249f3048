import NetNodeGateway.Gateway.Gateway
import NetNodeGateway.Gateway.Correctness.TelemetryParser

/-!
# Frame handling reads only inside the datagram

`parse_frame` and the payload switch of `process_frame` read the datagram through raw
pointers: `deserialize_header(buf)` and `deserialize_X(payload_ptr)` `memcpy` the struct's
size, the stored CRC is a `memcpy` of four bytes after the payload, and `crc32(buf, n)` reads
the first `n` bytes.  Here each of those reads is an access `readBytes? buf off n`, which fails
when a byte of `[off, off + n)` lies outside `buf[0, |buf|)`; `parseFrameChecked` and
`payloadEventChecked` are `parse_frame` and the payload switch written with it, and
`frameReads?` is the two as `process_frame` runs them.

* `frameReads?_eq`: for every datagram and CRC policy, no access fails, and the reads give
  exactly what `parseFrame` and `payloadEvent` compute; an accepted frame spans
  `18 + payload_len + 4·crc ≤ |buf|` bytes, and a payload struct is read only when its size is
  at most `payload_len`.

A struct read from the bytes copied for it equals the struct read from the rest of the datagram
(`deserializeHeader_slice` and its payload analogues), because every field lies inside it.
-/

namespace NetNodeGateway

/-! ### Reads -/

/-- A read of the `n` bytes at offset `off` of the datagram `buf`: `none` if any of them lies
outside it. -/
def readBytes? (buf : List UInt8) (off n : Nat) : Option (List UInt8) :=
  if off + n ≤ buf.length then some (slice buf off n) else none

theorem readBytes?_of_le {buf : List UInt8} {off n : Nat} (h : off + n ≤ buf.length) :
    readBytes? buf off n = some (slice buf off n) := if_pos h

theorem slice_slice_zero (bs : List UInt8) {off n m : Nat} (h : off + n ≤ m) :
    slice (slice bs 0 m) off n = slice bs off n := by
  simp only [slice, List.drop_zero, List.drop_take, List.take_take]
  congr 1
  omega

/-! ### A struct is read from the bytes copied for it -/

theorem deserializeHeader_slice (bs : List UInt8) :
    deserializeHeader (slice bs 0 frameHeaderSize) = deserializeHeader bs := by
  simp (disch := decide) only [deserializeHeader, slice_slice_zero]

theorem deserializeTrack_slice (bs : List UInt8) :
    deserializeTrack (slice bs 0 trackPayloadSize) = deserializeTrack bs := by
  simp (disch := decide) only [deserializeTrack, slice_slice_zero]

theorem deserializePlot_slice (bs : List UInt8) :
    deserializePlot (slice bs 0 plotPayloadSize) = deserializePlot bs := by
  simp (disch := decide) only [deserializePlot, slice_slice_zero]

theorem deserializeHeartbeat_slice (bs : List UInt8) :
    deserializeHeartbeat (slice bs 0 heartbeatPayloadSize) = deserializeHeartbeat bs := by
  simp (disch := decide) only [deserializeHeartbeat, slice_slice_zero]

theorem deserializeEngagement_slice (bs : List UInt8) :
    deserializeEngagement (slice bs 0 engagementPayloadSize) = deserializeEngagement bs := by
  simp (disch := decide) only [deserializeEngagement, slice_slice_zero]

/-! ### `parse_frame` -/

/-- `parse_frame(buf, buf.size(), crc_enabled, out)` with its three reads checked: the header,
the stored CRC, and the span `crc32` runs over. -/
def parseFrameChecked (buf : List UInt8) (crcEnabled : Bool) (out : ParsedFrame) :
    Option (ParseError × ParsedFrame) :=
  if buf.length < frameHeaderSize then some (.tooShort, out) else
  (readBytes? buf 0 frameHeaderSize).bind fun hdr =>
  let out := { out with header := deserializeHeader hdr }
  if out.header.version ≠ protocolVersion then some (.badVersion, out) else
  let mt := out.header.msgType
  if mt < MsgType.plot.toUInt8 ∨ mt > MsgType.engagement.toUInt8 then some (.badMsgType, out) else
  if out.header.payloadLen.toNat > maxPayloadSize then some (.payloadTooLong, out) else
  let expected :=
    frameHeaderSize + out.header.payloadLen.toNat + if crcEnabled then frameCrcSize else 0
  if buf.length < expected then some (.truncated, out) else
  let out := { out with payloadPtr := some frameHeaderSize, hasCrc := crcEnabled }
  if crcEnabled then
    let crcOffset := frameHeaderSize + out.header.payloadLen.toNat
    (readBytes? buf crcOffset frameCrcSize).bind fun stored =>
    let out := { out with crc := ofLe32 stored }
    (readBytes? buf 0 (frameHeaderSize + out.header.payloadLen.toNat)).bind fun span =>
    let computed := crc32 span
    if computed ≠ out.crc then some (.crcMismatch, out) else some (.ok, out)
  else some (.ok, { out with crc := 0 })

/-- Two runs of the same test, the first returning `some` of what the second returns in each
branch. -/
theorem ite_eq_some_ite {α : Type} {c : Prop} [Decidable c] {a b : Option α} {a' b' : α}
    (ha : c → a = some a') (hb : ¬c → b = some b') :
    (if c then a else b) = some (if c then a' else b') := by
  by_cases h : c
  · rw [if_pos h, if_pos h, ha h]
  · rw [if_neg h, if_neg h, hb h]

/-- No read of `parse_frame` leaves the datagram: the header is read once `|buf| ≥ 18`, and
the CRC and the span once `18 + payload_len + 4 ≤ |buf|`. -/
theorem parseFrameChecked_eq (buf : List UInt8) (c : Bool) (out : ParsedFrame) :
    parseFrameChecked buf c out = some (parseFrame buf c out) := by
  unfold parseFrameChecked parseFrame
  by_cases h18 : buf.length < frameHeaderSize
  · rw [if_pos h18, if_pos h18]
  rw [if_neg h18, if_neg h18, readBytes?_of_le (by omega), Option.some_bind,
    deserializeHeader_slice]
  dsimp only
  refine ite_eq_some_ite (fun _ => rfl) fun _ => ite_eq_some_ite (fun _ => rfl) fun _ =>
    ite_eq_some_ite (fun _ => rfl) fun _ => ite_eq_some_ite (fun _ => rfl) fun hlen => ?_
  cases c with
  | false => rfl
  | true =>
    rw [if_pos rfl] at hlen ⊢
    rw [readBytes?_of_le (by omega), Option.some_bind, readBytes?_of_le (by omega),
      Option.some_bind]
    exact ite_eq_some_ite (fun _ => rfl) (fun _ => rfl)

/-! ### The payload switch -/

/-- The size of the struct the `switch (msg_type)` of `process_frame` copies from
`payload_ptr` for a header `h`, if it copies one: that of the message type, when `payload_len`
covers it. -/
def payloadRead (h : TelemetryHeader) : Option Nat :=
  match MsgType.ofUInt8? h.msgType with
  | some .track => if h.payloadLen.toNat ≥ trackPayloadSize then some trackPayloadSize else none
  | some .plot => if h.payloadLen.toNat ≥ plotPayloadSize then some plotPayloadSize else none
  | some .heartbeat =>
    if h.payloadLen.toNat ≥ heartbeatPayloadSize then some heartbeatPayloadSize else none
  | some .engagement =>
    if h.payloadLen.toNat ≥ engagementPayloadSize then some engagementPayloadSize else none
  | none => none

theorem le_payloadLen_of_payloadRead {h : TelemetryHeader} {n : Nat}
    (hn : payloadRead h = some n) : n ≤ h.payloadLen.toNat := by
  unfold payloadRead at hn
  split at hn <;> (try split_ifs at hn) <;> cases hn <;> assumption

/-- The switch publishes from the struct it copies, and nothing when it copies none. -/
theorem payloadEvent_slice (h : TelemetryHeader) (bs : List UInt8) :
    payloadEvent h (match payloadRead h with | some n => slice bs 0 n | none => []) =
      payloadEvent h bs := by
  unfold payloadRead payloadEvent
  cases MsgType.ofUInt8? h.msgType with
  | none => rfl
  | some t =>
    cases t <;> dsimp only <;> split <;>
      simp only [*, if_true, if_false, deserializeTrack_slice, deserializePlot_slice,
        deserializeHeartbeat_slice, deserializeEngagement_slice]

/-- The payload switch of `process_frame` on the header `h`, with the copy of its struct from
`payload_ptr` checked. -/
def payloadEventChecked (buf : List UInt8) (ptr : Nat) (h : TelemetryHeader) :
    Option (Option (EventId × EventCategory × Severity × String)) :=
  match payloadRead h with
  | some n => (readBytes? buf ptr n).map (payloadEvent h)
  | none => some (payloadEvent h [])

/-! ### `process_frame` -/

/-- The reads `process_frame` makes of a datagram: `parse_frame`, then the payload switch at
`payload_ptr` if the frame is accepted; `none` if any read leaves the datagram. -/
def frameReads? (frame : List UInt8) (crcEnabled : Bool) :
    Option (ParseError × ParsedFrame × Option (EventId × EventCategory × Severity × String)) :=
  (parseFrameChecked frame crcEnabled ParsedFrame.init).bind fun r =>
    if r.1 ≠ .ok then some (r.1, r.2, none)
    else (payloadEventChecked frame (r.2.payloadPtr.getD 0) r.2.header).map fun ev => (r.1, r.2, ev)

/-- **Reads stay inside the datagram**: for every datagram and CRC policy, no read of
`parse_frame` or of the payload switch fails, and they give what `parseFrame` and
`payloadEvent` compute; an accepted frame spans `18 + payload_len + 4·crc ≤ |buf|` bytes, and
a struct is copied only when `payload_len` covers it. -/
theorem frameReads?_eq (frame : List UInt8) (crcEnabled : Bool) :
    frameReads? frame crcEnabled =
      (let r := parseFrame frame crcEnabled ParsedFrame.init
       some (r.1, r.2,
         if r.1 = .ok then payloadEvent r.2.header (frame.drop (r.2.payloadPtr.getD 0)) else none)) ∧
    ∀ parsed, parseFrame frame crcEnabled ParsedFrame.init = (.ok, parsed) →
      frameLength parsed.header crcEnabled ≤ frame.length ∧
        ∀ n, payloadRead parsed.header = some n → n ≤ parsed.header.payloadLen.toNat := by
  refine ⟨?_, fun parsed hp => ?_⟩
  · dsimp only
    rw [frameReads?, parseFrameChecked_eq, Option.some_bind]
    by_cases hok : (parseFrame frame crcEnabled ParsedFrame.init).1 = .ok
    · obtain ⟨hv, hl, hc⟩ :=
        (firstFailedCheck_eq_ok_iff _ _).mp ((parseFrame_fst _ _ _).symm.trans hok)
      rw [parseFrame_eq_of_checks _ hv hl hc]
      have hs := payloadEvent_slice (deserializeHeader frame) (frame.drop frameHeaderSize)
      simp only [ne_eq, not_true_eq_false, if_false, if_true, Option.getD_some,
        payloadEventChecked]
      cases hn : payloadRead (deserializeHeader frame) with
      | none => rw [hn] at hs; rw [hs]; rfl
      | some n =>
        have hle := le_payloadLen_of_payloadRead hn
        unfold frameLength at hl
        have hread : readBytes? frame frameHeaderSize n = some (slice frame frameHeaderSize n) :=
          readBytes?_of_le (by split at hl <;> omega)
        rw [hn] at hs
        dsimp only at hs ⊢
        rw [hread, Option.map_some', ← hs]
        rfl
    · rw [if_pos hok, if_neg hok]
  · obtain ⟨hv, hl, hc⟩ :=
      (firstFailedCheck_eq_ok_iff _ _).mp ((parseFrame_fst _ _ _).symm.trans (by rw [hp]))
    rw [parseFrame_eq_of_checks _ hv hl hc, Prod.mk.injEq] at hp
    obtain ⟨-, rfl⟩ := hp
    exact ⟨hl, fun n hn => le_payloadLen_of_payloadRead hn⟩

end NetNodeGateway
