import NetNodeGateway.Gateway.Correctness.TelemetryParser
import NetNodeGateway.Common.Correctness.Crc32

/-!
# Single-byte corruption of a CRC frame

A CRC frame whose bytes are corrupted in one place (`frame[i] ^= e` for a nonzero `e`) fails
`parse_frame`'s checks, with one exception (`parseFrame_modify_ok_shrinks_payloadLen`).  While
`payload_len` reads as before, the CRC is read from its place and computed over the same span,
and the corruption changes one of them (`not_crcMatches_modify`, from
`crc32Update_modify_ne`).  A corruption of the `payload_len` field that raises it fails the
length check.  One that lowers it moves both the CRC span and the CRC read into the payload:
`parse_frame` checks that the datagram is long enough, not that it ends with the frame, so a
payload holding the CRC of the shortened header there is accepted as a shorter frame followed
by trailing bytes (`parseFrame_accepts_shrunk_payloadLen`).
-/

namespace NetNodeGateway

/-! ### One byte of a buffer -/

section Modify

variable {buf : List UInt8} {f : UInt8 → UInt8} {i off n : Nat}

theorem slice_modify_of_lt (h : i < off) : slice (buf.modify f i) off n = slice buf off n := by
  rw [slice, slice, List.drop_modify_of_lt f i off buf h]

theorem slice_modify_of_le (h : off + n ≤ i) : slice (buf.modify f i) off n = slice buf off n := by
  rw [slice, slice, List.drop_modify_of_ge f i off buf (by omega), List.take_modify,
    List.modify_eq_self (by simp; omega)]

theorem slice_modify_of_ge (h : off ≤ i) :
    slice (buf.modify f i) off n = (slice buf off n).modify f (i - off) := by
  rw [slice, slice, List.drop_modify_of_ge f i off buf h, List.take_modify]

theorem modify_append_of_lt {l₁ l₂ : List UInt8} (h : i < l₁.length) :
    (l₁ ++ l₂).modify f i = l₁.modify f i ++ l₂ := by
  induction l₁ generalizing i with
  | nil => simp at h
  | cons a l ih =>
    cases i with
    | zero => rfl
    | succ i => simp [ih (Nat.lt_of_succ_lt_succ h)]

end Modify

theorem uint8_xor_eq_self {x d : UInt8} (h : x ^^^ d = x) : d = 0 := by
  apply UInt8.eq_of_toBitVec_eq
  have h' : x.toBitVec ^^^ (x.toBitVec ^^^ d.toBitVec) = x.toBitVec ^^^ x.toBitVec :=
    congrArg (x.toBitVec ^^^ ·) (congrArg UInt8.toBitVec h)
  simpa [← BitVec.xor_assoc] using h'

theorem modify_xor_ne {l : List UInt8} {j : Nat} (hj : j < l.length) {e : UInt8} (he : e ≠ 0) :
    l.modify (· ^^^ e) j ≠ l := by
  intro h
  have := congrArg (·[j]?) h
  simp only [List.getElem?_modify_eq, List.getElem?_eq_getElem hj, Option.map_eq_map,
    Option.map_some', Option.some.injEq] at this
  exact he (uint8_xor_eq_self this)

/-! ### The frame -/

section Frame

variable {h : TelemetryHeader} {p : List UInt8}

theorem frameBytes_true (h : TelemetryHeader) (p : List UInt8) :
    frameBytes h p true = (serializeHeader h ++ p) ++ le32 (crc32 (serializeHeader h ++ p)) :=
  rfl

theorem length_frameBytes_true (hp : p.length = h.payloadLen.toNat) :
    (frameBytes h p true).length = frameHeaderSize + h.payloadLen.toNat + frameCrcSize := by
  simp [frameBytes_true, hp, frameCrcSize]
  omega

theorem slice_frameBytes_span (hp : p.length = h.payloadLen.toNat) :
    slice (frameBytes h p true) 0 (frameHeaderSize + h.payloadLen.toNat) = serializeHeader h ++ p := by
  rw [frameBytes_true, slice_append_of_le (by simp [hp]), slice_zero_of_length_le (by simp [hp])]

theorem slice_frameBytes_crc (hp : p.length = h.payloadLen.toNat) :
    slice (frameBytes h p true) (frameHeaderSize + h.payloadLen.toNat) frameCrcSize =
      le32 (crc32 (serializeHeader h ++ p)) := by
  rw [frameBytes_true, slice_append_of_length_le (by simp [hp]),
    show frameHeaderSize + h.payloadLen.toNat - (serializeHeader h ++ p).length = 0 by simp [hp],
    slice_zero_of_length_le (by simp [frameCrcSize])]

theorem payloadLen_frameBytes : (deserializeHeader (frameBytes h p true)).payloadLen = h.payloadLen := by
  rw [frameBytes_true, List.append_assoc, deserializeHeader_serializeHeader]

/-- A corruption off the `payload_len` field leaves the length the parser reads. -/
theorem payloadLen_modify {buf : List UInt8} {f : UInt8 → UInt8} {i : Nat} (h16 : i ≠ 16)
    (h17 : i ≠ 17) :
    (deserializeHeader (buf.modify f i)).payloadLen = (deserializeHeader buf).payloadLen := by
  show ofLe16 (slice _ 16 2) = ofLe16 (slice _ 16 2)
  by_cases hi : i < 16
  · rw [slice_modify_of_lt hi]
  · rw [slice_modify_of_le (by omega)]

/-- A single-byte corruption that leaves `payload_len` fails the CRC check: a corrupted byte of
the header or payload changes the CRC of the span (`crc32Update_modify_ne`), and a corrupted
byte of the stored CRC changes the value read. -/
theorem not_crcMatches_modify (hp : p.length = h.payloadLen.toNat) {i : Nat}
    (hi : i < (frameBytes h p true).length) {e : UInt8} (he : e ≠ 0)
    (hlen : (deserializeHeader ((frameBytes h p true).modify (· ^^^ e) i)).payloadLen =
      h.payloadLen) :
    ¬CrcMatches ((frameBytes h p true).modify (· ^^^ e) i) true
      (deserializeHeader ((frameBytes h p true).modify (· ^^^ e) i)) := by
  intro hc
  replace hc := hc rfl
  rw [hlen] at hc
  rw [length_frameBytes_true hp] at hi
  have hm : (serializeHeader h ++ p).length = frameHeaderSize + h.payloadLen.toNat := by
    simp [hp]
  by_cases hspan : i < frameHeaderSize + h.payloadLen.toNat
  · rw [slice_modify_of_lt hspan, slice_modify_of_ge (Nat.zero_le _), slice_frameBytes_span hp,
      slice_frameBytes_crc hp, ofLe32_le32, Nat.sub_zero] at hc
    exact crc32Update_modify_ne 0 (hm ▸ hspan) he hc
  · rw [slice_modify_of_le (by omega), slice_modify_of_ge (by omega), slice_frameBytes_span hp,
      slice_frameBytes_crc hp] at hc
    have h32 := congrArg le32 hc
    rw [le32_ofLe32 (by simp)] at h32
    exact modify_xor_ne (by rw [length_le32]; simp only [frameCrcSize] at hi; omega) he h32.symm

end Frame

/-! ### Single-byte corruption -/

/-- **A single-byte corruption of a CRC frame is rejected unless it shrinks `payload_len`**: if
`parse_frame` accepts a CRC frame with one byte XOR-ed with a nonzero value, that byte is one of
the two `payload_len` bytes and the length read is below the payload's.  The fault injector's
`frame[pos] ^= 0xFF` is the case `e = 0xFF`. -/
theorem parseFrame_modify_ok_shrinks_payloadLen (h : TelemetryHeader) (p : List UInt8) (out : ParsedFrame)
    (hp : p.length = h.payloadLen.toNat) {i : Nat}
    (hi : i < (frameBytes h p true).length) {e : UInt8} (he : e ≠ 0)
    (hok : (parseFrame ((frameBytes h p true).modify (· ^^^ e) i) true out).1 = .ok) :
    (i = 16 ∨ i = 17) ∧
      (deserializeHeader ((frameBytes h p true).modify (· ^^^ e) i)).payloadLen.toNat <
        p.length := by
  rw [parseFrame_fst, firstFailedCheck_eq_ok_iff] at hok
  obtain ⟨-, hl, hc⟩ := hok
  have hle : (deserializeHeader ((frameBytes h p true).modify (· ^^^ e) i)).payloadLen.toNat ≤
      p.length := by
    simp only [frameLength, List.length_modify, length_frameBytes_true hp, if_true] at hl
    omega
  by_cases h16 : i = 16 ∨ i = 17
  · refine ⟨h16, lt_of_le_of_ne hle fun heq => not_crcMatches_modify hp hi he ?_ hc⟩
    exact UInt16.toNat.inj (heq.trans hp)
  · rw [not_or] at h16
    exact absurd hc (not_crcMatches_modify hp hi he
      ((payloadLen_modify h16.1 h16.2).trans payloadLen_frameBytes))


/-- A heartbeat header of a four-byte payload. -/
def shrunkHeader : TelemetryHeader := ⟨1, 3, 7, 0, 0, 4⟩

/-- Four payload bytes holding the CRC of the header with `payload_len = 0`. -/
def shrunkPayload : List UInt8 := le32 (crc32 (serializeHeader { shrunkHeader with payloadLen := 0 }))

/-- With the low byte of its `payload_len` XOR-ed with `4`, the frame of `shrunkHeader` and
`shrunkPayload` is an empty-payload frame followed by four bytes, and passes every check. -/
theorem parseFrame_shrunk (out : ParsedFrame) :
    (parseFrame ((frameBytes shrunkHeader shrunkPayload true).modify (· ^^^ 4) 16) true out).1 =
      .ok := by
  have hF : (frameBytes shrunkHeader shrunkPayload true).modify (· ^^^ 4) 16 =
      frameBytes { shrunkHeader with payloadLen := 0 } [] true ++
        le32 (crc32 (serializeHeader shrunkHeader ++ shrunkPayload)) := by
    rw [frameBytes_true, frameBytes_true, List.append_assoc, List.append_assoc,
      modify_append_of_lt (by simp [frameHeaderSize]), List.append_nil]
    rfl
  obtain ⟨hh, hl, hc, -⟩ := checks_of_eq_frameBytes (h := { shrunkHeader with payloadLen := 0 })
    (p := []) (le32 (crc32 (serializeHeader shrunkHeader ++ shrunkPayload))) true rfl
  rw [parseFrame_fst, firstFailedCheck_eq_ok_iff, hF, hh]
  exact ⟨by decide, hl, hc⟩

theorem parseFrame_modify_ok_shrinks_payloadLen_shrunk :
    shrunkPayload.length = shrunkHeader.payloadLen.toNat ∧
      16 < (frameBytes shrunkHeader shrunkPayload true).length ∧ (4 : UInt8) ≠ 0 ∧
      (16 = 16 ∨ 16 = 17) ∧
      (deserializeHeader ((frameBytes shrunkHeader shrunkPayload true).modify (· ^^^ 4) 16)).payloadLen.toNat <
        shrunkPayload.length :=
  ⟨rfl, by simp [frameBytes_true, shrunkPayload, frameHeaderSize], by decide,
    parseFrame_modify_ok_shrinks_payloadLen shrunkHeader shrunkPayload ⟨⟨0, 0, 0, 0, 0, 0⟩, none, 0, false⟩
      rfl (by simp [frameBytes_true, shrunkPayload, frameHeaderSize]) (by decide)
      (parseFrame_shrunk _)⟩

theorem parseFrame_accepts_shrunk_payloadLen :
    HeaderValid shrunkHeader ∧ shrunkPayload.length = shrunkHeader.payloadLen.toNat ∧
      16 < (frameBytes shrunkHeader shrunkPayload true).length ∧ (4 : UInt8) ≠ 0 ∧
      ∀ out, (parseFrame ((frameBytes shrunkHeader shrunkPayload true).modify (· ^^^ 4) 16) true
        out).1 = .ok :=
  ⟨by decide, rfl, by simp [frameBytes_true, shrunkPayload, frameHeaderSize], by decide,
    parseFrame_shrunk⟩

end NetNodeGateway
