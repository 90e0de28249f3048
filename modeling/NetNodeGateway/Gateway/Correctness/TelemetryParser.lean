import NetNodeGateway.Gateway.TelemetryParser

/-!
# Correctness of `parseFrame`

`parseFrame` accepts exactly the encoder's grammar: it returns `ok` on `buf` iff `buf` is
`frameBytes h p c ++ t` for a valid header `h` and a payload `p` of `h.payloadLen` bytes, and
then reports `h`, the payload at offset 18 and the stored CRC; on any other buffer it reports
the first failing check in the spec's order (`parseFrame_accepts_frameBytes`).

The error is `firstFailedCheck` (`parseFrame_fst`), which is `ok` exactly when every check
passes (`firstFailedCheck_eq_ok_iff`); the two directions of the grammar are the decomposition
of a buffer passing the checks into header, payload, CRC and tail (`eq_frameBytes_of_checks`)
and the reading of those fields back from `frameBytes` (`checks_of_eq_frameBytes`).
-/

namespace NetNodeGateway

/-- The encoder's grammar: a header, its payload and, with CRC enabled, the little-endian CRC of
the two (the `build_frame` helper of the parser tests). -/
def frameBytes (h : TelemetryHeader) (p : List UInt8) (crcEnabled : Bool) : List UInt8 :=
  serializeHeader h ++ p ++ if crcEnabled then le32 (crc32 (serializeHeader h ++ p)) else []

/-- The checks of §4.2 in the spec's order; the first that fails names the error. -/
def firstFailedCheck (buf : List UInt8) (crcEnabled : Bool) : ParseError :=
  let h := deserializeHeader buf
  if buf.length < frameHeaderSize then .tooShort
  else if h.version ≠ 1 then .badVersion
  else if h.msgType < 0x01 ∨ h.msgType > 0x04 then .badMsgType
  else if h.payloadLen.toNat > maxPayloadSize then .payloadTooLong
  else if buf.length < frameLength h crcEnabled then .truncated
  else if ¬CrcMatches buf crcEnabled h then .crcMismatch
  else .ok

/-! ### The checks -/

/-- The error `parseFrame` reports is the first failing check. -/
theorem parseFrame_fst (buf : List UInt8) (c : Bool) (out : ParsedFrame) :
    (parseFrame buf c out).1 = firstFailedCheck buf c := by
  simp only [parseFrame, firstFailedCheck, frameLength, CrcMatches, protocolVersion,
    MsgType.toUInt8, apply_ite Prod.fst]
  cases c <;> simp only [if_true, if_false, Bool.false_eq_true, false_implies, true_implies,
    not_true_eq_false, Nat.add_zero, ne_eq, ite_not]

/-- A check that reports an error when its test holds passes exactly when the test fails and
the checks after it pass. -/
theorem ite_eq_ok_iff {p : Prop} [Decidable p] {e r : ParseError} (he : e ≠ .ok) :
    (if p then e else r) = .ok ↔ ¬p ∧ r = .ok := by
  by_cases h : p
  · rw [if_pos h]; exact iff_of_false he fun h' => h'.1 h
  · rw [if_neg h]; exact (and_iff_right h).symm

theorem firstFailedCheck_eq_ok_iff (buf : List UInt8) (c : Bool) :
    firstFailedCheck buf c = .ok ↔
      HeaderValid (deserializeHeader buf) ∧ frameLength (deserializeHeader buf) c ≤ buf.length ∧
        CrcMatches buf c (deserializeHeader buf) := by
  have h18 : frameHeaderSize ≤ frameLength (deserializeHeader buf) c := by
    unfold frameLength; omega
  simp (disch := decide) only [firstFailedCheck, ite_eq_ok_iff, HeaderValid, protocolVersion,
    not_not, and_true, uint8_le_iff, uint8_lt_iff, not_or, not_lt, gt_iff_lt, ne_eq]
  constructor
  · rintro ⟨-, hv, ⟨hm1, hm4⟩, hp, hl, hc⟩
    exact ⟨⟨hv, hm1, hm4, hp⟩, hl, hc⟩
  · rintro ⟨⟨hv, hm1, hm4, hp⟩, hl, hc⟩
    exact ⟨by omega, hv, ⟨hm1, hm4⟩, hp, hl, hc⟩

/-- With every check passed, `parseFrame` fills in the header, the payload offset and the
stored CRC. -/
theorem parseFrame_eq_of_checks {buf : List UInt8} {c : Bool} (out : ParsedFrame)
    (hv : HeaderValid (deserializeHeader buf))
    (hl : frameLength (deserializeHeader buf) c ≤ buf.length)
    (hc : CrcMatches buf c (deserializeHeader buf)) :
    parseFrame buf c out =
      (.ok, { header := deserializeHeader buf, payloadPtr := some frameHeaderSize, hasCrc := c,
              crc := if c then ofLe32 (slice buf (frameHeaderSize +
                (deserializeHeader buf).payloadLen.toNat) frameCrcSize) else 0 }) := by
  obtain ⟨hver, hlo, hhi, hpl⟩ := hv
  unfold frameLength at hl
  have h1 : ¬ buf.length < frameHeaderSize := by omega
  have h2 : ¬ (deserializeHeader buf).version ≠ protocolVersion := not_not.mpr hver
  have h3 : ¬ ((deserializeHeader buf).msgType < MsgType.plot.toUInt8 ∨
      (deserializeHeader buf).msgType > MsgType.engagement.toUInt8) := by
    simp only [uint8_le_iff, MsgType.toUInt8, uint8_lt_iff, gt_iff_lt] at hlo hhi ⊢; omega
  have h4 : ¬ (deserializeHeader buf).payloadLen.toNat > maxPayloadSize := by omega
  have h5 := Nat.not_lt.mpr hl
  simp only [parseFrame, h1, h2, h3, h4, h5, if_false]
  cases c
  · rfl
  · simp only [if_true, ne_eq, hc rfl, not_true_eq_false, if_false]

/-! ### The grammar -/

/-- A buffer passing the checks is a frame followed by the rest of the datagram. -/
theorem eq_frameBytes_of_checks {buf : List UInt8} {c : Bool}
    (hl : frameLength (deserializeHeader buf) c ≤ buf.length)
    (hc : CrcMatches buf c (deserializeHeader buf)) :
    buf = frameBytes (deserializeHeader buf)
      (slice buf frameHeaderSize (deserializeHeader buf).payloadLen.toNat) c ++
        buf.drop (frameLength (deserializeHeader buf) c) := by
  unfold frameLength at hl ⊢
  have hhp : serializeHeader (deserializeHeader buf) ++
      slice buf frameHeaderSize (deserializeHeader buf).payloadLen.toNat =
      slice buf 0 (frameHeaderSize + (deserializeHeader buf).payloadLen.toNat) := by
    rw [serializeHeader_deserializeHeader (by omega),
      slice_append_slice buf 0 _ _ _ _ (Nat.zero_add _) rfl]
  have htake (k : Nat) : buf = slice buf 0 k ++ buf.drop k := by
    rw [slice, List.drop_zero, List.take_append_drop]
  cases c
  · simpa [frameBytes, hhp] using htake _
  · simp only [↓reduceIte] at hl
    have hlen : (slice buf (frameHeaderSize + (deserializeHeader buf).payloadLen.toNat)
        frameCrcSize).length = 4 := length_slice (by omega)
    have hcrc : le32 (crc32 (slice buf 0 (frameHeaderSize +
        (deserializeHeader buf).payloadLen.toNat))) =
        slice buf (frameHeaderSize + (deserializeHeader buf).payloadLen.toNat) frameCrcSize := by
      rw [hc rfl, le32_ofLe32 hlen]
    simp only [frameBytes, hhp, if_true, hcrc,
      slice_append_slice buf 0 _ _ _ _ (Nat.zero_add _) rfl]
    exact htake _

/-- The fields of `frameBytes h p c ++ t` read back as `h`, `p` and a matching CRC. -/
theorem checks_of_eq_frameBytes {h : TelemetryHeader} {p : List UInt8} (t : List UInt8)
    (c : Bool) (hp : p.length = h.payloadLen.toNat) :
    deserializeHeader (frameBytes h p c ++ t) = h ∧
      frameLength h c ≤ (frameBytes h p c ++ t).length ∧
      CrcMatches (frameBytes h p c ++ t) c h ∧
      slice (frameBytes h p c ++ t) frameHeaderSize h.payloadLen.toNat = p := by
  have hhp : slice (frameBytes h p c ++ t) 0 (frameHeaderSize + h.payloadLen.toNat) =
      serializeHeader h ++ p := by
    rw [frameBytes, List.append_assoc, slice_append_of_le (by simp [hp]),
      slice_zero_of_length_le (by simp [hp])]
  refine ⟨?_, ?_, ?_, ?_⟩
  · simp [frameBytes]
  · cases c
    · simp [frameBytes, frameLength, hp]
    · simp [frameBytes, frameLength, hp, frameCrcSize]; omega
  · intro hc
    subst hc
    rw [hhp, frameBytes, List.append_assoc, if_pos rfl, slice_append_of_length_le (by simp [hp])]
    simp [hp, frameCrcSize]
  · rw [frameBytes, List.append_assoc, List.append_assoc, slice_append_of_length_le (by simp),
      length_serializeHeader, Nat.sub_self, slice_append_of_le (by simp [hp]),
      slice_zero_of_length_le (by simp [hp])]

/-! ### The parser accepts exactly the frames -/

theorem parseFrame_accepts_frameBytes (buf : List UInt8) (c : Bool) (out : ParsedFrame) :
    ((parseFrame buf c out).1 = .ok ↔
      ∃ h p t, HeaderValid h ∧ p.length = h.payloadLen.toNat ∧ buf = frameBytes h p c ++ t) ∧
    (∀ h p t, HeaderValid h → p.length = h.payloadLen.toNat → buf = frameBytes h p c ++ t →
      (parseFrame buf c out).2.header = h ∧
      (parseFrame buf c out).2.payloadPtr = some frameHeaderSize ∧
      slice buf frameHeaderSize h.payloadLen.toNat = p ∧
      (parseFrame buf c out).2.hasCrc = c ∧
      (c = true → (parseFrame buf c out).2.crc =
        ofLe32 (slice buf (frameHeaderSize + h.payloadLen.toNat) frameCrcSize))) ∧
    (parseFrame buf c out).1 = firstFailedCheck buf c := by
  refine ⟨?_, ?_, parseFrame_fst buf c out⟩
  · rw [parseFrame_fst, firstFailedCheck_eq_ok_iff]
    constructor
    · rintro ⟨hv, hl, hc⟩
      exact ⟨_, _, _, hv, length_slice (by unfold frameLength at hl; omega),
        eq_frameBytes_of_checks hl hc⟩
    · rintro ⟨h, p, t, hv, hp, rfl⟩
      obtain ⟨hh, hl, hc, -⟩ := checks_of_eq_frameBytes t c hp
      rw [hh]
      exact ⟨hv, hl, hc⟩
  · rintro h p t hv hp rfl
    obtain ⟨hh, hl, hc, hs⟩ := checks_of_eq_frameBytes t c hp
    have hv' : HeaderValid (deserializeHeader (frameBytes h p c ++ t)) := by rw [hh]; exact hv
    have hl' : frameLength (deserializeHeader (frameBytes h p c ++ t)) c ≤
        (frameBytes h p c ++ t).length := by rw [hh]; exact hl
    have hc' : CrcMatches (frameBytes h p c ++ t) c (deserializeHeader (frameBytes h p c ++ t)) := by
      rw [hh]; exact hc
    rw [parseFrame_eq_of_checks out hv' hl' hc']
    refine ⟨hh, rfl, hs, rfl, fun hc => ?_⟩
    subst hc
    rw [hh]
    rfl

end NetNodeGateway
