import NetNodeGateway.SensorSim.MeasurementGenerator
import NetNodeGateway.Gateway.Correctness.TelemetryParser
import NetNodeGateway.Gateway.Correctness.SequenceTracker

/-!
# Correctness of `MeasurementGenerator`

**A fault-free stream is clean.**  Whatever calls are made on a fresh generator, the `k`-th frame
it emits carries version 1, the configured source, `seq = k mod 2^32`, the message type and size
of its payload struct, parses `OK` without CRC, and its payload deserializes to the `k`-th struct
the calls built; fed in order to a fresh `SequenceTracker`, the frames give `FIRST` and then only
`OK`, across the wrap of `seq` (`run_frames_clean`).

The generator keeps two independent things: `seq_`, which only `build_frame` touches, and the
plot and track counters, which only the payload builders touch.  So a run emits `framesOf` the
structs it builds (`run_eq`), where `runPayloads` is the run of the source's loops without
`build_frame`.  Each frame of `framesOf` is read back whole by `parseFrame_frameOf`, and numbers
sent in a row from `next_expected` are all `OK` on an armed source (`trackAll_seqRun`).

**Frames taken in order.**  Any frames taken in order from a run of fewer than `2^32` frames,
as a lossy link leaves them, carry increasing numbers below `2^32 − 1`
(`seqs_sublist_framesOf`).
-/

namespace NetNodeGateway

/-! ### Payload structs -/

/-- A payload struct the generator builds, tagged by its message type. -/
inductive Payload
  | plot (p : PlotPayload)
  | track (t : TrackPayload)
  | heartbeat (hb : HeartbeatPayload)
  | engagement (e : EngagementPayload)
  deriving DecidableEq, Repr

namespace Payload

/-- The message type of the frames that carry the struct. -/
def msgType : Payload → MsgType
  | plot _ => .plot | track _ => .track | heartbeat _ => .heartbeat | engagement _ => .engagement

/-- `sizeof` the struct: the `payload_len` the generator passes to `build_frame`. -/
def size : Payload → Nat
  | plot _ => plotPayloadSize | track _ => trackPayloadSize
  | heartbeat _ => heartbeatPayloadSize | engagement _ => engagementPayloadSize

/-- The struct's bytes, as `build_frame` copies them after the header. -/
def bytes : Payload → List UInt8
  | plot p => serializePlot p | track t => serializeTrack t
  | heartbeat hb => serializeHeartbeat hb | engagement e => serializeEngagement e

@[simp] theorem length_bytes (p : Payload) : p.bytes.length = p.size := by
  cases p <;> simp [bytes, size, plotPayloadSize, trackPayloadSize, heartbeatPayloadSize,
    engagementPayloadSize]

end Payload

/-- The struct a receiver reads from a payload, chosen by the frame's message-type byte as in
the `switch (msg_type)` of `process_frame`. -/
def decodePayload (msgType : UInt8) (payload : List UInt8) : Option Payload :=
  (MsgType.ofUInt8? msgType).map fun
    | .plot => .plot (deserializePlot payload)
    | .track => .track (deserializeTrack payload)
    | .heartbeat => .heartbeat (deserializeHeartbeat payload)
    | .engagement => .engagement (deserializeEngagement payload)

theorem decodePayload_bytes (p : Payload) (rest : List UInt8) :
    decodePayload p.msgType.toUInt8 (p.bytes ++ rest) = some p := by
  cases p <;> simp [decodePayload, MsgType.ofUInt8?, Payload.msgType, Payload.bytes]

/-! ### The frames of a sequence of structs -/

/-- The header `build_frame` writes for a struct sent as number `seq` at `timestampNs`. -/
def frameHeader (srcId : UInt16) (seq : UInt32) (timestampNs : UInt64) (p : Payload) :
    TelemetryHeader :=
  { version := protocolVersion, msgType := p.msgType.toUInt8, srcId := srcId, seq := seq,
    tsNs := timestampNs, payloadLen := UInt16.ofNat p.size }

/-- The frames `build_frame` makes of structs sent in a row from number `seq`. -/
def framesOf (srcId : UInt16) (seq : UInt32) : List (Payload × UInt64) → List (List UInt8)
  | [] => []
  | (p, ts) :: ps => (serializeHeader (frameHeader srcId seq ts p) ++ p.bytes) ::
      framesOf srcId (seq + 1) ps

@[simp] theorem length_framesOf (srcId : UInt16) (seq : UInt32) (ps : List (Payload × UInt64)) :
    (framesOf srcId seq ps).length = ps.length := by
  induction ps generalizing seq <;> simp [framesOf, *]

theorem add_ofNat_succ (s : UInt32) (n : Nat) :
    s + UInt32.ofNat (n + 1) = s + 1 + UInt32.ofNat n := by
  rw [uint32_ofNat_add, add_comm (UInt32.ofNat n), ← add_assoc]
  rfl

theorem framesOf_append (srcId : UInt16) (seq : UInt32) (ps qs : List (Payload × UInt64)) :
    framesOf srcId seq (ps ++ qs) =
      framesOf srcId seq ps ++ framesOf srcId (seq + UInt32.ofNat ps.length) qs := by
  induction ps generalizing seq with
  | nil => simp only [List.nil_append, framesOf, List.length_nil, uint32_ofNat_zero, add_zero]
  | cons p ps ih =>
    obtain ⟨p, ts⟩ := p
    rw [List.cons_append, framesOf, framesOf, ih, List.length_cons, add_ofNat_succ,
      List.cons_append]

/-- The `k`-th frame is the `k`-th struct sent as number `seq + k`. -/
theorem getElem?_framesOf (srcId : UInt16) (seq : UInt32) (ps : List (Payload × UInt64))
    (k : Nat) : (framesOf srcId seq ps)[k]? = ps[k]?.map fun x =>
      serializeHeader (frameHeader srcId (seq + UInt32.ofNat k) x.2 x.1) ++ x.1.bytes := by
  induction ps generalizing seq k with
  | nil => rfl
  | cons p ps ih =>
    cases k with
    | zero => simp only [framesOf, List.getElem?_cons_zero, Option.map_some', uint32_ofNat_zero,
        add_zero]
    | succ k => simp only [framesOf, List.getElem?_cons_succ, ih, add_ofNat_succ]

/-! ### A frame reads back whole -/

theorem headerValid_frameHeader (srcId : UInt16) (seq : UInt32) (ts : UInt64) (p : Payload) :
    HeaderValid (frameHeader srcId seq ts p) := by
  cases p <;> dsimp only [HeaderValid, frameHeader, Payload.msgType, Payload.size] <;> decide

/-- A frame of `framesOf` parses `OK` without CRC, with its header and the payload after it. -/
theorem parseFrame_frameOf (srcId : UInt16) (seq : UInt32) (ts : UInt64) (p : Payload)
    (out : ParsedFrame) :
    parseFrame (serializeHeader (frameHeader srcId seq ts p) ++ p.bytes) false out =
      (.ok, { header := frameHeader srcId seq ts p, payloadPtr := some frameHeaderSize,
              crc := 0, hasCrc := false }) := by
  have hp : p.bytes.length = (frameHeader srcId seq ts p).payloadLen.toNat := by
    rw [Payload.length_bytes]; cases p <;> rfl
  have hf : serializeHeader (frameHeader srcId seq ts p) ++ p.bytes =
      frameBytes (frameHeader srcId seq ts p) p.bytes false ++ [] := by
    simp [frameBytes]
  obtain ⟨hd, hl, hc, -⟩ := checks_of_eq_frameBytes [] false hp
  have hv : HeaderValid (deserializeHeader (frameBytes (frameHeader srcId seq ts p) p.bytes false ++
      [])) := by
    rw [hd]; exact headerValid_frameHeader srcId seq ts p
  rw [hf, @parseFrame_eq_of_checks _ false out hv (by rwa [hd]) (by rwa [hd]), hd]
  rfl

/-! ### Numbers sent in a row -/

/-- The numbers `seq, seq + 1, …` of `n` frames sent in a row, wrapping at `2^32`. -/
def seqRun (seq : UInt32) : Nat → List UInt32
  | 0 => []
  | n + 1 => seq :: seqRun (seq + 1) n

theorem seqs_framesOf (srcId : UInt16) (seq : UInt32) (ps : List (Payload × UInt64)) :
    (framesOf srcId seq ps).map (fun f => (deserializeHeader f).seq) = seqRun seq ps.length := by
  induction ps generalizing seq <;> simp [framesOf, seqRun, frameHeader, *]

/-- Short of a wrap, the numbers sent in a row from `a` are `a, a + 1, …`. -/
theorem map_toNat_seqRun (a n : Nat) (h : a + n ≤ 4294967296) :
    (seqRun (UInt32.ofNat a) n).map UInt32.toNat = List.range' a n := by
  induction n generalizing a with
  | zero => rfl
  | succ n ih =>
    have hsucc : UInt32.ofNat a + 1 = UInt32.ofNat (a + 1) := by rw [uint32_ofNat_add]; rfl
    rw [seqRun, List.map_cons, hsucc, ih (a + 1) (by omega), List.range'_succ, toNat_uint32_ofNat,
      Nat.mod_eq_of_lt (by omega)]

/-- Frames taken in order from a run of fewer than `2^32` frames numbered from `0` carry
increasing numbers below `2^32 - 1`. -/
theorem seqs_sublist_framesOf {srcId : UInt16} {ps : List (Payload × UInt64)}
    (hps : ps.length < 4294967296) {fs : List (List UInt8)} (h : fs.Sublist (framesOf srcId 0 ps)) :
    (∀ s ∈ fs.map fun f => (deserializeHeader f).seq, s.toNat < 4294967295) ∧
      (fs.map fun f => (deserializeHeader f).seq).Pairwise (· < ·) := by
  have h0 : (seqRun 0 ps.length).map UInt32.toNat = List.range' 0 ps.length :=
    map_toNat_seqRun 0 ps.length (by omega)
  have hnat := (h.map fun f => (deserializeHeader f).seq).map UInt32.toNat
  rw [seqs_framesOf, h0] at hnat
  refine ⟨fun s hs => ?_,
    (List.pairwise_map (f := UInt32.toNat)).mp ((List.pairwise_lt_range' 0 ps.length).sublist hnat)⟩
  have := List.mem_range'_1.mp (hnat.subset (List.mem_map_of_mem UInt32.toNat hs))
  omega

/-- On an armed source whose `next_expected` is `seq`, the numbers from `seq` in a row are all
`OK`, whatever wraps. -/
theorem trackAll_seqRun_armed (src : UInt16) (n : Nat) : ∀ (t : SequenceTracker) (seq : UInt32),
    (t.sources src).initialized = true → (t.sources src).nextExpected = seq →
      (t.trackAll src (seqRun seq n)).1.map (·.result) = List.replicate n .ok := by
  induction n with
  | zero => intros; rfl
  | succ n ih =>
    intro t seq hi hn
    obtain ⟨hi', ⟨-, he, hn'⟩ | ⟨hgt, -⟩ | ⟨hlt, -⟩⟩ := SourceState.track_cases hi src seq
    · simp only [seqRun, SequenceTracker.trackAll_cons, SequenceTracker.track_fst, he,
        List.map_cons, List.replicate_succ,
        ih (t.track src seq).2 (seq + 1) (by simpa using hi') (by simpa using hn')]
    · rw [hn, uint32_lt_iff] at hgt; exact absurd hgt (Nat.lt_irrefl _)
    · rw [hn, uint32_lt_iff] at hlt; exact absurd hlt (Nat.lt_irrefl _)

/-- From a fresh tracker, numbers sent in a row give `FIRST` and then only `OK`. -/
theorem trackAll_seqRun (src : UInt16) (seq : UInt32) (n : Nat) :
    (SequenceTracker.empty.trackAll src (seqRun seq (n + 1))).1.map (·.result) =
      .first :: List.replicate n .ok := by
  simp only [seqRun, SequenceTracker.trackAll_cons, SequenceTracker.track_fst, List.map_cons]
  rw [trackAll_seqRun_armed src n _ (seq + 1) (by simp [SequenceTracker.empty, SourceState.track])
    (by simp [SequenceTracker.empty, SourceState.track])]
  rfl

/-! ### The generator emits the frames of the structs it builds -/

namespace MeasurementGenerator

/-- The structs `generate_plots` builds, in order, and the generator after them, leaving out
`build_frame`. -/
def plotPayloads (g : MeasurementGenerator) :
    List (Option PlotMeasurement) → List Payload × MeasurementGenerator
  | [] => ([], g)
  | none :: objects => g.plotPayloads objects
  | some m :: objects =>
    let r := (g.plotPayload m).2.plotPayloads objects
    (.plot (g.plotPayload m).1 :: r.1, r.2)

/-- The structs `generate_tracks` builds, in order, and the generator after them, leaving out
`build_frame`. -/
def trackPayloads (g : MeasurementGenerator) :
    List (WorldObject × TrackMeasurement) → List Payload × MeasurementGenerator
  | [] => ([], g)
  | obj :: objects =>
    let r := (g.trackPayload obj.1 obj.2).2.trackPayloads objects
    (.track (g.trackPayload obj.1 obj.2).1 :: r.1, r.2)

/-- The structs one call builds, each with the timestamp it is sent at. -/
def callPayloads (g : MeasurementGenerator) : GenCall → List (Payload × UInt64) × MeasurementGenerator
  | .plots objects ts => ((g.plotPayloads objects).1.map (·, ts), (g.plotPayloads objects).2)
  | .tracks objects ts => ((g.trackPayloads objects).1.map (·, ts), (g.trackPayloads objects).2)
  | .heartbeat cpuPct memPct ts => ([(.heartbeat (g.heartbeatPayload cpuPct memPct ts), ts)], g)
  | .engagement weaponId mode assignedTrack rounds barrelTemp bursts ts =>
    ([(.engagement (engagementPayload weaponId mode assignedTrack rounds barrelTemp bursts), ts)],
      g)

/-- The structs a sequence of calls builds, in emission order. -/
def runPayloads (g : MeasurementGenerator) :
    List GenCall → List (Payload × UInt64) × MeasurementGenerator
  | [] => ([], g)
  | c :: calls =>
    let r := g.callPayloads c
    let r' := r.2.runPayloads calls
    (r.1 ++ r'.1, r'.2)

/-- The generator with `seq_` set to `s`. -/
def setSeq (g : MeasurementGenerator) (s : UInt32) : MeasurementGenerator := { g with seq := s }

@[simp] theorem srcId_setSeq (g : MeasurementGenerator) (s : UInt32) : (g.setSeq s).srcId = g.srcId :=
  rfl

@[simp] theorem seq_setSeq (g : MeasurementGenerator) (s : UInt32) : (g.setSeq s).seq = s := rfl

@[simp] theorem setSeq_setSeq (g : MeasurementGenerator) (s s' : UInt32) :
    (g.setSeq s).setSeq s' = g.setSeq s' := rfl

@[simp] theorem setSeq_self (g : MeasurementGenerator) : g.setSeq g.seq = g := rfl

@[simp] theorem buildFrame_snd (g : MeasurementGenerator) (type : MsgType) (payload : List UInt8)
    (payloadLen : UInt16) (ts : UInt64) :
    (g.buildFrame type payload payloadLen ts).2 = g.setSeq (g.seq + 1) := rfl

@[simp] theorem srcId_plotPayload (g : MeasurementGenerator) (m : PlotMeasurement) :
    (g.plotPayload m).2.srcId = g.srcId := rfl

@[simp] theorem seq_plotPayload (g : MeasurementGenerator) (m : PlotMeasurement) :
    (g.plotPayload m).2.seq = g.seq := rfl

@[simp] theorem plotPayload_setSeq (g : MeasurementGenerator) (s : UInt32) (m : PlotMeasurement) :
    (g.setSeq s).plotPayload m = ((g.plotPayload m).1, (g.plotPayload m).2.setSeq s) := rfl

@[simp] theorem srcId_trackPayload (g : MeasurementGenerator) (obj : WorldObject)
    (m : TrackMeasurement) : (g.trackPayload obj m).2.srcId = g.srcId := rfl

@[simp] theorem seq_trackPayload (g : MeasurementGenerator) (obj : WorldObject)
    (m : TrackMeasurement) : (g.trackPayload obj m).2.seq = g.seq := rfl

@[simp] theorem trackPayload_setSeq (g : MeasurementGenerator) (s : UInt32) (obj : WorldObject)
    (m : TrackMeasurement) :
    (g.setSeq s).trackPayload obj m = ((g.trackPayload obj m).1, (g.trackPayload obj m).2.setSeq s) :=
  rfl

@[simp] theorem heartbeatPayload_setSeq (g : MeasurementGenerator) (s : UInt32)
    (cpuPct memPct : UInt8) (ts : UInt64) :
    (g.setSeq s).heartbeatPayload cpuPct memPct ts = g.heartbeatPayload cpuPct memPct ts := rfl

/-! The builders neither read nor write `seq_`, and keep the source id. -/

@[simp] theorem plotPayloads_setSeq (g : MeasurementGenerator) (s : UInt32)
    (objects : List (Option PlotMeasurement)) :
    (g.setSeq s).plotPayloads objects =
      ((g.plotPayloads objects).1, (g.plotPayloads objects).2.setSeq s) := by
  induction objects generalizing g with
  | nil => rfl
  | cons o objects ih => cases o <;> simp only [plotPayloads, plotPayload_setSeq, ih]

@[simp] theorem trackPayloads_setSeq (g : MeasurementGenerator) (s : UInt32)
    (objects : List (WorldObject × TrackMeasurement)) :
    (g.setSeq s).trackPayloads objects =
      ((g.trackPayloads objects).1, (g.trackPayloads objects).2.setSeq s) := by
  induction objects generalizing g with
  | nil => rfl
  | cons o objects ih => simp only [trackPayloads, trackPayload_setSeq, ih]

theorem callPayloads_setSeq (g : MeasurementGenerator) (s : UInt32) (c : GenCall) :
    (g.setSeq s).callPayloads c = ((g.callPayloads c).1, (g.callPayloads c).2.setSeq s) := by
  cases c <;> simp only [callPayloads, plotPayloads_setSeq, trackPayloads_setSeq,
    heartbeatPayload_setSeq]

theorem runPayloads_setSeq (g : MeasurementGenerator) (s : UInt32) (calls : List GenCall) :
    (g.setSeq s).runPayloads calls =
      ((g.runPayloads calls).1, (g.runPayloads calls).2.setSeq s) := by
  induction calls generalizing g with
  | nil => rfl
  | cons c calls ih => simp only [runPayloads, callPayloads_setSeq, ih]

@[simp] theorem srcId_plotPayloads (g : MeasurementGenerator)
    (objects : List (Option PlotMeasurement)) : (g.plotPayloads objects).2.srcId = g.srcId := by
  induction objects generalizing g with
  | nil => rfl
  | cons o objects ih => cases o <;> simp only [plotPayloads, ih, srcId_plotPayload]

@[simp] theorem srcId_trackPayloads (g : MeasurementGenerator)
    (objects : List (WorldObject × TrackMeasurement)) :
    (g.trackPayloads objects).2.srcId = g.srcId := by
  induction objects generalizing g with
  | nil => rfl
  | cons o objects ih => simp only [trackPayloads, ih, srcId_trackPayload]

@[simp] theorem srcId_callPayloads (g : MeasurementGenerator) (c : GenCall) :
    (g.callPayloads c).2.srcId = g.srcId := by
  cases c <;> simp [callPayloads]

/-! The generator loops are the builders followed by `build_frame`. -/

theorem generatePlots_eq (g : MeasurementGenerator) (objects : List (Option PlotMeasurement))
    (ts : UInt64) : g.generatePlots objects ts =
      (framesOf g.srcId g.seq ((g.plotPayloads objects).1.map (·, ts)),
        (g.plotPayloads objects).2.setSeq (g.seq + UInt32.ofNat (g.plotPayloads objects).1.length)) := by
  induction objects generalizing g with
  | nil => simp [generatePlots, plotPayloads, framesOf]
  | cons o objects ih =>
    cases o with
    | none => exact ih g
    | some m =>
      simp only [generatePlots, plotPayloads, ih, buildFrame_snd, plotPayloads_setSeq,
        srcId_setSeq, seq_setSeq, setSeq_setSeq, srcId_plotPayload, seq_plotPayload, List.map_cons,
        framesOf, List.length_cons, add_ofNat_succ]
      rfl

theorem generateTracks_eq (g : MeasurementGenerator)
    (objects : List (WorldObject × TrackMeasurement)) (ts : UInt64) :
    g.generateTracks objects ts =
      (framesOf g.srcId g.seq ((g.trackPayloads objects).1.map (·, ts)),
        (g.trackPayloads objects).2.setSeq (g.seq + UInt32.ofNat (g.trackPayloads objects).1.length)) := by
  induction objects generalizing g with
  | nil => simp [generateTracks, trackPayloads, framesOf]
  | cons o objects ih =>
    simp only [generateTracks, trackPayloads, ih, buildFrame_snd, trackPayloads_setSeq,
      srcId_setSeq, seq_setSeq, setSeq_setSeq, srcId_trackPayload, seq_trackPayload, List.map_cons,
      framesOf, List.length_cons, add_ofNat_succ]
    rfl

theorem call_eq (g : MeasurementGenerator) (c : GenCall) :
    g.call c = (framesOf g.srcId g.seq (g.callPayloads c).1,
      (g.callPayloads c).2.setSeq (g.seq + UInt32.ofNat (g.callPayloads c).1.length)) := by
  cases c with
  | plots objects ts => simp only [call, callPayloads, generatePlots_eq, List.length_map]
  | tracks objects ts => simp only [call, callPayloads, generateTracks_eq, List.length_map]
  | heartbeat => rfl
  | engagement => rfl

/-- A run emits the frames of the structs it builds, numbered in a row from `seq_`. -/
theorem run_eq (g : MeasurementGenerator) (calls : List GenCall) :
    g.run calls = (framesOf g.srcId g.seq (g.runPayloads calls).1,
      (g.runPayloads calls).2.setSeq (g.seq + UInt32.ofNat (g.runPayloads calls).1.length)) := by
  induction calls generalizing g with
  | nil => simp [run, runPayloads, framesOf]
  | cons c calls ih =>
    simp only [run, call_eq, ih, runPayloads, runPayloads_setSeq, srcId_setSeq, seq_setSeq,
      setSeq_setSeq, srcId_callPayloads, framesOf_append, List.length_append, uint32_ofNat_add,
      add_assoc]

theorem run_append (g : MeasurementGenerator) (calls calls' : List GenCall) :
    g.run (calls ++ calls') =
      ((g.run calls).1 ++ ((g.run calls).2.run calls').1, ((g.run calls).2.run calls').2) := by
  induction calls generalizing g with
  | nil => rfl
  | cons c calls ih => simp only [List.cons_append, run, List.append_eq, ih, List.append_assoc]

@[simp] theorem srcId_runPayloads (g : MeasurementGenerator) (calls : List GenCall) :
    (g.runPayloads calls).2.srcId = g.srcId := by
  induction calls generalizing g <;> simp [runPayloads, *]

@[simp] theorem srcId_run (g : MeasurementGenerator) (calls : List GenCall) :
    (g.run calls).2.srcId = g.srcId := by
  rw [run_eq, srcId_setSeq, srcId_runPayloads]

/-- Every frame of a run is the header `build_frame` writes for one struct, and the struct. -/
theorem mem_run (g : MeasurementGenerator) (calls : List GenCall) {f : List UInt8}
    (hf : f ∈ (g.run calls).1) :
    ∃ seq ts p, f = serializeHeader (frameHeader g.srcId seq ts p) ++ p.bytes := by
  rw [run_eq] at hf
  generalize g.seq = seq, (g.runPayloads calls).1 = ps at hf
  induction ps generalizing seq with
  | nil => simp [framesOf] at hf
  | cons x ps ih =>
    rcases List.mem_cons.mp hf with rfl | hf
    · exact ⟨seq, x.2, x.1, rfl⟩
    · exact ih (seq + 1) hf

end MeasurementGenerator

/-! ### A fault-free stream is clean end to end -/

theorem run_frames_clean (srcId : UInt16) (calls : List GenCall) (out : ParsedFrame) :
    let g : MeasurementGenerator := { srcId := srcId }
    let frames := (g.run calls).1
    let built := (g.runPayloads calls).1
    frames.length = built.length ∧
    ∀ k p ts, built[k]? = some (p, ts) → ∃ f, frames[k]? = some f ∧
      deserializeHeader f =
        { version := 1, msgType := p.msgType.toUInt8, srcId := srcId, seq := UInt32.ofNat k,
          tsNs := ts, payloadLen := UInt16.ofNat p.size } ∧
      parseFrame f false out =
        (.ok, { header := deserializeHeader f, payloadPtr := some frameHeaderSize, crc := 0,
                hasCrc := false }) ∧
      decodePayload (deserializeHeader f).msgType (f.drop frameHeaderSize) = some p ∧
      ((SequenceTracker.empty.trackAll srcId (frames.map fun f => (deserializeHeader f).seq)).1.map
        (·.result))[k]? = some (if k = 0 then .first else .ok) := by
  intro g frames built
  have hf : frames = framesOf srcId 0 built := by
    simp only [frames, built, MeasurementGenerator.run_eq]
  refine ⟨by simp [hf], fun k p ts hk => ?_⟩
  have hk' : k < built.length := (List.getElem?_eq_some_iff.mp hk).1
  obtain ⟨n, hn⟩ : ∃ n, built.length = n + 1 := ⟨built.length - 1, by omega⟩
  refine ⟨_, by rw [hf, getElem?_framesOf, hk]; rfl, by simp [frameHeader, protocolVersion], ?_, ?_, ?_⟩
  · simpa using parseFrame_frameOf srcId (0 + UInt32.ofNat k) ts p out
  · simpa [frameHeader] using decodePayload_bytes p []
  · rw [hf, seqs_framesOf, hn, trackAll_seqRun]
    cases k with
    | zero => simp
    | succ k => simp [List.getElem?_replicate, show k < n by omega]

end NetNodeGateway
