import NetNodeGateway.SensorSim.Correctness.MeasurementGenerator
import NetNodeGateway.Gateway.Correctness.Gateway

/-!
# The sensor-to-gateway pipeline without faults

The frames a measurement generator emits, passed on without faults to a fresh gateway that does
not check CRCs (the generator writes none), are all accepted and carry one source's consecutive
sequence numbers.  So the gateway counts each of them as received and counts nothing else, and
its health is `OK` (`processFrames_generator_clean`).  This is the `PatrolScenarioNoFaults`
integration test, for every run of the generator and every receive timestamp.

The proof reads the generator's frames back (`parseFrame_frameOf`), so the keys the gateway
tracks are the run `seqRun 0 n` of one source (`acceptedKeys_framesOf`), which the tracker takes
as `FIRST` and then only `OK` (`trackAll_seqRun`).
-/

namespace NetNodeGateway

/-- The gateway's tracker run over one source's keys is that source's run. -/
theorem SequenceTracker.trackPairs_map (t : SequenceTracker) (src : UInt16) (l : List UInt32) :
    t.trackPairs (l.map (src, ·)) = t.trackAll src l := by
  induction l generalizing t with
  | nil => rfl
  | cons s l ih => simp [trackPairs, ih]

theorem parseResult_framesOf (srcId : UInt16) (seq : UInt32) (ps : List (Payload × UInt64)) :
    ∀ f ∈ framesOf srcId seq ps, parseResult false f = .ok := by
  induction ps generalizing seq with
  | nil => simp [framesOf]
  | cons p ps ih =>
    simp only [framesOf, List.mem_cons, forall_eq_or_imp]
    exact ⟨by rw [parseResult, parseFrame_frameOf], ih (seq + 1)⟩

/-- The gateway accepts every frame of the generator, with the source and the numbers it wrote. -/
theorem acceptedKeys_framesOf (srcId : UInt16) (seq : UInt32) (ps : List (Payload × UInt64)) :
    acceptedKeys false (framesOf srcId seq ps) = (seqRun seq ps.length).map (srcId, ·) := by
  induction ps generalizing seq with
  | nil => rfl
  | cons p ps ih =>
    obtain ⟨p, ts⟩ := p
    have hp : parseResult false (serializeHeader (frameHeader srcId seq ts p) ++ p.bytes) = .ok := by
      rw [parseResult, parseFrame_frameOf]
    rw [framesOf, acceptedKeys_cons, ih]
    simp only [acceptedKeys, List.filterMap_cons, hp, if_true, List.filterMap_nil,
      deserializeHeader_serializeHeader, seqRun, List.length_cons, List.map_cons,
      List.singleton_append]
    rfl

/-- A run of `FIRST` and `OK` events counts no gap, reorder or duplicate. -/
theorem counts_of_first_ok {es : List SeqEvent} (n : Nat)
    (h : es.map (·.result) = .first :: List.replicate n .ok) :
    gapSum es = 0 ∧ resultCount .reorder es = 0 ∧ resultCount .duplicate es = 0 := by
  have hmem : ∀ e ∈ es, e.result = .first ∨ e.result = .ok := by
    intro e he
    have : e.result ∈ SeqResult.first :: List.replicate n .ok := h ▸ List.mem_map_of_mem _ he
    simp only [List.mem_cons, List.mem_replicate] at this
    exact this.imp id And.right
  have hgap : es.filter (fun e => decide (e.result = .gap)) = [] :=
    List.filter_eq_nil_iff.mpr fun e he => by rcases hmem e he with h | h <;> simp [h]
  refine ⟨by simp [gapSum, hgap], ?_, ?_⟩
  all_goals
    exact List.countP_eq_zero.mpr fun e he => by rcases hmem e he with h | h <;> simp [h]

/-- **A fault-free pipeline is clean**: a fresh gateway with CRC checking off, given the frames
of any run of a fresh generator with any receive timestamps, counts every frame as received and
nothing else, and reports health `OK`, whatever its clock and recording. -/
theorem processFrames_generator_clean (srcId : UInt16) (calls : List GenCall) (rec : Bool)
    (r : FrameRecorder) (clock : Nat → UInt64) (fs : List (List UInt8 × UInt64))
    (hfs : fs.map (·.1) = (({ srcId := srcId } : MeasurementGenerator).run calls).1) :
    (({ config := { crcEnabled := false, recordEnabled := rec }, recorder := r } : Gateway).processFrames
      clock fs).stats.getGlobalStats = { rxTotal := UInt64.ofNat fs.length } ∧
    (({ config := { crcEnabled := false, recordEnabled := rec }, recorder := r } : Gateway).processFrames
      clock fs).stats.getHealth = .ok := by
  obtain ⟨-, -, hglobal, -⟩ := Gateway.processFrames_tally clock fs
    { config := { crcEnabled := false, recordEnabled := rec }, recorder := r }
  rw [MeasurementGenerator.run_eq] at hfs
  set built := (({ srcId := srcId } : MeasurementGenerator).runPayloads calls).1
  have hlen : fs.length = built.length := by
    rw [← List.length_map fs (·.1), hfs, length_framesOf]
  have hok : ∀ f ∈ fs.map (·.1), parseResult false f = .ok := hfs ▸ parseResult_framesOf _ _ _
  have hcounts : gapSum (SequenceTracker.empty.trackPairs (acceptedKeys false (fs.map (·.1)))).1 = 0 ∧
      resultCount .reorder (SequenceTracker.empty.trackPairs (acceptedKeys false (fs.map (·.1)))).1 = 0 ∧
      resultCount .duplicate
        (SequenceTracker.empty.trackPairs (acceptedKeys false (fs.map (·.1)))).1 = 0 := by
    rw [hfs, acceptedKeys_framesOf, SequenceTracker.trackPairs_map]
    cases hb : built.length with
    | zero => simp [seqRun]
    | succ n => exact counts_of_first_ok n (trackAll_seqRun srcId 0 n)
  obtain ⟨hgap, hreo, hdup⟩ := hcounts
  have hacc : (fs.map (·.1)).countP (parseResult false · = .ok) = fs.length := by
    rw [List.countP_eq_length.mpr fun f hf => by simp [hok f hf], List.length_map]
  have hrej : (fs.map (·.1)).countP (parseResult false · ≠ .ok) = 0 :=
    List.countP_eq_zero.mpr fun f hf => by simp [hok f hf]
  have hcrc : (fs.map (·.1)).countP (parseResult false · = .crcMismatch) = 0 :=
    List.countP_eq_zero.mpr fun f hf => by simp [hok f hf]
  have hglobal' : (({ config := { crcEnabled := false, recordEnabled := rec }, recorder := r } :
      Gateway).processFrames clock fs).stats.getGlobalStats = { rxTotal := UInt64.ofNat fs.length } := by
    rw [StatsManager.getGlobalStats, hglobal, ← expectedGlobal_eq_tally]
    simp only [expectedGlobal, hgap, hreo, hdup, hacc, hrej, hcrc]
    rfl
  refine ⟨hglobal', ?_⟩
  rw [StatsManager.getHealth, ← StatsManager.getGlobalStats, hglobal']
  rfl

theorem processFrames_generator_clean_heartbeat :
    ((({ srcId := 5 } : MeasurementGenerator).run [.heartbeat 10 20 5000000000]).1.map
        (·, (7 : UInt64))).map (·.1) =
      (({ srcId := 5 } : MeasurementGenerator).run [.heartbeat 10 20 5000000000]).1 ∧
    (({ config := { crcEnabled := false, recordEnabled := false } } : Gateway).processFrames
      (fun _ => 0) ((({ srcId := 5 } : MeasurementGenerator).run [.heartbeat 10 20 5000000000]).1.map
        (·, (7 : UInt64)))).stats.getHealth = .ok :=
  ⟨by simp [Function.comp_def], (processFrames_generator_clean 5 [.heartbeat 10 20 5000000000] false {} (fun _ => 0) _
    (by simp [Function.comp_def])).2⟩

end NetNodeGateway
