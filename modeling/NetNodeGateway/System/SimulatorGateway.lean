import NetNodeGateway.SensorSim.Correctness.SensorSimMain
import NetNodeGateway.Gateway.Correctness.Events
import NetNodeGateway.Gateway.Correctness.Corruption
import NetNodeGateway.System.Pipeline

/-!
# The simulator's datagrams at the gateway

`sensor_sim` sends frames without a CRC, and `GatewayConfig` enables CRC checking by default
(the integration tests turn it off).  Whatever the simulator's faults, draws and world, and
whatever the network does to its datagrams on the way (loss, duplication, reordering), every
datagram the gateway receives is one the simulator sent (`SensorSim.Inv`), so:

* `processFrames_simulator_crc`: a gateway checking CRCs rejects every one of them, and never
  as a CRC failure.  The length a datagram declares with its CRC runs past its end: a byte flip
  by the corruption stage never lowers the `payload_len` field
  (`size_le_payloadLen_modify`), and a check before the CRC's fails
  (`firstFailedCheck_of_lt_frameLength`).
* `processFrames_simulator_noCrc`: a gateway not checking CRCs accepts every one of them when the
  corruption stage is off, and tracks them all under source `1`.
* `processFrames_simulator_lossy`: when only the loss stage is on and the network keeps the order
  of what it delivers, the numbers received increase without wrap (`SensorSim.run_sublist`,
  `seqs_sublist_framesOf`), so a fresh gateway counts as gaps exactly the numbers it missed between
  the first and the last it received (`trackAll_increasing_fresh`), and nothing else.
-/

namespace NetNodeGateway

/-! ### The length a flipped generator frame declares -/

/-- A byte flip of a generator frame never lowers the `payload_len` it declares: off the field
the value is unchanged, on its low byte it reads `255 - size`, and on its high byte
`size + 0xFF00`. -/
theorem size_le_payloadLen_modify (srcId : UInt16) (seq : UInt32) (ts : UInt64) (p : Payload)
    (i : Nat) :
    p.size ≤ (deserializeHeader ((serializeHeader (frameHeader srcId seq ts p) ++ p.bytes).modify
      (· ^^^ 0xFF) i)).payloadLen.toNat := by
  have hsize : p.size ∈ [21, 25, 11, 13] := by
    cases p <;> simp [Payload.size, plotPayloadSize, trackPayloadSize, heartbeatPayloadSize,
      engagementPayloadSize]
  set f := serializeHeader (frameHeader srcId seq ts p) ++ p.bytes
  have hpl : (deserializeHeader f).payloadLen = UInt16.ofNat p.size := by
    rw [deserializeHeader_serializeHeader]; rfl
  by_cases hi : i = 16 ∨ i = 17
  · have hflip : ∀ n ∈ [21, 25, 11, 13], ∀ j < 2,
        n ≤ (ofLe16 ((le16 (UInt16.ofNat n)).modify (· ^^^ 0xFF) j)).toNat := by decide
    have hslice : slice f 16 2 = le16 (UInt16.ofNat p.size) := by
      rw [← hpl]
      exact (le16_ofLe16 (length_slice (by simp [f, frameHeaderSize]))).symm
    show p.size ≤ (ofLe16 (slice (f.modify _ i) 16 2)).toNat
    rw [slice_modify_of_ge (by omega), hslice]
    exact hflip _ hsize _ (by omega)
  · rw [not_or] at hi
    rw [payloadLen_modify hi.1 hi.2, hpl, toNat_uint16_ofNat,
      Nat.mod_eq_of_lt (by simp only [List.mem_cons, List.mem_singleton, List.not_mem_nil,
        or_false] at hsize; omega)]

/-- A datagram whose declared length with a CRC runs past its end fails a check before the
CRC's. -/
theorem firstFailedCheck_of_lt_frameLength {buf : List UInt8}
    (h : buf.length < frameLength (deserializeHeader buf) true) :
    firstFailedCheck buf true ≠ .ok ∧ firstFailedCheck buf true ≠ .crcMismatch := by
  unfold firstFailedCheck
  dsimp only
  rw [if_pos h]
  split_ifs <;> decide

/-- With CRC checking on, a datagram of the simulator is rejected, and not as a CRC mismatch. -/
theorem parseResult_true_of_simDatagram {corrupting : Prop} {f : List UInt8}
    (h : SimDatagram corrupting f) :
    parseResult true f ≠ .ok ∧ parseResult true f ≠ .crcMismatch := by
  obtain ⟨b, ⟨seq, ts, p, rfl⟩, hf⟩ := h
  obtain ⟨i, rfl⟩ : ∃ i, f = (serializeHeader (frameHeader 1 seq ts p) ++ p.bytes).modify
      (· ^^^ 0xFF) i := by
    rcases hf with rfl | ⟨-, i, -, rfl⟩
    · exact ⟨_, (List.modify_eq_self (le_refl _)).symm⟩
    · exact ⟨i, rfl⟩
  rw [parseResult, parseFrame_fst]
  apply firstFailedCheck_of_lt_frameLength
  have hp := size_le_payloadLen_modify 1 seq ts p i
  simp only [List.length_modify, List.length_append, length_serializeHeader, Payload.length_bytes,
    frameLength, if_true]
  unfold frameHeaderSize frameCrcSize
  omega

/-- With CRC checking off, a frame of the generator is accepted under source `1`. -/
theorem parseResult_false_of_genFrame {b : List UInt8} (h : GenFrame b) :
    parseResult false b = .ok ∧ (deserializeHeader b).srcId = 1 := by
  obtain ⟨seq, ts, p, rfl⟩ := h
  exact ⟨by rw [parseResult, parseFrame_frameOf], by rw [deserializeHeader_serializeHeader]; rfl⟩

/-! ### A run of rejected or accepted datagrams -/

theorem acceptedKeys_of_reject {c : Bool} {frames : List (List UInt8)}
    (h : ∀ f ∈ frames, parseResult c f ≠ .ok) : acceptedKeys c frames = [] :=
  List.filterMap_eq_nil_iff.mpr fun f hf => if_neg (h f hf)

theorem acceptedKeys_of_accept {c : Bool} {frames : List (List UInt8)}
    (h : ∀ f ∈ frames, parseResult c f = .ok) :
    acceptedKeys c frames =
      frames.map fun f => ((deserializeHeader f).srcId, (deserializeHeader f).seq) :=
  List.filterMap_eq_map_iff_forall_eq_some.mpr fun f hf => if_pos (h f hf)

/-- Datagrams that are all accepted count as received, and none as malformed or failing its
CRC. -/
theorem countP_of_accept {c : Bool} {frames : List (List UInt8)}
    (h : ∀ f ∈ frames, parseResult c f = .ok) :
    frames.countP (parseResult c · = .ok) = frames.length ∧
      frames.countP (parseResult c · ≠ .ok) = 0 ∧
      frames.countP (parseResult c · = .crcMismatch) = 0 :=
  ⟨List.countP_eq_length.mpr fun f hf => by simpa using h f hf,
    List.countP_eq_zero.mpr fun f hf => by simpa using h f hf,
    List.countP_eq_zero.mpr fun f hf => by simp [h f hf]⟩

/-- Frames of the generator are accepted, under source `1` and with the numbers they carry. -/
theorem acceptedKeys_of_genFrames {rx : List (List UInt8 × UInt64)} (h : ∀ x ∈ rx, GenFrame x.1) :
    acceptedKeys false (rx.map (·.1)) = (rx.map fun x => (deserializeHeader x.1).seq).map (1, ·) := by
  rw [acceptedKeys_of_accept (List.forall_mem_map.mpr fun x hx =>
    (parseResult_false_of_genFrame (h x hx)).1), List.map_map, List.map_map]
  exact List.map_congr_left fun x hx => by simp [(parseResult_false_of_genFrame (h x hx)).2]

/-- Datagrams rejected other than for their CRC publish one `FRAME_MALFORMED` each. -/
theorem runEventIds_of_reject {c : Bool} (t : SequenceTracker) {frames : List (List UInt8)}
    (h : ∀ f ∈ frames, parseResult c f ≠ .ok ∧ parseResult c f ≠ .crcMismatch) :
    runEventIds c t frames = List.replicate frames.length .evtFrameMalformed := by
  induction frames with
  | nil => rfl
  | cons f frames ih =>
    obtain ⟨hok, hcrc⟩ := h f (List.mem_cons_self f frames)
    have hf : frameEventIds c t f = [.evtFrameMalformed] := by
      unfold frameEventIds
      cases hp : parseResult c f <;> first | rfl | exact absurd hp hok | exact absurd hp hcrc
    rw [runEventIds, hf, acceptedKeys_of_reject (by simpa using hok), SequenceTracker.trackPairs,
      ih fun f' hf' => h f' (List.mem_cons_of_mem f hf'), List.length_cons, List.replicate_succ,
      List.singleton_append]

/-! ### The simulator at the gateway -/

section Simulator

variable {σ D : Type} [LT D] [DecidableRel (@LT.lt D _)] [OfNat D 0] (R : Rng σ D)

/-- **A CRC-checking gateway rejects the simulator**: from any state, a gateway with CRC checking
on (the default of `GatewayConfig`) rejects every datagram it receives from any run of the
simulator, whatever its faults and however the datagrams are lost, copied or reordered on the
way, and never as a CRC failure.  Its tracker is unchanged, the malformed counter is the only
global counter that moves, by the number of datagrams, and it publishes one `FRAME_MALFORMED`
event for each. -/
theorem processFrames_simulator_crc (config : FaultConfig D) (rng : σ) (ticks : List TickInput)
    (g : Gateway) (hcrc : g.config.crcEnabled = true) (clock : Nat → UInt64)
    (rx : List (List UInt8 × UInt64))
    (hrx : ∀ x ∈ rx, x.1 ∈ ((SensorSim.init config rng).run R 0 ticks).sent) :
    (g.processFrames clock rx).tracker = g.tracker ∧
      (g.processFrames clock rx).stats.getGlobalStats =
        { g.stats.getGlobalStats with
          malformedTotal := g.stats.getGlobalStats.malformedTotal + UInt64.ofNat rx.length } ∧
      (g.processFrames clock rx).eventIds =
        g.eventIds ++ List.replicate rx.length .evtFrameMalformed := by
  have hrej : ∀ f ∈ rx.map (·.1), parseResult true f ≠ .ok ∧ parseResult true f ≠ .crcMismatch := by
    intro f hf
    obtain ⟨x, hx, rfl⟩ := List.mem_map.mp hf
    exact parseResult_true_of_simDatagram
      ((SensorSim.Inv.run R ticks _ 0 (SensorSim.Inv.init config rng)).sent _ (hrx x hx))
  have hkeys := acceptedKeys_of_reject fun f hf => (hrej f hf).1
  obtain ⟨-, ht, hglobal, -⟩ := Gateway.processFrames_tally clock rx g
  have hids := (Gateway.processFrames_eventIds clock rx g).1
  rw [hcrc] at ht hglobal hids
  refine ⟨by rw [ht, hkeys]; rfl, ?_, by rw [hids, runEventIds_of_reject _ hrej, List.length_map]⟩
  have hok : (rx.map (·.1)).countP (parseResult true · = .ok) = 0 :=
    List.countP_eq_zero.mpr fun f hf => by simpa using (hrej f hf).1
  have hbad : (rx.map (·.1)).countP (parseResult true · ≠ .ok) = rx.length := by
    rw [List.countP_eq_length.mpr fun f hf => by simpa using (hrej f hf).1, List.length_map]
  have hcrcs : (rx.map (·.1)).countP (parseResult true · = .crcMismatch) = 0 :=
    List.countP_eq_zero.mpr fun f hf => by simpa using (hrej f hf).2
  rw [StatsManager.getGlobalStats, hglobal, GlobalStats.tally]
  simp only [hkeys, SequenceTracker.trackPairs, hok, hbad, hcrcs, gapSum, resultCount,
    List.filter_nil, List.countP_nil, List.map_nil, List.sum_nil, GlobalStats.addCounts,
    uint64_add_ofNat_zero]
  rfl

/-- The corruption stage flips a byte of every frame when every draw is `0`. -/
theorem processFrames_simulator_crc_corrupted :
    ({ config := {} } : Gateway).config.crcEnabled = true ∧
      (({ config := {} } : Gateway).processFrames (fun _ => 0)
        (((SensorSim.init (⟨0, 0, 0, 1⟩ : FaultConfig Nat) ()).run zeroDraws 0
          [⟨5, [], 10, 20⟩]).sent.map (·, 0))).tracker = .empty :=
  ⟨rfl, (processFrames_simulator_crc zeroDraws _ () _ _ rfl _ _ fun _ hx => by
    obtain ⟨f, hf, rfl⟩ := List.mem_map.mp hx
    exact hf).1⟩

/-- **A gateway without CRC checking accepts the uncorrupted simulator**: from any state, a
gateway with CRC checking off accepts every datagram it receives from a run of the simulator
whose corruption stage is off, whatever its other faults and however the datagrams are lost,
copied or reordered on the way.  It tracks them all under source `1`, with the numbers they
carry; the received counter moves by their number, and the malformed and CRC counters do not
move. -/
theorem processFrames_simulator_noCrc (config : FaultConfig D)
    (hcorrupt : ¬(0 : D) < config.corruptPct) (rng : σ) (ticks : List TickInput) (g : Gateway)
    (hcrc : g.config.crcEnabled = false) (clock : Nat → UInt64) (rx : List (List UInt8 × UInt64))
    (hrx : ∀ x ∈ rx, x.1 ∈ ((SensorSim.init config rng).run R 0 ticks).sent) :
    (g.processFrames clock rx).tracker =
        (g.tracker.trackAll 1 (rx.map fun x => (deserializeHeader x.1).seq)).2 ∧
      (g.processFrames clock rx).stats.getGlobalStats.rxTotal =
        g.stats.getGlobalStats.rxTotal + UInt64.ofNat rx.length ∧
      (g.processFrames clock rx).stats.getGlobalStats.malformedTotal =
        g.stats.getGlobalStats.malformedTotal ∧
      (g.processFrames clock rx).stats.getGlobalStats.crcFailTotal =
        g.stats.getGlobalStats.crcFailTotal := by
  have hgen : ∀ x ∈ rx, GenFrame x.1 := fun x hx => by
    obtain ⟨b, hb, hxb⟩ :=
      (SensorSim.Inv.run R ticks _ 0 (SensorSim.Inv.init config rng)).sent _ (hrx x hx)
    exact hxb.elim (· ▸ hb) fun h => absurd h.1 hcorrupt
  have hall : ∀ f ∈ rx.map (·.1), parseResult false f = .ok :=
    List.forall_mem_map.mpr fun x hx => (parseResult_false_of_genFrame (hgen x hx)).1
  obtain ⟨hok, hbad, hcrcs⟩ := countP_of_accept hall
  obtain ⟨-, ht, hglobal, -⟩ := Gateway.processFrames_tally clock rx g
  rw [hcrc] at ht hglobal
  rw [StatsManager.getGlobalStats, hglobal, GlobalStats.tally]
  refine ⟨by rw [ht, acceptedKeys_of_genFrames hgen, SequenceTracker.trackPairs_map], ?_, ?_, ?_⟩ <;>
    simp only [GlobalStats.addCounts, hok, hbad, hcrcs, List.length_map, uint64_add_ofNat_zero] <;>
    rfl

/-- Every frame is copied and pairs are swapped when every draw is `0`. -/
theorem processFrames_simulator_noCrc_reordered :
    ¬(0 : Nat) < 0 ∧
      ({ config := { crcEnabled := false } } : Gateway).config.crcEnabled = false ∧
      (({ config := { crcEnabled := false } } : Gateway).processFrames (fun _ => 0)
        (((SensorSim.init (⟨0, 1, 1, 0⟩ : FaultConfig Nat) ()).run zeroDraws 0
          [⟨5, [], 10, 20⟩]).sent.map (·, 0))).stats.getGlobalStats.malformedTotal = 0 :=
  ⟨by decide, rfl, (processFrames_simulator_noCrc zeroDraws ⟨0, 1, 1, 0⟩ (by decide) () _ _ rfl _ _
    fun _ hx => by
      obtain ⟨f, hf, rfl⟩ := List.mem_map.mp hx
      exact hf).2.2.1⟩

/-- **A lossy simulator's gaps at the gateway**: a run of the simulator with only its loss stage
on, whose generator emits fewer than `2^32` frames (so no sequence number wraps), sends the
generator's frames in the order it emitted them, less those it drops.  A fresh gateway with CRC
checking off that receives any of them, in that order, as a network without reordering delivers
them, counts each as received, and counts as gaps exactly the frames it did not receive between
the first and the last one it did: no reorder, duplicate, malformed frame or CRC failure. -/
theorem processFrames_simulator_lossy (config : FaultConfig D)
    (hreorder : ¬(0 : D) < config.reorderPct) (hduplicate : ¬(0 : D) < config.duplicatePct)
    (hcorrupt : ¬(0 : D) < config.corruptPct) (rng : σ) (ticks : List TickInput)
    (hcount : (({ srcId := 1 } : MeasurementGenerator).run (SensorSim.runCalls 0 ticks)).1.length <
      4294967296)
    (rec : Bool) (r : FrameRecorder) (clock : Nat → UInt64) (rx : List (List UInt8 × UInt64))
    (hrx : (rx.map (·.1)).Sublist ((SensorSim.init config rng).run R 0 ticks).sent)
    (hne : rx ≠ []) :
    (({ config := { crcEnabled := false, recordEnabled := rec }, recorder := r } : Gateway).processFrames
      clock rx).stats.getGlobalStats =
      { rxTotal := UInt64.ofNat rx.length
        gapTotal := UInt64.ofNat ((deserializeHeader (rx.getLast hne).1).seq.toNat + 1 -
          (deserializeHeader (rx.head hne).1).seq.toNat - rx.length) } := by
  have hgen : (rx.map (·.1)).Sublist
      (({ srcId := 1 } : MeasurementGenerator).run (SensorSim.runCalls 0 ticks)).1 := by
    simpa only [List.nil_append] using
      hrx.trans (SensorSim.run_sublist R hreorder hduplicate hcorrupt ticks _ 0 rfl)
  have hframes : ∀ x ∈ rx, GenFrame x.1 := fun x hx =>
    MeasurementGenerator.mem_run { srcId := 1 } _ (hgen.subset (List.mem_map_of_mem (·.1) hx))
  -- the numbers received are increasing and below `2^32 - 1`
  obtain ⟨ps, hps⟩ : ∃ ps, (({ srcId := 1 } : MeasurementGenerator).run
      (SensorSim.runCalls 0 ticks)).1 = framesOf 1 0 ps :=
    ⟨_, congrArg Prod.fst (MeasurementGenerator.run_eq _ _)⟩
  rw [hps, length_framesOf] at hcount
  obtain ⟨hwrap, hpair⟩ := seqs_sublist_framesOf hcount (hps ▸ hgen)
  simp only [List.map_map, Function.comp_def] at hwrap hpair
  -- the gateway accepts them all and tracks them under source `1`
  obtain ⟨hok, hbad, hcrcs⟩ := countP_of_accept
    (List.forall_mem_map.mpr fun x hx => (parseResult_false_of_genFrame (hframes x hx)).1)
  obtain ⟨x, xs, rfl⟩ := List.exists_cons_of_ne_nil hne
  obtain ⟨hreo, hdup, hgap⟩ := trackAll_increasing_fresh 1 _ _ hwrap hpair
  have hlast := List.getLast_map (fun x : List UInt8 × UInt64 => (deserializeHeader x.1).seq)
    (x :: xs) (List.cons_ne_nil _ _)
  simp only [List.map_cons] at hlast
  obtain ⟨-, -, hglobal, -⟩ := Gateway.processFrames_tally clock (x :: xs)
    { config := { crcEnabled := false, recordEnabled := rec }, recorder := r }
  rw [StatsManager.getGlobalStats, hglobal, ← expectedGlobal_eq_tally]
  simp only [expectedGlobal, acceptedKeys_of_genFrames hframes, SequenceTracker.trackPairs_map,
    hok, hbad, hcrcs]
  simp only [List.map_cons, hreo, hdup, hlast, List.head_cons, List.length_map, List.length_cons]
    at hgap ⊢
  congr 2
  omega

/-- Draws whose `pct` is `0` at the second call and `100` at the others. -/
def secondDrawLow : Rng Nat Nat :=
  ⟨fun s => (if s = 1 then 0 else 100, s + 1), fun _ s => (0, s), fun _ _ => Nat.zero_le _⟩

/-- A tick with one object sends a track, a plot and a heartbeat; at `loss_pct = 50` the plot,
number `1`, is lost, and the gateway counts one gap. -/
theorem processFrames_simulator_lossy_plotLost :
    ¬(0 : Nat) < 0 ∧
      (({ config := { crcEnabled := false, recordEnabled := false }, recorder := {} } :
        Gateway).processFrames (fun _ => 0)
        (((SensorSim.init (⟨50, 0, 0, 0⟩ : FaultConfig Nat) 0).run secondDrawLow 0
          [⟨5, [(⟨7, .missile, true⟩, ⟨1, 2, 3, 4, 5⟩, some ⟨1, 2, 3, 4, 5, 6⟩)], 10, 20⟩]).sent.map
            (·, 0))).stats.getGlobalStats = { rxTotal := 2, gapTotal := 1 } :=
  ⟨by decide, by
    rw [processFrames_simulator_lossy secondDrawLow ⟨50, 0, 0, 0⟩ (by decide) (by decide) (by decide)
      0 [⟨5, [(⟨7, .missile, true⟩, ⟨1, 2, 3, 4, 5⟩, some ⟨1, 2, 3, 4, 5, 6⟩)], 10, 20⟩] (by decide)
      false {} (fun _ => 0) _ (by simp [Function.comp_def]) (by decide)]
    decide⟩

end Simulator

end NetNodeGateway
