import NetNodeGateway.SensorSim.SensorSimMain
import NetNodeGateway.SensorSim.Correctness.MeasurementGenerator
import NetNodeGateway.SensorSim.Correctness.FaultInjector
import NetNodeGateway.Common.Correctness.MainArgs

/-!
# Correctness of the simulation loop

* `run_sent`: after any run from `init`, `frames_sent` is the number of datagrams the sink has
  sent, and each of them is a frame the generator of source `1` builds or, only when the
  corruption stage runs, such a frame with one byte flipped.
* `run_sent_of_disabled`: with every fault stage off, the datagrams sent are exactly the frames
  of the generator's run over all the ticks' calls, in order.
* `run_sublist`: with only the loss stage on, they are some of those frames, in order.
* `SensorSimMain.parseArgs_faultConfig`: a command line that nowhere holds `--reorder`,
  `--duplicate` or `--corrupt` leaves only the loss stage able to run.

One tick is taken once (`tickStep_spec`): the generator runs the tick's calls, the injector
applies its faults to their frames, and the sink sends the nonempty frames left.  The invariant
`Inv` is kept by each tick (`Inv.tickStep`) and so by every run (`Inv.run`).
-/

namespace NetNodeGateway

/-- A frame the generator of source `1` can build: the header `build_frame` writes for some
number, timestamp and struct, followed by the struct. -/
def GenFrame (b : List UInt8) : Prop :=
  ∃ seq ts p, b = serializeHeader (frameHeader 1 seq ts p) ++ p.bytes

/-- A datagram of the simulator: a frame of the generator or, when `corrupting`, such a frame
with one byte flipped by `^= 0xFF`. -/
def SimDatagram (corrupting : Prop) (f : List UInt8) : Prop :=
  ∃ b, GenFrame b ∧ (f = b ∨ (corrupting ∧ ∃ i < b.length, f = b.modify (· ^^^ 0xFF) i))

theorem GenFrame.isEmpty_eq_false {b : List UInt8} (h : GenFrame b) : b.isEmpty = false := by
  obtain ⟨seq, ts, p, rfl⟩ := h
  rw [Bool.eq_false_iff, ne_eq, List.isEmpty_iff]
  intro h
  simpa [frameHeaderSize] using congrArg List.length h

theorem uint64_add_one_add_ofNat (n : UInt64) (k : Nat) :
    n + 1 + UInt64.ofNat k = n + UInt64.ofNat (k + 1) :=
  UInt64.eq_of_toBitVec_eq (by
    show n.toBitVec + 1#64 + BitVec.ofNat 64 k = n.toBitVec + BitVec.ofNat 64 (k + 1)
    rw [BitVec.ofNat_add, BitVec.add_assoc, BitVec.add_comm 1#64])

theorem uint64_add_ofNat_zero (n : UInt64) : n + UInt64.ofNat 0 = n :=
  UInt64.eq_of_toBitVec_eq (BitVec.add_zero n.toBitVec)

namespace SensorSim

variable {σ D : Type}

/-- The sink's loop sends the nonempty frames, in order, and counts them. -/
theorem foldl_send (frames : List (List UInt8)) : ∀ s : SensorSim σ D,
    frames.foldl send s =
      { s with sent := s.sent ++ frames.filter (!·.isEmpty),
               framesSent := s.framesSent + UInt64.ofNat (frames.filter (!·.isEmpty)).length } := by
  induction frames with
  | nil => intro s; simp only [List.foldl, List.filter_nil, List.append_nil, List.length_nil,
      uint64_add_ofNat_zero]
  | cons f frames ih =>
    intro s
    rw [List.foldl, ih, send]
    cases hf : f.isEmpty <;>
      simp only [List.filter_cons, hf, Bool.not_true, Bool.not_false, Bool.false_eq_true, if_true,
        if_false, List.length_cons, List.append_assoc, List.singleton_append,
        uint64_add_one_add_ofNat]

variable [LT D] [OfNat D 0]

/-- What every run from `init` keeps: the generator is source `1`'s, the injector keeps its
configuration, `frames_sent` counts the datagrams sent, and each of them is a datagram of the
simulator. -/
structure Inv (config : FaultConfig D) (s : SensorSim σ D) : Prop where
  srcId : s.measurer.srcId = 1
  injectorConfig : s.injector.config = config
  framesSent : s.framesSent = UInt64.ofNat s.sent.length
  sent : ∀ f ∈ s.sent, SimDatagram ((0 : D) < config.corruptPct) f

theorem Inv.init (config : FaultConfig D) (rng : σ) : Inv config (init config rng) :=
  ⟨rfl, rfl, rfl, by simp [SensorSim.init]⟩

variable [DecidableRel (@LT.lt D _)] (R : Rng σ D)

/-- **One tick**: the generator runs the tick's calls, the injector applies its faults to their
frames, and the nonempty frames left are sent and counted. -/
theorem tickStep_spec (s : SensorSim σ D) (tick : Nat) (w : TickInput) :
    (s.tickStep R tick w).measurer = (s.measurer.run (tickCalls tick w)).2 ∧
      (s.tickStep R tick w).injector = (s.injector.apply R (s.measurer.run (tickCalls tick w)).1).1 ∧
      (s.tickStep R tick w).sent = s.sent ++
        (s.injector.apply R (s.measurer.run (tickCalls tick w)).1).2.filter (!·.isEmpty) ∧
      (s.tickStep R tick w).framesSent = s.framesSent + UInt64.ofNat
        ((s.injector.apply R (s.measurer.run (tickCalls tick w)).1).2.filter (!·.isEmpty)).length := by
  simp only [tickStep, foldl_send, and_self]

/-- **The step lemma**: a tick keeps the invariant. -/
theorem Inv.tickStep {config : FaultConfig D} {s : SensorSim σ D} (h : Inv config s) (tick : Nat)
    (w : TickInput) : Inv config (s.tickStep R tick w) := by
  obtain ⟨hm, hi, hs, hn⟩ := tickStep_spec R s tick w
  refine ⟨by rw [hm, MeasurementGenerator.srcId_run, h.srcId], by rw [hi, FaultInjector.config_apply,
    h.injectorConfig], by rw [hn, hs, h.framesSent, List.length_append, uint64_ofNat_add], fun f hf => ?_⟩
  rcases List.mem_append.mp (hs ▸ hf) with hf | hf
  · exact h.sent f hf
  obtain ⟨b, hb, hfb⟩ := FaultInjector.mem_apply R _ _ (List.mem_filter.mp hf).1
  obtain ⟨seq, ts, p, hbp⟩ := MeasurementGenerator.mem_run _ _ hb
  rw [h.srcId] at hbp
  exact ⟨b, ⟨seq, ts, p, hbp⟩, by rwa [h.injectorConfig] at hfb⟩

/-- **The run lemma**: every run keeps the invariant. -/
theorem Inv.run {config : FaultConfig D} :
    ∀ (ticks : List TickInput) (s : SensorSim σ D) (tick : Nat), Inv config s →
      Inv config (s.run R tick ticks)
  | [], _, _, h => h
  | w :: ticks, _, tick, h => Inv.run ticks _ (tick + 1) (h.tickStep R tick w)

/-- **What the simulator sends**: after any run from `init`, whatever the faults, the draws and
the world, `frames_sent` is the number of datagrams sent, and each of them is a frame the
generator of source `1` builds or, only when the corruption stage runs, one with a byte
flipped. -/
theorem run_sent (config : FaultConfig D) (rng : σ) (ticks : List TickInput) :
    ((init config rng).run R 0 ticks).framesSent =
        UInt64.ofNat ((init config rng).run R 0 ticks).sent.length ∧
      ∀ f ∈ ((init config rng).run R 0 ticks).sent, SimDatagram ((0 : D) < config.corruptPct) f :=
  have h := Inv.run R ticks _ 0 (Inv.init config rng)
  ⟨h.framesSent, h.sent⟩

/-- The generator calls of the ticks `ticks`, the first being tick `tick`, in order. -/
def runCalls : Nat → List TickInput → List GenCall
  | _, [] => []
  | tick, w :: ws => tickCalls tick w ++ runCalls (tick + 1) ws

/-- With every stage off, a run sends the frames of the generator's run over its calls. -/
theorem run_of_disabled : ∀ (ticks : List TickInput) (s : SensorSim σ D) (tick : Nat),
    s.injector.config.Disabled → s.measurer.srcId = 1 →
      (s.run R tick ticks).sent = s.sent ++ (s.measurer.run (runCalls tick ticks)).1
  | [], s, _, _, _ => by simp [SensorSim.run, runCalls, MeasurementGenerator.run]
  | w :: ticks, s, tick, hc, h1 => by
    obtain ⟨hm, hi, hs, -⟩ := tickStep_spec R s tick w
    have hne : ∀ f ∈ (s.measurer.run (tickCalls tick w)).1, (!f.isEmpty) = true := fun f hf => by
      obtain ⟨seq, ts, p, hfp⟩ := MeasurementGenerator.mem_run _ _ hf
      rw [GenFrame.isEmpty_eq_false ⟨seq, ts, p, h1 ▸ hfp⟩, Bool.not_false]
    have hc' : (s.tickStep R tick w).injector.config.Disabled := by
      rwa [hi, FaultInjector.config_apply]
    have h1' : (s.tickStep R tick w).measurer.srcId = 1 := by
      rw [hm, MeasurementGenerator.srcId_run, h1]
    rw [SensorSim.run, run_of_disabled ticks _ (tick + 1) hc' h1', hs,
      FaultInjector.apply_of_disabled R _ hc, List.filter_eq_self.mpr hne, hm, runCalls,
      MeasurementGenerator.run_append, List.append_assoc]

/-- **A fault-free simulator sends the generator's frames**: with every fault stage off, a run
from `init` sends exactly the frames of a generator of source `1` run over the ticks' calls, in
order, and counts them. -/
theorem run_sent_of_disabled (config : FaultConfig D) (hc : config.Disabled) (rng : σ)
    (ticks : List TickInput) :
    ((init config rng).run R 0 ticks).sent =
        (({ srcId := 1 } : MeasurementGenerator).run (runCalls 0 ticks)).1 ∧
      ((init config rng).run R 0 ticks).framesSent =
        UInt64.ofNat (({ srcId := 1 } : MeasurementGenerator).run (runCalls 0 ticks)).1.length := by
  have hs : ((init config rng).run R 0 ticks).sent =
      [] ++ (({ srcId := 1 } : MeasurementGenerator).run (runCalls 0 ticks)).1 :=
    run_of_disabled R ticks (init config rng) 0 hc rfl
  rw [List.nil_append] at hs
  exact ⟨hs, by rw [(Inv.run R ticks _ 0 (Inv.init config rng)).framesSent, hs]⟩

theorem run_sent_of_disabled_heartbeat :
    (⟨0, 0, 0, 0⟩ : FaultConfig Nat).Disabled ∧
      ((init (⟨0, 0, 0, 0⟩ : FaultConfig Nat) ()).run zeroDraws 0 [⟨5, [], 10, 20⟩]).sent =
        (({ srcId := 1 } : MeasurementGenerator).run (runCalls 0 [⟨5, [], 10, 20⟩])).1 :=
  have hc : (⟨0, 0, 0, 0⟩ : FaultConfig Nat).Disabled := ⟨by decide, by decide, by decide, by decide⟩
  ⟨hc, (run_sent_of_disabled zeroDraws _ hc () _).1⟩

/-- With only the loss stage on, a run sends a sublist of the frames of the generator's run over
its calls. -/
theorem run_sublist {config : FaultConfig D} (hreorder : ¬(0 : D) < config.reorderPct)
    (hduplicate : ¬(0 : D) < config.duplicatePct) (hcorrupt : ¬(0 : D) < config.corruptPct) :
    ∀ (ticks : List TickInput) (s : SensorSim σ D) (tick : Nat), s.injector.config = config →
      (s.run R tick ticks).sent.Sublist (s.sent ++ (s.measurer.run (runCalls tick ticks)).1)
  | [], s, _, _ => by simp [SensorSim.run, runCalls, MeasurementGenerator.run]
  | w :: ticks, s, tick, hc => by
    obtain ⟨hm, hi, hs, -⟩ := tickStep_spec R s tick w
    have hc' : (s.tickStep R tick w).injector.config = config := by
      rw [hi, FaultInjector.config_apply, hc]
    have hout := FaultInjector.apply_sublist R s.injector (by rwa [hc]) (by rwa [hc]) (by rwa [hc])
      (s.measurer.run (tickCalls tick w)).1
    refine (run_sublist hreorder hduplicate hcorrupt ticks _ (tick + 1) hc').trans ?_
    rw [hs, hm, runCalls, MeasurementGenerator.run_append, List.append_assoc]
    exact (((List.filter_sublist _).trans hout).append_right _).append_left s.sent

end SensorSim

/-! ### The command line -/

namespace SensorSimMain

variable {D : Type} (stod : List Char → Option D)

/-- The fault options other than `--loss`. -/
def otherFaultOptions : List (List Char) :=
  ["--reorder".toList, "--duplicate".toList, "--corrupt".toList]

/-- A pass of the loop on an argument other than `--reorder`, `--duplicate` and `--corrupt`
leaves those three percentages as they were. -/
theorem argStep_keeps (o : SensorSimOptions D) {arg : List Char} (harg : arg ∉ otherFaultOptions)
    (next : Option (List Char)) :
    (argStep stod o arg next).Keeps fun c => c.reorderPct = o.reorderPct ∧
      c.duplicatePct = o.duplicatePct ∧ c.corruptPct = o.corruptPct := by
  simp only [otherFaultOptions, List.mem_cons, List.mem_singleton, List.not_mem_nil, or_false,
    not_or] at harg
  unfold argStep
  rw [ifValue_of_ne harg.1, ifValue_of_ne harg.2.1, ifValue_of_ne harg.2.2]
  repeat' first | apply ifValue_induct | apply ifFlag_induct
  all_goals simp [doubleValue]

/-- **The simulator's faults from its command line**: when `main`'s loop ends on a command line
that nowhere holds `--reorder`, `--duplicate` or `--corrupt`, those percentages of the
`FaultConfig` it builds keep their initial `0.0`, so that, `0.0 > 0.0` being false, only the loss
stage of the injector can run. -/
theorem parseArgs_faultConfig [LT D] [OfNat D 0] [OfNat D 10] [OfNat D 50]
    (h0 : ¬(0 : D) < 0) (args : List (List Char)) (hargs : ∀ a ∈ args, a ∉ otherFaultOptions)
    (o : SensorSimOptions D) (h : parseArgs stod args = .done o) :
    ¬(0 : D) < o.faultConfig.reorderPct ∧ ¬(0 : D) < o.faultConfig.duplicatePct ∧
      ¬(0 : D) < o.faultConfig.corruptPct := by
  obtain ⟨h1, h2, h3⟩ : o.reorderPct = 0 ∧ o.duplicatePct = 0 ∧ o.corruptPct = 0 :=
    argLoop_inv (fun c => c.reorderPct = 0 ∧ c.duplicatePct = 0 ∧ c.corruptPct = 0) _ args
      (fun c arg harg next hc c' hc' => by
        obtain ⟨h1, h2, h3⟩ := argStep_keeps stod c (hargs arg harg) next c' hc'
        exact ⟨h1.trans hc.1, h2.trans hc.2.1, h3.trans hc.2.2⟩)
      o ⟨rfl, rfl, rfl⟩ h
  simp only [SensorSimOptions.faultConfig, h1, h2, h3]
  exact ⟨h0, h0, h0⟩

theorem parseArgs_faultConfig_loss :
    ¬(0 : Nat) < 0 ∧ (∀ a ∈ ["--loss".toList, "5".toList], a ∉ otherFaultOptions) ∧
      parseArgs (fun _ => some (5 : Nat)) ["--loss".toList, "5".toList] =
        .done { SensorSimOptions.init with lossPct := 5 } ∧
      ¬(0 : Nat) <
        ({ SensorSimOptions.init with lossPct := 5 } : SensorSimOptions Nat).faultConfig.reorderPct :=
  have hp : parseArgs (fun _ => some (5 : Nat)) ["--loss".toList, "5".toList] =
      .done { SensorSimOptions.init with lossPct := 5 } := by decide
  ⟨by decide, by decide, hp,
    (parseArgs_faultConfig _ (by decide) _ (by decide) _ hp).1⟩

end SensorSimMain

end NetNodeGateway
