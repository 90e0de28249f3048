import NetNodeGateway.Gateway.Gateway
import NetNodeGateway.Gateway.Correctness.TelemetryParser
import NetNodeGateway.Gateway.Correctness.SequenceTracker
import NetNodeGateway.Gateway.Correctness.StatsManager
import NetNodeGateway.Replay.Correctness.ReplayEngine

/-!
# The gateway's accounting

The global counters of a gateway are determined by the datagrams' bytes alone.  `tally` is
what the bytes prescribe: the numbers of accepted, rejected and CRC-failing datagrams, and the
gap sizes, reorders and duplicates of the tracker run over the accepted datagrams'
`(src_id, seq)`.  The headline results:

* `handleFrame_of_reject`, `handleFrame_of_accept`: one datagram, rejected or accepted;
* `global_processFrame`: one datagram adds its `tally` to the global counters;
* `processFrames_tally`: the run lemma, from any gateway;
* `processFrames_accounting`: from a fresh gateway, the counters are `expectedGlobal`,
  whatever the timestamps, the clock and the recording.
-/

namespace NetNodeGateway

/-! ### What the bytes prescribe -/

/-- What `parse_frame` says of a datagram under CRC policy `c`. -/
def parseResult (c : Bool) (frame : List UInt8) : ParseError :=
  (parseFrame frame c ParsedFrame.init).1

/-- The `(src_id, seq)` of the datagrams `parse_frame` accepts, in order. -/
def acceptedKeys (c : Bool) (frames : List (List UInt8)) : List (UInt16 × UInt32) :=
  frames.filterMap fun f =>
    if parseResult c f = .ok then some ((deserializeHeader f).srcId, (deserializeHeader f).seq)
    else none

/-- `SequenceTracker::track` on each `(src_id, seq)` in turn: the events, and the tracker
after them. -/
def SequenceTracker.trackPairs (t : SequenceTracker) :
    List (UInt16 × UInt32) → List SeqEvent × SequenceTracker
  | [] => ([], t)
  | p :: ps =>
    let r := t.track p.1 p.2
    let r' := r.2.trackPairs ps
    (r.1 :: r'.1, r'.2)

/-- The global counters moved on by counts. -/
def GlobalStats.addCounts (G : GlobalStats) (rx malformed gaps reorders duplicates crcFails : Nat) :
    GlobalStats :=
  { rxTotal := G.rxTotal + UInt64.ofNat rx
    malformedTotal := G.malformedTotal + UInt64.ofNat malformed
    gapTotal := G.gapTotal + UInt64.ofNat gaps
    reorderTotal := G.reorderTotal + UInt64.ofNat reorders
    duplicateTotal := G.duplicateTotal + UInt64.ofNat duplicates
    crcFailTotal := G.crcFailTotal + UInt64.ofNat crcFails }

/-- The global counters `G` moved on by the datagrams `frames`, for a gateway whose tracker is
`t`: one per accepted, rejected and CRC-failing datagram, and the gap sizes, reorders and
duplicates of the tracker run over the accepted ones. -/
def GlobalStats.tally (G : GlobalStats) (c : Bool) (t : SequenceTracker)
    (frames : List (List UInt8)) : GlobalStats :=
  let evs := (t.trackPairs (acceptedKeys c frames)).1
  G.addCounts (frames.countP (parseResult c · = .ok)) (frames.countP (parseResult c · ≠ .ok))
    (gapSum evs) (resultCount .reorder evs) (resultCount .duplicate evs)
    (frames.countP (parseResult c · = .crcMismatch))

/-- **The accounting spec**: the global counters after the datagrams `frames`, as the bytes
prescribe them. -/
def expectedGlobal (c : Bool) (frames : List (List UInt8)) : GlobalStats :=
  let evs := (SequenceTracker.empty.trackPairs (acceptedKeys c frames)).1
  { rxTotal := UInt64.ofNat (frames.countP (parseResult c · = .ok))
    malformedTotal := UInt64.ofNat (frames.countP (parseResult c · ≠ .ok))
    gapTotal := UInt64.ofNat (gapSum evs)
    reorderTotal := UInt64.ofNat (resultCount .reorder evs)
    duplicateTotal := UInt64.ofNat (resultCount .duplicate evs)
    crcFailTotal := UInt64.ofNat (frames.countP (parseResult c · = .crcMismatch)) }

theorem GlobalStats.addCounts_addCounts (G : GlobalStats) (a b c d e f a' b' c' d' e' f' : Nat) :
    (G.addCounts a b c d e f).addCounts a' b' c' d' e' f' =
      G.addCounts (a + a') (b + b') (c + c') (d + d') (e + e') (f + f') := by
  simp only [addCounts, uint64_ofNat_add, add_assoc]

theorem expectedGlobal_eq_tally (c : Bool) (frames : List (List UInt8)) :
    expectedGlobal c frames = ({} : GlobalStats).tally c .empty frames := by
  simp only [expectedGlobal, GlobalStats.tally, GlobalStats.addCounts, zero_add]

theorem acceptedKeys_cons (c : Bool) (f : List UInt8) (frames : List (List UInt8)) :
    acceptedKeys c (f :: frames) = acceptedKeys c [f] ++ acceptedKeys c frames :=
  List.filterMap_append [f] frames _

theorem SequenceTracker.trackPairs_append (t : SequenceTracker) (ps qs : List (UInt16 × UInt32)) :
    t.trackPairs (ps ++ qs) =
      ((t.trackPairs ps).1 ++ ((t.trackPairs ps).2.trackPairs qs).1,
        ((t.trackPairs ps).2.trackPairs qs).2) := by
  induction ps generalizing t with
  | nil => rfl
  | cons p ps ih => simp [trackPairs, ih]

theorem gapSum_append (es fs : List SeqEvent) : gapSum (es ++ fs) = gapSum es + gapSum fs := by
  simp [gapSum]

theorem resultCount_append (r : SeqResult) (es fs : List SeqEvent) :
    resultCount r (es ++ fs) = resultCount r es + resultCount r fs :=
  List.countP_append ..

/-- The tally of a datagram list is the tally of its head followed by that of its tail. -/
theorem GlobalStats.tally_cons (G : GlobalStats) (c : Bool) (t : SequenceTracker)
    (f : List UInt8) (frames : List (List UInt8)) :
    G.tally c t (f :: frames) =
      (G.tally c t [f]).tally c (t.trackPairs (acceptedKeys c [f])).2 frames := by
  simp only [tally, addCounts_addCounts, acceptedKeys_cons c f frames,
    SequenceTracker.trackPairs_append, gapSum_append, resultCount_append]
  congr 1 <;> exact List.countP_append _ [f] frames

/-! ### One datagram -/

/-- The change the sequence-result switch makes to the stats. -/
def seqStats (m : StatsManager) (srcId : UInt16) (ev : SeqEvent) : StatsManager :=
  match ev.result with
  | .gap => m.recordGap srcId ev.gapSize
  | .reorder => m.recordReorder srcId
  | .duplicate => m.recordDuplicate srcId
  | .first | .ok => m

/-! ### Source `0`'s malformed counter -/

/-- `get_source_stats(0).malformed` is `malformed_total + crc_fail_total`. -/
def MalformedAtZero (m : StatsManager) : Prop :=
  (m.getSourceStats 0).malformed = m.global.malformedTotal + m.global.crcFailTotal

/-- A mutator that moves source `k`'s `malformed` counter by `δ` keeps `MalformedAtZero` when
it moves the two global counters by `δ` if `k = 0` and not at all otherwise. -/
theorem MalformedAtZero.update {m : StatsManager} (h : MalformedAtZero m) (G : GlobalStats)
    (k : UInt16) {f : SourceStats → SourceStats} {δ : UInt64}
    (hf : ∀ s, (f s).malformed = s.malformed + δ)
    (hG : G.malformedTotal + G.crcFailTotal =
      m.global.malformedTotal + m.global.crcFailTotal + if k = 0 then δ else 0) :
    MalformedAtZero { global := G, sources := m.getOrCreateSource k f } := by
  unfold MalformedAtZero at h ⊢
  rw [StatsManager.malformed_zero_getOrCreateSource m G k hf, h, hG]

theorem MalformedAtZero.seqStats_recordRx {m : StatsManager} (h : MalformedAtZero m)
    (k : UInt16) (seq : UInt32) (ts : UInt64) (ev : SeqEvent) :
    MalformedAtZero (seqStats (m.recordRx k seq ts) k ev) := by
  have hrx : MalformedAtZero (m.recordRx k seq ts) :=
    h.update _ k (δ := 0) (fun _ => (add_zero _).symm) (by simp)
  unfold seqStats
  cases ev.result
  case first | ok => exact hrx
  all_goals exact hrx.update _ k (δ := 0) (fun _ => (add_zero _).symm) (by simp)

theorem MalformedAtZero.recordMalformed {m : StatsManager} (h : MalformedAtZero m) :
    MalformedAtZero (m.recordMalformed 0) :=
  h.update _ 0 (δ := 1) (fun _ => rfl) (by simp only [if_true]; exact add_right_comm ..)

theorem MalformedAtZero.recordCrcFail {m : StatsManager} (h : MalformedAtZero m) :
    MalformedAtZero (m.recordCrcFail 0) :=
  h.update _ 0 (δ := 1) (fun _ => rfl) (by simp only [if_true]; exact (add_assoc ..).symm)

namespace Gateway

section Frame

variable (g : Gateway) (clock : Nat → UInt64)

@[simp] theorem config_recordFrame (f : List UInt8) (ts : UInt64) :
    (g.recordFrame f ts).config = g.config := by
  unfold recordFrame; split <;> rfl

@[simp] theorem tracker_recordFrame (f : List UInt8) (ts : UInt64) :
    (g.recordFrame f ts).tracker = g.tracker := by
  unfold recordFrame; split <;> rfl

@[simp] theorem stats_recordFrame (f : List UInt8) (ts : UInt64) :
    (g.recordFrame f ts).stats = g.stats := by
  unfold recordFrame; split <;> rfl

@[simp] theorem config_publishEvent (id : EventId) (cat : EventCategory) (sev : Severity)
    (detail : String) : (g.publishEvent clock id cat sev detail).config = g.config := rfl

@[simp] theorem tracker_publishEvent (id : EventId) (cat : EventCategory) (sev : Severity)
    (detail : String) : (g.publishEvent clock id cat sev detail).tracker = g.tracker := rfl

@[simp] theorem stats_publishEvent (id : EventId) (cat : EventCategory) (sev : Severity)
    (detail : String) : (g.publishEvent clock id cat sev detail).stats = g.stats := rfl

/-- The sequence-result switch changes the stats by `seqStats` and nothing else the accounting
reads. -/
theorem handleSeqResult_spec (srcId : UInt16) (ev : SeqEvent) :
    (g.handleSeqResult clock srcId ev).config = g.config ∧
      (g.handleSeqResult clock srcId ev).tracker = g.tracker ∧
      (g.handleSeqResult clock srcId ev).stats = seqStats g.stats srcId ev := by
  unfold handleSeqResult seqStats
  cases ev.result <;> exact ⟨rfl, rfl, rfl⟩

/-- **A rejected datagram** leaves the tracker as it was, and counts as malformed for source
`0`, and as a CRC failure too when the CRC did not match. -/
theorem handleFrame_of_reject {f : List UInt8} (h : parseResult g.config.crcEnabled f ≠ .ok)
    (ts : UInt64) :
    (g.handleFrame clock f ts).config = g.config ∧ (g.handleFrame clock f ts).tracker = g.tracker ∧
      (g.handleFrame clock f ts).stats =
        if parseResult g.config.crcEnabled f = .crcMismatch then
          (g.stats.recordMalformed 0).recordCrcFail 0
        else g.stats.recordMalformed 0 := by
  unfold handleFrame
  unfold parseResult at *
  rcases hp : parseFrame f g.config.crcEnabled ParsedFrame.init with ⟨err, parsed⟩
  rw [hp] at h
  simp only [ne_eq, h, not_false_eq_true, if_true]
  split_ifs <;> exact ⟨rfl, rfl, rfl⟩

/-- On an accepted datagram `parse_frame` has read the datagram's own header. -/
theorem header_of_parseResult {c : Bool} {f : List UInt8} (h : parseResult c f = .ok) :
    (parseFrame f c ParsedFrame.init).2.header = deserializeHeader f := by
  have hc := (firstFailedCheck_eq_ok_iff f c).mp (parseFrame_fst f c ParsedFrame.init ▸ h)
  rw [parseFrame_eq_of_checks ParsedFrame.init hc.1 hc.2.1 hc.2.2]

/-- **An accepted datagram** is tracked under its header's `(src_id, seq)`, counted as
received, and accounted by its sequence result. -/
theorem handleFrame_of_accept {f : List UInt8} (h : parseResult g.config.crcEnabled f = .ok)
    (ts : UInt64) :
    (g.handleFrame clock f ts).config = g.config ∧
      (g.handleFrame clock f ts).tracker =
        (g.tracker.track (deserializeHeader f).srcId (deserializeHeader f).seq).2 ∧
      (g.handleFrame clock f ts).stats =
        seqStats (g.stats.recordRx (deserializeHeader f).srcId (deserializeHeader f).seq ts)
          (deserializeHeader f).srcId
          (g.tracker.track (deserializeHeader f).srcId (deserializeHeader f).seq).1 := by
  have hh := header_of_parseResult h
  unfold handleFrame
  unfold parseResult at h
  rcases hp : parseFrame f g.config.crcEnabled ParsedFrame.init with ⟨err, parsed⟩
  rw [hp] at h hh
  subst h
  replace hh : parsed.header = deserializeHeader f := hh
  simp only [hh, ne_eq, not_true_eq_false, if_false]
  obtain ⟨hc, ht, hs⟩ := handleSeqResult_spec
    { g with tracker := (g.tracker.track (deserializeHeader f).srcId (deserializeHeader f).seq).2,
             stats := g.stats.recordRx (deserializeHeader f).srcId (deserializeHeader f).seq ts }
    clock (deserializeHeader f).srcId
    (g.tracker.track (deserializeHeader f).srcId (deserializeHeader f).seq).1
  split <;> refine ⟨?_, ?_, ?_⟩ <;>
    simp only [config_publishEvent, tracker_publishEvent, stats_publishEvent, hc, ht, hs]

/-- **One datagram** moves the global counters on by its tally and the tracker by its
`(src_id, seq)` if it is accepted. -/
theorem processFrame_tally (f : List UInt8) (ts : UInt64) :
    (g.processFrame clock f ts).config = g.config ∧
      (g.processFrame clock f ts).tracker =
        (g.tracker.trackPairs (acceptedKeys g.config.crcEnabled [f])).2 ∧
      (g.processFrame clock f ts).stats.global =
        g.stats.global.tally g.config.crcEnabled g.tracker [f] := by
  unfold processFrame
  by_cases h : parseResult g.config.crcEnabled f = .ok
  · obtain ⟨hc, ht, hs⟩ := (g.recordFrame f ts).handleFrame_of_accept clock (by simpa using h) ts
    simp only [config_recordFrame, tracker_recordFrame, stats_recordFrame] at hc ht hs
    have hk : acceptedKeys g.config.crcEnabled [f] =
        [((deserializeHeader f).srcId, (deserializeHeader f).seq)] := by
      simp [acceptedKeys, h]
    refine ⟨hc, by rw [ht, hk]; rfl, ?_⟩
    rw [hs, GlobalStats.tally, hk]
    simp only [SequenceTracker.trackPairs]
    generalize (g.tracker.track (deserializeHeader f).srcId (deserializeHeader f).seq).1 = ev
    cases hr : ev.result <;>
      simp [seqStats, hr, h, GlobalStats.addCounts,
        StatsManager.recordRx, StatsManager.recordGap, StatsManager.recordReorder,
        StatsManager.recordDuplicate, toUInt64_eq_ofNat]
  · obtain ⟨hc, ht, hs⟩ := (g.recordFrame f ts).handleFrame_of_reject clock (by simpa using h) ts
    simp only [config_recordFrame, tracker_recordFrame, stats_recordFrame] at hc ht hs
    have hk : acceptedKeys g.config.crcEnabled [f] = [] := by simp [acceptedKeys, h]
    refine ⟨hc, by rw [ht, hk]; rfl, ?_⟩
    rw [hs, GlobalStats.tally, hk]
    split_ifs with hcrc <;>
      simp [hcrc, h, SequenceTracker.trackPairs, GlobalStats.addCounts,
        StatsManager.recordMalformed, StatsManager.recordCrcFail]

theorem malformedAtZero_processFrame (h : MalformedAtZero g.stats) (f : List UInt8)
    (ts : UInt64) : MalformedAtZero (g.processFrame clock f ts).stats := by
  unfold processFrame
  by_cases ha : parseResult g.config.crcEnabled f = .ok
  · obtain ⟨-, -, hs⟩ := (g.recordFrame f ts).handleFrame_of_accept clock (by simpa using ha) ts
    rw [hs, stats_recordFrame]
    exact h.seqStats_recordRx _ _ _ _
  · obtain ⟨-, -, hs⟩ := (g.recordFrame f ts).handleFrame_of_reject clock (by simpa using ha) ts
    simp only [hs, stats_recordFrame, config_recordFrame]
    split_ifs
    · exact h.recordMalformed.recordCrcFail
    · exact h.recordMalformed

theorem recorder_handleFrame (f : List UInt8) (ts : UInt64) :
    (g.handleFrame clock f ts).recorder = g.recorder := by
  unfold handleFrame
  rcases parseFrame f g.config.crcEnabled ParsedFrame.init with ⟨err, parsed⟩
  dsimp only
  split_ifs
  · rfl
  · rfl
  · have hr : ∀ g' : Gateway, ∀ k ev, (g'.handleSeqResult clock k ev).recorder = g'.recorder := by
      intro g' k ev; unfold handleSeqResult; cases ev.result <;> rfl
    split <;> exact hr _ _ _

/-- With recording on and the recorder open, a datagram is appended to the file as one record
and the recorder stays open. -/
theorem recorder_processFrame (h : g.config.recordEnabled = true) (ho : g.recorder.isOpen = true)
    (f : List UInt8) (ts : UInt64) :
    (g.processFrame clock f ts).recorder.isOpen = true ∧
      (g.processFrame clock f ts).recorder.file = g.recorder.file ++ recordBytes ts f := by
  simp [processFrame, recorder_handleFrame, recordFrame, h, ho, FrameRecorder.record_of_isOpen]

/-- **A rejected datagram**, as the stats show it: the tracker is untouched, the two global
error counters move, and so does source `0`'s `malformed` counter, by two for a CRC failure
(`record_malformed(0)` and `record_crc_fail(0)`) and by one otherwise. -/
theorem processFrame_of_reject {f : List UInt8} (h : parseResult g.config.crcEnabled f ≠ .ok)
    (ts : UInt64) :
    (g.processFrame clock f ts).tracker = g.tracker ∧
      (g.processFrame clock f ts).stats.getGlobalStats =
        { g.stats.getGlobalStats with
          malformedTotal := g.stats.getGlobalStats.malformedTotal + 1
          crcFailTotal := g.stats.getGlobalStats.crcFailTotal +
            if parseResult g.config.crcEnabled f = .crcMismatch then 1 else 0 } ∧
      ∀ k, (g.processFrame clock f ts).stats.getSourceStats k =
        if k = 0 then
          { g.stats.getSourceStats 0 with
            malformed := (g.stats.getSourceStats 0).malformed +
              if parseResult g.config.crcEnabled f = .crcMismatch then 2 else 1 }
        else g.stats.getSourceStats k := by
  obtain ⟨-, ht, hs⟩ := (g.recordFrame f ts).handleFrame_of_reject clock (by simpa using h) ts
  simp only [config_recordFrame, tracker_recordFrame, stats_recordFrame] at ht hs
  refine ⟨ht, ?_, fun k => ?_⟩ <;> rw [processFrame, hs] <;>
    by_cases hcrc : parseResult g.config.crcEnabled f = .crcMismatch <;>
    simp only [hcrc, if_true, if_false, add_zero, StatsManager.recordCrcFail,
      StatsManager.recordMalformed, StatsManager.getSourceStats_getOrCreateSource_zero]
  · rfl
  · rfl
  · split_ifs
    · simp only [add_assoc]; rfl
    · rfl

end Frame

/-! ### A run of datagrams -/

/-- **The run lemma**: from any gateway, a run of datagrams moves the global counters on by
their tally and the tracker through the accepted `(src_id, seq)`, and keeps
`MalformedAtZero`. -/
theorem processFrames_tally (clock : Nat → UInt64) (fs : List (List UInt8 × UInt64)) :
    ∀ g : Gateway,
      (g.processFrames clock fs).config = g.config ∧
      (g.processFrames clock fs).tracker =
        (g.tracker.trackPairs (acceptedKeys g.config.crcEnabled (fs.map (·.1)))).2 ∧
      (g.processFrames clock fs).stats.global =
        g.stats.global.tally g.config.crcEnabled g.tracker (fs.map (·.1)) ∧
      (MalformedAtZero g.stats → MalformedAtZero (g.processFrames clock fs).stats) := by
  induction fs with
  | nil =>
    intro g
    refine ⟨rfl, rfl, ?_, id⟩
    simp [processFrames, GlobalStats.tally, GlobalStats.addCounts, acceptedKeys,
      SequenceTracker.trackPairs]
  | cons x fs ih =>
    intro g
    obtain ⟨hc, ht, hs⟩ := g.processFrame_tally clock x.1 x.2
    obtain ⟨hc', ht', hs', hm'⟩ := ih (g.processFrame clock x.1 x.2)
    have hrun : g.processFrames clock (x :: fs) =
        (g.processFrame clock x.1 x.2).processFrames clock fs := rfl
    rw [hc, ht] at ht'
    rw [hc, ht, hs] at hs'
    rw [hrun, List.map_cons, acceptedKeys_cons, SequenceTracker.trackPairs_append,
      GlobalStats.tally_cons]
    exact ⟨hc'.trans hc, ht', hs', fun h => hm' (malformedAtZero_processFrame g clock h x.1 x.2)⟩

/-- With recording on and the recorder open, a run appends one record per datagram, in order. -/
theorem recorder_processFrames (clock : Nat → UInt64) (fs : List (List UInt8 × UInt64)) :
    ∀ g : Gateway, g.config.recordEnabled = true → g.recorder.isOpen = true →
      (g.processFrames clock fs).recorder.file =
        g.recorder.file ++ recordsBytes (fs.map fun x => (x.2, x.1)) := by
  induction fs with
  | nil => intro g _ _; simp [processFrames]
  | cons x fs ih =>
    intro g h ho
    obtain ⟨ho', hf'⟩ := g.recorder_processFrame clock h ho x.1 x.2
    have hc := (g.processFrame_tally clock x.1 x.2).1
    have hrun : g.processFrames clock (x :: fs) =
        (g.processFrame clock x.1 x.2).processFrames clock fs := rfl
    rw [hrun, ih _ (hc ▸ h) ho', hf']
    simp

end Gateway

/-! ### From a fresh gateway -/

theorem malformedAtZero_empty : MalformedAtZero {} := rfl

/-- **Gateway accounting**: from a fresh gateway with CRC policy `c`, whatever the recording
setting, the recorder, the clock and the receive timestamps, the global counters after the
datagrams `fs` are `expectedGlobal c`, the counts the bytes prescribe, and source `0`'s
`malformed` counter is `malformed_total + crc_fail_total`.  A rejected datagram leaves the
tracker untouched and changes only the two error counters and source `0`'s `malformed`
counter.  Hence two runs over the same bytes end with the same global counters; and with
recording on, replaying the recorded file returns exactly the datagrams of the live run. -/
theorem processFrames_accounting (c rec : Bool) (r : FrameRecorder) (clock : Nat → UInt64)
    (fs : List (List UInt8 × UInt64)) :
    (({ config := { crcEnabled := c, recordEnabled := rec }, recorder := r } : Gateway).processFrames
      clock fs).stats.getGlobalStats = expectedGlobal c (fs.map (·.1)) ∧
    ((({ config := { crcEnabled := c, recordEnabled := rec }, recorder := r } : Gateway).processFrames
      clock fs).stats.getSourceStats 0).malformed =
      (({ config := { crcEnabled := c, recordEnabled := rec }, recorder := r } : Gateway).processFrames
        clock fs).stats.getGlobalStats.malformedTotal +
      (({ config := { crcEnabled := c, recordEnabled := rec }, recorder := r } : Gateway).processFrames
        clock fs).stats.getGlobalStats.crcFailTotal ∧
    (∀ (g : Gateway) (clock' : Nat → UInt64) (f : List UInt8) (ts : UInt64),
      parseResult g.config.crcEnabled f ≠ .ok →
        (g.processFrame clock' f ts).tracker = g.tracker ∧
        (g.processFrame clock' f ts).stats.getGlobalStats =
          { g.stats.getGlobalStats with
            malformedTotal := g.stats.getGlobalStats.malformedTotal + 1
            crcFailTotal := g.stats.getGlobalStats.crcFailTotal +
              if parseResult g.config.crcEnabled f = .crcMismatch then 1 else 0 } ∧
        ∀ k, (g.processFrame clock' f ts).stats.getSourceStats k =
          if k = 0 then
            { g.stats.getSourceStats 0 with
              malformed := (g.stats.getSourceStats 0).malformed +
                if parseResult g.config.crcEnabled f = .crcMismatch then 2 else 1 }
          else g.stats.getSourceStats k) ∧
    (∀ (rec' : Bool) (r' : FrameRecorder) (clock' : Nat → UInt64)
      (fs' : List (List UInt8 × UInt64)), fs'.map (·.1) = fs.map (·.1) →
        (({ config := { crcEnabled := c, recordEnabled := rec' }, recorder := r' } : Gateway).processFrames
          clock' fs').stats.getGlobalStats =
        (({ config := { crcEnabled := c, recordEnabled := rec }, recorder := r } : Gateway).processFrames
          clock fs).stats.getGlobalStats) ∧
    (rec = true → r = (({} : FrameRecorder).open true).2 → (∀ x ∈ fs, x.1.length < 4294967296) →
      ((replaySource (({ config := { crcEnabled := c, recordEnabled := rec }, recorder := r } :
        Gateway).processFrames clock fs).recorder.file).receiveN fs.length).1 =
        fs.map fun x => (true, x.1)) := by
  have hglobal : ∀ (rec' : Bool) (r' : FrameRecorder) (clock' : Nat → UInt64)
      (fs' : List (List UInt8 × UInt64)),
      (({ config := { crcEnabled := c, recordEnabled := rec' }, recorder := r' } : Gateway).processFrames
        clock' fs').stats.getGlobalStats = expectedGlobal c (fs'.map (·.1)) := by
    intro rec' r' clock' fs'
    rw [expectedGlobal_eq_tally]
    exact (Gateway.processFrames_tally clock' fs' _).2.2.1
  refine ⟨hglobal rec r clock fs, ?_, fun g clock' f ts h => g.processFrame_of_reject clock' h ts,
    fun rec' r' clock' fs' hfs => by rw [hglobal, hglobal, hfs], ?_⟩
  · exact (Gateway.processFrames_tally clock fs _).2.2.2 malformedAtZero_empty
  · intro hrec hr hlen
    subst hrec hr
    have hfile := Gateway.recorder_processFrames clock fs
      { config := { crcEnabled := c, recordEnabled := true },
        recorder := (({} : FrameRecorder).open true).2 } rfl rfl
    have hrs : ∀ x ∈ fs.map (fun x => (x.2, x.1)), x.2.length < 4294967296 := by
      intro x hx
      obtain ⟨y, hy, rfl⟩ := List.mem_map.mp hx
      exact hlen y hy
    obtain ⟨hout, -⟩ := replay_records_then _ hrs (t := 0) (f := []) (by decide) (j := 0)
      (by simp) 0
    rw [hfile]
    simpa using hout

end NetNodeGateway
