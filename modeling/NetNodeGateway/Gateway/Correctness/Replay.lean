import NetNodeGateway.Gateway.Run
import NetNodeGateway.Gateway.Correctness.Gateway

/-!
# Replaying a recording reproduces the session

A gateway that records the datagrams it processes writes a file from which a gateway in replay
mode reads them back: its `run()` loop hands the same datagrams, in the same order, to
`process_frame` (`replayLoop_records`).  What `process_frame` does depends on the datagram's
bytes and the CRC policy alone, except for the receive timestamp kept per source and the
timestamps of the published records: two gateways that agree on everything else keep agreeing
after each datagram (`Agree.processFrame`) and after a whole run (`Agree.processFrames`).

* `runReplay_reproduces`: replaying the recording of a fresh gateway's session with the same
  CRC policy ends with the same tracker, the same global counters, the same per-source counters
  and the same published records, up to the timestamps, whatever the clocks, whether the replay
  records too, and however many iterations beyond one per datagram the loop is given.

Over a UDP source, `run()` hands `process_frame` the datagrams its `recvfrom` calls return, in
order (`udpLoop_eq`), so it agrees with a run of `process_frame` over them
(`Agree.runUdp`), and with recording on it writes one record per such datagram
(`recorder_runUdp`).
-/

namespace NetNodeGateway

/-! ### Forgetting time -/

/-- A source entry with its `last_ts_ns` forgotten. -/
def SourceStats.untimed (s : SourceStats) : SourceStats := { s with lastTsNs := 0 }

/-- The stats with the `last_ts_ns` of every source forgotten. -/
def StatsManager.untimed (m : StatsManager) : StatsManager :=
  { m with sources := m.sources.map fun e => (e.1, e.2.untimed) }

/-- A published record with its timestamp forgotten. -/
def EventRecord.untimed (e : EventRecord) : EventRecord := { e with timestampNs := 0 }

namespace StatsManager

variable (m : StatsManager) (srcId : UInt16)

/-- An update of an entry that commutes with forgetting time commutes with
`get_or_create_source`. -/
theorem untimed_getOrCreateSource (f f' : SourceStats → SourceStats)
    (hf : ∀ s, (f s).untimed = f' s.untimed) :
    (m.getOrCreateSource srcId f).map (fun e => (e.1, e.2.untimed)) =
      m.untimed.getOrCreateSource srcId f' := by
  unfold getOrCreateSource untimed
  by_cases hk : m.sources.any (·.1 == srcId) = true
  · have hk' : (m.sources.map fun e => (e.1, e.2.untimed)).any (·.1 == srcId) = true := by
      simpa only [List.any_map, Function.comp_def] using hk
    rw [if_pos hk, if_pos hk', List.map_map, List.map_map]
    refine List.map_congr_left fun e _ => ?_
    by_cases he : e.1 = srcId <;> simp [he, hf]
  · have hk' : ¬(m.sources.map fun e => (e.1, e.2.untimed)).any (·.1 == srcId) = true := by
      simpa only [List.any_map, Function.comp_def] using hk
    rw [if_neg hk, if_neg hk', List.map_append, List.map_singleton, hf]
    rfl

theorem untimed_recordRx (seq : UInt32) (ts : UInt64) :
    (m.recordRx srcId seq ts).untimed = m.untimed.recordRx srcId seq 0 :=
  congrArg (StatsManager.mk _) (untimed_getOrCreateSource m srcId
    (fun s => { s with rxCount := s.rxCount + 1, lastSeq := seq, lastTsNs := ts })
    (fun s => { s with rxCount := s.rxCount + 1, lastSeq := seq, lastTsNs := 0 }) fun _ => rfl)

theorem untimed_recordMalformed :
    (m.recordMalformed srcId).untimed = m.untimed.recordMalformed srcId :=
  congrArg (StatsManager.mk _) (untimed_getOrCreateSource m srcId
    (fun s => { s with malformed := s.malformed + 1 })
    (fun s => { s with malformed := s.malformed + 1 }) fun _ => rfl)

theorem untimed_recordGap (gapSize : UInt32) :
    (m.recordGap srcId gapSize).untimed = m.untimed.recordGap srcId gapSize :=
  congrArg (StatsManager.mk _) (untimed_getOrCreateSource m srcId
    (fun s => { s with gaps := s.gaps + gapSize.toUInt64 })
    (fun s => { s with gaps := s.gaps + gapSize.toUInt64 }) fun _ => rfl)

theorem untimed_recordReorder : (m.recordReorder srcId).untimed = m.untimed.recordReorder srcId :=
  congrArg (StatsManager.mk _) (untimed_getOrCreateSource m srcId
    (fun s => { s with reorders := s.reorders + 1 })
    (fun s => { s with reorders := s.reorders + 1 }) fun _ => rfl)

theorem untimed_recordDuplicate :
    (m.recordDuplicate srcId).untimed = m.untimed.recordDuplicate srcId :=
  congrArg (StatsManager.mk _) (untimed_getOrCreateSource m srcId
    (fun s => { s with duplicates := s.duplicates + 1 })
    (fun s => { s with duplicates := s.duplicates + 1 }) fun _ => rfl)

theorem untimed_recordCrcFail : (m.recordCrcFail srcId).untimed = m.untimed.recordCrcFail srcId :=
  congrArg (StatsManager.mk _) (untimed_getOrCreateSource m srcId
    (fun s => { s with malformed := s.malformed + 1 })
    (fun s => { s with malformed := s.malformed + 1 }) fun _ => rfl)

end StatsManager

/-! ### Two gateways that agree but for time -/

namespace Gateway

/-- Two gateways that agree on all but time: the CRC policy, the tracker, the stats up to the
sources' `last_ts_ns`, and the published records up to their timestamps. -/
structure Agree (g g' : Gateway) : Prop where
  crcEnabled : g.config.crcEnabled = g'.config.crcEnabled
  tracker : g.tracker = g'.tracker
  stats : g.stats.untimed = g'.stats.untimed
  published : g.published.map EventRecord.untimed = g'.published.map EventRecord.untimed

namespace Agree

variable {g g' : Gateway} (h : Agree g g') (clock clock' : Nat → UInt64)
include h

omit h in
theorem refl (g : Gateway) : Agree g g := ⟨rfl, rfl, rfl, rfl⟩

theorem trans {g'' : Gateway} (h' : Agree g' g'') : Agree g g'' :=
  ⟨h.1.trans h'.1, h.2.trans h'.2, h.3.trans h'.3, h.4.trans h'.4⟩

theorem symm : Agree g' g := ⟨h.1.symm, h.2.symm, h.3.symm, h.4.symm⟩

omit h in
/-- Setting the recorder, as `run()` does around its loop, changes nothing the gateways agree
on. -/
theorem ite_recorder (b : Prop) [Decidable b] (g : Gateway) (r : FrameRecorder) :
    Agree (if b then { g with recorder := r } else g) g := by
  split
  · exact ⟨rfl, rfl, rfl, rfl⟩
  · exact refl g

theorem withStats {m m' : StatsManager} (hm : m.untimed = m'.untimed) :
    Agree { g with stats := m } { g' with stats := m' } :=
  ⟨h.crcEnabled, h.tracker, hm, h.published⟩

theorem publishEvent (id : EventId) (cat : EventCategory) (sev : Severity) (detail : String) :
    Agree (g.publishEvent clock id cat sev detail) (g'.publishEvent clock' id cat sev detail) :=
  ⟨h.crcEnabled, h.tracker, h.stats, by
    simp only [Gateway.publishEvent, List.map_append, h.published]; rfl⟩

theorem handleSeqResult (srcId : UInt16) (ev : SeqEvent) :
    Agree (g.handleSeqResult clock srcId ev) (g'.handleSeqResult clock' srcId ev) := by
  unfold Gateway.handleSeqResult
  cases ev.result with
  | first => exact h.publishEvent clock clock' ..
  | ok => exact h
  | gap =>
    refine (h.withStats ?_).publishEvent clock clock' ..
    rw [StatsManager.untimed_recordGap, StatsManager.untimed_recordGap, h.stats]
  | reorder =>
    refine (h.withStats ?_).publishEvent clock clock' ..
    rw [StatsManager.untimed_recordReorder, StatsManager.untimed_recordReorder, h.stats]
  | duplicate =>
    refine h.withStats ?_
    rw [StatsManager.untimed_recordDuplicate, StatsManager.untimed_recordDuplicate, h.stats]

theorem recordFrame (f : List UInt8) (ts ts' : UInt64) :
    Agree (g.recordFrame f ts) (g'.recordFrame f ts') := by
  unfold Gateway.recordFrame
  split <;> split <;> exact ⟨h.1, h.2, h.3, h.4⟩

theorem handleFrame (f : List UInt8) (ts ts' : UInt64) :
    Agree (g.handleFrame clock f ts) (g'.handleFrame clock' f ts') := by
  unfold Gateway.handleFrame
  rw [← h.crcEnabled]
  rcases parseFrame f g.config.crcEnabled ParsedFrame.init with ⟨err, parsed⟩
  dsimp only
  by_cases herr : err = .ok
  · simp only [herr, ne_eq, not_true_eq_false, if_false]
    rw [← h.tracker]
    rcases g.tracker.track parsed.header.srcId parsed.header.seq with ⟨ev, tracker⟩
    dsimp only
    have hrx : Agree
        { g with tracker := tracker, stats := g.stats.recordRx parsed.header.srcId parsed.header.seq ts }
        { g' with tracker := tracker,
                  stats := g'.stats.recordRx parsed.header.srcId parsed.header.seq ts' } :=
      ⟨h.crcEnabled, rfl, by rw [StatsManager.untimed_recordRx, StatsManager.untimed_recordRx, h.stats],
        h.published⟩
    have hseq := hrx.handleSeqResult clock clock' parsed.header.srcId ev
    split
    · exact hseq.publishEvent clock clock' ..
    · exact hseq
  · simp only [ne_eq, herr, not_false_eq_true, if_true]
    have hmal : Agree { g with stats := g.stats.recordMalformed 0 }
        { g' with stats := g'.stats.recordMalformed 0 } := h.withStats (by
      rw [StatsManager.untimed_recordMalformed, StatsManager.untimed_recordMalformed, h.stats])
    split
    · refine (hmal.withStats ?_).publishEvent clock clock' ..
      rw [StatsManager.untimed_recordCrcFail, StatsManager.untimed_recordCrcFail, hmal.stats]
    · exact hmal.publishEvent clock clock' ..

/-- **The step lemma**: `process_frame` on the same datagram, at any times, keeps two gateways
in agreement. -/
theorem processFrame (f : List UInt8) (ts ts' : UInt64) :
    Agree (g.processFrame clock f ts) (g'.processFrame clock' f ts') :=
  (h.recordFrame f ts ts').handleFrame clock clock' f ts ts'

omit h in
/-- **The run lemma**: runs over the same datagrams, with any receive timestamps and clocks,
keep two gateways in agreement. -/
theorem processFrames : ∀ {g g' : Gateway} (fs fs' : List (List UInt8 × UInt64)), Agree g g' →
    fs.map (·.1) = fs'.map (·.1) → Agree (g.processFrames clock fs) (g'.processFrames clock' fs')
  | _, _, [], [], h, _ => h
  | _, _, (f, t) :: fs, (f', t') :: fs', h, hfs => by
    simp only [List.map_cons, List.cons.injEq] at hfs
    obtain ⟨rfl, hfs⟩ := hfs
    exact processFrames fs fs' (h.processFrame clock clock' f t t') hfs

end Agree

/-! ### The loop of `run()` -/

/-- The frames `fs` with the receive timestamps the clock gives them, the first one being the
`k`-th frame received. -/
def stampFrames (rxClock : Nat → UInt64) : Nat → List (List UInt8) → List (List UInt8 × UInt64)
  | _, [] => []
  | k, f :: fs => (f, rxClock k) :: stampFrames rxClock (k + 1) fs

theorem map_fst_stampFrames (rxClock : Nat → UInt64) :
    ∀ (k : Nat) (fs : List (List UInt8)), (stampFrames rxClock k fs).map (·.1) = fs
  | _, [] => rfl
  | k, f :: fs => congrArg (f :: ·) (map_fst_stampFrames rxClock (k + 1) fs)

/-- **The loop over a recording**: from a live source whose bytes are the records `rs`, the loop
processes the records' frames in order, stamped by the clock, once it may run one iteration per
record and one more. -/
theorem replayLoop_records (clock rxClock : Nat → UInt64) (rs : List (UInt64 × List UInt8))
    (hlen : ∀ x ∈ rs, x.2.length < 4294967296) :
    ∀ (fuel : Nat) (g : Gateway) (src : ReplayFrameSource) (k : Nat), src.Live →
      src.rest = recordsBytes rs → rs.length < fuel →
      (replayLoop clock rxClock fuel g src k).1 =
        g.processFrames clock (stampFrames rxClock k (rs.map (·.2))) := by
  induction rs with
  | nil =>
    intro fuel g src k hl hr hf
    obtain ⟨fuel, rfl⟩ : ∃ n, fuel = n + 1 := ⟨fuel - 1, by simp only [List.length_nil] at hf; omega⟩
    cases hd : src.done
    · simp only [replayLoop, ReplayFrameSource.receive_short hl.1 hd (by simp [hr]),
        Bool.false_eq_true, if_false, if_true]
      rfl
    · simp only [replayLoop, ReplayFrameSource.receive_of_done hd, hd, Bool.false_eq_true, if_false,
        if_true]
      rfl
  | cons x rs ih =>
    intro fuel g src k hl hr hf
    obtain ⟨fuel, rfl⟩ : ∃ n, fuel = n + 1 :=
      ⟨fuel - 1, by simp only [List.length_cons] at hf; omega⟩
    have hstep := ReplayFrameSource.receive_recordBytes hl (hlen x (List.mem_cons_self x rs))
      (recordsBytes rs) (by rw [hr, recordsBytes_cons])
    simp only [replayLoop, hstep, if_true]
    exact ih (fun y hy => hlen y (List.mem_cons_of_mem x hy)) fuel _ _ _ (hl.deliver x.1 _) rfl
      (by simp only [List.length_cons] at hf; omega)

/-- **`run()` on a recording**: with fuel for one iteration per record and one more, a gateway
that replays the records `rs` agrees with the gateway that processes their frames, stamped by
the clock. -/
theorem Agree.runReplay_records (g : Gateway) (rs : List (UInt64 × List UInt8))
    (hlen : ∀ x ∈ rs, x.2.length < 4294967296) (recordOpened : Bool) (clock rxClock : Nat → UInt64)
    (fuel : Nat) (hfuel : rs.length < fuel) :
    Agree (g.runReplay (some (recordsBytes rs)) recordOpened clock rxClock fuel)
      (g.processFrames clock (stampFrames rxClock 0 (rs.map (·.2)))) := by
  rw [runReplay, show replaySourceOf (some (recordsBytes rs)) =
    some (replaySource (recordsBytes rs)) from rfl]
  refine (Agree.ite_recorder _ _ _).trans ?_
  rw [replayLoop_records clock rxClock rs hlen fuel _ _ 0 (live_replaySource (recordsBytes rs)) rfl
    hfuel]
  exact Agree.processFrames clock clock _ _ (Agree.ite_recorder _ _ _) rfl

/-! ### The loop of `run()` over a UDP source -/

/-- The datagrams the UDP loop processes, in order: those its `recvfrom` calls return. -/
def received (events : List (Option (List UInt8))) : List (List UInt8) :=
  events.filterMap (·.bind udpDatagram)

/-- A datagram received is not empty and fits the `65536`-byte buffer. -/
theorem length_of_mem_received {events : List (Option (List UInt8))} {d : List UInt8}
    (hd : d ∈ received events) : d ≠ [] ∧ d.length ≤ 65536 := by
  obtain ⟨ev, -, hev⟩ := List.mem_filterMap.mp hd
  obtain ⟨e, -, he⟩ := Option.bind_eq_some.mp hev
  unfold udpDatagram at he
  split_ifs at he with hne
  cases he
  exact ⟨fun h => hne (List.isEmpty_iff.mpr h), List.length_take_le _ _⟩

/-- The UDP loop processes the datagrams received, stamped by the clock. -/
theorem udpLoop_eq (clock rxClock : Nat → UInt64) :
    ∀ (events : List (Option (List UInt8))) (g : Gateway) (k : Nat),
      udpLoop clock rxClock g events k =
        g.processFrames clock (stampFrames rxClock k (received events))
  | [], _, _ => rfl
  | ev :: evs, g, k => by
    rw [udpLoop, received, List.filterMap_cons]
    cases ev.bind udpDatagram with
    | none => exact udpLoop_eq clock rxClock evs g k
    | some buf => exact udpLoop_eq clock rxClock evs _ (k + 1)

/-- **`run()` over a UDP source**: once bound, a gateway agrees with the gateway that processes
the datagrams received, stamped by the clock. -/
theorem Agree.runUdp (g : Gateway) (recordOpened : Bool) (clock rxClock : Nat → UInt64)
    (events : List (Option (List UInt8))) :
    Agree (g.runUdp true recordOpened clock rxClock events)
      (g.processFrames clock (stampFrames rxClock 0 (received events))) := by
  rw [Gateway.runUdp, if_pos rfl]
  refine (Agree.ite_recorder _ _ _).trans ?_
  rw [udpLoop_eq]
  exact Agree.processFrames clock clock _ _ (Agree.ite_recorder _ _ _) rfl

/-- With recording on and the record file opened, `run()` over a UDP source writes one record
per datagram received, in order. -/
theorem recorder_runUdp (g : Gateway) (h : g.config.recordEnabled = true)
    (clock rxClock : Nat → UInt64) (events : List (Option (List UInt8))) :
    (g.runUdp true true clock rxClock events).recorder.file =
      recordsBytes ((stampFrames rxClock 0 (received events)).map fun x => (x.2, x.1)) := by
  have hc := (processFrames_tally clock (stampFrames rxClock 0 (received events))
    { g with recorder := (g.recorder.open true).2 }).1
  have hf := recorder_processFrames clock (stampFrames rxClock 0 (received events))
    { g with recorder := (g.recorder.open true).2 } h rfl
  simp only [runUdp, withRecording, h, if_true, udpLoop_eq, hc]
  exact hf

end Gateway

/-! ### Replay reproduces the session -/

/-- **Replay reproduces the session**: a fresh gateway with CRC policy `c` records the datagrams
`fs` (each shorter than `2^32` bytes) with any timestamps; a fresh gateway with the same policy,
recording or not, that runs in replay mode on the file ends, once its loop may run one iteration
per datagram and one more, with the same tracker, the same global counters (the final
statistics `gateway_main` prints), the same per-source counters up to `last_ts_ns`, and the same
published records up to their timestamps, whatever the clocks of the two runs. -/
theorem runReplay_reproduces (c : Bool) (clock : Nat → UInt64) (fs : List (List UInt8 × UInt64))
    (hlen : ∀ x ∈ fs, x.1.length < 4294967296) (record recordOpened : Bool)
    (clock' rxClock : Nat → UInt64) (fuel : Nat) (hfuel : fs.length < fuel) :
    (let live := ({ config := { crcEnabled := c, recordEnabled := true },
                    recorder := (({} : FrameRecorder).open true).2 } : Gateway).processFrames clock fs
     let replayed := ({ config := { crcEnabled := c, recordEnabled := record } } : Gateway).runReplay
       (some live.recorder.file) recordOpened clock' rxClock fuel
     replayed.tracker = live.tracker ∧ replayed.stats.getGlobalStats = live.stats.getGlobalStats ∧
       replayed.stats.untimed = live.stats.untimed ∧
       replayed.published.map EventRecord.untimed = live.published.map EventRecord.untimed) := by
  intro live replayed
  have hfile : live.recorder.file = recordsBytes (fs.map fun x => (x.2, x.1)) := by
    simpa using Gateway.recorder_processFrames clock fs _ rfl rfl
  have hrs : ∀ x ∈ fs.map (fun x => (x.2, x.1)), x.2.length < 4294967296 := fun x hx => by
    obtain ⟨y, hy, rfl⟩ := List.mem_map.mp hx
    exact hlen y hy
  have hagree : Gateway.Agree replayed live := by
    simp only [replayed, hfile]
    refine (Gateway.Agree.runReplay_records _ _ hrs recordOpened clock' rxClock fuel
      (by simpa using hfuel)).trans ?_
    refine Gateway.Agree.processFrames clock' clock _ fs ⟨rfl, rfl, rfl, rfl⟩ ?_
    simp only [Gateway.map_fst_stampFrames, List.map_map]
    rfl
  have hglobal := congrArg StatsManager.global hagree.stats
  exact ⟨hagree.tracker, hglobal, hagree.stats, hagree.published⟩

theorem runReplay_reproduces_one :
    (∀ x ∈ [(([1, 2, 3] : List UInt8), (5 : UInt64))], x.1.length < 4294967296) ∧
    [(([1, 2, 3] : List UInt8), (5 : UInt64))].length < 2 ∧
    (let live := ({ config := { crcEnabled := false, recordEnabled := true },
                    recorder := (({} : FrameRecorder).open true).2 } : Gateway).processFrames (fun _ => 0)
          [([1, 2, 3], 5)]
     let replayed := ({ config := { crcEnabled := false, recordEnabled := false } } : Gateway).runReplay
       (some live.recorder.file) false (fun _ => 7) (fun _ => 9) 2
     replayed.tracker = live.tracker ∧ replayed.stats.getGlobalStats = live.stats.getGlobalStats ∧
       replayed.stats.untimed = live.stats.untimed ∧
       replayed.published.map EventRecord.untimed = live.published.map EventRecord.untimed) :=
  ⟨by decide, by decide,
    runReplay_reproduces false (fun _ => 0) [([1, 2, 3], 5)] (by decide) false false (fun _ => 7)
      (fun _ => 9) 2 (by decide)⟩

end NetNodeGateway
