import NetNodeGateway.Gateway.Correctness.Gateway

/-!
# The gateway's event log

The ids of the events `process_frame` publishes for a datagram are determined by its bytes
and the tracker (`frameEventIds`): `CRC_FAIL` or `FRAME_MALFORMED` for a rejected datagram;
for an accepted one, the event of its sequence result (`SOURCE_ONLINE`, `SEQ_GAP`,
`SEQ_REORDER`, or none for an in-order or duplicate datagram), then the event of its payload,
if any (`eventIds_handleFrame`).

A payload event is a tracking, health or weapon-status event (`payloadEvent_id_mem`), never
one of the three events that report what the error counters count.  So the log agrees with
the counters (`EventsAgree`), which every datagram keeps (`EventsAgree.processFrame`): the
number of `CRC_FAIL` records is `crc_fail_total`, the `CRC_FAIL` and `FRAME_MALFORMED` records
together are `malformed_total`, and the `SEQ_REORDER` records are `reorder_total`, all modulo
`2^64` as the counters are.
-/

namespace NetNodeGateway

/-- The event the sequence-result switch publishes for a result, if any. -/
def seqEventId : SeqResult → Option EventId
  | .first => some .evtSourceOnline
  | .gap => some .evtSeqGap
  | .reorder => some .evtSeqReorder
  | .duplicate | .ok => none

/-- The ids of the events published for datagram `f` under CRC policy `c`, with tracker `t`. -/
def frameEventIds (c : Bool) (t : SequenceTracker) (f : List UInt8) : List EventId :=
  match parseResult c f with
  | .ok =>
    (seqEventId (t.track (deserializeHeader f).srcId (deserializeHeader f).seq).1.result).toList ++
      ((payloadEvent (deserializeHeader f) (f.drop frameHeaderSize)).map (·.1)).toList
  | .crcMismatch => [.evtCrcFail]
  | _ => [.evtFrameMalformed]

/-- The ids of the events published for the datagrams `frames` in turn, from tracker `t`. -/
def runEventIds (c : Bool) (t : SequenceTracker) : List (List UInt8) → List EventId
  | [] => []
  | f :: frames =>
    frameEventIds c t f ++ runEventIds c (t.trackPairs (acceptedKeys c [f])).2 frames

/-- The events a payload can publish: tracking, health and weapon status. -/
def payloadEventIds : List EventId :=
  [.evtTrackUpdate, .evtTrackNew, .evtHeartbeatOk, .evtHeartbeatDegrade, .evtHeartbeatError,
    .evtWeaponStatus]

theorem heartbeatEvent_id_mem (state : UInt8) : (heartbeatEvent state).1 ∈ payloadEventIds := by
  unfold heartbeatEvent
  split_ifs <;> simp [payloadEventIds]

theorem payloadEvent_id_mem {h : TelemetryHeader} {payload : List UInt8}
    {e : EventId × EventCategory × Severity × String} (he : payloadEvent h payload = some e) :
    e.1 ∈ payloadEventIds := by
  unfold payloadEvent at he
  split at he <;> (try split_ifs at he) <;> cases he
  all_goals first
    | exact heartbeatEvent_id_mem _
    | simp [payloadEventIds]

/-- An id that no payload publishes is not among a payload's events. -/
theorem count_payloadEvent {id : EventId} (hid : id ∉ payloadEventIds) (h : TelemetryHeader)
    (payload : List UInt8) :
    ((payloadEvent h payload).map (·.1)).toList.count id = 0 := by
  cases he : payloadEvent h payload with
  | none => rfl
  | some e =>
    have hne : e.1 ≠ id := fun heq => hid (heq ▸ payloadEvent_id_mem he)
    simp [List.count_cons, hne]

/-- On an accepted datagram the payload starts right after the header. -/
theorem payloadPtr_of_parseResult {c : Bool} {f : List UInt8} (h : parseResult c f = .ok) :
    (parseFrame f c ParsedFrame.init).2.payloadPtr = some frameHeaderSize := by
  have hc := (firstFailedCheck_eq_ok_iff f c).mp (parseFrame_fst f c ParsedFrame.init ▸ h)
  rw [parseFrame_eq_of_checks ParsedFrame.init hc.1 hc.2.1 hc.2.2]

/-- What the ids of one datagram's events count: one `CRC_FAIL` per CRC failure, one
`CRC_FAIL` or `FRAME_MALFORMED` per rejection, and one `SEQ_REORDER` per reorder the tracker
sees. -/
theorem frameEventIds_counts (c : Bool) (t : SequenceTracker) (f : List UInt8) :
    (frameEventIds c t f).count .evtCrcFail = [f].countP (parseResult c · = .crcMismatch) ∧
      (frameEventIds c t f).count .evtCrcFail + (frameEventIds c t f).count .evtFrameMalformed =
        [f].countP (parseResult c · ≠ .ok) ∧
      (frameEventIds c t f).count .evtSeqReorder =
        resultCount .reorder (t.trackPairs (acceptedKeys c [f])).1 := by
  unfold frameEventIds
  cases hp : parseResult c f
  case ok =>
    have hk : acceptedKeys c [f] = [((deserializeHeader f).srcId, (deserializeHeader f).seq)] := by
      simp [acceptedKeys, hp]
    simp only [hk, SequenceTracker.trackPairs, resultCount_cons, resultCount_nil, List.count_append,
      count_payloadEvent (by decide : EventId.evtCrcFail ∉ payloadEventIds),
      count_payloadEvent (by decide : EventId.evtFrameMalformed ∉ payloadEventIds),
      count_payloadEvent (by decide : EventId.evtSeqReorder ∉ payloadEventIds),
      List.countP_singleton, hp]
    cases (t.track (deserializeHeader f).srcId (deserializeHeader f).seq).1.result <;> decide
  all_goals
    have hk : acceptedKeys c [f] = [] := by simp [acceptedKeys, hp]
    simp only [hk, SequenceTracker.trackPairs, resultCount_nil, List.countP_singleton, hp]
    decide

namespace Gateway

/-- The ids of the records a gateway has published, in order. -/
def eventIds (g : Gateway) : List EventId := g.published.map (·.id)

section Frame

variable (g : Gateway) (clock : Nat → UInt64)

@[simp] theorem eventIds_publishEvent (id : EventId) (cat : EventCategory) (sev : Severity)
    (detail : String) : (g.publishEvent clock id cat sev detail).eventIds = g.eventIds ++ [id] := by
  simp [eventIds, publishEvent]

@[simp] theorem eventIds_recordFrame (f : List UInt8) (ts : UInt64) :
    (g.recordFrame f ts).eventIds = g.eventIds := by
  unfold recordFrame; split <;> rfl

theorem eventIds_handleSeqResult (srcId : UInt16) (ev : SeqEvent) :
    (g.handleSeqResult clock srcId ev).eventIds = g.eventIds ++ (seqEventId ev.result).toList := by
  unfold handleSeqResult seqEventId
  cases ev.result <;> simp only [eventIds_publishEvent, Option.toList, List.append_nil] <;> rfl

/-- **One datagram** publishes the events `frameEventIds` says, after those already published. -/
theorem eventIds_handleFrame (f : List UInt8) (ts : UInt64) :
    (g.handleFrame clock f ts).eventIds =
      g.eventIds ++ frameEventIds g.config.crcEnabled g.tracker f := by
  have hh := header_of_parseResult (c := g.config.crcEnabled) (f := f)
  have hp := payloadPtr_of_parseResult (c := g.config.crcEnabled) (f := f)
  unfold handleFrame frameEventIds
  unfold parseResult at hh hp ⊢
  rcases hpf : parseFrame f g.config.crcEnabled ParsedFrame.init with ⟨err, parsed⟩
  rw [hpf] at hh hp
  cases err
  case ok =>
    replace hh : parsed.header = deserializeHeader f := hh rfl
    replace hp : parsed.payloadPtr = some frameHeaderSize := hp rfl
    simp only [hh, hp, Option.getD_some, ne_eq, not_true_eq_false, if_false]
    cases payloadEvent (deserializeHeader f) (f.drop frameHeaderSize) with
    | none =>
      simp only [eventIds_handleSeqResult, Option.map_none', Option.toList, List.append_nil]
      rfl
    | some e =>
      simp only [eventIds_publishEvent, eventIds_handleSeqResult, Option.map_some', Option.toList,
        List.append_assoc]
      rfl
  all_goals simp only [ne_eq, reduceCtorEq, not_false_eq_true, if_true, if_false,
    eventIds_publishEvent]
  all_goals rfl

theorem eventIds_processFrame (f : List UInt8) (ts : UInt64) :
    (g.processFrame clock f ts).eventIds =
      g.eventIds ++ frameEventIds g.config.crcEnabled g.tracker f := by
  rw [processFrame, eventIds_handleFrame, eventIds_recordFrame, config_recordFrame,
    tracker_recordFrame]

/-- The event log agrees with the counters: the `CRC_FAIL` records count `crc_fail_total`,
with the `FRAME_MALFORMED` records they count `malformed_total`, and the `SEQ_REORDER` records
count `reorder_total`. -/
def EventsAgree (g : Gateway) : Prop :=
  g.stats.global.crcFailTotal = UInt64.ofNat (g.eventIds.count .evtCrcFail) ∧
    g.stats.global.malformedTotal =
      UInt64.ofNat (g.eventIds.count .evtCrcFail + g.eventIds.count .evtFrameMalformed) ∧
    g.stats.global.reorderTotal = UInt64.ofNat (g.eventIds.count .evtSeqReorder)

/-- **The step lemma**: every datagram keeps the log in agreement with the counters. -/
theorem EventsAgree.processFrame {g : Gateway} (h : EventsAgree g) (f : List UInt8)
    (ts : UInt64) : EventsAgree (g.processFrame clock f ts) := by
  obtain ⟨hcrc, hmal, hre⟩ := h
  obtain ⟨-, -, hs⟩ := g.processFrame_tally clock f ts
  obtain ⟨dcrc, dmal, dre⟩ := frameEventIds_counts g.config.crcEnabled g.tracker f
  simp only [EventsAgree, hs, eventIds_processFrame, List.count_append, GlobalStats.tally,
    GlobalStats.addCounts]
  refine ⟨?_, ?_, ?_⟩
  · rw [hcrc, ← dcrc, uint64_ofNat_add]
  · rw [hmal, ← dmal, ← uint64_ofNat_add]
    congr 1
    omega
  · rw [hre, ← dre, uint64_ofNat_add]

end Frame

/-- **The run lemma**: a run of datagrams publishes the events `runEventIds` says, after those
already published, and keeps the log in agreement with the counters. -/
theorem processFrames_eventIds (clock : Nat → UInt64) (fs : List (List UInt8 × UInt64)) :
    ∀ g : Gateway,
      (g.processFrames clock fs).eventIds =
        g.eventIds ++ runEventIds g.config.crcEnabled g.tracker (fs.map (·.1)) ∧
      (EventsAgree g → EventsAgree (g.processFrames clock fs)) := by
  induction fs with
  | nil => intro g; exact ⟨(List.append_nil _).symm, id⟩
  | cons x fs ih =>
    intro g
    obtain ⟨hc, ht, -⟩ := g.processFrame_tally clock x.1 x.2
    obtain ⟨hids, hagree⟩ := ih (g.processFrame clock x.1 x.2)
    have hrun : g.processFrames clock (x :: fs) =
        (g.processFrame clock x.1 x.2).processFrames clock fs := rfl
    rw [hc, ht, eventIds_processFrame] at hids
    rw [hrun, hids, List.map_cons, runEventIds, List.append_assoc]
    exact ⟨rfl, fun h => hagree (h.processFrame clock x.1 x.2)⟩

end Gateway

/-- **The event log of a fresh gateway**: whatever the recording setting, the recorder, the
clock and the receive timestamps, the ids of the events published for the datagrams `fs` are
those their bytes prescribe, and the log agrees with the counters: `crc_fail_total` is the
number of `CRC_FAIL` records, `malformed_total` that of `CRC_FAIL` and `FRAME_MALFORMED`
records together, and `reorder_total` that of `SEQ_REORDER` records (modulo `2^64`). -/
theorem processFrames_event_log (c rec : Bool) (r : FrameRecorder) (clock : Nat → UInt64)
    (fs : List (List UInt8 × UInt64)) :
    let g := ({ config := { crcEnabled := c, recordEnabled := rec }, recorder := r } :
      Gateway).processFrames clock fs
    g.eventIds = runEventIds c .empty (fs.map (·.1)) ∧
      g.stats.getGlobalStats.crcFailTotal = UInt64.ofNat (g.eventIds.count .evtCrcFail) ∧
      g.stats.getGlobalStats.malformedTotal =
        UInt64.ofNat (g.eventIds.count .evtCrcFail + g.eventIds.count .evtFrameMalformed) ∧
      g.stats.getGlobalStats.reorderTotal = UInt64.ofNat (g.eventIds.count .evtSeqReorder) := by
  obtain ⟨hids, hagree⟩ := Gateway.processFrames_eventIds clock fs
    { config := { crcEnabled := c, recordEnabled := rec }, recorder := r }
  exact ⟨hids, hagree ⟨rfl, rfl, rfl⟩⟩

/-- A heartbeat from a new source, a datagram too short for a header, and the heartbeat again. -/
example : runEventIds false .empty
    [serializeHeader ⟨1, 3, 7, 0, 0, 11⟩ ++ List.replicate 11 0, [1, 1],
      serializeHeader ⟨1, 3, 7, 0, 0, 11⟩ ++ List.replicate 11 0] =
    [.evtSourceOnline, .evtHeartbeatOk, .evtFrameMalformed, .evtSeqReorder, .evtHeartbeatOk] := by
  decide

end NetNodeGateway
