import NetNodeGateway.SensorSim.Correctness.MeasurementGenerator

/-!
# Correctness of the track update counters of `MeasurementGenerator`

`generate_tracks` numbers the updates of a track with `++track_update_counts_[tid_idx]`, a
`uint16_t` counter per index `tid_idx = obj.id & 0xFFFF`.  So the `update_count` of a TRACK
frame counts, modulo `2^16`, the TRACK frames emitted so far whose `track_id` has the same low
sixteen bits, which for ids `65536` apart is not the count of that id:

* `run_updateCount_eq_tally`: on a fresh generator, for every sequence of calls, the
  `update_count` of every TRACK frame is the number of TRACK frames emitted up to and with it on
  the same counter (`trackIndex`), modulo `2^16`.
* `generateTracks_shares_counter`: ids `1` and `65537` share a counter, so the first frame for
  `65537`, sent after one for `1`, carries `update_count = 2`.
* `updateCount_eq_count_of_lt`: on a run whose `generate_tracks` calls are handed ids below
  `65536` only, which have counters of their own (`trackIndex_inj`), the `update_count` of
  every TRACK frame counts the TRACK frames of its own id.  The tracks of a run carry, in order,
  the ids handed to `generate_tracks` (`trackIds_run`).

The run invariant is `Tallied`: the counters after a stretch of structs, and the
`update_count` of every track struct in it, are the counters before plus the tally of the
track structs built so far per index.  It holds of one `trackPayload` (`Tallied.track`) and of
a struct that is not a track (`Tallied.other`), and composes (`Tallied.trans`).
-/

namespace NetNodeGateway

/-- `tid_idx`: the counter `generate_tracks` numbers the updates of a track id with. -/
def trackIndex (id : UInt32) : UInt16 := (id &&& 0xFFFF).toUInt16

/-- The track a struct is, if it is one. -/
def Payload.track? : Payload → Option TrackPayload
  | .track t => some t
  | _ => none

/-- The track a frame carries: its payload as `process_frame` reads it, if that is a
`TrackPayload`. -/
def trackOf (f : List UInt8) : Option TrackPayload :=
  (decodePayload (deserializeHeader f).msgType (f.drop frameHeaderSize)).bind Payload.track?

/-- The tracks among `os` numbered on the counter of index `idx`. -/
def tally (os : List (Option TrackPayload)) (idx : UInt16) : Nat :=
  (os.filterMap id).countP (fun t => trackIndex t.trackId == idx)

theorem tally_append (os os' : List (Option TrackPayload)) (idx : UInt16) :
    tally (os ++ os') idx = tally os idx + tally os' idx := by
  simp only [tally, List.filterMap_append, List.countP_append]

theorem uint16_ofNat_add (a b : Nat) :
    UInt16.ofNat (a + b) = UInt16.ofNat a + UInt16.ofNat b :=
  UInt16.eq_of_toBitVec_eq (BitVec.ofNat_add a b)

/-! ### The counters along a run -/

namespace MeasurementGenerator

variable (g : MeasurementGenerator) (obj : WorldObject) (m : TrackMeasurement)

@[simp] theorem trackId_trackPayload : (g.trackPayload obj m).1.trackId = obj.id := rfl

@[simp] theorem updateCount_trackPayload :
    (g.trackPayload obj m).1.updateCount = g.trackUpdateCounts (trackIndex obj.id) + 1 := rfl

theorem trackUpdateCounts_trackPayload :
    (g.trackPayload obj m).2.trackUpdateCounts = Function.update g.trackUpdateCounts
      (trackIndex obj.id) (g.trackUpdateCounts (trackIndex obj.id) + 1) := rfl

end MeasurementGenerator

/-- `Tallied g os g'`: from `g` to `g'` the generator built structs carrying the tracks `os`
(`none` for a struct that is not a track), and the counters of `g'` and the `update_count` of
every track of `os` are `g`'s counters plus the tally of the tracks built up to them. -/
structure Tallied (g : MeasurementGenerator) (os : List (Option TrackPayload))
    (g' : MeasurementGenerator) : Prop where
  counts : ∀ idx, g'.trackUpdateCounts idx = g.trackUpdateCounts idx + UInt16.ofNat (tally os idx)
  updateCount : ∀ k t, os[k]? = some (some t) → t.updateCount =
    g.trackUpdateCounts (trackIndex t.trackId) +
      UInt16.ofNat (tally (os.take (k + 1)) (trackIndex t.trackId))

namespace Tallied

variable {g g₁ g₂ : MeasurementGenerator} {os os' : List (Option TrackPayload)}

theorem nil (g : MeasurementGenerator) : Tallied g [] g :=
  ⟨fun _ => (add_zero _).symm, fun k t hk => by simp at hk⟩

theorem trans (h : Tallied g os g₁) (h' : Tallied g₁ os' g₂) : Tallied g (os ++ os') g₂ where
  counts idx := by rw [h'.counts, h.counts, tally_append, uint16_ofNat_add, add_assoc]
  updateCount k t hk := by
    rcases Nat.lt_or_ge k os.length with hlt | hge
    · rw [List.getElem?_append_left hlt] at hk
      rw [h.updateCount k t hk, List.take_append_of_le_length hlt]
    · rw [List.getElem?_append_right hge] at hk
      rw [h'.updateCount _ t hk, h.counts, List.take_append_eq_append_take,
        List.take_of_length_le (show os.length ≤ k + 1 by omega), tally_append, uint16_ofNat_add, add_assoc,
        show k + 1 - os.length = k - os.length + 1 by omega]

/-- A struct that is not a track, built without touching the counters. -/
theorem other (h : g'.trackUpdateCounts = g.trackUpdateCounts) : Tallied g [none] g' where
  counts idx := by rw [h]; exact (add_zero _).symm
  updateCount k t hk := by cases k <;> simp at hk

/-- One `TrackPayload`, numbered by `++track_update_counts_[tid_idx]`. -/
theorem track (g : MeasurementGenerator) (obj : WorldObject) (m : TrackMeasurement) :
    Tallied g [some (g.trackPayload obj m).1] (g.trackPayload obj m).2 where
  counts idx := by
    rw [MeasurementGenerator.trackUpdateCounts_trackPayload]
    by_cases hi : idx = trackIndex obj.id
    · subst hi
      simp [tally]
    · rw [Function.update_noteq hi]
      simp [tally, Ne.symm hi]
  updateCount k t hk := by
    cases k with
    | zero =>
      obtain rfl : (g.trackPayload obj m).1 = t := by simpa using hk
      simp [tally]
    | succ k => simp at hk

end Tallied

namespace MeasurementGenerator

theorem plotPayloads_tallied (g : MeasurementGenerator) (objects : List (Option PlotMeasurement)) :
    Tallied g ((g.plotPayloads objects).1.map Payload.track?) (g.plotPayloads objects).2 := by
  induction objects generalizing g with
  | nil => exact Tallied.nil g
  | cons o objects ih =>
    cases o with
    | none => exact ih g
    | some m => exact (Tallied.other rfl : Tallied g [none] (g.plotPayload m).2).trans (ih _)

theorem trackPayloads_tallied (g : MeasurementGenerator)
    (objects : List (WorldObject × TrackMeasurement)) :
    Tallied g ((g.trackPayloads objects).1.map Payload.track?) (g.trackPayloads objects).2 := by
  induction objects generalizing g with
  | nil => exact Tallied.nil g
  | cons o objects ih => exact (Tallied.track g o.1 o.2).trans (ih _)

theorem callPayloads_tallied (g : MeasurementGenerator) (c : GenCall) :
    Tallied g ((g.callPayloads c).1.map (·.1.track?)) (g.callPayloads c).2 := by
  cases c with
  | plots objects ts => simpa [callPayloads, Function.comp_def] using plotPayloads_tallied g objects
  | tracks objects ts =>
    simpa [callPayloads, Function.comp_def] using trackPayloads_tallied g objects
  | heartbeat => exact Tallied.other rfl
  | engagement => exact Tallied.other rfl

theorem runPayloads_tallied (g : MeasurementGenerator) (calls : List GenCall) :
    Tallied g ((g.runPayloads calls).1.map (·.1.track?)) (g.runPayloads calls).2 := by
  induction calls generalizing g with
  | nil => exact Tallied.nil g
  | cons c calls ih =>
    simpa only [runPayloads, List.map_append] using (callPayloads_tallied g c).trans (ih _)

end MeasurementGenerator

/-! ### The frames -/

theorem trackOf_frameOf (srcId : UInt16) (seq : UInt32) (ts : UInt64) (p : Payload) :
    trackOf (serializeHeader (frameHeader srcId seq ts p) ++ p.bytes) = p.track? := by
  have h := decodePayload_bytes p []
  rw [List.append_nil] at h
  rw [trackOf, deserializeHeader_serializeHeader, List.drop_left' (length_serializeHeader _)]
  exact congrArg (·.bind Payload.track?) h

theorem map_trackOf_framesOf (srcId : UInt16) (seq : UInt32) (ps : List (Payload × UInt64)) :
    (framesOf srcId seq ps).map trackOf = ps.map (·.1.track?) := by
  induction ps generalizing seq with
  | nil => rfl
  | cons p ps ih => simp only [framesOf, List.map_cons, trackOf_frameOf, ih]

theorem map_trackOf_run (g : MeasurementGenerator) (calls : List GenCall) :
    (g.run calls).1.map trackOf = (g.runPayloads calls).1.map (·.1.track?) := by
  rw [MeasurementGenerator.run_eq, map_trackOf_framesOf]

/-- The `update_count` of a TRACK frame of a run from a fresh generator is the tally, on its
counter, of the tracks up to and with it. -/
theorem updateCount_of_run {srcId : UInt16} {calls : List GenCall} {k : Nat} {f : List UInt8}
    {t : TrackPayload} (hf : (({ srcId := srcId } : MeasurementGenerator).run calls).1[k]? = some f)
    (ht : trackOf f = some t) :
    t.updateCount = UInt16.ofNat (tally (((({ srcId := srcId } : MeasurementGenerator).run
      calls).1.take (k + 1)).map trackOf) (trackIndex t.trackId)) := by
  have hos := map_trackOf_run { srcId := srcId } calls
  have hk : ((({ srcId := srcId } : MeasurementGenerator).runPayloads calls).1.map
      (·.1.track?))[k]? = some (some t) := by
    rw [← hos, List.getElem?_map, hf, Option.map_some', ht]
  rw [(MeasurementGenerator.runPayloads_tallied _ calls).updateCount k t hk, ← hos, List.map_take]
  exact zero_add _

/-- **Update counts**: on a fresh generator, for every sequence of calls, the `update_count` of
every TRACK frame is the number of TRACK frames emitted up to and with it whose `track_id` is
numbered on the same counter `trackIndex`, modulo `2^16`. -/
theorem run_updateCount_eq_tally (srcId : UInt16) (calls : List GenCall) :
    (let frames := (({ srcId := srcId } : MeasurementGenerator).run calls).1
     ∀ k f t, frames[k]? = some f → trackOf f = some t →
      t.updateCount = UInt16.ofNat (((frames.take (k + 1)).filterMap trackOf).countP
        (fun t' => trackIndex t'.trackId == trackIndex t.trackId))) := by
  intro frames k f t hf ht
  rw [updateCount_of_run hf ht, tally, List.filterMap_map]
  rfl

/-- A track measurement with every field `0`. -/
def zeroMeasurement : TrackMeasurement := ⟨0, 0, 0, 0, 0⟩

/-! ### The ids of the tracks -/

/-- The ids of the objects a call hands `generate_tracks`. -/
def GenCall.trackIds : GenCall → List UInt32
  | .tracks objects _ => objects.map (·.1.id)
  | _ => []

namespace MeasurementGenerator

theorem tracks_plotPayloads (g : MeasurementGenerator) (objects : List (Option PlotMeasurement)) :
    (g.plotPayloads objects).1.filterMap Payload.track? = [] := by
  induction objects generalizing g with
  | nil => rfl
  | cons o objects ih =>
    cases o <;> simp only [plotPayloads, List.filterMap_cons, Payload.track?, ih]

theorem trackIds_trackPayloads (g : MeasurementGenerator)
    (objects : List (WorldObject × TrackMeasurement)) :
    ((g.trackPayloads objects).1.filterMap Payload.track?).map (·.trackId) =
      objects.map (·.1.id) := by
  induction objects generalizing g with
  | nil => rfl
  | cons o objects ih =>
    simp only [trackPayloads, List.filterMap_cons, Payload.track?, List.map_cons, ih,
      trackId_trackPayload]

theorem trackIds_callPayloads (g : MeasurementGenerator) (c : GenCall) :
    ((g.callPayloads c).1.filterMap (·.1.track?)).map (·.trackId) = c.trackIds := by
  cases c with
  | plots objects ts =>
    simp only [callPayloads, List.filterMap_map, Function.comp_def, tracks_plotPayloads g objects,
      List.map_nil, GenCall.trackIds]
  | tracks objects ts =>
    simpa only [callPayloads, List.filterMap_map, Function.comp_def, GenCall.trackIds] using
      trackIds_trackPayloads g objects
  | heartbeat => rfl
  | engagement => rfl

/-- The TRACK structs of a run carry, in order, the ids of the objects its `generate_tracks`
calls were handed: one struct per object. -/
theorem trackIds_runPayloads (g : MeasurementGenerator) (calls : List GenCall) :
    ((g.runPayloads calls).1.filterMap (·.1.track?)).map (·.trackId) =
      calls.flatMap GenCall.trackIds := by
  induction calls generalizing g with
  | nil => rfl
  | cons c calls ih =>
    rw [runPayloads, List.filterMap_append, List.map_append, trackIds_callPayloads, ih,
      List.flatMap_cons]

end MeasurementGenerator

theorem trackIds_run (g : MeasurementGenerator) (calls : List GenCall) :
    ((g.run calls).1.filterMap trackOf).map (·.trackId) = calls.flatMap GenCall.trackIds := by
  have h := congrArg (List.filterMap id) (map_trackOf_run g calls)
  rw [List.filterMap_map, List.filterMap_map] at h
  rw [← MeasurementGenerator.trackIds_runPayloads g]
  exact congrArg (List.map (·.trackId)) h

/-! ### Ids below `65536` -/

theorem toNat_trackIndex (id : UInt32) : (trackIndex id).toNat = id.toNat % 65536 := by
  have h : id.toNat &&& 65535 = id.toNat % 65536 := Nat.and_pow_two_sub_one_eq_mod id.toNat 16
  show (id &&& 0xFFFF).toNat % 65536 = _
  rw [toNat_uint32_land, show (0xFFFF : UInt32).toNat = 65535 from rfl, h, Nat.mod_mod]

/-- Ids below `65536` are numbered on counters of their own. -/
theorem trackIndex_inj {a b : UInt32} (ha : a.toNat < 65536) (hb : b.toNat < 65536) :
    trackIndex a = trackIndex b ↔ a = b := by
  refine ⟨fun h => UInt32.toNat.inj ?_, congrArg trackIndex⟩
  have h := congrArg UInt16.toNat h
  rwa [toNat_trackIndex, toNat_trackIndex, Nat.mod_eq_of_lt ha, Nat.mod_eq_of_lt hb] at h

/-- On a run whose `generate_tracks` calls are handed ids below `65536` only, the `update_count`
of every TRACK frame is the number of TRACK frames emitted up to and with it for its own id,
modulo `2^16`. -/
theorem updateCount_eq_count_of_lt (srcId : UInt16) (calls : List GenCall)
    (hids : ∀ id ∈ calls.flatMap GenCall.trackIds, id.toNat < 65536) {k : Nat} {f : List UInt8}
    {t : TrackPayload} (hf : (({ srcId := srcId } : MeasurementGenerator).run calls).1[k]? = some f)
    (ht : trackOf f = some t) :
    t.updateCount = UInt16.ofNat ((((({ srcId := srcId } : MeasurementGenerator).run
      calls).1.take (k + 1)).filterMap trackOf).countP (fun t' => t'.trackId == t.trackId)) := by
  have hlt : ∀ t' ∈ (({ srcId := srcId } : MeasurementGenerator).run calls).1.filterMap trackOf,
      t'.trackId.toNat < 65536 := fun t' ht' =>
    hids _ (trackIds_run _ calls ▸ List.mem_map_of_mem (·.trackId) ht')
  have htl := hlt t (List.mem_filterMap.mpr ⟨f, List.getElem?_mem hf, ht⟩)
  rw [updateCount_of_run hf ht, tally, List.filterMap_map]
  refine congrArg UInt16.ofNat (List.countP_congr fun t' ht' => ?_)
  have ht'l := hlt t' ((List.take_sublist _ _).filterMap trackOf |>.subset ht')
  simp only [beq_iff_eq, trackIndex_inj ht'l htl]

theorem generateTracks_shares_counter :
    (let frames := (({ srcId := 1 } : MeasurementGenerator).generateTracks
      [(⟨1, .unknown, false⟩, zeroMeasurement), (⟨65537, .unknown, false⟩, zeroMeasurement)] 0).1
     (frames.map trackOf).map (Option.map fun t => (t.trackId, t.updateCount)) =
      [some (1, 1), some (65537, 2)]) := by
  simp only [MeasurementGenerator.generateTracks_eq, map_trackOf_framesOf]
  rfl

end NetNodeGateway
