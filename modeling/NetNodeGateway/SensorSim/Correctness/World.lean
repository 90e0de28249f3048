import NetNodeGateway.SensorSim.Correctness.ObjectGenerator
import NetNodeGateway.SensorSim.Correctness.SensorSimMain
import NetNodeGateway.SensorSim.Correctness.TrackUpdates

/-!
# Correctness of the simulated world

**A tick.**  `WorldModel::tick` keeps, in order, some of the objects, moved
(`tick_sublist`); moving changes only the range, so the identity of every object survives
(`toWorldObject_moveObject`); and what it keeps is neither closer than `MIN_RANGE_M` nor past its
lifetime at the tick's time (`not_expired_of_mem_tick`).

**The world of `main`'s loop.**  The invariant `Numbered n` says that the generator has made `n`
objects, numbered `1` to `n`, and that the world holds some of them in increasing order of their
numbers.  Adding what a generator call made keeps it (`Numbered.add`), the objects taking the
numbers after `n`; a tick keeps it (`Numbered.tick`); so does the world's part of each tick of
the loop, which makes at most one object (`Numbered.worldStep`).  Since `generate_initial`
makes at most `max_objects` objects, at every tick of a run of `main` the objects the
measurement generator reads have increasing numbers, at most `max_objects` plus the number of
ticks so far, and none of them is too close or expired (`worldRun_objects`).

**The tracks of the world.**  `generate_tracks` numbers the updates of an id on the counter
`id & 0xFFFF` (`trackIndex`), which ids `65536` apart share (`generateTracks_shares_counter`).
The tracks of a run carry the ids of the objects handed to its `generate_tracks` calls
(`trackIds_run`, `trackIds_runCalls`), and those of the world are numbered from `1` and at most
`max_objects` plus the ticks run (`id_le_of_mem_worldRun`).  So while fewer than `65536`
objects can have been made, ids below `65536` have counters of their own (`trackIndex_inj`),
and the `update_count` of every TRACK frame counts the frames emitted for its own id
(`run_updateCount_eq_count`).
-/

namespace NetNodeGateway

namespace WorldModel

variable {D : Type}

theorem foldl_addObject (w : WorldModel D) (objs : List (FullWorldObject D)) :
    objs.foldl addObject w = { objects := w.objects ++ objs } := by
  induction objs generalizing w with
  | nil => simp only [List.foldl_nil, List.append_nil]
  | cons o objs ih => simp only [List.foldl_cons, ih, addObject, List.append_assoc,
      List.singleton_append]

variable [OfScientific D] [Add D] [Mul D] [Div D] (cos : D → D)

@[simp] theorem toWorldObject_moveObject (dt : D) (o : FullWorldObject D) :
    (moveObject cos dt o).toWorldObject = o.toWorldObject := rfl

variable [LT D] [DecidableRel (@LT.lt D _)]

/-- A tick keeps, in order, some of the objects, moved. -/
theorem tick_sublist (w : WorldModel D) (dt t : D) :
    (w.tick cos dt t).objects.Sublist (w.objects.map (moveObject cos dt)) :=
  List.filter_sublist _

/-- What a tick keeps is neither closer than `MIN_RANGE_M` nor past its lifetime. -/
theorem not_expired_of_mem_tick {w : WorldModel D} {dt t : D} {o : FullWorldObject D}
    (h : o ∈ (w.tick cos dt t).objects) :
    ¬o.rangeM < minRangeM ∧ ¬o.spawnTimeS + o.lifetimeS < t := by
  have hkeep := (List.mem_filter.mp h).2
  unfold expired at hkeep
  split_ifs at hkeep with h1 h2
  · exact absurd hkeep (by decide)
  · exact absurd hkeep (by decide)
  · exact ⟨h1, h2⟩

/-- A tick keeps, in order, some of the objects' numbers. -/
theorem ids_tick_sublist (w : WorldModel D) (dt t : D) :
    ((w.tick cos dt t).objects.map (·.id.toNat)).Sublist (w.objects.map (·.id.toNat)) := by
  simpa only [List.map_map, Function.comp_def] using
    (tick_sublist cos w dt t).map (·.id.toNat)

end WorldModel

namespace SensorSim

variable {τ D : Type}

/-- `Numbered n s`: the generator of `s` has made `n` objects, numbered `1` to `n`, and the
world holds some of them, in increasing order of their numbers. -/
structure Numbered (n : Nat) (s : ObjectGenerator τ D × WorldModel D) : Prop where
  next : s.1.nextId = UInt32.ofNat (n + 1)
  sorted : (s.2.objects.map (·.id.toNat)).Pairwise (· < ·)
  bounded : ∀ o ∈ s.2.objects, 1 ≤ o.id.toNat ∧ o.id.toNat ≤ n

namespace Numbered

variable {n : Nat} {g g' : ObjectGenerator τ D} {w : WorldModel D}
  {objs : List (FullWorldObject D)}

/-- Adding the objects a generator call made: they take the numbers after `n`. -/
theorem add [OfScientific D] (h : Numbered n (g, w)) (hm : ObjectGenerator.Makes g objs g')
    (hn : n + objs.length < 4294967296) :
    Numbered (n + objs.length) (g', objs.foldl WorldModel.addObject w) := by
  have hids : objs.map (·.id.toNat) = List.range' (n + 1) objs.length := by
    have hmap := congrArg (List.map UInt32.toNat) hm.ids
    rw [List.map_map, h.next] at hmap
    exact hmap.trans (map_toNat_seqRun _ _ (by omega))
  have hnew : ∀ o ∈ objs, n + 1 ≤ o.id.toNat ∧ o.id.toNat ≤ n + objs.length := fun o ho => by
    have hmem : o.id.toNat ∈ objs.map (·.id.toNat) := List.mem_map_of_mem _ ho
    rw [hids, List.mem_range'_1] at hmem
    omega
  refine ⟨by rw [hm.nextId, h.next, ← uint32_ofNat_add, Nat.add_right_comm], ?_, ?_⟩
  · rw [WorldModel.foldl_addObject, List.map_append, List.pairwise_append, hids]
    refine ⟨h.sorted, List.pairwise_lt_range' _ _, fun a ha b hb => ?_⟩
    obtain ⟨o, ho, rfl⟩ := List.mem_map.mp ha
    have := (h.bounded o ho).2
    have := (List.mem_range'_1.mp hb).1
    omega
  · intro o ho
    rw [WorldModel.foldl_addObject, List.mem_append] at ho
    rcases ho with ho | ho
    · have := h.bounded o ho
      omega
    · have := hnew o ho
      omega

/-- A tick keeps the invariant. -/
theorem tick [OfScientific D] [Add D] [Mul D] [Div D] [LT D] [DecidableRel (@LT.lt D _)]
    (cos : D → D) (h : Numbered n (g, w)) (dt t : D) : Numbered n (g, w.tick cos dt t) where
  next := h.next
  sorted := h.sorted.sublist (WorldModel.ids_tick_sublist cos w dt t)
  bounded o ho := by
    obtain ⟨o₀, ho₀, rfl⟩ := List.mem_map.mp ((WorldModel.tick_sublist cos w dt t).subset ho)
    exact h.bounded o₀ ho₀

variable [OfScientific D] [LT D] [DecidableRel (@LT.lt D _)] [LE D] [DecidableRel (@LE.le D _)]
  [Add D] [Sub D] [Mul D] [Div D] [NatCast D] (R : GeneratorRng τ D) (cos : D → D)

/-- The world's part of a tick of `main`'s loop makes at most one object and keeps the
invariant. -/
theorem worldStep {s : ObjectGenerator τ D × WorldModel D} (h : Numbered n s)
    (hn : n + 1 < 4294967296) (dt : D) (tick : Nat) :
    ∃ m, n ≤ m ∧ m ≤ n + 1 ∧ Numbered m (SensorSim.worldStep R cos dt s tick) := by
  obtain ⟨g, w⟩ := s
  have hm := ObjectGenerator.makes_maybeSpawn R g ((tick : D) * dt)
  have hlen : (g.maybeSpawn R ((tick : D) * dt)).1.toList.length ≤ 1 := by
    cases (g.maybeSpawn R ((tick : D) * dt)).1 <;> simp
  have hadd := h.add hm (by omega)
  refine ⟨n + (g.maybeSpawn R ((tick : D) * dt)).1.toList.length, Nat.le_add_right _ _,
    by omega, ?_⟩
  unfold SensorSim.worldStep
  dsimp only
  cases hs : (g.maybeSpawn R ((tick : D) * dt)).1 with
  | none =>
    rw [hs] at hadd
    exact hadd.tick cos dt _
  | some o =>
    rw [hs] at hadd
    exact hadd.tick cos dt _

end Numbered

/-- The world `main` sets up holds the objects of `generate_initial()`, at most `max_objects`
of them. -/
theorem numbered_worldInit [OfScientific D] [LT D] [DecidableRel (@LT.lt D _)]
    (R : GeneratorRng τ D) (profile : ScenarioProfile D) (rng : τ)
    (hobj : profile.minObjects ≤ profile.maxObjects)
    (hmax : profile.maxObjects.toNat < 4294967296) :
    ∃ n, n ≤ profile.maxObjects.toNat ∧ Numbered n (worldInit R profile rng) := by
  have hm := ObjectGenerator.makes_generateInitial R (ObjectGenerator.new profile rng)
  have hle : ((ObjectGenerator.new profile rng).generateInitial R).1.length ≤
      profile.maxObjects.toNat :=
    ObjectGenerator.length_generateInitial_le R (ObjectGenerator.new profile rng) hobj
  have h0 : Numbered 0 ((ObjectGenerator.new profile rng : ObjectGenerator τ D), {}) :=
    ⟨rfl, .nil, fun _ h => absurd h (List.not_mem_nil _)⟩
  have := h0.add hm (by omega)
  rw [Nat.zero_add] at this
  exact ⟨_, hle, this⟩

variable [OfScientific D] [LT D] [DecidableRel (@LT.lt D _)] [LE D] [DecidableRel (@LE.le D _)]
  [Add D] [Sub D] [Mul D] [Div D] [NatCast D] (R : GeneratorRng τ D) (cos : D → D)

/-- Along a run of the loop from a numbered world, the objects of every tick have increasing
numbers, at most one more than the ticks run so far past `n`, and none is too close or
expired at its tick's time. -/
theorem worldRun_numbered (dt : D) :
    ∀ (k : Nat) (s : ObjectGenerator τ D × WorldModel D) (n tick : Nat), Numbered n s →
      n + k < 4294967296 → ∀ j objs, (worldRun R cos dt s tick k)[j]? = some objs →
        (objs.map (·.id.toNat)).Pairwise (· < ·) ∧
        ∀ o ∈ objs, 1 ≤ o.id.toNat ∧ o.id.toNat ≤ n + (j + 1) ∧
          ¬o.rangeM < WorldModel.minRangeM ∧ ¬o.spawnTimeS + o.lifetimeS < ((tick + j : Nat) : D) * dt
  | 0, _, _, _, _, _, _, _, hj => absurd hj (by simp [worldRun])
  | k + 1, s, n, tick, h, hn, j, objs, hj => by
    obtain ⟨m, hnm, hmn, hm⟩ := h.worldStep R cos (by omega) dt tick
    cases j with
    | zero =>
      simp only [worldRun, List.getElem?_cons_zero, Option.some.injEq] at hj
      subst hj
      refine ⟨hm.sorted, fun o ho => ?_⟩
      have hb := hm.bounded o ho
      have hx := WorldModel.not_expired_of_mem_tick cos ho
      rw [Nat.add_zero]
      exact ⟨hb.1, by omega, hx⟩
    | succ j =>
      simp only [worldRun, List.getElem?_cons_succ] at hj
      obtain ⟨hsorted, hobjs⟩ := worldRun_numbered dt k _ m (tick + 1) hm (by omega) j objs hj
      refine ⟨hsorted, fun o ho => ?_⟩
      obtain ⟨h1, h2, h3⟩ := hobjs o ho
      rw [Nat.add_right_comm tick 1 j] at h3
      exact ⟨h1, by omega, h3⟩

@[simp] theorem length_worldRun (dt : D) :
    ∀ (s : ObjectGenerator τ D × WorldModel D) (tick n : Nat),
      (worldRun R cos dt s tick n).length = n
  | _, _, 0 => rfl
  | s, tick, n + 1 => by rw [worldRun, List.length_cons, length_worldRun]

/-- **The world of the simulator**: in a run of `main`'s loop of `n` ticks, on a profile with
`min_objects ≤ max_objects` and `max_objects + n` below `2^32`, the objects
`world.objects()` hands the measurement generator at tick `k` have increasing numbers, none
above `max_objects + k + 1`, and none of them is closer than `MIN_RANGE_M` or past its lifetime
at `current_time_s = k * dt`. -/
theorem worldRun_objects (profile : ScenarioProfile D) (rng : τ) (dt : D) (n : Nat)
    (hobj : profile.minObjects ≤ profile.maxObjects)
    (hn : profile.maxObjects.toNat + n < 4294967296) (k : Nat) (objs : List (FullWorldObject D))
    (hk : (worldRun R cos dt (worldInit R profile rng) 0 n)[k]? = some objs) :
    (objs.map (·.id.toNat)).Pairwise (· < ·) ∧
      ∀ o ∈ objs, 1 ≤ o.id.toNat ∧ o.id.toNat ≤ profile.maxObjects.toNat + (k + 1) ∧
        ¬o.rangeM < WorldModel.minRangeM ∧ ¬o.spawnTimeS + o.lifetimeS < (k : D) * dt := by
  obtain ⟨m, hm, hinit⟩ := numbered_worldInit R profile rng hobj (by omega)
  obtain ⟨hsorted, hobjs⟩ := worldRun_numbered R cos dt n _ m 0 hinit (by omega) k objs hk
  refine ⟨hsorted, fun o ho => ?_⟩
  obtain ⟨h1, h2, h3⟩ := hobjs o ho
  rw [Nat.zero_add] at h3
  exact ⟨h1, by omega, h3⟩

/-- The first tick of a raid, without motion: its objects have increasing numbers, at most `31`,
and none is too close or expired at time `0`. -/
theorem worldRun_objects_raid :
    (profileRaid : ScenarioProfile ℚ).minObjects ≤ (profileRaid : ScenarioProfile ℚ).maxObjects ∧
      (profileRaid : ScenarioProfile ℚ).maxObjects.toNat + 1 < 4294967296 ∧
      (worldRun ObjectGenerator.lowDraws (fun _ => 0) (1 : ℚ)
          (worldInit ObjectGenerator.lowDraws profileRaid 0) 0 1)[0]? =
        some (worldStep ObjectGenerator.lowDraws (fun _ => 0) (1 : ℚ)
          (worldInit ObjectGenerator.lowDraws profileRaid 0) 0).2.objects ∧
      ((worldStep ObjectGenerator.lowDraws (fun _ => 0) (1 : ℚ)
          (worldInit ObjectGenerator.lowDraws profileRaid 0) 0).2.objects.map
          (·.id.toNat)).Pairwise (· < ·) ∧
      ∀ o ∈ (worldStep ObjectGenerator.lowDraws (fun _ => 0) (1 : ℚ)
          (worldInit ObjectGenerator.lowDraws profileRaid 0) 0).2.objects,
        1 ≤ o.id.toNat ∧ o.id.toNat ≤ (profileRaid : ScenarioProfile ℚ).maxObjects.toNat + (0 + 1) ∧
          ¬o.rangeM < WorldModel.minRangeM ∧ ¬o.spawnTimeS + o.lifetimeS < ((0 : Nat) : ℚ) * 1 :=
  have h := worldRun_objects ObjectGenerator.lowDraws (fun _ => 0) profileRaid 0 (1 : ℚ) 1
    (by decide) (by decide) 0 _ rfl
  ⟨by decide, by decide, rfl, h.1, h.2⟩

/-! ### The tracks of the world -/

/-- The objects of a run of the world have numbers at most `max_objects` plus the ticks run. -/
theorem id_le_of_mem_worldRun {profile : ScenarioProfile D} {rng : τ} {dt : D} {n : Nat}
    (hobj : profile.minObjects ≤ profile.maxObjects)
    (hn : profile.maxObjects.toNat + n < 4294967296) {objs : List (FullWorldObject D)}
    (hobjs : objs ∈ worldRun R cos dt (worldInit R profile rng) 0 n) {o : FullWorldObject D}
    (ho : o ∈ objs) : o.id.toNat ≤ profile.maxObjects.toNat + n := by
  obtain ⟨j, hj⟩ := List.mem_iff_getElem?.mp hobjs
  have hjn := (List.getElem?_eq_some_iff.mp hj).1
  rw [length_worldRun] at hjn
  obtain ⟨m, hm, hinit⟩ := numbered_worldInit R profile rng hobj (by omega)
  have := ((worldRun_numbered R cos dt n _ m 0 hinit (by omega) j objs hj).2 o ho).2.1
  omega

/-- The ids a run of the loop hands `generate_tracks` are those of the ticks' objects. -/
theorem trackIds_runCalls : ∀ (tick : Nat) (ticks : List TickInput),
    (runCalls tick ticks).flatMap GenCall.trackIds =
      (ticks.map fun w => w.objects.map (·.1)).flatMap (List.map (·.id))
  | _, [] => rfl
  | tick, w :: ticks => by
    rw [runCalls, List.flatMap_append, trackIds_runCalls, List.map_cons, List.flatMap_cons]
    unfold tickCalls
    split <;> simp [GenCall.trackIds]

/-- **Update counts in the simulator**: in a run of `main`'s loop on a profile with
`min_objects ≤ max_objects` and `max_objects` plus the number of ticks below `65536`, whose
ticks hand the measurement generator the objects of the world, the `update_count` of every
TRACK frame the generator emits is the number of TRACK frames it has emitted so far for that
track id, this one included, modulo `2^16`. -/
theorem run_updateCount_eq_count (profile : ScenarioProfile D) (rng : τ) (dt : D)
    (hobj : profile.minObjects ≤ profile.maxObjects) (ticks : List TickInput)
    (hn : profile.maxObjects.toNat + ticks.length < 65536)
    (hticks : ticks.map (fun w => w.objects.map (·.1)) =
      (worldRun R cos dt (worldInit R profile rng) 0 ticks.length).map
        (List.map FullWorldObject.toWorldObject)) :
    (let frames := (({ srcId := 1 } : MeasurementGenerator).run (runCalls 0 ticks)).1
     ∀ k f t, frames[k]? = some f → trackOf f = some t →
       t.updateCount = UInt16.ofNat (((frames.take (k + 1)).filterMap trackOf).countP
         (fun t' => t'.trackId == t.trackId))) := by
  intro frames k f t hf ht
  refine updateCount_eq_count_of_lt 1 _ (fun id hid => ?_) hf ht
  rw [trackIds_runCalls, hticks] at hid
  obtain ⟨_, hobjs, hid⟩ := List.mem_flatMap.mp hid
  obtain ⟨objs, hrun, rfl⟩ := List.mem_map.mp hobjs
  obtain ⟨_, hw, rfl⟩ := List.mem_map.mp hid
  obtain ⟨o, ho, rfl⟩ := List.mem_map.mp hw
  have hn' : profile.maxObjects.toNat + ticks.length < 4294967296 := by omega
  have := id_le_of_mem_worldRun R cos hobj hn' hrun ho
  show o.id.toNat < 65536
  omega

/-- The first tick of a raid, its objects handed to the generator with no plot: every TRACK
frame counts the frames of its own id. -/
theorem run_updateCount_eq_count_raid :
    (profileRaid : ScenarioProfile ℚ).minObjects ≤ (profileRaid : ScenarioProfile ℚ).maxObjects ∧
      (profileRaid : ScenarioProfile ℚ).maxObjects.toNat +
          [(⟨0, (worldStep ObjectGenerator.lowDraws (fun _ => 0) (1 : ℚ)
            (worldInit ObjectGenerator.lowDraws profileRaid 0) 0).2.objects.map
              fun o => (o.toWorldObject, zeroMeasurement, none), 0, 0⟩ : TickInput)].length <
        65536 ∧
      [(⟨0, (worldStep ObjectGenerator.lowDraws (fun _ => 0) (1 : ℚ)
          (worldInit ObjectGenerator.lowDraws profileRaid 0) 0).2.objects.map
            fun o => (o.toWorldObject, zeroMeasurement, none), 0, 0⟩ : TickInput)].map
          (fun w => w.objects.map (·.1)) =
        (worldRun ObjectGenerator.lowDraws (fun _ => 0) (1 : ℚ)
          (worldInit ObjectGenerator.lowDraws profileRaid 0) 0 1).map
          (List.map FullWorldObject.toWorldObject) ∧
      ∀ k f t, (({ srcId := 1 } : MeasurementGenerator).run (runCalls 0
          [(⟨0, (worldStep ObjectGenerator.lowDraws (fun _ => 0) (1 : ℚ)
            (worldInit ObjectGenerator.lowDraws profileRaid 0) 0).2.objects.map
              fun o => (o.toWorldObject, zeroMeasurement, none), 0, 0⟩ : TickInput)])).1[k]? =
            some f → trackOf f = some t →
        t.updateCount = UInt16.ofNat ((((({ srcId := 1 } : MeasurementGenerator).run (runCalls 0
          [(⟨0, (worldStep ObjectGenerator.lowDraws (fun _ => 0) (1 : ℚ)
            (worldInit ObjectGenerator.lowDraws profileRaid 0) 0).2.objects.map
              fun o => (o.toWorldObject, zeroMeasurement, none), 0, 0⟩ : TickInput)])).1.take
                (k + 1)).filterMap trackOf).countP (fun t' => t'.trackId == t.trackId)) :=
  have hticks : [(⟨0, (worldStep ObjectGenerator.lowDraws (fun _ => 0) (1 : ℚ)
      (worldInit ObjectGenerator.lowDraws profileRaid 0) 0).2.objects.map
        fun o => (o.toWorldObject, zeroMeasurement, none), 0, 0⟩ : TickInput)].map
          (fun w => w.objects.map (·.1)) =
      (worldRun ObjectGenerator.lowDraws (fun _ => 0) (1 : ℚ)
        (worldInit ObjectGenerator.lowDraws profileRaid 0) 0 1).map
        (List.map FullWorldObject.toWorldObject) := by
    simp only [worldRun, List.map_cons, List.map_nil, List.map_map]
    rfl
  ⟨by decide, by decide, hticks, run_updateCount_eq_count ObjectGenerator.lowDraws (fun _ => 0)
    profileRaid 0 (1 : ℚ) (by decide) _ (by decide) hticks⟩

end SensorSim

end NetNodeGateway
