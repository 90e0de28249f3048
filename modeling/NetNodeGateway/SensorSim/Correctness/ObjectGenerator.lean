import NetNodeGateway.SensorSim.ObjectGenerator
import NetNodeGateway.SensorSim.Correctness.MeasurementGenerator
import Mathlib.Data.Rat.Defs

/-!
# Correctness of `ObjectGenerator`

**Object ids.**  Every object takes the next `next_id_`, so a call of `generate_initial` or
`maybe_spawn`, and any sequence of calls, makes objects numbered on from the generator's counter
(`Makes`, `makes_call`, `makes_run`).  From a fresh generator the objects returned are numbered
`1, 2, 3, …` in the order they are returned, short of a wrap of the counter, and each is of a
class of the profile's `allowed_types` (`run_ids`).

**Spawning.**  `maybe_spawn` makes an object only when `spawn_rate_hz` is positive and at least
`1.0 / spawn_rate_hz` has passed since `last_spawn_time_`, which it then moves to the current
time (`maybeSpawn_cases`).  Over any sequence of calls the spawn times are thus among the call
times, each an interval after the spawn before it (`run_spawnTimes`).
-/

namespace NetNodeGateway

/-- Numbers `a` in a row, then `b` more. -/
theorem seqRun_append (s : UInt32) (a b : Nat) :
    seqRun s (a + b) = seqRun s a ++ seqRun (s + UInt32.ofNat a) b := by
  induction a generalizing s with
  | zero => simp only [Nat.zero_add, seqRun, List.nil_append, uint32_ofNat_zero, add_zero]
  | succ a ih => rw [Nat.add_right_comm, seqRun, seqRun, ih, add_ofNat_succ, List.cons_append]

namespace ObjectGenerator

variable {σ D : Type}

/-! ### The objects a call makes -/

/-- `Makes g objs g'`: from `g` to `g'` the generator made the objects `objs`, numbered on from
`g`'s `next_id_`, each of a class its profile allows, and kept its profile. -/
structure Makes (g : ObjectGenerator σ D) (objs : List (FullWorldObject D))
    (g' : ObjectGenerator σ D) : Prop where
  ids : objs.map (·.id) = seqRun g.nextId objs.length
  nextId : g'.nextId = g.nextId + UInt32.ofNat objs.length
  profile : g'.profile = g.profile
  classes : g.profile.allowedTypes ≠ [] → ∀ o ∈ objs, o.classification ∈ g.profile.allowedTypes

namespace Makes

variable {g g₀ g₁ g₂ : ObjectGenerator σ D} {objs objs' : List (FullWorldObject D)}

theorem nil (g : ObjectGenerator σ D) : Makes g [] g :=
  ⟨rfl, by rw [List.length_nil, uint32_ofNat_zero, add_zero], rfl,
    fun _ _ h => absurd h (List.not_mem_nil _)⟩

theorem trans (h : Makes g objs g₁) (h' : Makes g₁ objs' g₂) : Makes g (objs ++ objs') g₂ where
  ids := by rw [List.map_append, h.ids, h'.ids, h.nextId, List.length_append, seqRun_append]
  nextId := by rw [h'.nextId, h.nextId, List.length_append, uint32_ofNat_add, add_assoc]
  profile := h'.profile.trans h.profile
  classes hne o ho := by
    rcases List.mem_append.mp ho with ho | ho
    · exact h.classes hne o ho
    · rw [← h.profile] at hne ⊢
      exact h'.classes hne o ho

/-- Only the counter and the profile of the generator a call starts from matter. -/
theorem of_start (h : Makes g₀ objs g') (hn : g₀.nextId = g.nextId)
    (hp : g₀.profile = g.profile) : Makes g objs g' where
  ids := hn ▸ h.ids
  nextId := hn ▸ h.nextId
  profile := hp ▸ h.profile
  classes := hp ▸ h.classes

end Makes

variable [OfScientific D] [LT D] [DecidableRel (@LT.lt D _)] (R : GeneratorRng σ D)

/-! ### One object -/

section MakeObject

variable (g : ObjectGenerator σ D) (t : D)

@[simp] theorem spawnTimeS_makeObject : (g.makeObject R t).1.spawnTimeS = t := rfl

@[simp] theorem lastSpawnTime_makeObject :
    (g.makeObject R t).2.lastSpawnTime = g.lastSpawnTime := rfl

@[simp] theorem profile_makeObject : (g.makeObject R t).2.profile = g.profile := rfl

/-- The drawn index lies in `[0, size() - 1]`, so a non-empty `allowed_types` is read inside. -/
theorem classification_makeObject_mem (hne : g.profile.allowedTypes ≠ []) :
    (g.makeObject R t).1.classification ∈ g.profile.allowedTypes := by
  have hi := R.uniformIndex_le (g.profile.allowedTypes.length - 1) g.rng
  have hpos := List.length_pos.mpr hne
  show g.profile.allowedTypes.getD _ _ ∈ _
  rw [List.getD_eq_getElem?_getD, List.getElem?_eq_getElem (by omega), Option.getD_some]
  exact List.getElem_mem _

end MakeObject

theorem makes_makeObject (g : ObjectGenerator σ D) (t : D) :
    Makes g [(g.makeObject R t).1] (g.makeObject R t).2 where
  ids := rfl
  nextId := rfl
  profile := rfl
  classes hne o ho := by
    rw [List.mem_singleton.mp ho]
    exact classification_makeObject_mem R g t hne

theorem makes_makeObjects (t : D) (g : ObjectGenerator σ D) (n : Nat) :
    Makes g (makeObjects R t g n).1 (makeObjects R t g n).2 := by
  induction n generalizing g with
  | zero => exact Makes.nil g
  | succ n ih => exact (makes_makeObject R g t).trans (ih _)

@[simp] theorem length_makeObjects (t : D) (g : ObjectGenerator σ D) (n : Nat) :
    (makeObjects R t g n).1.length = n := by
  induction n generalizing g with
  | zero => rfl
  | succ n ih => exact congrArg Nat.succ (ih _)

theorem makes_generateInitial (g : ObjectGenerator σ D) :
    Makes g (g.generateInitial R).1 (g.generateInitial R).2 :=
  (makes_makeObjects R _ _ _).of_start rfl rfl

/-- With `min_objects ≤ max_objects`, `generate_initial` makes at most `max_objects` objects. -/
theorem length_generateInitial_le (g : ObjectGenerator σ D)
    (h : g.profile.minObjects ≤ g.profile.maxObjects) :
    (g.generateInitial R).1.length ≤ g.profile.maxObjects.toNat := by
  rw [generateInitial, length_makeObjects]
  exact Int.toNat_le_toNat (R.uniformInt_le _ _ g.rng h)

variable [LE D] [DecidableRel (@LE.le D _)] [Sub D] [Div D]

/-- `maybe_spawn` returns nothing and leaves the generator as it was, or spawns at the current
time an interval after the last spawn, which it moves to the current time. -/
theorem maybeSpawn_cases (g : ObjectGenerator σ D) (t : D) :
    g.maybeSpawn R t = (none, g) ∨
      (¬g.profile.spawnRateHz ≤ 0.0 ∧ 1.0 / g.profile.spawnRateHz ≤ t - g.lastSpawnTime ∧
        (g.maybeSpawn R t).1.map (·.spawnTimeS) = some t ∧
        (g.maybeSpawn R t).2.lastSpawnTime = t) := by
  unfold maybeSpawn
  dsimp only
  split_ifs with h0 h1
  · exact .inl rfl
  · exact .inr ⟨h0, h1, rfl, rfl⟩
  · exact .inl rfl

theorem maybeSpawn_of_nonpos (g : ObjectGenerator σ D) (t : D)
    (h : g.profile.spawnRateHz ≤ 0.0) : g.maybeSpawn R t = (none, g) := by
  simp only [maybeSpawn, h, if_true]

theorem makes_maybeSpawn (g : ObjectGenerator σ D) (t : D) :
    Makes g (g.maybeSpawn R t).1.toList (g.maybeSpawn R t).2 := by
  unfold maybeSpawn
  dsimp only
  split_ifs
  · exact Makes.nil g
  · exact (makes_makeObject R _ t).of_start rfl rfl
  · exact Makes.nil g

theorem makes_call (g : ObjectGenerator σ D) (c : Call D) :
    Makes g (g.call R c).1 (g.call R c).2 := by
  cases c with
  | generateInitial => exact makes_generateInitial R g
  | maybeSpawn t => exact makes_maybeSpawn R g t

theorem makes_run (g : ObjectGenerator σ D) (calls : List (Call D)) :
    Makes g (g.run R calls).1 (g.run R calls).2 := by
  induction calls generalizing g with
  | nil => exact Makes.nil g
  | cons c calls ih => exact (makes_call R g c).trans (ih _)

/-- **Object ids**: whatever sequence of `generate_initial` and `maybe_spawn` calls a fresh
generator serves, the objects it returns are numbered `1, 2, 3, …` in the order it returns
them, as long as fewer than `2^32` are made, and each is of a class its profile allows. -/
theorem run_ids (profile : ScenarioProfile D) (rng : σ) (calls : List (Call D))
    (hne : profile.allowedTypes ≠ [])
    (hcount : ((new profile rng).run R calls).1.length < 4294967296) :
    ((new profile rng).run R calls).1.map (·.id.toNat) =
        List.range' 1 ((new profile rng).run R calls).1.length ∧
      ∀ o ∈ ((new profile rng).run R calls).1, o.classification ∈ profile.allowedTypes := by
  have h := makes_run R (new profile rng) calls
  refine ⟨?_, h.classes hne⟩
  have hids := congrArg (List.map UInt32.toNat) h.ids
  rw [List.map_map] at hids
  exact hids.trans (map_toNat_seqRun 1 _ (by omega))

/-- Draws at the low end of every distribution, the state counting the draws. -/
def lowDraws {D : Type} : GeneratorRng Nat D :=
  ⟨fun a _ s => (a, s + 1), fun _ _ _ h => h, fun _ s => (0, s + 1), fun _ _ => Nat.zero_le _,
    fun a _ s => (a, s + 1), fun m _ s => (m, s + 1)⟩

/-- Two calls of `generate_initial` on the raid profile make ten objects each, numbered `1` to
`20`. -/
theorem run_ids_raid :
    (profileRaid : ScenarioProfile ℚ).allowedTypes ≠ [] ∧
      ((new (profileRaid : ScenarioProfile ℚ) 0).run lowDraws
        [.generateInitial, .generateInitial]).1.length = 20 ∧
      ((new (profileRaid : ScenarioProfile ℚ) 0).run lowDraws
        [.generateInitial, .generateInitial]).1.map (·.id.toNat) = List.range' 1 20 := by
  have hlen : ((new (profileRaid : ScenarioProfile ℚ) 0).run lowDraws
      [.generateInitial, .generateInitial]).1.length = 20 := by decide
  refine ⟨by decide, hlen, ?_⟩
  rw [(run_ids lowDraws profileRaid 0 [.generateInitial, .generateInitial] (by decide)
    (by rw [hlen]; decide)).1, hlen]

/-- **Spawning**: over any sequence of `maybe_spawn` calls, the objects spawned carry times
taken in order from the calls' times, each at least `1.0 / spawn_rate_hz` after the spawn before
it, the first after `last_spawn_time_`; and none is spawned when `spawn_rate_hz ≤ 0.0`. -/
theorem run_spawnTimes (g : ObjectGenerator σ D) (ts : List D) :
    ((g.run R (ts.map .maybeSpawn)).1.map (·.spawnTimeS)).Sublist ts ∧
      List.Chain (fun a b => 1.0 / g.profile.spawnRateHz ≤ b - a) g.lastSpawnTime
        ((g.run R (ts.map .maybeSpawn)).1.map (·.spawnTimeS)) ∧
      (g.profile.spawnRateHz ≤ 0.0 → (g.run R (ts.map .maybeSpawn)).1 = []) := by
  induction ts generalizing g with
  | nil => exact ⟨.slnil, .nil, fun _ => rfl⟩
  | cons t ts ih =>
    have hp : (g.maybeSpawn R t).2.profile = g.profile := (makes_maybeSpawn R g t).profile
    obtain ⟨hsub, hchain, hnone⟩ := ih (g.maybeSpawn R t).2
    rw [hp] at hchain hnone
    simp only [List.map_cons, run, call, List.map_append]
    rcases maybeSpawn_cases R g t with h | ⟨h0, hint, hsome, hlast⟩
    · rw [h] at hsub hchain hnone ⊢
      exact ⟨hsub.cons t, hchain, hnone⟩
    · rw [hlast] at hchain
      cases hso : (g.maybeSpawn R t).1 with
      | none => simp only [hso, Option.map_none', reduceCtorEq] at hsome
      | some o =>
        simp only [hso, Option.map_some', Option.some.injEq] at hsome
        simp only [Option.toList_some, List.singleton_append, List.map_cons, hsome]
        exact ⟨hsub.cons₂ t, .cons hint hchain, fun h => absurd h h0⟩

end ObjectGenerator

end NetNodeGateway
