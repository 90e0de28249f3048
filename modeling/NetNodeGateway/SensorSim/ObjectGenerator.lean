import NetNodeGateway.SensorSim.MeasurementGenerator
import NetNodeGateway.SensorSim.ScenarioLoader

/-!
# `ObjectGenerator` of `sensor_sim/object_generator.cpp`

`make_object` numbers its objects with the `uint32_t` counter `next_id_`, from `1`, and draws
the other fields from the Mersenne Twister `rng_` in this order: the index of the classification
in `allowed_types`, then the lifetime, azimuth, elevation, range, speed and heading, then the
noise of the radar cross-section, and last the draw compared with `hostile_probability`.
`generate_initial` draws a count and makes that many objects at time `0.0`; `maybe_spawn` makes
one when `spawn_rate_hz` is positive and `1.0 / spawn_rate_hz` seconds have passed since the last
spawn.

As in the fault injector, the Mersenne Twister enters as a generator with any type `σ` of states
and the four distributions the generator draws from (`GeneratorRng`), of which only the range
of the two integer ones is assumed.  `double` is any type `D` with its literals, arithmetic and
comparisons.

`FullWorldObject` keeps, besides the fields of `WorldObject` that `generate_tracks` reads, those
the world's motion and pruning read.  The azimuth, the elevation, the radar cross-section and
the noise figure are read only by the floating-point measurement of plots and tracks, which the
model takes as drawn values, so they are left out; their draws are made all the same, so that
the generator's state follows the source's.
-/

namespace NetNodeGateway

/-- `WorldObject` with the fields the world model reads: when the object was spawned and for how
long it lives, and its range, speed and heading. -/
structure FullWorldObject (D : Type) extends WorldObject where
  spawnTimeS : D
  lifetimeS : D
  rangeM : D
  speedMps : D
  headingDeg : D
  deriving DecidableEq, Repr

/-- The draws of the generator's `rng_` from the state `σ`: `uniformInt a b` is
`std::uniform_int_distribution<int>(a, b)`, which lies in `[a, b]` when `a ≤ b`;
`uniformIndex n` is `std::uniform_int_distribution<size_t>(0, n)`, which lies in `[0, n]`;
`uniformReal a b` is `std::uniform_real_distribution<double>(a, b)`; and `normal m s` is
`std::normal_distribution<double>(m, s)`. -/
structure GeneratorRng (σ D : Type) where
  uniformInt : Int → Int → σ → Int × σ
  uniformInt_le : ∀ a b s, a ≤ b → (uniformInt a b s).1 ≤ b
  uniformIndex : Nat → σ → Nat × σ
  uniformIndex_le : ∀ n s, (uniformIndex n s).1 ≤ n
  uniformReal : D → D → σ → D × σ
  normal : D → D → σ → D × σ

/-- `ObjectGenerator`: its profile, the state of `rng_`, `next_id_` and `last_spawn_time_`. -/
structure ObjectGenerator (σ D : Type) where
  profile : ScenarioProfile D
  rng : σ
  nextId : UInt32 := 1
  lastSpawnTime : D

variable {σ D : Type} [OfScientific D]

/-! ### The built-in profiles -/

/-- `profile_idle()`. -/
def profileIdle : ScenarioProfile D :=
  ⟨"idle".toList, 0, 2, [.bird, .unknown], 0.01, 1000.0, 15000.0, 5.0, 30.0, 0.0⟩

/-- `profile_patrol()`. -/
def profilePatrol : ScenarioProfile D :=
  ⟨"patrol".toList, 3, 8, [.fixedWing, .rotaryWing, .uavSmall], 0.1, 5000.0, 30000.0, 50.0,
    300.0, 0.3⟩

/-- `profile_raid()`. -/
def profileRaid : ScenarioProfile D :=
  ⟨"raid".toList, 10, 30, [.uavSmall, .missile, .rocketArtillery], 1.0, 3000.0, 25000.0, 100.0,
    600.0, 0.8⟩

/-- `profile_stress()`. -/
def profileStress : ScenarioProfile D :=
  ⟨"stress".toList, 50, 100,
    [.fixedWing, .rotaryWing, .uavSmall, .uavLarge, .missile, .rocketArtillery, .bird, .decoy,
      .unknown],
    10.0, 1000.0, 40000.0, 10.0, 800.0, 0.5⟩

namespace ObjectGenerator

/-- `ObjectGenerator(profile, seed)`, `rng` being the state `seed` gives the Mersenne Twister. -/
def new (profile : ScenarioProfile D) (rng : σ) : ObjectGenerator σ D :=
  { profile, rng, lastSpawnTime := 0.0 }

variable [LT D] [DecidableRel (@LT.lt D _)] (R : GeneratorRng σ D)

/-- `make_object(spawn_time_s)`: the object numbered `next_id_`, with its draws.  An empty
`allowed_types`, which neither the loader (it throws) nor a built-in profile gives, would make
`size() - 1` wrap and index outside the vector; the model reads `UNKNOWN` there. -/
def makeObject (g : ObjectGenerator σ D) (spawnTimeS : D) :
    FullWorldObject D × ObjectGenerator σ D :=
  let typeIdx := R.uniformIndex (g.profile.allowedTypes.length - 1) g.rng
  let lifetime := R.uniformReal 10.0 120.0 typeIdx.2
  let azimuth := R.uniformReal 0.0 360.0 lifetime.2
  let elevation := R.uniformReal 0.5 45.0 azimuth.2
  let range := R.uniformReal g.profile.minRangeM g.profile.maxRangeM elevation.2
  let speed := R.uniformReal g.profile.minSpeedMps g.profile.maxSpeedMps range.2
  let heading := R.uniformReal 0.0 360.0 speed.2
  let rcsNoise := R.normal 0.0 2.0 heading.2
  let hostile := R.uniformReal 0.0 1.0 rcsNoise.2
  ({ id := g.nextId, classification := g.profile.allowedTypes.getD typeIdx.1 .unknown,
     isHostile := decide (hostile.1 < g.profile.hostileProbability), spawnTimeS,
     lifetimeS := lifetime.1, rangeM := range.1, speedMps := speed.1, headingDeg := heading.1 },
   { g with rng := hostile.2, nextId := g.nextId + 1 })

/-- `count` objects made in a row at `spawnTimeS`. -/
def makeObjects (spawnTimeS : D) :
    ObjectGenerator σ D → Nat → List (FullWorldObject D) × ObjectGenerator σ D
  | g, 0 => ([], g)
  | g, count + 1 =>
    let o := g.makeObject R spawnTimeS
    let r := makeObjects spawnTimeS o.2 count
    (o.1 :: r.1, r.2)

/-- `generate_initial()`: `count_dist(rng_)` objects made at time `0.0`; a negative count makes
none. -/
def generateInitial (g : ObjectGenerator σ D) : List (FullWorldObject D) × ObjectGenerator σ D :=
  let count := R.uniformInt g.profile.minObjects g.profile.maxObjects g.rng
  makeObjects R 0.0 { g with rng := count.2 } count.1.toNat

variable [LE D] [DecidableRel (@LE.le D _)] [Sub D] [Div D]

/-- `maybe_spawn(current_time_s)`. -/
def maybeSpawn (g : ObjectGenerator σ D) (currentTimeS : D) :
    Option (FullWorldObject D) × ObjectGenerator σ D :=
  if g.profile.spawnRateHz ≤ 0.0 then (none, g)
  else
    let interval : D := 1.0 / g.profile.spawnRateHz
    if interval ≤ currentTimeS - g.lastSpawnTime then
      let o := makeObject R { g with lastSpawnTime := currentTimeS } currentTimeS
      (some o.1, o.2)
    else (none, g)

/-- A call of one of the generator's public methods. -/
inductive Call (D : Type)
  | generateInitial
  | maybeSpawn (currentTimeS : D)

/-- The objects one call returns, and the generator after it. -/
def call (g : ObjectGenerator σ D) : Call D → List (FullWorldObject D) × ObjectGenerator σ D
  | .generateInitial => g.generateInitial R
  | .maybeSpawn t => let r := g.maybeSpawn R t; (r.1.toList, r.2)

/-- A sequence of calls on one generator: every object returned, in order. -/
def run (g : ObjectGenerator σ D) :
    List (Call D) → List (FullWorldObject D) × ObjectGenerator σ D
  | [] => ([], g)
  | c :: calls =>
    let r := g.call R c
    let r' := r.2.run calls
    (r.1 ++ r'.1, r'.2)

end ObjectGenerator

end NetNodeGateway
