import NetNodeGateway.SensorSim.MeasurementGenerator
import NetNodeGateway.SensorSim.FaultInjector
import NetNodeGateway.SensorSim.WorldModel
import NetNodeGateway.Common.MainArgs

/-!
# The simulation loop of `sensor_sim/sensor_sim_main.cpp`

`main` builds a `MeasurementGenerator` for source `1` and a `FaultInjector` with the configured
fault percentages, connects a `UdpFrameSink`, and runs `total_ticks` ticks.  Each tick asks the
generator for a track frame per object of `world.objects()`, then for the plots it detects, and
on every fiftieth tick for a heartbeat; passes the batch through `injector.apply`; adds the four
`uint32_t` counters of `last_stats()` to its `uint64_t` totals; and sends each frame left through
the sink, counting in `frames_sent` the sends that succeed.

Before the loop, `main` adds the objects of `generate_initial()` to the world (`worldInit`); each
tick then lets the object generator spawn, adds what it spawned, and ticks the world at
`current_time_s = tick * dt` (`worldStep`, `worldRun`).  What the measurement generator makes of
`world.objects()`, with the draws it makes, enters each tick as a `TickInput`, the values they
give that tick's frames; a theorem that needs the objects of a `TickInput` to be the world's says
so.  The sink is connected, so `send` refuses an empty buffer and sends any other as one
datagram: every frame the simulator builds holds one payload after its header, far below the
`65507` bytes of an IPv4 datagram, above which the socket would refuse it; a send that the socket
fails otherwise is not modelled.  The choice of profile, the rate
limiting, the progress and summary output and `SIGINT` are not modelled either: a run is the
list of the ticks that ran.

The options are read with the loop of `Common.MainArgs` (`SensorSimMain.parseArgs`), the
`double` values with an abstract `std::stod`; `SensorSimOptions.faultConfig` is the
`FaultConfig` `main` builds from them.
-/

namespace NetNodeGateway

/-- What the world and the generator's draws give one tick: its `timestamp_ns`; each object of
`world.objects()` with the values its track draws produce and, when its detection draw
succeeds, the values of its plot; and the load figures of the heartbeat. -/
structure TickInput where
  timestampNs : UInt64
  objects : List (WorldObject × TrackMeasurement × Option PlotMeasurement)
  cpuPct : UInt8
  memPct : UInt8

/-- The state of `main`'s loop: the generator, the injector, the datagrams the sink has sent, in
order, and the five `uint64_t` totals. -/
structure SensorSim (σ D : Type) where
  measurer : MeasurementGenerator
  injector : FaultInjector σ D
  sent : List (List UInt8) := []
  framesSent : UInt64 := 0
  framesDropped : UInt64 := 0
  framesReordered : UInt64 := 0
  framesDuplicated : UInt64 := 0
  framesCorrupted : UInt64 := 0

namespace SensorSim

variable {σ D : Type}

/-- The simulator as `main` builds it: the generator `measurer(1, seed + 100)`, the injector
with the fault configuration and the generator state `seed + 200` gives, and every total at
`0`. -/
def init (config : FaultConfig D) (rng : σ) : SensorSim σ D :=
  { measurer := { srcId := 1 }, injector := { config := config, rng := rng } }

/-- The generator calls of tick `tick`: `generate_tracks`, then `generate_plots` on the same
objects, then `generate_heartbeat` when `tick % 50 == 0`. -/
def tickCalls (tick : Nat) (w : TickInput) : List GenCall :=
  [.tracks (w.objects.map fun o => (o.1, o.2.1)) w.timestampNs,
    .plots (w.objects.map fun o => o.2.2) w.timestampNs] ++
    if tick % 50 = 0 then [.heartbeat w.cpuPct w.memPct w.timestampNs] else []

/-- `if (sink.send(frame)) frames_sent++;` -/
def send (s : SensorSim σ D) (frame : List UInt8) : SensorSim σ D :=
  if frame.isEmpty then s else { s with sent := s.sent ++ [frame], framesSent := s.framesSent + 1 }

variable [LT D] [DecidableRel (@LT.lt D _)] [OfNat D 0] (R : Rng σ D)

/-- One iteration of the loop, at tick `tick`: generate, apply the faults, add up their counts,
send. -/
def tickStep (s : SensorSim σ D) (tick : Nat) (w : TickInput) : SensorSim σ D :=
  let gen := s.measurer.run (tickCalls tick w)
  let inj := s.injector.apply R gen.1
  let st := inj.1.lastStats
  let s := { s with
    measurer := gen.2
    injector := inj.1
    framesDropped := s.framesDropped + st.dropped.toUInt64
    framesReordered := s.framesReordered + st.reordered.toUInt64
    framesDuplicated := s.framesDuplicated + st.duplicated.toUInt64
    framesCorrupted := s.framesCorrupted + st.corrupted.toUInt64 }
  inj.2.foldl send s

/-- The loop over the ticks that ran, the first of them being tick `tick`. -/
def run : SensorSim σ D → Nat → List TickInput → SensorSim σ D
  | s, _, [] => s
  | s, tick, w :: ws => run (s.tickStep R tick w) (tick + 1) ws

end SensorSim

/-! ### The world -/

namespace SensorSim

variable {τ D : Type} [OfScientific D] [LT D] [DecidableRel (@LT.lt D _)] [LE D]
  [DecidableRel (@LE.le D _)] [Add D] [Sub D] [Mul D] [Div D] [NatCast D]
  (R : GeneratorRng τ D) (cos : D → D)

/-- The world as `main` sets it up: `ObjectGenerator generator(profile, seed)`, and a world to
which `add_object` has given each object of `generator.generate_initial()`. -/
def worldInit (profile : ScenarioProfile D) (rng : τ) : ObjectGenerator τ D × WorldModel D :=
  let r := (ObjectGenerator.new profile rng).generateInitial R
  (r.2, r.1.foldl WorldModel.addObject {})

/-- The world's part of tick `tick` of `main`'s loop, at `current_time_s = tick * dt`:
`generator.maybe_spawn`, `world.add_object` of what it spawned, and `world.tick`. -/
def worldStep (dt : D) (s : ObjectGenerator τ D × WorldModel D) (tick : Nat) :
    ObjectGenerator τ D × WorldModel D :=
  let currentTimeS : D := tick * dt
  let spawned := s.1.maybeSpawn R currentTimeS
  let w := match spawned.1 with
    | some obj => s.2.addObject obj
    | none => s.2
  (spawned.2, w.tick cos dt currentTimeS)

/-- `world.objects()` after each of `n` ticks from tick `tick`, as the measurement generator
reads them. -/
def worldRun (dt : D) :
    ObjectGenerator τ D × WorldModel D → Nat → Nat → List (List (FullWorldObject D))
  | _, _, 0 => []
  | s, tick, n + 1 =>
    let s' := worldStep R cos dt s tick
    s'.2.objects :: worldRun dt s' (tick + 1) n

end SensorSim

/-! ### The command line -/

/-- The options `main` reads. -/
structure SensorSimOptions (D : Type) where
  profileName : List Char := "patrol".toList
  profileFile : List Char := []
  host : List Char := "127.0.0.1".toList
  port : UInt16 := 5000
  rateHz : D
  durationS : D
  seed : UInt32 := 42
  lossPct : D
  reorderPct : D
  duplicatePct : D
  corruptPct : D
  deriving DecidableEq, Repr

namespace SensorSimOptions

variable {D : Type}

/-- The initial values: a rate of `50.0` Hz, a duration of `10.0` s and no faults. -/
def init [OfNat D 0] [OfNat D 10] [OfNat D 50] : SensorSimOptions D :=
  { rateHz := 50, durationS := 10, lossPct := 0, reorderPct := 0, duplicatePct := 0,
    corruptPct := 0 }

/-- `nng::FaultConfig fault_config;` filled from the four percentages. -/
def faultConfig (o : SensorSimOptions D) : FaultConfig D :=
  ⟨o.lossPct, o.reorderPct, o.duplicatePct, o.corruptPct⟩

end SensorSimOptions

namespace SensorSimMain

variable {D : Type} (stod : List Char → Option D)

/-- A `double` option: `std::stod` of its value, aborting where it throws. -/
def doubleValue (v : List Char) (set : D → SensorSimOptions D) : ArgAction (SensorSimOptions D) :=
  (stod v).elim .abort fun x => .nextValue (set x)

/-- The body of `main`'s loop on `argv[i]`, `next` being `argv[i + 1]` when there is one. -/
def argStep (o : SensorSimOptions D) (arg : List Char) (next : Option (List Char)) :
    ArgAction (SensorSimOptions D) :=
  ifValue arg "--profile".toList next (fun v => .nextValue { o with profileName := v }) <|
  ifValue arg "--profile-file".toList next (fun v => .nextValue { o with profileFile := v }) <|
  ifValue arg "--host".toList next (fun v => .nextValue { o with host := v }) <|
  ifValue arg "--port".toList next
    (fun v => (stoi v).elim .abort fun p => .nextValue { o with port := castUInt16 p }) <|
  ifValue arg "--rate".toList next (fun v => doubleValue stod v fun x => { o with rateHz := x }) <|
  ifValue arg "--duration".toList next
    (fun v => doubleValue stod v fun x => { o with durationS := x }) <|
  ifValue arg "--seed".toList next
    (fun v => (stoul v).elim .abort fun n => .nextValue { o with seed := UInt32.ofNat n }) <|
  ifValue arg "--loss".toList next (fun v => doubleValue stod v fun x => { o with lossPct := x }) <|
  ifValue arg "--reorder".toList next
    (fun v => doubleValue stod v fun x => { o with reorderPct := x }) <|
  ifValue arg "--duplicate".toList next
    (fun v => doubleValue stod v fun x => { o with duplicatePct := x }) <|
  ifValue arg "--corrupt".toList next
    (fun v => doubleValue stod v fun x => { o with corruptPct := x }) <|
  ifFlag arg "--help".toList .help .unknown

/-- `main`'s loop over `argv[1], …`, from its initial values. -/
def parseArgs [OfNat D 0] [OfNat D 10] [OfNat D 50] (args : List (List Char)) :
    ArgsOutcome (SensorSimOptions D) :=
  argLoop (argStep stod) .init args

end SensorSimMain

end NetNodeGateway
