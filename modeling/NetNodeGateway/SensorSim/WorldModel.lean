import NetNodeGateway.SensorSim.ObjectGenerator

/-!
# `WorldModel` of `sensor_sim/world_model.cpp`

The world holds its objects in the order they were added.  A tick moves each object radially by
`speed_mps * cos(heading_rad) * dt` and then removes, keeping the order of the others, those
closer than `MIN_RANGE_M = 50.0` and those whose lifetime has run out.

`std::cos` is a parameter `cos`.  The tangential step of the azimuth, and its normalisation to
`[0, 360)`, are left out with the azimuth itself (see `FullWorldObject`): nothing the model
reads depends on them.
-/

namespace NetNodeGateway

/-- `WorldModel`: `objects_`. -/
structure WorldModel (D : Type) where
  objects : List (FullWorldObject D) := []

namespace WorldModel

variable {D : Type} [OfScientific D]

/-- `MIN_RANGE_M`. -/
def minRangeM : D := 50.0

/-- `DEG_TO_RAD`. -/
def degToRad [Div D] : D := 3.14159265358979323846 / 180.0

/-- `add_object(obj)`. -/
def addObject (w : WorldModel D) (obj : FullWorldObject D) : WorldModel D :=
  { objects := w.objects ++ [obj] }

variable [Add D] [Mul D] [Div D] (cos : D → D)

/-- The radial step of an object in `tick(dt, …)`:
`range_m += speed_mps * std::cos(heading_deg * DEG_TO_RAD) * dt`. -/
def moveObject (dt : D) (obj : FullWorldObject D) : FullWorldObject D :=
  { obj with rangeM := obj.rangeM + obj.speedMps * cos (obj.headingDeg * degToRad) * dt }

variable [LT D] [DecidableRel (@LT.lt D _)]

/-- The predicate `tick` hands `std::remove_if`: too close, or past its lifetime
(`current_time_s > spawn_time_s + lifetime_s`). -/
def expired (currentTimeS : D) (obj : FullWorldObject D) : Bool :=
  if obj.rangeM < minRangeM then true
  else if obj.spawnTimeS + obj.lifetimeS < currentTimeS then true
  else false

/-- `tick(dt, current_time_s)`: every object moved, then the expired ones erased. -/
def tick (w : WorldModel D) (dt currentTimeS : D) : WorldModel D :=
  { objects := (w.objects.map (moveObject cos dt)).filter fun obj => !expired currentTimeS obj }

end WorldModel

end NetNodeGateway
