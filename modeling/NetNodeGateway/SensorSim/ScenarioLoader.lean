import NetNodeGateway.Common.Protocol
import NetNodeGateway.Common.Text

/-!
# `load_scenario_from_string` of `sensor_sim/scenario_loader.cpp`

The loader reads a scenario profile from "JSON-like" text line by line: a line that is blank,
starts with a brace or has no colon is skipped; otherwise the text before the first colon must
hold a quoted key, and the key decides how the text after the colon is read.  The value of
`allowed_types` may run over several lines, which the loader joins until one holds `]`.  A
`std::runtime_error` is an `Except.error` carrying its message.

`double` is left abstract (`DoubleOps`): `std::stod` enters as a partial function on the text
it is given, with `static_cast<int>` and the `0.0` of a value-initialized field.  Opening and
reading the file in `load_scenario` is not modelled.
-/

namespace NetNodeGateway

/-- What the loader uses of `double`: `std::stod` (`none` where it throws), `static_cast<int>`
of the two object counts, and the value `0.0`. -/
structure DoubleOps (D : Type) where
  stod : List Char → Option D
  toInt : D → Int
  zero : D

/-- `ScenarioProfile`. -/
structure ScenarioProfile (D : Type) where
  name : List Char
  minObjects : Int
  maxObjects : Int
  allowedTypes : List TrackClass
  spawnRateHz : D
  minRangeM : D
  maxRangeM : D
  minSpeedMps : D
  maxSpeedMps : D
  hostileProbability : D
  deriving DecidableEq, Repr

/-- The keys read as numbers. -/
inductive NumberKey
  | minObjects | maxObjects | spawnRateHz | minRangeM | maxRangeM | minSpeedMps | maxSpeedMps
  | hostileProbability
  deriving DecidableEq, Repr

/-- The keys the loader reads. -/
inductive ScenarioKey
  | name | number (k : NumberKey) | allowedTypes
  deriving DecidableEq, Repr

variable {D : Type} (ops : DoubleOps D)

/-- `ScenarioProfile profile{}`: empty strings and vectors, and zeros. -/
def ScenarioProfile.init : ScenarioProfile D :=
  ⟨[], 0, 0, [], ops.zero, ops.zero, ops.zero, ops.zero, ops.zero, ops.zero⟩

/-- The assignment of a number key's branch. -/
def ScenarioProfile.setNumber (p : ScenarioProfile D) : NumberKey → D → ScenarioProfile D
  | .minObjects, x => { p with minObjects := ops.toInt x }
  | .maxObjects, x => { p with maxObjects := ops.toInt x }
  | .spawnRateHz, x => { p with spawnRateHz := x }
  | .minRangeM, x => { p with minRangeM := x }
  | .maxRangeM, x => { p with maxRangeM := x }
  | .minSpeedMps, x => { p with minSpeedMps := x }
  | .maxSpeedMps, x => { p with maxSpeedMps := x }
  | .hostileProbability, x => { p with hostileProbability := x }

namespace ScenarioLoader

/-- The set `" \t\n\r"` of the loader's `trim`. -/
def isTrimmed (c : Char) : Bool := c = ' ' ∨ c = '\t' ∨ c = '\n' ∨ c = '\r'

/-- `trim`. -/
def trim (s : List Char) : List Char := trimWith isTrimmed s

/-- `extract_string`: the text between the first and the last double quote. -/
def extractString (s : List Char) : Except String (List Char) :=
  match s.indexOf? '"', rfind s '"' with
  | some first, some last =>
    if first = last then .error ("Invalid JSON string: " ++ String.mk s)
    else .ok ((s.drop (first + 1)).take (last - first - 1))
  | _, _ => .error ("Invalid JSON string: " ++ String.mk s)

/-- `std::stod` on the text `extract_number` hands it. -/
def readNumber (t : List Char) : Except String D :=
  match ops.stod t with
  | some x => .ok x
  | none => .error ("Invalid number: " ++ String.mk t)

/-- `extract_number`: trimmed, without one trailing comma, trimmed again. -/
def extractNumber (s : List Char) : Except String D :=
  let t := trim s
  let t := if t.getLast? = some ',' then t.dropLast else t
  readNumber ops (trim t)

/-- The item test and `substr` of `extract_string_array`'s loop. -/
def quotedItem (item : List Char) : Option (List Char) :=
  if item.length ≥ 2 ∧ item.head? = some '"' ∧ item.getLast? = some '"' then
    some ((item.drop 1).take (item.length - 2))
  else none

/-- `extract_string_array`: the text between the first `[` and the first `]`, cut at commas,
each piece trimmed and kept if quoted.  The `size_t` count `close - open - 1` wraps when `]`
comes first, and `substr` then takes the rest of the text. -/
def extractStringArray (s : List Char) : Except String (List (List Char)) :=
  match s.indexOf? '[', s.indexOf? ']' with
  | some op, some cl =>
    let inner := (s.drop (op + 1)).take (if op < cl then cl - op - 1 else 2 ^ 64 + cl - op - 1)
    .ok ((getlines ',' inner).filterMap fun item => quotedItem (trim item))
  | _, _ => .error ("Invalid JSON array: " ++ String.mk s)

/-- `string_to_track_class`. -/
def stringToTrackClass (s : List Char) : Except String TrackClass :=
  if s = "UNKNOWN".toList then .ok .unknown
  else if s = "FIXED_WING".toList then .ok .fixedWing
  else if s = "ROTARY_WING".toList then .ok .rotaryWing
  else if s = "UAV_SMALL".toList then .ok .uavSmall
  else if s = "UAV_LARGE".toList then .ok .uavLarge
  else if s = "MISSILE".toList then .ok .missile
  else if s = "ROCKET_ARTILLERY".toList then .ok .rocketArtillery
  else if s = "BIRD".toList then .ok .bird
  else if s = "DECOY".toList then .ok .decoy
  else .error ("Unknown TrackClass: " ++ String.mk s)

/-- The `if` chain on the key. -/
def scenarioKey? (key : List Char) : Option ScenarioKey :=
  if key = "name".toList then some .name
  else if key = "min_objects".toList then some (.number .minObjects)
  else if key = "max_objects".toList then some (.number .maxObjects)
  else if key = "spawn_rate_hz".toList then some (.number .spawnRateHz)
  else if key = "min_range_m".toList then some (.number .minRangeM)
  else if key = "max_range_m".toList then some (.number .maxRangeM)
  else if key = "min_speed_mps".toList then some (.number .minSpeedMps)
  else if key = "max_speed_mps".toList then some (.number .maxSpeedMps)
  else if key = "hostile_probability".toList then some (.number .hostileProbability)
  else if key = "allowed_types".toList then some .allowedTypes
  else none

/-- The loop body up to the key, on the trimmed line: `none` for a line it skips, else the key
and the trimmed text after the first colon. -/
def keyValue (line : List Char) : Except String (Option (List Char × List Char)) :=
  if line = [] ∨ line.head? = some '{' ∨ line.head? = some '}' then .ok none else
  match line.indexOf? ':' with
  | none => .ok none
  | some colon => do
    let key ← extractString (line.take colon)
    return some (key, trim (line.drop (colon + 1)))

/-- The `while` of the `allowed_types` branch: the value, with each further line trimmed and
joined by a space until the value holds `]`, and the lines left in the stream. -/
def accumulateArray (arrayStr : List Char) (lines : List (List Char)) :
    List Char × List (List Char) :=
  if ']' ∈ arrayStr then (arrayStr, lines) else
  match lines with
  | [] => (arrayStr, [])
  | line :: lines => accumulateArray (arrayStr ++ ' ' :: trim line) lines

theorem length_accumulateArray_le (arrayStr : List Char) (lines : List (List Char)) :
    (accumulateArray arrayStr lines).2.length ≤ lines.length := by
  induction lines generalizing arrayStr with
  | nil => unfold accumulateArray; split <;> simp
  | cons line lines ih =>
    unfold accumulateArray
    split
    · exact le_rfl
    · exact (ih _).trans (Nat.le_succ _)

/-- The checks after the loop. -/
def finish (p : ScenarioProfile D) : Except String (ScenarioProfile D) :=
  if p.name = [] then .error "JSON missing \x27name\x27 field"
  else if p.allowedTypes = [] then .error "JSON missing or empty \x27allowed_types\x27"
  else .ok p

/-- The `while (std::getline(stream, line))` loop from `profile`, over the lines left in the
stream. -/
def loadLines (profile : ScenarioProfile D) (lines : List (List Char)) :
    Except String (ScenarioProfile D) :=
  match lines with
  | [] => finish profile
  | line :: lines => do
    match ← keyValue (trim line) with
    | none => loadLines profile lines
    | some (key, valuePart) =>
      match scenarioKey? key with
      | none => loadLines profile lines
      | some .name => do
        let name ← extractString valuePart
        loadLines { profile with name := name } lines
      | some (.number k) => do
        let x ← extractNumber ops valuePart
        loadLines (profile.setNumber ops k x) lines
      | some .allowedTypes => do
        let arr := accumulateArray valuePart lines
        let typeStrs ← extractStringArray arr.1
        let types ← typeStrs.mapM stringToTrackClass
        loadLines { profile with allowedTypes := profile.allowedTypes ++ types } arr.2
termination_by lines.length
decreasing_by
  all_goals simp_wf
  all_goals first
    | omega
    | exact Nat.lt_succ_of_le (length_accumulateArray_le _ _)

/-- `load_scenario_from_string(json_content)`. -/
def loadScenarioFromString (json : List Char) : Except String (ScenarioProfile D) :=
  loadLines ops (ScenarioProfile.init ops) (getlines '\n' json)

end ScenarioLoader

end NetNodeGateway
