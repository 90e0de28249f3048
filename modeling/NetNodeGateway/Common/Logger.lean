import NetNodeGateway.Common.Protocol

/-!
# `Logger` of `common/logger.cpp`

`Logger::log` drops a message below the logger's level and otherwise writes one line: the UTC
time of the `system_clock` reading with its milliseconds, the severity and the category padded
to five and ten characters, the event name cut or padded to twenty, and the detail.

The clock reading enters as a `UtcTime`, the `std::tm` that `gmtime_r` gives, with the
milliseconds `% 1000` leaves; its fields keep the ranges of `std::tm`.  The year is taken
between 1000 and 9999, where `%Y` prints four digits.  The output is the text written to the
sink: `set_output` only moves the sink and the constructor points it at `std::cout`, so the
`if (!out_)` branch is never taken.  The mutex is not modelled; calls are taken one at a time.
-/

namespace NetNodeGateway

/-- The wire value of a `Severity`, which the level test compares. -/
def Severity.toUInt8 : Severity → UInt8
  | .debug => 0 | .info => 1 | .warn => 2 | .alarm => 3 | .error => 4 | .fatal => 5

/-- `severity_str`. -/
def severityStr : Severity → List Char
  | .debug => "DEBUG".toList
  | .info => "INFO ".toList
  | .warn => "WARN ".toList
  | .alarm => "ALARM".toList
  | .error => "ERROR".toList
  | .fatal => "FATAL".toList

/-- `category_str`. -/
def categoryStr : EventCategory → List Char
  | .tracking => "TRACKING  ".toList
  | .threat => "THREAT    ".toList
  | .iff => "IFF       ".toList
  | .engagement => "ENGAGEMENT".toList
  | .network => "NETWORK   ".toList
  | .health => "HEALTH    ".toList
  | .control => "CONTROL   ".toList

/-- A `system_clock` reading: the `std::tm` of `gmtime_r` and the milliseconds. -/
structure UtcTime where
  year : Nat
  month : Nat
  day : Nat
  hour : Nat
  minute : Nat
  second : Nat
  millis : Nat
  year_range : 1000 ≤ year ∧ year < 10000
  month_range : 1 ≤ month ∧ month ≤ 12
  day_range : 1 ≤ day ∧ day ≤ 31
  hour_lt : hour < 24
  minute_lt : minute < 60
  second_le : second ≤ 60
  millis_lt : millis < 1000

/-- The decimal digit `d`. -/
def digitChar (d : Nat) : Char := Char.ofNat (48 + d)

/-- The `w` lowest decimal digits of `n`, most significant first: the two-digit fields of
`put_time`, `%Y` of a four-digit year, and `std::setw(3)` with fill `'0'` of a count below
`1000`. -/
def decimal : Nat → Nat → List Char
  | 0, _ => []
  | w + 1, n => decimal w (n / 10) ++ [digitChar (n % 10)]

/-- `std::put_time(&utc, "%Y-%m-%dT%H:%M:%S")`, then `'.'`, the milliseconds and `'Z'`. -/
def UtcTime.iso (t : UtcTime) : List Char :=
  decimal 4 t.year ++ '-' :: decimal 2 t.month ++ '-' :: decimal 2 t.day ++
    'T' :: decimal 2 t.hour ++ ':' :: decimal 2 t.minute ++ ':' :: decimal 2 t.second ++
    '.' :: decimal 3 t.millis ++ ['Z']

/-- `evt_buf` as `<<` prints it: the first twenty characters of the name over twenty spaces,
up to the first NUL. -/
def eventField (eventName : List Char) : List Char :=
  (eventName.take 20 ++ List.replicate (20 - (eventName.take 20).length) ' ').takeWhile
    (· ≠ '\x00')

/-- The line `log` writes. -/
def logLine (now : UtcTime) (sev : Severity) (cat : EventCategory)
    (eventName detail : List Char) : List Char :=
  now.iso ++ " [".toList ++ severityStr sev ++ "] ".toList ++ "[".toList ++ categoryStr cat ++
    "] ".toList ++ eventField eventName ++ detail ++ ['\n']

/-- `Logger`: its level and the text written to its sink. -/
structure Logger where
  level : Severity := .info
  output : List Char := []

namespace Logger

/-- `set_level`. -/
def setLevel (l : Logger) (level : Severity) : Logger := { l with level := level }

/-- `log(sev, cat, event_name, detail)` at the clock reading `now`. -/
def log (l : Logger) (now : UtcTime) (sev : Severity) (cat : EventCategory)
    (eventName detail : List Char) : Logger :=
  if sev.toUInt8 < l.level.toUInt8 then l
  else { l with output := l.output ++ logLine now sev cat eventName detail }

end Logger

end NetNodeGateway
