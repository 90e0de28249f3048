import NetNodeGateway.Common.Bytes
import Mathlib.Data.UInt
import Mathlib.Algebra.BigOperators.Group.List

/-!
# `StatsManager` of `gateway/stats_manager.cpp`

The global counters and the per-source entries.  The `unordered_map` of sources is a list of
`(key, entry)` pairs in insertion order (its iteration order is unspecified, and nothing here
depends on it); `getOrCreateSource` is `get_or_create_source` together with the change the
caller makes through the reference it returns.  The counters are `uint64_t` and wrap.  The
reader–writer lock only serializes the operations, so each is one step on the state.
-/

namespace NetNodeGateway

/-- `GlobalStats`. -/
structure GlobalStats where
  rxTotal : UInt64 := 0
  malformedTotal : UInt64 := 0
  gapTotal : UInt64 := 0
  reorderTotal : UInt64 := 0
  duplicateTotal : UInt64 := 0
  crcFailTotal : UInt64 := 0
  deriving DecidableEq, Repr

/-- `SourceStats`. -/
structure SourceStats where
  srcId : UInt16 := 0
  rxCount : UInt64 := 0
  malformed : UInt64 := 0
  gaps : UInt64 := 0
  reorders : UInt64 := 0
  duplicates : UInt64 := 0
  lastSeq : UInt32 := 0
  lastTsNs : UInt64 := 0
  deriving DecidableEq, Repr

/-- `HealthState`. -/
inductive HealthState
  | ok | degraded | error
  deriving DecidableEq, Repr

/-- `StatsManager`: the global counters and the source map. -/
structure StatsManager where
  global : GlobalStats := {}
  sources : List (UInt16 × SourceStats) := []
  deriving DecidableEq, Repr

namespace StatsManager

/-- `get_or_create_source(src_id)`, then the change `f` made to the entry it returns: the entry
is created with `src_id` set when the map has none for that key. -/
def getOrCreateSource (m : StatsManager) (srcId : UInt16) (f : SourceStats → SourceStats) :
    List (UInt16 × SourceStats) :=
  if m.sources.any (·.1 == srcId) then
    m.sources.map fun e => if e.1 = srcId then (e.1, f e.2) else e
  else m.sources ++ [(srcId, f { srcId := srcId })]

/-- `record_rx`. -/
def recordRx (m : StatsManager) (srcId : UInt16) (seq : UInt32) (tsNs : UInt64) : StatsManager :=
  { global := { m.global with rxTotal := m.global.rxTotal + 1 }
    sources := m.getOrCreateSource srcId fun s =>
      { s with rxCount := s.rxCount + 1, lastSeq := seq, lastTsNs := tsNs } }

/-- `record_malformed`. -/
def recordMalformed (m : StatsManager) (srcId : UInt16) : StatsManager :=
  { global := { m.global with malformedTotal := m.global.malformedTotal + 1 }
    sources := m.getOrCreateSource srcId fun s => { s with malformed := s.malformed + 1 } }

/-- `record_gap`: both counters grow by the size of the gap. -/
def recordGap (m : StatsManager) (srcId : UInt16) (gapSize : UInt32) : StatsManager :=
  { global := { m.global with gapTotal := m.global.gapTotal + gapSize.toUInt64 }
    sources := m.getOrCreateSource srcId fun s => { s with gaps := s.gaps + gapSize.toUInt64 } }

/-- `record_reorder`. -/
def recordReorder (m : StatsManager) (srcId : UInt16) : StatsManager :=
  { global := { m.global with reorderTotal := m.global.reorderTotal + 1 }
    sources := m.getOrCreateSource srcId fun s => { s with reorders := s.reorders + 1 } }

/-- `record_duplicate`. -/
def recordDuplicate (m : StatsManager) (srcId : UInt16) : StatsManager :=
  { global := { m.global with duplicateTotal := m.global.duplicateTotal + 1 }
    sources := m.getOrCreateSource srcId fun s => { s with duplicates := s.duplicates + 1 } }

/-- `record_crc_fail`: the global CRC counter and the source's `malformed` counter. -/
def recordCrcFail (m : StatsManager) (srcId : UInt16) : StatsManager :=
  { global := { m.global with crcFailTotal := m.global.crcFailTotal + 1 }
    sources := m.getOrCreateSource srcId fun s => { s with malformed := s.malformed + 1 } }

/-- `get_global_stats`. -/
def getGlobalStats (m : StatsManager) : GlobalStats := m.global

/-- `get_source_stats`: the entry, or a default `SourceStats` for an unknown id. -/
def getSourceStats (m : StatsManager) (srcId : UInt16) : SourceStats :=
  ((m.sources.find? (·.1 == srcId)).map (·.2)).getD {}

/-- `get_all_source_stats`. -/
def getAllSourceStats (m : StatsManager) : List SourceStats := m.sources.map (·.2)

/-- `get_health`. -/
def getHealth (m : StatsManager) : HealthState :=
  if m.global.malformedTotal > 0 ∨ m.global.crcFailTotal > 0 then .error
  else if m.global.gapTotal > 0 ∨ m.global.reorderTotal > 0 then .degraded
  else .ok

/-- `reset`: all counters to zero and no sources. -/
def reset (_ : StatsManager) : StatsManager := {}

end StatsManager

end NetNodeGateway
