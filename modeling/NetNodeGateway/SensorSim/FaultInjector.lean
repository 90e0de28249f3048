import Mathlib.Data.List.InsertIdx

/-!
# `FaultInjector` of `sensor_sim/fault_injector.cpp`

`apply` damages a batch of frames in place in four stages, each run only when its percentage is
above `0.0`: it flips one byte of some frames, inserts copies of some frames at drawn positions,
drops some frames, and swaps some adjacent pairs, counting each kind of fault in a `uint32_t`
field of `last_stats_`.

The Mersenne Twister enters as a generator with any type `σ` of states and the two draws
`apply` makes: `pct`, the `uniform_real_distribution<double>(0.0, 100.0)` draw, and
`uniform n`, a `uniform_int_distribution<size_t>(0, n)` draw, of which only its range is
assumed.  The percentages are of any type `D` with a decidable `<` and a `0`, which `double`
(`Float`) is; nothing else about them is used.  `std::remove_if` calls its predicate once per
frame, front to back, and keeps the order of the frames it keeps.
-/

namespace NetNodeGateway

/-- `FaultConfig`, over the type `D` of its `double` percentages. -/
structure FaultConfig (D : Type) where
  lossPct : D
  reorderPct : D
  duplicatePct : D
  corruptPct : D

/-- `FaultInjector::FaultStats`. -/
structure FaultStats where
  dropped : UInt32 := 0
  reordered : UInt32 := 0
  duplicated : UInt32 := 0
  corrupted : UInt32 := 0
  deriving DecidableEq, Repr

/-- The draws `apply` makes from the generator state `σ`: `pct` is `pct(rng_)`, and
`uniform n` is `std::uniform_int_distribution<size_t>(0, n)(rng_)`, which lies in `[0, n]`. -/
structure Rng (σ D : Type) where
  pct : σ → D × σ
  uniform : Nat → σ → Nat × σ
  uniform_le : ∀ n s, (uniform n s).1 ≤ n

/-- `FaultInjector`: its configuration, the state of `rng_`, and `last_stats_`. -/
structure FaultInjector (σ D : Type) where
  config : FaultConfig D
  rng : σ
  lastStats : FaultStats := {}

namespace FaultInjector

variable {σ D : Type} [LT D] [DecidableRel (@LT.lt D _)] [OfNat D 0] (R : Rng σ D)

/-- A stage's loop: from the frames, the generator state and its counter, the frames, the
state and the counter after it. -/
abbrev Stage (σ : Type) := List (List UInt8) → σ → UInt32 → List (List UInt8) × σ × UInt32

/-- Stage 1, the corruption loop: a frame whose draw is below `corrupt_pct` and which is not
empty gets byte `byte_dist(0, frame.size() - 1)` flipped by `^= 0xFF`. -/
def corruptFrames (corruptPct : D) : Stage σ
  | [], s, n => ([], s, n)
  | frame :: frames, s, n =>
    let d := R.pct s
    if d.1 < corruptPct && !frame.isEmpty then
      let idx := R.uniform (frame.length - 1) d.2
      let r := corruptFrames corruptPct frames idx.2 (n + 1)
      (frame.modify (· ^^^ 0xFF) idx.1 :: r.1, r.2)
    else
      let r := corruptFrames corruptPct frames d.2 n
      (frame :: r.1, r.2)

/-- The first loop of stage 2: a frame whose draw is below `duplicate_pct` is copied to
`extras`. -/
def pickDuplicates (duplicatePct : D) : Stage σ
  | [], s, n => ([], s, n)
  | frame :: frames, s, n =>
    let d := R.pct s
    if d.1 < duplicatePct then
      let r := pickDuplicates duplicatePct frames d.2 (n + 1)
      (frame :: r.1, r.2)
    else pickDuplicates duplicatePct frames d.2 n

/-- The second loop of stage 2: each copy goes in before position `pos_dist(0, frames.size())`
of the frames as they are at that point. -/
def insertDuplicates : List (List UInt8) → List (List UInt8) → σ → List (List UInt8) × σ
  | [], frames, s => (frames, s)
  | dup :: extras, frames, s =>
    let pos := R.uniform frames.length s
    insertDuplicates extras (frames.insertIdx pos.1 dup) pos.2

/-- Stage 2: the copies picked by the first loop, inserted by the second. -/
def duplicateFrames (duplicatePct : D) : Stage σ := fun frames s n =>
  let e := pickDuplicates R duplicatePct frames s n
  let r := insertDuplicates R e.1 frames e.2.1
  (r.1, r.2, e.2.2)

/-- Stage 3, the predicate of `std::remove_if`: a frame whose draw is below `loss_pct` is
counted and removed. -/
def dropFrames (lossPct : D) : Stage σ
  | [], s, n => ([], s, n)
  | frame :: frames, s, n =>
    let d := R.pct s
    if d.1 < lossPct then dropFrames lossPct frames d.2 (n + 1)
    else
      let r := dropFrames lossPct frames d.2 n
      (frame :: r.1, r.2)

/-- Stage 4, the loop over `i + 1 < frames.size()`: a draw below `reorder_pct` swaps frames `i`
and `i + 1` and skips `i + 1`; the last frame of an odd tail draws nothing. -/
def swapPairs (reorderPct : D) : Stage σ
  | f :: rest@(g :: frames), s, n =>
    let d := R.pct s
    if d.1 < reorderPct then
      let r := swapPairs reorderPct frames d.2 (n + 1)
      (g :: f :: r.1, r.2)
    else
      let r := swapPairs reorderPct rest d.2 n
      (f :: r.1, r.2)
  | frames, s, n => (frames, s, n)

/-- A stage of `apply` with its guard `pct > 0.0` and its counter reset by
`last_stats_ = FaultStats{}`. -/
def guarded (pct : D) (stage : D → Stage σ) (frames : List (List UInt8)) (s : σ) :
    List (List UInt8) × σ × UInt32 :=
  if (0 : D) < pct then stage pct frames s 0 else (frames, s, 0)

/-- `apply(frames)`: the injector after the call, and the frames it leaves. -/
def apply (inj : FaultInjector σ D) (frames : List (List UInt8)) :
    FaultInjector σ D × List (List UInt8) :=
  if frames.isEmpty then ({ inj with lastStats := {} }, frames)
  else
    let c := inj.config
    let r1 := guarded c.corruptPct (corruptFrames R) frames inj.rng
    let r2 := guarded c.duplicatePct (duplicateFrames R) r1.1 r1.2.1
    let r3 := guarded c.lossPct (dropFrames R) r2.1 r2.2.1
    let r4 := if (0 : D) < c.reorderPct ∧ 2 ≤ r3.1.length then
      swapPairs R c.reorderPct r3.1 r3.2.1 0 else (r3.1, r3.2.1, 0)
    ({ inj with
        rng := r4.2.1,
        lastStats := { dropped := r3.2.2, reordered := r4.2.2, duplicated := r2.2.2,
                       corrupted := r1.2.2 } },
      r4.1)

end FaultInjector

end NetNodeGateway
