import NetNodeGateway.Common.Bytes
import Mathlib.Logic.Function.Basic
import Mathlib.Data.UInt

/-!
# `SequenceTracker` of `gateway/sequence_tracker.cpp`

Each source has a `SourceState` (`next_expected`, `initialized`, and the `std::bitset<64>`
`seen_window`, held as a `BitVec 64` whose bit `i` is the bitset's bit `i`, so that
`operator<<=` is `<<<`, `set(i)` is `||| twoPow 64 i` and `test(i)` is `getLsbD i`).
`SourceState.track` is `SequenceTracker::track` on one source: it returns the event and the
state the source is left in.  The tracker maps every source id to its state, an absent
entry of the `unordered_map` being the default-constructed state that `operator[]` inserts.

`SourceState.track_cases` says once what one call can do, guards included; the facts about
runs in `Correctness/SequenceTracker.lean` are derived from it.
-/

namespace NetNodeGateway

/-- `SeqResult`. -/
inductive SeqResult
  | first | ok | gap | reorder | duplicate
  deriving DecidableEq, Repr

/-- `SeqEvent`. -/
structure SeqEvent where
  result : SeqResult
  srcId : UInt16
  expectedSeq : UInt32
  actualSeq : UInt32
  gapSize : UInt32
  deriving DecidableEq, Repr

/-- `WINDOW_SIZE`. -/
def windowSize : Nat := 64

/-- `SequenceTracker::SourceState`, with its default member initializers. -/
structure SourceState where
  nextExpected : UInt32 := 0
  initialized : Bool := false
  seenWindow : BitVec 64 := 0
  deriving DecidableEq, Repr

/-- `SequenceTracker::track(src_id, seq)` on the state of source `src_id`. -/
def SourceState.track (s : SourceState) (srcId : UInt16) (seq : UInt32) :
    SeqEvent × SourceState :=
  if !s.initialized then
    (⟨.first, srcId, 0, seq, 0⟩, { initialized := true, nextExpected := seq + 1, seenWindow := 0 })
  else if seq = s.nextExpected then
    (⟨.ok, srcId, seq, seq, 0⟩,
      { s with seenWindow := (s.seenWindow <<< 1) ||| BitVec.twoPow 64 (windowSize - 1),
               nextExpected := seq + 1 })
  else if seq > s.nextExpected then
    let gap := seq - s.nextExpected
    let shifted := if (gap + 1).toNat ≥ windowSize then 0 else s.seenWindow <<< (gap + 1).toNat
    (⟨.gap, srcId, seq - gap, seq, gap⟩,
      { s with seenWindow := shifted ||| BitVec.twoPow 64 (windowSize - 1),
               nextExpected := seq + 1 })
  else
    let age := s.nextExpected - seq
    if age.toNat ≤ windowSize then
      let bitIdx := windowSize - age.toNat
      if s.seenWindow.getLsbD bitIdx then (⟨.duplicate, srcId, s.nextExpected, seq, 0⟩, s)
      else
        (⟨.reorder, srcId, s.nextExpected, seq, 0⟩,
          { s with seenWindow := s.seenWindow ||| BitVec.twoPow 64 bitIdx })
    else (⟨.reorder, srcId, s.nextExpected, seq, 0⟩, s)

/-- `SequenceTracker`: the state of every source id. -/
structure SequenceTracker where
  sources : UInt16 → SourceState

/-- A tracker with no sources. -/
def SequenceTracker.empty : SequenceTracker := ⟨fun _ => {}⟩

/-- `SequenceTracker::track`. -/
def SequenceTracker.track (t : SequenceTracker) (srcId : UInt16) (seq : UInt32) :
    SeqEvent × SequenceTracker :=
  let r := (t.sources srcId).track srcId seq
  (r.1, ⟨Function.update t.sources srcId r.2⟩)

/-- `SequenceTracker::reset(src_id)`: the entry is erased. -/
def SequenceTracker.reset (t : SequenceTracker) (srcId : UInt16) : SequenceTracker :=
  ⟨Function.update t.sources srcId {}⟩

/-- `SequenceTracker::reset_all`. -/
def SequenceTracker.resetAll (_ : SequenceTracker) : SequenceTracker := .empty

/-- Consecutive `track(src_id, ·)` calls: the events in order and the tracker after them. -/
def SequenceTracker.trackAll (t : SequenceTracker) (srcId : UInt16) :
    List UInt32 → List SeqEvent × SequenceTracker
  | [] => ([], t)
  | seq :: rest =>
    let r := t.track srcId seq
    let r' := r.2.trackAll srcId rest
    (r.1 :: r'.1, r'.2)

/-! ### One call -/

@[simp] theorem SequenceTracker.track_fst (t : SequenceTracker) (srcId : UInt16) (seq : UInt32) :
    (t.track srcId seq).1 = ((t.sources srcId).track srcId seq).1 := rfl

@[simp] theorem SequenceTracker.sources_track_self (t : SequenceTracker) (srcId : UInt16)
    (seq : UInt32) : (t.track srcId seq).2.sources srcId = ((t.sources srcId).track srcId seq).2 := by
  simp [SequenceTracker.track]

/-- A call on one source leaves every other source as it was. -/
theorem SequenceTracker.sources_track_of_ne (t : SequenceTracker) {srcId src : UInt16}
    (seq : UInt32) (h : src ≠ srcId) : (t.track srcId seq).2.sources src = t.sources src := by
  simp [SequenceTracker.track, Function.update_noteq h]

/-- What one call on an armed source can do: `OK` on the expected number, `GAP` above it, and
`REORDER` or `DUPLICATE` below it, the last two leaving `next_expected` alone. -/
theorem SourceState.track_cases {s : SourceState} (hi : s.initialized = true) (srcId : UInt16)
    (seq : UInt32) :
    (s.track srcId seq).2.initialized = true ∧
    (seq = s.nextExpected ∧ (s.track srcId seq).1 = ⟨.ok, srcId, seq, seq, 0⟩ ∧
        (s.track srcId seq).2.nextExpected = seq + 1 ∨
     s.nextExpected < seq ∧
        (s.track srcId seq).1 = ⟨.gap, srcId, s.nextExpected, seq, seq - s.nextExpected⟩ ∧
        (s.track srcId seq).2.nextExpected = seq + 1 ∨
     seq < s.nextExpected ∧
        ((s.track srcId seq).1.result = .reorder ∨ (s.track srcId seq).1.result = .duplicate) ∧
        (s.track srcId seq).1.expectedSeq = s.nextExpected ∧ (s.track srcId seq).1.actualSeq = seq ∧
        (s.track srcId seq).1.gapSize = 0 ∧ (s.track srcId seq).2.nextExpected = s.nextExpected) := by
  by_cases heq : seq = s.nextExpected
  · simp [SourceState.track, hi, heq]
  by_cases hgt : s.nextExpected < seq
  · simp [SourceState.track, hi, heq, hgt, sub_sub_cancel]
  have hlt : seq < s.nextExpected := by
    simp only [uint32_lt_iff, uint32_eq_iff] at hgt heq ⊢; omega
  simp only [SourceState.track, hi, heq, hgt, hlt, Bool.not_true, Bool.false_eq_true, if_false,
    gt_iff_lt]
  split_ifs <;> simp [hi]

end NetNodeGateway
