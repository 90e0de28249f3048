import NetNodeGateway.Gateway.SequenceTracker
import Mathlib.Algebra.Order.Ring.Nat

/-!
# Correctness of `SequenceTracker`

**Gap accounting.**  On a run of one source from its creation or reset, with no sequence number
at `2^32 − 1` (so `next_expected` never wraps), the first event is `FIRST`, after every call
`next_expected` is one past the largest number seen so far, and the gaps add up to the largest
number minus the first minus the `OK` and `GAP` events (`trackAll_gap_accounting`).  The proof
is the ledger `trackAll_armed`, an induction over the run on `SourceState.track_cases`: an `OK`
moves the largest number by one, a `GAP` by `gap + 1`, and the other events not at all.

**Late packets.**  On an armed source a number below `next_expected` and at most a window
behind it is a `REORDER` or a `DUPLICATE` and moves nothing, while every number above
`next_expected` is a `GAP` (`track_late_or_gap`).  The comparisons are plain unsigned ones, so a
late packet from before a wrap of `next_expected` counts as a `GAP` of nearly `2^32`
(`trackAll_wrap_late_is_gap`).

**The window.**  The `OK` and `GAP` paths shift the bitset towards bit 64 while the reorder path
reads bit `64 − age`, so a re-sent packet two places back is reported as a `REORDER` and a
packet never sent can be reported as a `DUPLICATE` (`trackAll_window_misses`).
-/

namespace NetNodeGateway

/-- The largest sequence number of a run, as a natural number (`0` for no run). -/
def seqMax (l : List UInt32) : Nat := l.foldr (fun s m => max s.toNat m) 0

/-- The sum of `gap_size` over the `GAP` events. -/
def gapSum (es : List SeqEvent) : Nat :=
  ((es.filter (·.result = .gap)).map (·.gapSize.toNat)).sum

/-- The number of events with result `r`. -/
def resultCount (r : SeqResult) (es : List SeqEvent) : Nat := es.countP (·.result = r)

@[simp] theorem seqMax_nil : seqMax [] = 0 := rfl

@[simp] theorem seqMax_cons (s : UInt32) (l : List UInt32) :
    seqMax (s :: l) = max s.toNat (seqMax l) := rfl

@[simp] theorem gapSum_nil : gapSum [] = 0 := rfl

@[simp] theorem gapSum_cons (e : SeqEvent) (es : List SeqEvent) :
    gapSum (e :: es) = (if e.result = .gap then e.gapSize.toNat else 0) + gapSum es := by
  by_cases h : e.result = .gap <;> simp [gapSum, h, List.filter_cons]

@[simp] theorem resultCount_nil (r : SeqResult) : resultCount r [] = 0 := rfl

@[simp] theorem resultCount_cons (r : SeqResult) (e : SeqEvent) (es : List SeqEvent) :
    resultCount r (e :: es) = resultCount r es + if e.result = r then 1 else 0 := by
  simp [resultCount, List.countP_cons]

@[simp] theorem SequenceTracker.trackAll_nil (t : SequenceTracker) (src : UInt16) :
    t.trackAll src [] = ([], t) := rfl

@[simp] theorem SequenceTracker.trackAll_cons (t : SequenceTracker) (src : UInt16) (s : UInt32)
    (l : List UInt32) : t.trackAll src (s :: l) =
      ((t.track src s).1 :: ((t.track src s).2.trackAll src l).1,
        ((t.track src s).2.trackAll src l).2) := rfl

/-! ### The ledger of a run -/

/-- From an armed source whose `next_expected` is `m + 1`, a run without wrap keeps the source
armed, leaves `next_expected` one past the largest number seen, and accounts for every step of
the largest number by an `OK` or by a `GAP` and its size. -/
theorem trackAll_armed (src : UInt16) (l : List UInt32) (hwrap : ∀ s ∈ l, s.toNat < 4294967295) :
    ∀ (t : SequenceTracker) (m : Nat), (t.sources src).initialized = true →
      (t.sources src).nextExpected.toNat = m + 1 →
      ((t.trackAll src l).2.sources src).initialized = true ∧
      ((t.trackAll src l).2.sources src).nextExpected.toNat = max m (seqMax l) + 1 ∧
      m + resultCount .ok (t.trackAll src l).1 + resultCount .gap (t.trackAll src l).1 +
        gapSum (t.trackAll src l).1 = max m (seqMax l) := by
  induction l with
  | nil => intro t m hi hn; simp [hi, hn]
  | cons s l ih =>
    intro t m hi hn
    have hs := hwrap s (List.mem_cons_self s l)
    have ih' := ih fun x hx => hwrap x (List.mem_cons_of_mem s hx)
    obtain ⟨hi', hcase⟩ := SourceState.track_cases hi src s
    have hi'' : ((t.track src s).2.sources src).initialized = true := by simpa using hi'
    rcases hcase with ⟨heq, he, hn'⟩ | ⟨hgt, he, hn'⟩ | ⟨hlt, hr, -, -, -, hn'⟩
    · -- `OK`: the largest number moves by one
      have hs' : s.toNat = m + 1 := by rw [heq, hn]
      obtain ⟨h1, h2, h3⟩ := ih' _ (m + 1) hi'' (by simp [hn', toNat_uint32_add]; omega)
      simp only [SequenceTracker.trackAll_cons, SequenceTracker.track_fst, he, seqMax_cons,
        resultCount_cons, gapSum_cons, if_true, if_false, reduceCtorEq] at h2 h3 ⊢
      refine ⟨h1, by omega, by omega⟩
    · -- `GAP`: the largest number moves by the gap and one
      have hgt' : m + 1 < s.toNat := by simpa [hn] using hgt
      have hgap : (s - (t.sources src).nextExpected).toNat = s.toNat - (m + 1) := by
        rw [UInt32.toNat_sub_of_le _ _ (by simp; omega), hn]
      obtain ⟨h1, h2, h3⟩ := ih' _ s.toNat hi'' (by simp [hn', toNat_uint32_add]; omega)
      simp only [SequenceTracker.trackAll_cons, SequenceTracker.track_fst, he, seqMax_cons,
        resultCount_cons, gapSum_cons, if_true, if_false, reduceCtorEq, hgap] at h2 h3 ⊢
      refine ⟨h1, by omega, by omega⟩
    · -- `REORDER` or `DUPLICATE`: nothing moves
      have hlt' : s.toNat ≤ m := by simp [hn] at hlt; omega
      obtain ⟨h1, h2, h3⟩ := ih' _ m hi'' (by simpa [hn'] using hn)
      have hok : ((t.sources src).track src s).1.result ≠ .ok := by rcases hr with h | h <;> simp [h]
      have hgp : ((t.sources src).track src s).1.result ≠ .gap := by
        rcases hr with h | h <;> simp [h]
      simp only [SequenceTracker.trackAll_cons, SequenceTracker.track_fst, seqMax_cons,
        resultCount_cons, gapSum_cons, hok, hgp, if_false] at h2 h3 ⊢
      refine ⟨h1, by omega, by omega⟩

/-- On an armed source, an increasing run above `next_expected - 1` gives only `OK` and `GAP`. -/
theorem trackAll_increasing (src : UInt16) (l : List UInt32)
    (hwrap : ∀ s ∈ l, s.toNat < 4294967295) (hl : l.Pairwise (· < ·)) :
    ∀ (t : SequenceTracker) (m : Nat), (t.sources src).initialized = true →
      (t.sources src).nextExpected.toNat = m + 1 → (∀ s ∈ l, m < s.toNat) →
      ∀ e ∈ (t.trackAll src l).1, e.result = .ok ∨ e.result = .gap := by
  induction l with
  | nil => simp
  | cons s l ih =>
    intro t m hi hn hm
    rw [List.pairwise_cons] at hl
    have hs := hwrap s (List.mem_cons_self s l)
    obtain ⟨hi', hcase⟩ := SourceState.track_cases hi src s
    have hnot : ¬ s < (t.sources src).nextExpected := by
      have := hm s (List.mem_cons_self s l); simp [hn]; omega
    have hn' : ((t.track src s).2.sources src).nextExpected.toNat = s.toNat + 1 := by
      rcases hcase with ⟨-, -, h⟩ | ⟨-, -, h⟩ | ⟨h, -⟩
      · simp [h, toNat_uint32_add]; omega
      · simp [h, toNat_uint32_add]; omega
      · exact absurd h hnot
    have hhead : ((t.sources src).track src s).1.result = .ok ∨
        ((t.sources src).track src s).1.result = .gap := by
      rcases hcase with ⟨-, h, -⟩ | ⟨-, h, -⟩ | ⟨h, -⟩
      · simp [h]
      · simp [h]
      · exact absurd h hnot
    have hrest := ih (fun x hx => hwrap x (List.mem_cons_of_mem s hx)) hl.2 _ s.toNat
      (by simpa using hi') hn' (fun x hx => by simpa using hl.1 x hx)
    simp only [SequenceTracker.trackAll_cons, SequenceTracker.track_fst, List.mem_cons,
      forall_eq_or_imp]
    exact ⟨hhead, hrest⟩

@[simp] theorem SourceState.track_default (src : UInt16) (seq : UInt32) :
    ({} : SourceState).track src seq =
      (⟨.first, src, 0, seq, 0⟩, { initialized := true, nextExpected := seq + 1, seenWindow := 0 }) :=
  rfl

@[simp] theorem SequenceTracker.length_trackAll (t : SequenceTracker) (src : UInt16)
    (l : List UInt32) : (t.trackAll src l).1.length = l.length := by
  induction l generalizing t <;> simp [*]

theorem seqMax_eq_getLast {s : UInt32} {l : List UInt32} (hl : (s :: l).Pairwise (· < ·)) :
    seqMax (s :: l) = ((s :: l).getLast (List.cons_ne_nil s l)).toNat := by
  induction l generalizing s with
  | nil => simp
  | cons x l ih =>
    rw [List.pairwise_cons] at hl
    have hsx : s.toNat < x.toNat := hl.1 x (List.mem_cons_self x l)
    have hx : seqMax (x :: l) = _ := ih hl.2
    rw [seqMax_cons, hx, List.getLast_cons (List.cons_ne_nil x l)]
    have : x.toNat ≤ seqMax (x :: l) := by simp
    omega

theorem resultCount_ok_add_gap {es : List SeqEvent}
    (h : ∀ e ∈ es, e.result = .ok ∨ e.result = .gap) :
    resultCount .ok es + resultCount .gap es = es.length := by
  induction es with
  | nil => rfl
  | cons e es ih =>
    simp only [List.mem_cons, forall_eq_or_imp] at h
    have := ih h.2
    rcases h.1 with h1 | h1 <;> simp [h1] <;> omega

/-- From a fresh tracker, a run of one source increasing without wrap counts no `REORDER` and no
`DUPLICATE`, and its gaps add up to the numbers it skips: those from the first number to the
last, less the numbers received. -/
theorem trackAll_increasing_fresh (src : UInt16) (s : UInt32) (l : List UInt32)
    (hwrap : ∀ x ∈ s :: l, x.toNat < 4294967295) (hl : (s :: l).Pairwise (· < ·)) :
    resultCount .reorder (SequenceTracker.empty.trackAll src (s :: l)).1 = 0 ∧
      resultCount .duplicate (SequenceTracker.empty.trackAll src (s :: l)).1 = 0 ∧
      gapSum (SequenceTracker.empty.trackAll src (s :: l)).1 + (l.length + 1) =
        ((s :: l).getLast (List.cons_ne_nil s l)).toNat + 1 - s.toNat := by
  have hmax := seqMax_eq_getLast hl
  have hs := hwrap s (List.mem_cons_self s l)
  have hwrap' : ∀ x ∈ l, x.toNat < 4294967295 := fun x hx => hwrap x (List.mem_cons_of_mem s hx)
  rw [List.pairwise_cons] at hl
  rw [SequenceTracker.trackAll_cons]
  set t := (SequenceTracker.empty.track src s).2
  have hsrc : t.sources src = { initialized := true, nextExpected := s + 1, seenWindow := 0 } :=
    SequenceTracker.sources_track_self _ _ _
  have hi : (t.sources src).initialized = true := by rw [hsrc]
  have hn : (t.sources src).nextExpected.toNat = s.toNat + 1 := by
    rw [hsrc, toNat_uint32_add]; exact Nat.mod_eq_of_lt (show s.toNat + 1 < 4294967296 by omega)
  obtain ⟨-, -, hledger⟩ := trackAll_armed src l hwrap' t s.toNat hi hn
  have hinc := trackAll_increasing src l hwrap' hl.2 t s.toNat hi hn hl.1
  have hcount := resultCount_ok_add_gap hinc
  have hnone : ∀ r, r ≠ .ok → r ≠ .gap → resultCount r (t.trackAll src l).1 = 0 := fun r h1 h2 =>
    List.countP_eq_zero.mpr fun e he => by rcases hinc e he with h | h <;> simp [h, h1.symm, h2.symm]
  have hfirst : (SequenceTracker.empty.track src s).1.result = .first := rfl
  simp only [resultCount_cons, gapSum_cons, hfirst, reduceCtorEq, if_false, add_zero, zero_add,
    hnone .reorder (by decide) (by decide), hnone .duplicate (by decide) (by decide), true_and]
  rw [seqMax_cons] at hmax
  simp only [SequenceTracker.length_trackAll] at hcount
  omega

/-! ### Gap accounting -/

/-- A `GAP` reports the `next_expected` it jumped from and the distance to the number seen. -/
theorem SourceState.gap_fields {s : SourceState} {src : UInt16} {seq : UInt32}
    (hgap : (s.track src seq).1.result = .gap) :
    (s.track src seq).1.expectedSeq = s.nextExpected ∧
      (s.track src seq).1.gapSize.toNat =
        (s.track src seq).1.actualSeq.toNat - (s.track src seq).1.expectedSeq.toNat := by
  cases hinit : s.initialized
  · simp [SourceState.track, hinit] at hgap
  obtain ⟨-, ⟨-, he, -⟩ | ⟨hgt, he, -⟩ | ⟨-, hr, -⟩⟩ := SourceState.track_cases hinit src seq
  · simp [he] at hgap
  · simp only [he, true_and]
    exact UInt32.toNat_sub_of_le _ _ (by simp only [uint32_lt_iff] at hgt; simp; omega)
  · rcases hr with h | h <;> simp [h] at hgap

/-- A `REORDER` or a `DUPLICATE` leaves `next_expected` where it was. -/
theorem SourceState.nextExpected_of_late {s : SourceState} {src : UInt16} {seq : UInt32}
    (hrd : (s.track src seq).1.result = .reorder ∨ (s.track src seq).1.result = .duplicate) :
    (s.track src seq).2.nextExpected = s.nextExpected := by
  cases hinit : s.initialized
  · simp [SourceState.track, hinit] at hrd
  obtain ⟨-, ⟨-, he, -⟩ | ⟨-, he, -⟩ | ⟨-, -, -, -, -, h⟩⟩ := SourceState.track_cases hinit src seq
  · simp [he] at hrd
  · simp [he] at hrd
  · exact h

theorem trackAll_gap_accounting (t : SequenceTracker) (src : UInt16) (s₁ : UInt32)
    (rest : List UInt32) (hfresh : t.sources src = {})
    (hwrap : ∀ s ∈ s₁ :: rest, s.toNat < 4294967295) :
    (t.trackAll src (s₁ :: rest)).1.head?.map (·.result) = some .first ∧
    (∀ k, 0 < k → ((t.trackAll src ((s₁ :: rest).take k)).2.sources src).nextExpected.toNat =
      seqMax ((s₁ :: rest).take k) + 1) ∧
    (∀ (s : SourceState) (seq : UInt32), (s.track src seq).1.result = .gap →
      (s.track src seq).1.expectedSeq = s.nextExpected ∧
      (s.track src seq).1.gapSize.toNat =
        (s.track src seq).1.actualSeq.toNat - (s.track src seq).1.expectedSeq.toNat) ∧
    (∀ (s : SourceState) (seq : UInt32),
      (s.track src seq).1.result = .reorder ∨ (s.track src seq).1.result = .duplicate →
      (s.track src seq).2.nextExpected = s.nextExpected) ∧
    gapSum (t.trackAll src (s₁ :: rest)).1 = seqMax (s₁ :: rest) - s₁.toNat -
      (resultCount .ok (t.trackAll src (s₁ :: rest)).1 +
        resultCount .gap (t.trackAll src (s₁ :: rest)).1) ∧
    ((s₁ :: rest).Pairwise (· < ·) →
      (∀ e ∈ (t.trackAll src (s₁ :: rest)).1.tail, e.result = .ok ∨ e.result = .gap) ∧
      gapSum (t.trackAll src (s₁ :: rest)).1 =
        ((s₁ :: rest).getLast (List.cons_ne_nil _ _)).toNat - s₁.toNat - rest.length) := by
  have hs₁ := hwrap s₁ (List.mem_cons_self s₁ rest)
  have hrest : ∀ s ∈ rest, s.toNat < 4294967295 := fun s hs => hwrap s (List.mem_cons_of_mem _ hs)
  -- after the `FIRST` call the source is armed with `next_expected = s₁ + 1`
  have hi : ((t.track src s₁).2.sources src).initialized = true := by
    simp [hfresh, SourceState.track]
  have hn : ((t.track src s₁).2.sources src).nextExpected.toNat = s₁.toNat + 1 := by
    simp [hfresh, SourceState.track, toNat_uint32_add]; omega
  have hfirst : ((t.sources src).track src s₁).1 = ⟨.first, src, 0, s₁, 0⟩ := by
    simp [hfresh, SourceState.track]
  have hledger (l : List UInt32) (hl : ∀ s ∈ l, s.toNat < 4294967295) :=
    trackAll_armed src l hl _ _ hi hn
  obtain ⟨-, -, hsum⟩ := hledger rest hrest
  simp only [SequenceTracker.trackAll_cons, SequenceTracker.track_fst, hfirst, seqMax_cons,
    gapSum_cons, resultCount_cons, if_false, reduceCtorEq]
  refine ⟨rfl, ?_, fun _ _ => SourceState.gap_fields, fun _ _ => SourceState.nextExpected_of_late,
    by omega, fun hinc => ?_⟩
  · intro k hk
    obtain ⟨k, rfl⟩ : ∃ j, k = j + 1 := ⟨k - 1, by omega⟩
    obtain ⟨-, h, -⟩ := hledger (rest.take k) fun s hs => hrest s (List.mem_of_mem_take hs)
    simpa using h
  · have hall := trackAll_increasing src rest hrest (List.pairwise_cons.mp hinc).2 _ _ hi hn
      (fun s hs => by simpa using (List.pairwise_cons.mp hinc).1 s hs)
    have hcount := resultCount_ok_add_gap hall
    simp only [SequenceTracker.length_trackAll] at hcount
    refine ⟨hall, ?_⟩
    rw [← seqMax_eq_getLast hinc, seqMax_cons]
    omega

theorem trackAll_gap_accounting_fresh :
    SequenceTracker.empty.sources 1 = {} ∧
    (∀ s ∈ ([0, 1, 5, 3] : List UInt32), s.toNat < 4294967295) ∧
    gapSum (SequenceTracker.empty.trackAll 1 [0, 1, 5, 3]).1 =
      seqMax [0, 1, 5, 3] - (0 : UInt32).toNat -
        (resultCount .ok (SequenceTracker.empty.trackAll 1 [0, 1, 5, 3]).1 +
          resultCount .gap (SequenceTracker.empty.trackAll 1 [0, 1, 5, 3]).1) :=
  ⟨rfl, by decide,
    (trackAll_gap_accounting SequenceTracker.empty 1 0 [1, 5, 3] rfl (by decide)).2.2.2.2.1⟩

/-! ### Late packets and the wrap -/

/-- On an armed source, a number below `next_expected` (as unsigned 32-bit values) is a
`REORDER` or a `DUPLICATE` that leaves `next_expected` alone, and a number above it is a `GAP`
that moves `next_expected` past it, however close below it is modulo `2^32`. -/
theorem track_late_or_gap {s : SourceState} (hi : s.initialized = true) (src : UInt16)
    (seq : UInt32) :
    (seq < s.nextExpected →
      ((s.track src seq).1.result = .reorder ∨ (s.track src seq).1.result = .duplicate) ∧
      (s.track src seq).2.nextExpected = s.nextExpected) ∧
    (s.nextExpected < seq →
      (s.track src seq).1.result = .gap ∧ (s.track src seq).2.nextExpected = seq + 1) := by
  obtain ⟨-, ⟨heq, -, -⟩ | ⟨hgt, he, hn⟩ | ⟨hlt, hr, -, -, -, hn⟩⟩ :=
    SourceState.track_cases hi src seq
  · subst heq; simp
  · exact ⟨fun h => absurd hgt (UInt32.lt_asymm h), fun _ => ⟨by simp [he], hn⟩⟩
  · exact ⟨fun _ => ⟨hr, hn⟩, fun h => absurd hlt (UInt32.lt_asymm h)⟩

/-- On an armed source expecting `5`, the late `3` is a `REORDER` or a `DUPLICATE` that keeps
`next_expected`, and the early `9` a `GAP` that moves it to `10`. -/
theorem track_late_or_gap_armed :
    ({ nextExpected := 5, initialized := true } : SourceState).initialized = true ∧
      (3 : UInt32) < ({ nextExpected := 5, initialized := true } : SourceState).nextExpected ∧
      ((({ nextExpected := 5, initialized := true } : SourceState).track 1 3).1.result = .reorder ∨
        (({ nextExpected := 5, initialized := true } : SourceState).track 1 3).1.result =
          .duplicate) ∧
      (({ nextExpected := 5, initialized := true } : SourceState).track 1 3).2.nextExpected = 5 ∧
      ({ nextExpected := 5, initialized := true } : SourceState).nextExpected < (9 : UInt32) ∧
      (({ nextExpected := 5, initialized := true } : SourceState).track 1 9).1.result = .gap ∧
      (({ nextExpected := 5, initialized := true } : SourceState).track 1 9).2.nextExpected =
        9 + 1 :=
  have hlate := (track_late_or_gap rfl 1 3).1 (by decide)
  have hgap := (track_late_or_gap rfl 1 9).2 (by decide)
  ⟨rfl, by decide, hlate.1, hlate.2, by decide, hgap.1, hgap.2⟩

/-- After `0xFFFFFFFE, 0xFFFFFFFF, 0, 1`, the late `0xFFFFFFFD` (five behind `next_expected`
modulo `2^32`) is a `GAP` that moves `next_expected` back to `0xFFFFFFFE`, and the in-order `2`
is then a `REORDER`. -/
theorem trackAll_wrap_late_is_gap :
    ((SequenceTracker.empty.trackAll 1 [0xFFFFFFFE, 0xFFFFFFFF, 0, 1]).2.sources 1).nextExpected = 2 ∧
    ((2 : UInt32) - 0xFFFFFFFD).toNat = 5 ∧
    (SequenceTracker.empty.trackAll 1 [0xFFFFFFFE, 0xFFFFFFFF, 0, 1, 0xFFFFFFFD, 2]).1.map (·.result) =
      [.first, .ok, .ok, .ok, .gap, .reorder] ∧
    ((SequenceTracker.empty.trackAll 1
      [0xFFFFFFFE, 0xFFFFFFFF, 0, 1, 0xFFFFFFFD]).2.sources 1).nextExpected = 0xFFFFFFFE := by
  decide

/-! ### The window -/

/-- `0, 1, 2, 1` ends in a `REORDER` although `1` was seen, and `0, 4, 1, 5, 3` ends in a
`DUPLICATE` although `3` never was. -/
theorem trackAll_window_misses :
    (SequenceTracker.empty.trackAll 1 [0, 1, 2, 1]).1.map (·.result) =
      [.first, .ok, .ok, .reorder] ∧
    (SequenceTracker.empty.trackAll 1 [0, 4, 1, 5, 3]).1.map (·.result) =
      [.first, .gap, .reorder, .ok, .duplicate] := by
  decide

end NetNodeGateway
