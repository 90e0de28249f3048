import NetNodeGateway.SensorSim.FaultInjector
import NetNodeGateway.Gateway.Correctness.Corruption

/-!
# Correctness of `FaultInjector::apply`

* `apply_accounting`: for every batch, configuration, generator and run of its draws, the
  fields of `last_stats_` are the numbers of faults of each kind modulo `2^32`, and the frames
  left are accounted for by them (`Accounting`): each counted corruption flips one byte of one
  frame, the copies are a sublist of the corrupted batch, the frames left are contained in the
  corrupted batch and its copies as a multiset, and the reorder stage swaps disjoint adjacent
  pairs, so no frame moves by more than one position.
* `apply_dropped_wraps`: the counters are `uint32_t`, so when `2^32` frames are dropped
  `dropped` is `0` and `|out| = |B| + duplicated - dropped` fails.

Each stage's loop is taken once, by induction on the frames (`corruptFrames_spec`,
`duplicateFrames_spec`, `dropFrames_spec`, `swapPairs_spec`), and `guarded_spec` adds the
stage's guard `pct > 0.0`.
-/

namespace NetNodeGateway

/-! ### Disjoint adjacent swaps -/

/-- `PairSwaps r L L'`: `L'` is `L` with `r` disjoint pairs of neighbours swapped. -/
inductive PairSwaps {α : Type} : Nat → List α → List α → Prop
  | nil : PairSwaps 0 [] []
  | keep {r L L'} (a : α) : PairSwaps r L L' → PairSwaps r (a :: L) (a :: L')
  | swap {r L L'} (a b : α) : PairSwaps r L L' → PairSwaps (r + 1) (a :: b :: L) (b :: a :: L')

namespace PairSwaps

variable {α : Type} {r : Nat} {L L' : List α}

theorem refl : ∀ L : List α, PairSwaps 0 L L
  | [] => nil
  | a :: L => keep a (refl L)

theorem perm (h : PairSwaps r L L') : L.Perm L' := by
  induction h with
  | nil => exact .nil
  | keep a _ ih => exact ih.cons a
  | swap a b _ ih => exact (List.Perm.swap b a _).trans ((ih.cons a).cons b)

theorem two_mul_le (h : PairSwaps r L L') : 2 * r ≤ L.length := by
  induction h with
  | nil => exact le_refl 0
  | keep _ _ ih => simp only [List.length_cons]; omega
  | swap _ _ _ ih => simp only [List.length_cons]; omega

/-- No element moves by more than one position: the one at position `i` of `L'` is at
position `i - 1`, `i` or `i + 1` of `L`. -/
theorem moves_le_one (h : PairSwaps r L L') : ∀ i (hi : i < L'.length),
    ∃ j, ∃ hj : j < L.length, L[j] = L'[i] ∧ (j + 1 = i ∨ j = i ∨ j = i + 1) := by
  induction h with
  | nil => intro i hi; exact absurd hi (Nat.not_lt_zero i)
  | keep a _ ih =>
    rintro (_ | i) hi
    · exact ⟨0, Nat.zero_lt_succ _, rfl, by omega⟩
    · obtain ⟨j, hj, he, hd⟩ := ih i (Nat.lt_of_succ_lt_succ hi)
      exact ⟨j + 1, Nat.succ_lt_succ hj, he, by omega⟩
  | swap a b h _ =>
    rintro (_ | _ | i) hi
    · exact ⟨1, by rw [List.length_cons, List.length_cons]; omega, rfl, by omega⟩
    · exact ⟨0, Nat.zero_lt_succ _, rfl, by omega⟩
    · rw [List.length_cons, List.length_cons] at hi
      obtain ⟨j, hj, he, hd⟩ := ‹∀ i (hi : i < _), _› i (by omega)
      exact ⟨j + 2, by rw [List.length_cons, List.length_cons]; omega, he, by omega⟩

end PairSwaps

/-! ### Byte flips -/

/-- `C` is `B` with `c` of its frames changed, each in one byte flipped by `^= 0xFF`. -/
structure ByteFlips (B C : List (List UInt8)) (c : Nat) : Prop where
  length_eq : C.length = B.length
  countP_ne : (List.zip B C).countP (fun q => q.1 != q.2) = c
  flip_one : ∀ q ∈ List.zip B C, q.1 ≠ q.2 → ∃ i < q.1.length, q.2 = q.1.modify (· ^^^ 0xFF) i

namespace ByteFlips

variable {B C : List (List UInt8)} {c : Nat}

theorem nil : ByteFlips [] [] 0 := ⟨rfl, rfl, by simp⟩

theorem keep (b : List UInt8) (h : ByteFlips B C c) : ByteFlips (b :: B) (b :: C) c where
  length_eq := by rw [List.length_cons, List.length_cons, h.length_eq]
  countP_ne := by
    rw [List.zip_cons_cons, List.countP_cons, h.countP_ne]
    simp only [bne_self_eq_false, Bool.false_eq_true, if_false, Nat.add_zero]
  flip_one := by
    simp only [List.zip_cons_cons, List.mem_cons, forall_eq_or_imp, ne_eq, not_true_eq_false,
      false_implies, true_and]
    exact h.flip_one

theorem flip {b : List UInt8} {i : Nat} (hi : i < b.length) (h : ByteFlips B C c) :
    ByteFlips (b :: B) (b.modify (· ^^^ 0xFF) i :: C) (c + 1) where
  length_eq := by simp [h.length_eq]
  countP_ne := by
    have hne : b ≠ b.modify (· ^^^ 0xFF) i := (modify_xor_ne hi (by decide)).symm
    simp [h.countP_ne, hne]
  flip_one := by
    simp only [List.zip_cons_cons, List.mem_cons, forall_eq_or_imp]
    exact ⟨fun _ => ⟨i, hi, rfl⟩, h.flip_one⟩

theorem refl : ∀ B, ByteFlips B B 0
  | [] => nil
  | b :: B => (refl B).keep b

end ByteFlips

/-! ### What a run of `apply` accounts for -/

/-- What `apply` does to a batch `B`, leaving `out`: `C` is `B` after corruption, with `c`
frames flipped; `E` holds the `d` copies stage 2 makes and `M` is `C` with them inserted; `L`
is `M` with `l` frames dropped; `out` is `L` with `k` disjoint adjacent pairs swapped.  The last
four fields follow from the first six (`Accounting.of_stages`). -/
structure Accounting (B C E M L out : List (List UInt8)) (c d l k : Nat) : Prop where
  flips : ByteFlips B C c
  length_copies : E.length = d
  copies_sublist : E.Sublist C
  merged_perm : M.Perm (C ++ E)
  lost_sublist : L.Sublist M
  length_lost : L.length + l = M.length
  swaps : PairSwaps k L out
  length_out : out.length + l = B.length + d
  out_subperm : out.Subperm (C ++ E)
  swaps_le : k ≤ L.length / 2
  moves_le_one : ∀ i (hi : i < out.length),
    ∃ j, ∃ hj : j < L.length, L[j] = out[i] ∧ (j + 1 = i ∨ j = i ∨ j = i + 1)

theorem Accounting.of_stages {B C E M L out : List (List UInt8)} {c d l k : Nat}
    (hC : ByteFlips B C c) (hE : E.length = d) (hEC : E.Sublist C) (hM : M.Perm (C ++ E))
    (hL : L.Sublist M) (hl : L.length + l = M.length) (hk : PairSwaps k L out) :
    Accounting B C E M L out c d l k where
  flips := hC
  length_copies := hE
  copies_sublist := hEC
  merged_perm := hM
  lost_sublist := hL
  length_lost := hl
  swaps := hk
  length_out := by
    have := hM.length_eq
    simp only [List.length_append] at this
    rw [← hk.perm.length_eq]
    have := hC.length_eq
    omega
  out_subperm := hk.perm.symm.subperm.trans (hL.subperm.trans hM.subperm)
  swaps_le := by have := hk.two_mul_le; omega
  moves_le_one := hk.moves_le_one

/-! ### The stages -/

/-- Counting one more fault: a counter `n + 1` that then counts `k` more has counted
`k + 1` after `n`. -/
theorem add_one_add_ofNat (n : UInt32) (k : Nat) :
    n + 1 + UInt32.ofNat k = n + UInt32.ofNat (k + 1) :=
  UInt32.eq_of_toBitVec_eq (by
    show n.toBitVec + 1#32 + BitVec.ofNat 32 k = n.toBitVec + BitVec.ofNat 32 (k + 1)
    rw [BitVec.ofNat_add, BitVec.add_assoc, BitVec.add_comm 1#32])

theorem add_ofNat_zero (n : UInt32) : n + UInt32.ofNat 0 = n :=
  UInt32.eq_of_toBitVec_eq (BitVec.add_zero n.toBitVec)

theorem uint32_zero_add (n : UInt32) : 0 + n = n :=
  UInt32.eq_of_toBitVec_eq (BitVec.zero_add n.toBitVec)

namespace FaultInjector

variable {σ D : Type} (R : Rng σ D)

/-- Each copy goes in at a drawn position no further than the end, so the frames after the
second loop of stage 2 are the frames and the copies, in some order. -/
theorem insertDuplicates_perm : ∀ (extras frames : List (List UInt8)) (s : σ),
    (insertDuplicates R extras frames s).1.Perm (frames ++ extras)
  | [], frames, s => by simp [insertDuplicates]
  | dup :: extras, frames, s => by
    have hins := List.perm_insertIdx dup frames (R.uniform_le frames.length s)
    rw [insertDuplicates]
    exact (insertDuplicates_perm extras _ _).trans
      ((hins.append_right extras).trans List.perm_middle.symm)

variable [LT D] [DecidableRel (@LT.lt D _)]

theorem corruptFrames_spec (p : D) : ∀ (frames : List (List UInt8)) (s : σ) (n : UInt32),
    ∃ c, (corruptFrames R p frames s n).2.2 = n + UInt32.ofNat c ∧
      ByteFlips frames (corruptFrames R p frames s n).1 c
  | [], _, n => ⟨0, (add_ofNat_zero n).symm, .nil⟩
  | frame :: frames, s, n => by
    simp only [corruptFrames]
    split_ifs with h
    · have hpos : 0 < frame.length := by
        simp only [Bool.and_eq_true, decide_eq_true_eq, Bool.not_eq_true', List.isEmpty_eq_false] at h
        exact List.length_pos.mpr h.2
      have hidx := R.uniform_le (frame.length - 1) (R.pct s).2
      obtain ⟨c, hn, hc⟩ := corruptFrames_spec p frames _ (n + 1)
      exact ⟨c + 1, by rw [hn, add_one_add_ofNat], hc.flip (by omega)⟩
    · obtain ⟨c, hn, hc⟩ := corruptFrames_spec p frames (R.pct s).2 n
      exact ⟨c, hn, hc.keep frame⟩

theorem pickDuplicates_spec (p : D) : ∀ (frames : List (List UInt8)) (s : σ) (n : UInt32),
    ∃ d, (pickDuplicates R p frames s n).2.2 = n + UInt32.ofNat d ∧
      (pickDuplicates R p frames s n).1.length = d ∧
      (pickDuplicates R p frames s n).1.Sublist frames
  | [], _, n => ⟨0, (add_ofNat_zero n).symm, rfl, .slnil⟩
  | frame :: frames, s, n => by
    simp only [pickDuplicates]
    split_ifs
    · obtain ⟨d, hn, hl, hs⟩ := pickDuplicates_spec p frames (R.pct s).2 (n + 1)
      exact ⟨d + 1, by rw [hn, add_one_add_ofNat], by simp [hl], hs.cons₂ frame⟩
    · obtain ⟨d, hn, hl, hs⟩ := pickDuplicates_spec p frames (R.pct s).2 n
      exact ⟨d, hn, hl, hs.cons frame⟩

theorem duplicateFrames_spec (p : D) (frames : List (List UInt8)) (s : σ) (n : UInt32) :
    ∃ d, (duplicateFrames R p frames s n).2.2 = n + UInt32.ofNat d ∧
      ∃ E, E.length = d ∧ E.Sublist frames ∧
        (duplicateFrames R p frames s n).1.Perm (frames ++ E) := by
  obtain ⟨d, hn, hl, hs⟩ := pickDuplicates_spec R p frames s n
  exact ⟨d, hn, _, hl, hs, insertDuplicates_perm R _ frames _⟩

theorem dropFrames_spec (p : D) : ∀ (frames : List (List UInt8)) (s : σ) (n : UInt32),
    ∃ l, (dropFrames R p frames s n).2.2 = n + UInt32.ofNat l ∧
      (dropFrames R p frames s n).1.length + l = frames.length ∧
      (dropFrames R p frames s n).1.Sublist frames
  | [], _, n => ⟨0, (add_ofNat_zero n).symm, rfl, .slnil⟩
  | frame :: frames, s, n => by
    simp only [dropFrames]
    split_ifs
    · obtain ⟨l, hn, hl, hs⟩ := dropFrames_spec p frames (R.pct s).2 (n + 1)
      exact ⟨l + 1, by rw [hn, add_one_add_ofNat], by simp only [List.length_cons]; omega,
        hs.cons frame⟩
    · obtain ⟨l, hn, hl, hs⟩ := dropFrames_spec p frames (R.pct s).2 n
      exact ⟨l, hn, by simp only [List.length_cons]; omega, hs.cons₂ frame⟩

theorem swapPairs_spec (p : D) (frames : List (List UInt8)) (s : σ) (n : UInt32) :
    ∃ k, (swapPairs R p frames s n).2.2 = n + UInt32.ofNat k ∧
      PairSwaps k frames (swapPairs R p frames s n).1 := by
  induction frames, s, n using swapPairs.induct R p with
  | case1 f g frames s n _ h ih =>
    obtain ⟨k, hn, hk⟩ := ih
    simp only [swapPairs, if_pos h]
    exact ⟨k + 1, by rw [hn, add_one_add_ofNat], hk.swap f g⟩
  | case2 f g frames s n _ h ih =>
    obtain ⟨k, hn, hk⟩ := ih
    simp only [swapPairs, if_neg h]
    exact ⟨k, hn, hk.keep f⟩
  | case3 frames s n h =>
    rcases frames with _ | ⟨f, _ | ⟨g, frames⟩⟩
    · simp only [swapPairs]; exact ⟨0, (add_ofNat_zero n).symm, .nil⟩
    · simp only [swapPairs]; exact ⟨0, (add_ofNat_zero n).symm, .refl _⟩
    · exact (h f g frames rfl).elim

variable [OfNat D 0]

/-- A stage behind its guard `pct > 0.0`, with its counter started at `0`: what the stage does,
or nothing with a count of `0`. -/
theorem guarded_spec {P : List (List UInt8) → List (List UInt8) → Nat → Prop} (pct : D)
    (stage : D → Stage σ) (hid : ∀ F, P F F 0)
    (hstage : ∀ F s, ∃ c, (stage pct F s 0).2.2 = 0 + UInt32.ofNat c ∧ P F (stage pct F s 0).1 c)
    (F : List (List UInt8)) (s : σ) :
    ∃ c, (guarded pct stage F s).2.2 = UInt32.ofNat c ∧ P F (guarded pct stage F s).1 c := by
  unfold guarded
  split_ifs
  · obtain ⟨c, hn, hc⟩ := hstage F s
    exact ⟨c, by rw [hn, uint32_zero_add], hc⟩
  · exact ⟨0, rfl, hid F⟩

/-- **Accounting of `apply`**: for every batch `B`, configuration, generator and run of its
draws, the counters of `last_stats_` are the numbers `c`, `d`, `l`, `k` of frames corrupted,
copied, dropped and pairs swapped, modulo `2^32`, and the frames left are accounted for by
them. -/
theorem apply_accounting (inj : FaultInjector σ D) (B : List (List UInt8)) :
    let r := inj.apply R B
    ∃ (C E M L : List (List UInt8)) (c d l k : Nat),
      r.1.lastStats =
        { dropped := UInt32.ofNat l, reordered := UInt32.ofNat k,
          duplicated := UInt32.ofNat d, corrupted := UInt32.ofNat c } ∧
      Accounting B C E M L r.2 c d l k := by
  dsimp only
  by_cases hB : B.isEmpty
  · obtain rfl := List.isEmpty_iff.mp hB
    exact ⟨[], [], [], [], 0, 0, 0, 0, rfl, .of_stages .nil rfl .slnil .nil .slnil rfl .nil⟩
  rw [apply, if_neg hB]
  dsimp only
  obtain ⟨c, hc, hC⟩ := guarded_spec (P := ByteFlips) inj.config.corruptPct (corruptFrames R)
    ByteFlips.refl (fun F s => corruptFrames_spec R _ F s 0) B inj.rng
  generalize guarded inj.config.corruptPct (corruptFrames R) B inj.rng = r1 at hc hC ⊢
  obtain ⟨d, hd, E, hE, hEC, hM⟩ := guarded_spec
    (P := fun F M d => ∃ E, E.length = d ∧ E.Sublist F ∧ M.Perm (F ++ E))
    inj.config.duplicatePct (duplicateFrames R) (fun F => ⟨[], rfl, F.nil_sublist, by simp⟩)
    (fun F s => duplicateFrames_spec R _ F s 0) r1.1 r1.2.1
  generalize guarded inj.config.duplicatePct (duplicateFrames R) r1.1 r1.2.1 = r2 at hd hM ⊢
  obtain ⟨l, hl, hL, hLM⟩ := guarded_spec (P := fun F L l => L.length + l = F.length ∧ L.Sublist F)
    inj.config.lossPct (dropFrames R) (fun F => ⟨rfl, .refl F⟩)
    (fun F s => dropFrames_spec R _ F s 0) r2.1 r2.2.1
  generalize guarded inj.config.lossPct (dropFrames R) r2.1 r2.2.1 = r3 at hl hL hLM ⊢
  split_ifs
  · obtain ⟨k, hk, hsw⟩ := swapPairs_spec R inj.config.reorderPct r3.1 r3.2.1 0
    exact ⟨_, E, _, _, c, d, l, k, by rw [hc, hd, hl, hk, uint32_zero_add],
      .of_stages hC hE hEC hM hLM hL hsw⟩
  · exact ⟨_, E, _, _, c, d, l, 0, by rw [hc, hd, hl]; rfl,
      .of_stages hC hE hEC hM hLM hL (.refl _)⟩

end FaultInjector

/-! ### The counters wrap -/

/-- A run of the draws in which every `pct` draw is `0.0` and every index draw is `0`. -/
def zeroDraws : Rng Unit Nat := ⟨fun s => (0, s), fun _ s => (0, s), fun _ _ => Nat.zero_le _⟩

/-- The injector of the test `Loss100PercentDropsAll`: `loss_pct = 100.0`, the rest `0.0`. -/
def lossAll : FaultInjector Unit Nat := { config := ⟨100, 0, 0, 0⟩, rng := () }

theorem dropFrames_zeroDraws : ∀ (frames : List (List UInt8)) (n : UInt32),
    FaultInjector.dropFrames zeroDraws 100 frames () n = ([], (), n + UInt32.ofNat frames.length)
  | [], n => by rw [List.length_nil, add_ofNat_zero]; rfl
  | _ :: frames, n => by
    rw [FaultInjector.dropFrames, if_pos (by decide), dropFrames_zeroDraws frames,
      add_one_add_ofNat, List.length_cons]

/-- With every draw below `loss_pct`, a batch of `k + 1` frames is dropped whole and
`dropped` counts `k + 1` modulo `2^32`. -/
theorem apply_lossAll (k : Nat) :
    lossAll.apply zeroDraws (List.replicate (k + 1) []) =
      ({ lossAll with lastStats := { dropped := UInt32.ofNat (k + 1) } }, []) := by
  simp [FaultInjector.apply, FaultInjector.guarded, lossAll, dropFrames_zeroDraws,
    uint32_zero_add]

theorem apply_dropped_wraps :
    let B := List.replicate (2 ^ 32) ([] : List UInt8)
    let r := lossAll.apply zeroDraws B
    r.2.length ≠ B.length + r.1.lastStats.duplicated.toNat - r.1.lastStats.dropped.toNat := by
  have h : (2 : Nat) ^ 32 = 4294967295 + 1 := rfl
  simp only [h, apply_lossAll, List.length_nil, List.length_replicate]
  decide


/-! ### Which frames `apply` leaves -/

/-- A frame of `C` is a frame of `B`, or one with a byte flipped. -/
theorem ByteFlips.mem {B C : List (List UInt8)} {c : Nat} (h : ByteFlips B C c) {f : List UInt8}
    (hf : f ∈ C) : ∃ b ∈ B, f = b ∨ ∃ i < b.length, f = b.modify (· ^^^ 0xFF) i := by
  obtain ⟨k, hk, rfl⟩ := List.getElem_of_mem hf
  have hkB : k < B.length := h.length_eq ▸ hk
  have hq : (B[k], C[k]) ∈ List.zip B C := by
    have hz : k < (List.zip B C).length := by simp [h.length_eq, hkB]
    simpa only [List.getElem_zip] using List.getElem_mem hz
  by_cases he : B[k] = C[k]
  · exact ⟨B[k], List.getElem_mem hkB, .inl he.symm⟩
  · exact ⟨B[k], List.getElem_mem hkB, .inr (h.flip_one _ hq he)⟩

/-- No stage of `apply` runs: every percentage is at most `0.0`. -/
structure FaultConfig.Disabled {D : Type} [LT D] [OfNat D 0] (c : FaultConfig D) : Prop where
  loss : ¬(0 : D) < c.lossPct
  reorder : ¬(0 : D) < c.reorderPct
  duplicate : ¬(0 : D) < c.duplicatePct
  corrupt : ¬(0 : D) < c.corruptPct

namespace FaultInjector

variable {σ D : Type} (R : Rng σ D) [LT D] [DecidableRel (@LT.lt D _)] [OfNat D 0]

@[simp] theorem config_apply (inj : FaultInjector σ D) (B : List (List UInt8)) :
    (inj.apply R B).1.config = inj.config := by
  unfold apply
  split <;> rfl

/-- The stages after the corruption loop only copy, drop and swap frames. -/
theorem mem_apply_corrupted (inj : FaultInjector σ D) (B : List (List UInt8)) {f : List UInt8}
    (hf : f ∈ (inj.apply R B).2) :
    f ∈ (guarded inj.config.corruptPct (corruptFrames R) B inj.rng).1 := by
  by_cases hB : B.isEmpty
  · obtain rfl := List.isEmpty_iff.mp hB
    exact absurd hf (by simp [apply])
  rw [apply, if_neg hB] at hf
  dsimp only at hf
  generalize guarded inj.config.corruptPct (corruptFrames R) B inj.rng = r1 at hf ⊢
  obtain ⟨-, -, h2⟩ := guarded_spec (P := fun F M (_ : Nat) => ∀ x ∈ M, x ∈ F)
    inj.config.duplicatePct (duplicateFrames R) (fun _ _ => id)
    (fun F s => by
      obtain ⟨d, hd, E, -, hE, hM⟩ := duplicateFrames_spec R _ F s 0
      refine ⟨d, hd, fun x hx => ?_⟩
      rcases List.mem_append.mp (hM.mem_iff.mp hx) with h | h
      exacts [h, hE.subset h]) r1.1 r1.2.1
  generalize guarded inj.config.duplicatePct (duplicateFrames R) r1.1 r1.2.1 = r2 at hf h2
  obtain ⟨-, -, h3⟩ := guarded_spec (P := fun F L (_ : Nat) => ∀ x ∈ L, x ∈ F)
    inj.config.lossPct (dropFrames R) (fun _ _ => id)
    (fun F s => by
      obtain ⟨l, hl, -, hL⟩ := dropFrames_spec R _ F s 0
      exact ⟨l, hl, fun x hx => hL.subset hx⟩) r2.1 r2.2.1
  generalize guarded inj.config.lossPct (dropFrames R) r2.1 r2.2.1 = r3 at hf h3
  refine h2 f (h3 f ?_)
  split_ifs at hf
  · obtain ⟨k, -, hk⟩ := swapPairs_spec R inj.config.reorderPct r3.1 r3.2.1 0
    exact (PairSwaps.perm hk).mem_iff.mpr hf
  · exact hf

/-- **What `apply` leaves**: each frame is a frame of the batch or, only when the corruption
stage runs, one with a byte flipped by `^= 0xFF`. -/
theorem mem_apply (inj : FaultInjector σ D) (B : List (List UInt8)) {f : List UInt8}
    (hf : f ∈ (inj.apply R B).2) :
    ∃ b ∈ B, f = b ∨ ((0 : D) < inj.config.corruptPct ∧
      ∃ i < b.length, f = b.modify (· ^^^ 0xFF) i) := by
  have hf1 := mem_apply_corrupted R inj B hf
  unfold guarded at hf1
  split_ifs at hf1 with hp
  · obtain ⟨b, hb, h⟩ := (corruptFrames_spec R _ B inj.rng 0).choose_spec.2.mem hf1
    exact ⟨b, hb, h.imp_right (⟨hp, ·⟩)⟩
  · exact ⟨f, hf1, .inl rfl⟩

/-- With only the loss stage on, `apply` leaves a sublist of the batch. -/
theorem apply_sublist (inj : FaultInjector σ D) (hreorder : ¬(0 : D) < inj.config.reorderPct)
    (hduplicate : ¬(0 : D) < inj.config.duplicatePct)
    (hcorrupt : ¬(0 : D) < inj.config.corruptPct) (B : List (List UInt8)) :
    (inj.apply R B).2.Sublist B := by
  unfold apply
  split_ifs
  · exact List.Sublist.refl B
  · dsimp only
    rw [if_neg fun h => hreorder h.1]
    simp only [guarded, if_neg hcorrupt, if_neg hduplicate]
    split_ifs
    · exact (dropFrames_spec R _ B _ 0).choose_spec.2.2
    · exact List.Sublist.refl B

/-- With every stage off, `apply` leaves the batch as it is. -/
theorem apply_of_disabled (inj : FaultInjector σ D) (h : inj.config.Disabled)
    (B : List (List UInt8)) : (inj.apply R B).2 = B := by
  unfold apply
  split_ifs
  · rfl
  · simp only [guarded, if_neg h.corrupt, if_neg h.duplicate, if_neg h.loss, h.reorder, false_and,
      if_false]

end FaultInjector

end NetNodeGateway
