import NetNodeGateway.ControlNode.TcpFramer

/-!
# Correctness of `TcpFramer`

A stream of encoded payloads, each at most `10 MiB`, cut into chunks in any way and fed with
`pop_frame` calls interleaved anywhere, comes out as the payloads in order; after every call
the buffer holds exactly the incomplete frame at the end of the bytes fed so far
(`run_reassembles`).

The proof: `readLength_beLength` reads the length prefix back, so an encoded frame at the
head of the buffer is moved to the queue (`tryExtractFrames_encode`), and a proper prefix of
one is left alone (`tryExtractFrames_of_pending`).  Any prefix of the stream is complete
frames followed by such a pending prefix (`exists_pending`), which gives the invariant `Inv`
kept by each call (`Inv.feed`, `Inv.pop`) and by a whole run (`Inv.run`).
-/

namespace NetNodeGateway

/-! ### The length prefix -/

/-- `try_extract_frames` reads back the length `encode` wrote. -/
theorem readLength_beLength (n : UInt32) :
    readLength ((n >>> 24) &&& 0xFF).toUInt8 ((n >>> 16) &&& 0xFF).toUInt8
      ((n >>> 8) &&& 0xFF).toUInt8 (n &&& 0xFF).toUInt8 = n := by
  apply UInt32.toNat.inj
  have hn := n.toNat_lt_size
  have h255 : (0xFF : UInt32).toNat = 2 ^ 8 - 1 := rfl
  have h24 : (24 : UInt32).toNat % 32 = 24 := rfl
  have h16 : (16 : UInt32).toNat % 32 = 16 := rfl
  have h8 : (8 : UInt32).toNat % 32 = 8 := rfl
  simp only [readLength, toNat_uint32_lor, toNat_uint32_shiftLeft, toNat_uint32_land,
    toNat_uint32_shiftRight, toNat_uint8_toUInt32, toNat_uint32_toUInt8, h255, h24, h16, h8,
    Nat.and_pow_two_sub_one_eq_mod, uint32_size] at hn ⊢
  generalize n.toNat = x at hn ⊢
  -- the four bytes are the base-256 digits of `x`; the `|` of disjoint digits is their sum
  rw [show x / 2 ^ 24 % 2 ^ 8 % 256 * 2 ^ 24 % 4294967296 = 2 ^ 24 * (x / 2 ^ 24 % 256) by omega,
    show x / 2 ^ 16 % 2 ^ 8 % 256 * 2 ^ 16 % 4294967296 = 2 ^ 16 * (x / 2 ^ 16 % 256) by omega,
    show x / 2 ^ 8 % 2 ^ 8 % 256 * 2 ^ 8 % 4294967296 = 2 ^ 8 * (x / 2 ^ 8 % 256) by omega,
    show x % 2 ^ 8 % 256 = x % 256 by omega, Nat.or_assoc, Nat.or_assoc,
    ← Nat.mul_add_lt_is_or (show x % 256 < 2 ^ 8 by omega),
    ← Nat.mul_add_lt_is_or (show 2 ^ 8 * (x / 2 ^ 8 % 256) + x % 256 < 2 ^ 16 by omega),
    ← Nat.mul_add_lt_is_or (show 2 ^ 16 * (x / 2 ^ 16 % 256) +
      (2 ^ 8 * (x / 2 ^ 8 % 256) + x % 256) < 2 ^ 24 by omega)]
  omega

@[simp] theorem length_encode (p : List UInt8) : (encode p).length = 4 + p.length := by
  simp only [encode, beLength, List.length_append, List.length_cons, List.length_nil]

theorem toNat_length_of_le {p : List UInt8} (hp : p.length ≤ maxFrameLen) :
    (UInt32.ofNat p.length).toNat = p.length := by
  rw [toNat_uint32_ofNat, Nat.mod_eq_of_lt (by unfold maxFrameLen at hp; omega)]

/-! ### Extracting frames -/

/-- The length `try_extract_frames` reads from a buffer that starts with a length prefix. -/
theorem readLength_getD (n : UInt32) (rest : List UInt8) :
    readLength ((beLength n ++ rest).getD 0 0) ((beLength n ++ rest).getD 1 0)
      ((beLength n ++ rest).getD 2 0) ((beLength n ++ rest).getD 3 0) = n :=
  readLength_beLength n

theorem length_beLength (n : UInt32) : (beLength n).length = 4 := rfl

/-- An encoded frame at the head of the buffer is moved to the ready queue. -/
theorem tryExtractFrames_encode {p : List UInt8} (hp : p.length ≤ maxFrameLen)
    (rest : List UInt8) (ready : List (List UInt8)) :
    tryExtractFrames (encode p ++ rest) ready = tryExtractFrames rest (ready ++ [p]) := by
  rw [encode, List.append_assoc, tryExtractFrames, if_pos (by simp [length_beLength]),
    readLength_getD]
  dsimp only
  rw [toNat_length_of_le hp, if_neg (Nat.not_lt.mpr hp), if_neg (by simp [length_beLength]),
    List.drop_left' (length_beLength _), List.take_left, ← List.append_assoc,
    List.drop_left' (by simp [length_beLength])]

/-- Encoded frames at the head of the buffer are moved to the ready queue, in order. -/
theorem tryExtractFrames_flatten {qs : List (List UInt8)} (hqs : ∀ q ∈ qs, q.length ≤ maxFrameLen)
    (rest : List UInt8) (ready : List (List UInt8)) :
    tryExtractFrames ((qs.map encode).flatten ++ rest) ready =
      tryExtractFrames rest (ready ++ qs) := by
  induction qs generalizing ready with
  | nil => simp
  | cons q qs ih =>
    rw [List.map_cons, List.flatten_cons, List.append_assoc,
      tryExtractFrames_encode (hqs q (List.mem_cons_self q qs)),
      ih (fun q' h => hqs q' (List.mem_cons_of_mem q h)), List.append_assoc, List.singleton_append]

/-- A proper prefix of an encoded frame stays in the buffer. -/
theorem tryExtractFrames_of_pending {p buf : List UInt8} (hp : p.length ≤ maxFrameLen)
    (hpre : buf <+: encode p) (hshort : buf.length < (encode p).length)
    (ready : List (List UInt8)) : tryExtractFrames buf ready = (buf, ready) := by
  by_cases h4 : buf.length < 4
  · rw [tryExtractFrames, if_neg (by omega)]
  -- past the prefix, the buffer is the length followed by part of the payload
  obtain ⟨u, rfl, hu⟩ : ∃ u, buf = beLength (UInt32.ofNat p.length) ++ u ∧ u.length < p.length := by
    refine ⟨p.take (buf.length - 4), ?_, ?_⟩
    · calc buf = (encode p).take buf.length := List.prefix_iff_eq_take.mp hpre
        _ = _ := by rw [encode, List.take_append_eq_append_take,
          List.take_of_length_le (by rw [length_beLength]; omega), length_beLength]
    · rw [length_encode] at hshort; simp; omega
  rw [tryExtractFrames, if_pos (by simp [length_beLength]), readLength_getD]
  dsimp only
  rw [toNat_length_of_le hp, if_neg (Nat.not_lt.mpr hp),
    if_pos (by simp [length_beLength]; omega)]

/-! ### Prefixes of the stream -/

/-- `rest` is what follows the first `i` complete frames in a prefix of the stream of `ps`: a
proper prefix of the next frame's encoding, or nothing once every frame is complete. -/
def Pending (ps : List (List UInt8)) (i : Nat) (rest : List UInt8) : Prop :=
  match ps.drop i with
  | [] => rest = []
  | p :: _ => rest <+: encode p ∧ rest.length < (encode p).length

/-- A pending part stays in the buffer. -/
theorem tryExtractFrames_of_Pending {ps : List (List UInt8)} {i : Nat} {rest : List UInt8}
    (hps : ∀ p ∈ ps, p.length ≤ maxFrameLen) (h : Pending ps i rest) (ready : List (List UInt8)) :
    tryExtractFrames rest ready = (rest, ready) := by
  unfold Pending at h
  split at h
  · subst h; rw [tryExtractFrames, if_neg (by simp)]
  · rename_i p _ hdrop
    exact tryExtractFrames_of_pending (hps p (List.mem_of_mem_drop (hdrop ▸ List.mem_cons_self p _)))
      h.1 h.2 ready

/-- Every prefix of the stream of `ps` is some number of complete frames followed by a
pending part. -/
theorem exists_pending (ps : List (List UInt8)) (B : List UInt8)
    (hB : B <+: (ps.map encode).flatten) :
    ∃ i ≤ ps.length, ∃ rest, B = ((ps.take i).map encode).flatten ++ rest ∧ Pending ps i rest := by
  induction ps generalizing B with
  | nil => exact ⟨0, le_rfl, B, by simp, List.eq_nil_of_prefix_nil hB⟩
  | cons p ps ih =>
    rw [List.map_cons, List.flatten_cons] at hB
    by_cases hlt : B.length < (encode p).length
    · exact ⟨0, Nat.zero_le _, B, by simp,
        List.prefix_of_prefix_length_le hB (List.prefix_append _ _) (Nat.le_of_lt hlt), hlt⟩
    · obtain ⟨B', rfl⟩ := List.prefix_of_prefix_length_le (List.prefix_append _ _) hB
        (Nat.not_lt.mp hlt)
      obtain ⟨i, hi, rest, hrest, hpend⟩ := ih B' ((List.prefix_append_right_inj _).mp hB)
      exact ⟨i + 1, by simp only [List.length_cons]; omega, rest, by simp [hrest], hpend⟩

theorem flatten_take_append_drop (ps : List (List UInt8)) (i : Nat) :
    ((ps.take i).map encode).flatten ++ ((ps.drop i).map encode).flatten =
      (ps.map encode).flatten := by
  rw [← List.flatten_append, ← List.map_append, List.take_append_drop]

/-! ### The invariant of a run -/

/-- A call on the framer, as the control node makes them: a `feed` of some bytes, or a
`pop_frame`. -/
inductive FramerCall
  | feed (data : List UInt8)
  | pop
  deriving DecidableEq, Repr

/-- The bytes the `feed` calls pass, in order. -/
def fedBytes : List FramerCall → List UInt8
  | [] => []
  | .feed data :: calls => data ++ fedBytes calls
  | .pop :: calls => fedBytes calls

namespace TcpFramer

/-- The calls made in turn: the frames returned by the `pop_frame` calls made while
`has_frame()` holds, and the framer after. -/
def run (s : TcpFramer) : List FramerCall → List (List UInt8) × TcpFramer
  | [] => ([], s)
  | .feed data :: calls => (s.feed data).run calls
  | .pop :: calls =>
    let r := s.popFrame
    let rest := r.2.run calls
    ((if s.hasFrame then [r.1] else []) ++ rest.1, rest.2)

/-- The final drain: `pop_frame` while `has_frame()`. -/
def drain (s : TcpFramer) : List (List UInt8) :=
  (s.run (List.replicate s.readyFrames.length .pop)).1

theorem drain_eq (s : TcpFramer) : s.drain = s.readyFrames := by
  suffices h : ∀ fs : List (List UInt8), ∀ s : TcpFramer, s.readyFrames = fs →
      (s.run (List.replicate fs.length .pop)).1 = fs from h _ s rfl
  intro fs
  induction fs with
  | nil => intro s _; rfl
  | cons f fs ih =>
    intro s hs
    simp only [List.length_cons, List.replicate_succ, run, popFrame, hasFrame, hs]
    simp [ih]

end TcpFramer

/-- The framer started with an empty buffer and the queue `Q`, was fed the bytes `fed`, and
its pops returned `out`: `fed` is `i` complete frames of `ps` followed by the buffer, which is
pending, and `out` followed by the queue is `Q` followed by the first `i` payloads. -/
def Inv (Q ps : List (List UInt8)) (s : TcpFramer) (fed : List UInt8)
    (out : List (List UInt8)) : Prop :=
  ∃ i ≤ ps.length, ((ps.take i).map encode).flatten ++ s.buffer = fed ∧
    out ++ s.readyFrames = Q ++ ps.take i ∧ Pending ps i s.buffer

section Steps

variable {Q ps : List (List UInt8)} (hps : ∀ p ∈ ps, p.length ≤ maxFrameLen)
include hps

/-- A `feed` of bytes that continue the stream keeps the invariant. -/
theorem Inv.feed {s : TcpFramer} {fed : List UInt8} {out : List (List UInt8)}
    (h : Inv Q ps s fed out) (c : List UInt8) (hc : fed ++ c <+: (ps.map encode).flatten) :
    Inv Q ps (s.feed c) (fed ++ c) out := by
  obtain ⟨i, hi, hfed, hout, -⟩ := h
  have hpre : s.buffer ++ c <+: ((ps.drop i).map encode).flatten := by
    rw [← hfed, List.append_assoc, ← flatten_take_append_drop ps i] at hc
    exact (List.prefix_append_right_inj _).mp hc
  obtain ⟨j, hj, rest, hrest, hpend⟩ := exists_pending _ _ hpre
  have hdrop : ∀ p ∈ (ps.drop i).take j, p.length ≤ maxFrameLen :=
    fun p hp => hps p (List.mem_of_mem_drop (List.mem_of_mem_take hp))
  have hpend' : Pending ps (i + j) rest := by
    unfold Pending at hpend ⊢; rwa [List.drop_drop] at hpend
  have hfeed : s.feed c = { buffer := rest, readyFrames := s.readyFrames ++ (ps.drop i).take j } := by
    simp only [TcpFramer.feed, hrest, tryExtractFrames_flatten hdrop,
      tryExtractFrames_of_Pending hps hpend']
  refine ⟨i + j, by simp only [List.length_drop] at hj; omega, ?_, ?_, ?_⟩
  · rw [hfeed, ← hfed, List.take_add, List.map_append, List.flatten_append, List.append_assoc,
      List.append_assoc, hrest]
  · rw [hfeed, ← List.append_assoc, hout, List.take_add, List.append_assoc]
  · rw [hfeed]; exact hpend'

omit hps in
/-- A `pop_frame` moves the front of the queue to the frames returned. -/
theorem Inv.pop {s : TcpFramer} {fed : List UInt8} {out : List (List UInt8)}
    (h : Inv Q ps s fed out) :
    Inv Q ps s.popFrame.2 fed (out ++ if s.hasFrame then [s.popFrame.1] else []) := by
  obtain ⟨i, hi, hfed, hout, hpend⟩ := h
  unfold TcpFramer.popFrame TcpFramer.hasFrame
  cases hr : s.readyFrames with
  | nil => exact ⟨i, hi, hfed, by simpa [hr] using hout, hpend⟩
  | cons f fs => exact ⟨i, hi, hfed, by simpa [hr] using hout, hpend⟩

/-- **The run lemma**: calls whose fed bytes continue the stream keep the invariant. -/
theorem Inv.run (calls : List FramerCall) :
    ∀ (s : TcpFramer) (fed : List UInt8) (out : List (List UInt8)), Inv Q ps s fed out →
      fed ++ fedBytes calls <+: (ps.map encode).flatten →
      Inv Q ps (s.run calls).2 (fed ++ fedBytes calls) (out ++ (s.run calls).1) := by
  induction calls with
  | nil => intro s fed out h _; simpa [TcpFramer.run, fedBytes] using h
  | cons call calls ih =>
    intro s fed out h hpre
    cases call with
    | feed data =>
      rw [fedBytes, ← List.append_assoc] at hpre ⊢
      exact ih _ _ _ (h.feed hps data ((List.prefix_append _ _).trans hpre)) hpre
    | pop =>
      simp only [fedBytes] at hpre ⊢
      simpa [TcpFramer.run, List.append_assoc] using ih _ _ _ h.pop hpre

end Steps

theorem pending_zero_nil (ps : List (List UInt8)) : Pending ps 0 [] := by
  cases ps with
  | nil => rfl
  | cons p ps => exact ⟨List.nil_prefix, by simp only [List.length_nil, length_encode]; omega⟩

theorem fedBytes_append (calls calls' : List FramerCall) :
    fedBytes (calls ++ calls') = fedBytes calls ++ fedBytes calls' := by
  induction calls with
  | nil => rfl
  | cons call calls ih => cases call <;> simp [fedBytes, ih]

/-- Once the whole stream is fed, the buffer is empty and every payload has been returned or
queued. -/
theorem Inv.complete {Q ps : List (List UInt8)} {s : TcpFramer} {out : List (List UInt8)}
    (h : Inv Q ps s (ps.map encode).flatten out) :
    s.buffer = [] ∧ out ++ s.readyFrames = Q ++ ps := by
  obtain ⟨i, hi, hfed, hout, hpend⟩ := h
  rw [← flatten_take_append_drop ps i] at hfed
  have hbuf := List.append_cancel_left hfed
  unfold Pending at hpend
  split at hpend
  · rename_i hdrop
    rw [List.drop_eq_nil_iff] at hdrop
    exact ⟨hpend, by rw [hout, List.take_of_length_le hdrop]⟩
  · rename_i p _ hdrop
    rw [hdrop, List.map_cons, List.flatten_cons] at hbuf
    exact absurd hpend.2 (by rw [hbuf]; simp)

/-- **Reassembly under any chunking**: from a framer with an empty buffer and ready queue `Q`,
feeding the encodings of payloads `ps` of at most `10 MiB` each, cut into chunks in any way,
with `pop_frame` calls anywhere, the frames the pops return while `has_frame()` holds, followed
by a final drain, are `Q` and then `ps`; the buffer ends empty.  After every call, the bytes
fed so far are some `i` complete frames followed by the buffer, which is a proper prefix of
the next frame's encoding (empty once all frames are complete), and the frames returned and
queued are `Q` and the first `i` payloads. -/
theorem run_reassembles (Q ps : List (List UInt8)) (hps : ∀ p ∈ ps, p.length ≤ maxFrameLen)
    (calls : List FramerCall) (hcalls : fedBytes calls = (ps.map encode).flatten) :
    (({ readyFrames := Q } : TcpFramer).run calls).1 ++
        (({ readyFrames := Q } : TcpFramer).run calls).2.drain = Q ++ ps ∧
      (({ readyFrames := Q } : TcpFramer).run calls).2.bufferedBytes = 0 ∧
      ∀ n ≤ calls.length, ∃ i ≤ ps.length,
        ((ps.take i).map encode).flatten ++
            (({ readyFrames := Q } : TcpFramer).run (calls.take n)).2.buffer =
          fedBytes (calls.take n) ∧
        (({ readyFrames := Q } : TcpFramer).run (calls.take n)).1 ++
            (({ readyFrames := Q } : TcpFramer).run (calls.take n)).2.readyFrames =
          Q ++ ps.take i ∧
        (∀ p ∈ (ps.drop i).head?,
          (({ readyFrames := Q } : TcpFramer).run (calls.take n)).2.buffer <+: encode p ∧
          (({ readyFrames := Q } : TcpFramer).run (calls.take n)).2.bufferedBytes <
            (encode p).length) ∧
        (i = ps.length →
          (({ readyFrames := Q } : TcpFramer).run (calls.take n)).2.bufferedBytes = 0) := by
  have h0 : Inv Q ps { readyFrames := Q } [] [] :=
    ⟨0, Nat.zero_le _, by simp, by simp, pending_zero_nil ps⟩
  have hrun : ∀ n, Inv Q ps (({ readyFrames := Q } : TcpFramer).run (calls.take n)).2
      (fedBytes (calls.take n)) (({ readyFrames := Q } : TcpFramer).run (calls.take n)).1 := by
    intro n
    have hpre : fedBytes (calls.take n) <+: (ps.map encode).flatten := by
      rw [← hcalls, ← List.take_append_drop n calls, fedBytes_append, List.take_append_drop]
      exact List.prefix_append _ _
    simpa using Inv.run hps (calls.take n) _ [] [] h0 (by simpa using hpre)
  obtain ⟨hbuf, hout⟩ := Inv.complete (by simpa [hcalls] using hrun calls.length)
  refine ⟨by rw [TcpFramer.drain_eq]; simpa using hout,
    by simpa [TcpFramer.bufferedBytes] using hbuf, fun n _ => ?_⟩
  obtain ⟨i, hi, hfed, hout', hpend⟩ := hrun n
  refine ⟨i, hi, hfed, hout', ?_⟩
  unfold Pending at hpend
  unfold TcpFramer.bufferedBytes
  split at hpend
  · rename_i hdrop
    simp [hdrop, hpend]
  · rename_i p _ hdrop
    refine ⟨by simpa [hdrop] using hpend, fun hlen => ?_⟩
    rw [hlen, List.drop_length] at hdrop
    exact absurd hdrop (List.cons_ne_nil _ _).symm

theorem run_reassembles_two_chunks :
    (∀ p ∈ ([[1, 2], []] : List (List UInt8)), p.length ≤ maxFrameLen) ∧
    fedBytes [.feed [0, 0, 0], .pop, .feed [2, 1, 2, 0, 0, 0, 0]] =
      (([[1, 2], []] : List (List UInt8)).map encode).flatten ∧
    (({ readyFrames := [[9]] } : TcpFramer).run
        [.feed [0, 0, 0], .pop, .feed [2, 1, 2, 0, 0, 0, 0]]).1 ++
      (({ readyFrames := [[9]] } : TcpFramer).run
        [.feed [0, 0, 0], .pop, .feed [2, 1, 2, 0, 0, 0, 0]]).2.drain = [[9]] ++ [[1, 2], []] :=
  ⟨by decide, by decide, (run_reassembles _ _ (by decide) _ (by decide)).1⟩

end NetNodeGateway
