import NetNodeGateway.Gateway.FrameRecorder
import NetNodeGateway.Replay.ReplayEngine

/-!
# Recording and replaying: the file format round trip

`FrameRecorder` writes a record `{ts u64, len u32, bytes}` per frame, and `ReplayFrameSource`
reads them back.  The headline results:

* `recordAll_spec`: an opened recorder writes exactly the concatenated records, and every
  `record` call succeeds;
* `receive_recordBytes`: a record at the head of the file is received whole;
* `receive_truncated`: any proper prefix of a record fails the `receive`, which marks the
  source done, whichever field the file ends in;
* `receiveN_records`: the run lemma, replaying any list of records followed by any bytes;
* `replay_recordFile`: the round trip from the recorder's file, with or without a
  crash-truncated tail.
-/

namespace NetNodeGateway

/-! ### Reading bytes -/

theorem readBytes_append {a : List UInt8} (b : List UInt8) {n : Nat} (h : a.length = n) :
    readBytes (a ++ b) n = some (a, b) := by
  simp [readBytes, ← h]

theorem readBytes_of_lt {rest : List UInt8} {n : Nat} (h : rest.length < n) :
    readBytes rest n = none := by
  simp [readBytes, Nat.not_le.mpr h]

theorem recordBytes_eq (t : UInt64) (f : List UInt8) :
    recordBytes t f = le64 t ++ (le32 (UInt32.ofNat f.length) ++ f) := by
  simp [recordBytes]

@[simp] theorem length_recordBytes (t : UInt64) (f : List UInt8) :
    (recordBytes t f).length = 12 + f.length := by
  simp [recordBytes_eq]; omega

/-! ### Recording -/

/-- `record` called with each of `rs` in turn: each call's result, and the recorder after. -/
def FrameRecorder.recordAll (r : FrameRecorder) :
    List (UInt64 × List UInt8) → List Bool × FrameRecorder
  | [] => ([], r)
  | x :: rs =>
    let y := r.record x.1 x.2
    let z := y.2.recordAll rs
    (y.1 :: z.1, z.2)

/-- The bytes of the records `rs`, in order. -/
def recordsBytes (rs : List (UInt64 × List UInt8)) : List UInt8 :=
  (rs.map fun x => recordBytes x.1 x.2).flatten

@[simp] theorem recordsBytes_nil : recordsBytes [] = [] := rfl

@[simp] theorem recordsBytes_cons (x : UInt64 × List UInt8) (rs : List (UInt64 × List UInt8)) :
    recordsBytes (x :: rs) = recordBytes x.1 x.2 ++ recordsBytes rs := rfl

theorem recordsBytes_append (rs qs : List (UInt64 × List UInt8)) :
    recordsBytes (rs ++ qs) = recordsBytes rs ++ recordsBytes qs := by
  simp [recordsBytes]

theorem recordsBytes_ne_nil {rs : List (UInt64 × List UInt8)} (h : rs ≠ []) :
    recordsBytes rs ≠ [] := by
  obtain ⟨x, rs, rfl⟩ := List.exists_cons_of_ne_nil h
  rw [recordsBytes_cons, Ne, List.append_eq_nil, ← List.length_eq_zero, length_recordBytes]
  omega

/-- An open recorder appends each record and counts it; every call returns `true`. -/
theorem FrameRecorder.record_of_isOpen {r : FrameRecorder} (h : r.isOpen = true)
    (t : UInt64) (f : List UInt8) :
    r.record t f = (true, { r with file := r.file ++ recordBytes t f,
                                   frameCount := r.frameCount + 1 }) := by
  simp [record, h]

/-- **Recording**: an open recorder given the records `rs` accepts every one, stays open,
appends exactly their bytes and counts them. -/
theorem FrameRecorder.recordAll_spec (rs : List (UInt64 × List UInt8)) :
    ∀ r : FrameRecorder, r.isOpen = true →
      (r.recordAll rs).1 = rs.map (fun _ => true) ∧ (r.recordAll rs).2.isOpen = true ∧
      (r.recordAll rs).2.file = r.file ++ recordsBytes rs ∧
      (r.recordAll rs).2.frameCount.toNat = (r.frameCount.toNat + rs.length) % 18446744073709551616 := by
  induction rs with
  | nil => intro r h; simp [recordAll, h, Nat.mod_eq_of_lt r.frameCount.toNat_lt_size]
  | cons x rs ih =>
    intro r h
    have hstep := record_of_isOpen h x.1 x.2
    obtain ⟨hcalls, hopen, hfile, hcount⟩ :=
      ih { r with file := r.file ++ recordBytes x.1 x.2, frameCount := r.frameCount + 1 } h
    simp only [recordAll, hstep, hcalls, hopen, hfile, hcount, List.map_cons, List.append_assoc,
      recordsBytes_cons, true_and]
    rw [toNat_uint64_add, List.length_cons, Nat.mod_add_mod]
    exact congrArg (· % 18446744073709551616) (Nat.add_right_comm ..)

/-! ### Receiving one record -/

namespace ReplayFrameSource

/-- What `open` establishes and a successful `receive` keeps: the source is open, and it is not
done while bytes remain. -/
def Live (r : ReplayFrameSource) : Prop := r.isOpen = true ∧ (r.rest ≠ [] → r.done = false)

theorem live_open (r : ReplayFrameSource) (bytes : List UInt8) :
    (r.open (some bytes)).2.Live := by
  simp [Live, «open»]

theorem Live.setSpeed {r : ReplayFrameSource} (h : r.Live) (positive : Bool) :
    (r.setSpeed positive).Live := h

@[simp] theorem isOpen_deliver (r : ReplayFrameSource) (t : UInt64) (rest : List UInt8) :
    (r.deliver t rest).isOpen = r.isOpen := by
  simp only [deliver]; split <;> rfl

@[simp] theorem rest_deliver (r : ReplayFrameSource) (t : UInt64) (rest : List UInt8) :
    (r.deliver t rest).rest = rest := rfl

@[simp] theorem done_deliver (r : ReplayFrameSource) (t : UInt64) (rest : List UInt8) :
    (r.deliver t rest).done = rest.isEmpty := rfl

@[simp] theorem framesReplayed_deliver (r : ReplayFrameSource) (t : UInt64) (rest : List UInt8) :
    (r.deliver t rest).framesReplayed = r.framesReplayed + 1 := by
  simp only [deliver]; split <;> rfl

theorem Live.deliver {r : ReplayFrameSource} (h : r.Live) (t : UInt64) (rest : List UInt8) :
    (r.deliver t rest).Live :=
  ⟨by simp [h.1], by simp⟩

theorem receive_of_done {r : ReplayFrameSource} (hd : r.done = true) :
    r.receive = (false, [], r) := by
  simp [receive, hd]

theorem receiveN_of_done {r : ReplayFrameSource} (hd : r.done = true) :
    ∀ k, r.receiveN k = (List.replicate k (false, []), r)
  | 0 => rfl
  | k + 1 => by simp [receiveN, receive_of_done hd, receiveN_of_done hd k, List.replicate_succ]

theorem receiveN_add (r : ReplayFrameSource) (m k : Nat) :
    r.receiveN (m + k) =
      ((r.receiveN m).1 ++ ((r.receiveN m).2.receiveN k).1, ((r.receiveN m).2.receiveN k).2) := by
  induction m generalizing r with
  | zero => simp [receiveN]
  | succ m ih => simp [Nat.succ_add, receiveN, ih]

/-- A record the recorder wrote, at the head of what an open source has left, is received
whole: its frame is returned and the source continues after it. -/
theorem receive_recordBytes {r : ReplayFrameSource} (hl : r.Live) {t : UInt64}
    {f : List UInt8} (hf : f.length < 4294967296) (more : List UInt8)
    (hr : r.rest = recordBytes t f ++ more) :
    r.receive = (true, f, r.deliver t more) := by
  have hd : r.done = false :=
    hl.2 (List.ne_nil_of_length_pos (by simp only [hr, List.length_append, length_recordBytes]; omega))
  have hlen : (ofLe32 (le32 (UInt32.ofNat f.length))).toNat = f.length := by
    simp [Nat.mod_eq_of_lt hf]
  simp only [receive, hl.1, hd, hr, recordBytes_eq, List.append_assoc,
    readBytes_append _ (length_le64 t), readBytes_append _ (length_le32 _), hlen, ofLe64_le64,
    Bool.not_true, Bool.or_false, Bool.false_eq_true, if_false]
  by_cases hf0 : 0 < f.length
  · simp only [if_pos hf0, readBytes_append more rfl]
  · obtain rfl := List.eq_nil_of_length_eq_zero (Nat.eq_zero_of_not_pos hf0)
    rfl

/-- Fewer than eight bytes left: the timestamp cannot be read. -/
theorem receive_short {r : ReplayFrameSource} (ho : r.isOpen = true) (hd : r.done = false)
    (h : r.rest.length < 8) :
    r.receive = (false, [], { r with rest := [], done := true }) := by
  simp [receive, ho, hd, readBytes_of_lt h]

/-- **A crash-truncated record**: if an open source that is not done has only a proper prefix
of a record left, whether it ends inside the timestamp, the length or the frame, the
`receive` fails with an empty buffer and marks the source done. -/
theorem receive_truncated {r : ReplayFrameSource} (ho : r.isOpen = true) (hd : r.done = false)
    {t : UInt64} {f : List UInt8} (hf : f.length < 4294967296) {j : Nat}
    (hj : j < (recordBytes t f).length) (hr : r.rest = (recordBytes t f).take j) :
    r.receive = (false, [], { r with rest := [], done := true }) := by
  rw [length_recordBytes] at hj
  rw [recordBytes_eq, List.take_append_eq_append_take, length_le64] at hr
  rcases Nat.lt_or_ge j 8 with h8 | h8
  · exact receive_short ho hd (by simp [hr]; omega)
  rw [List.take_of_length_le (by simp; omega), List.take_append_eq_append_take,
    length_le32] at hr
  rcases Nat.lt_or_ge (j - 8) 4 with h12 | h12
  · have h4 : (List.take (j - 8) (le32 (UInt32.ofNat f.length)) ++
        List.take (j - 8 - 4) f).length < 4 := by simp; omega
    simp [receive, ho, hd, hr, readBytes_append _ (length_le64 t), readBytes_of_lt h4]
  rw [List.take_of_length_le (by simp; omega)] at hr
  have hlen : (ofLe32 (le32 (UInt32.ofNat f.length))).toNat = f.length := by
    simp [Nat.mod_eq_of_lt hf]
  simp only [receive, ho, hd, hr, readBytes_append _ (length_le64 t),
    readBytes_append _ (length_le32 _), hlen, Bool.not_true, Bool.or_false,
    Bool.false_eq_true, if_false, if_pos (show 0 < f.length by omega),
    readBytes_of_lt (show (List.take (j - 8 - 4) f).length < f.length by simp; omega)]

/-! ### Replaying a run of records -/

/-- **Replay of a run of records**: a live source whose remaining bytes are the records `rs`
followed by any bytes `tail` receives the frames of `rs` in order, one per call, and is left
live on `tail`, done exactly when `tail` is empty (once it has received something), having
counted the frames. -/
theorem receiveN_records (rs : List (UInt64 × List UInt8))
    (hlen : ∀ x ∈ rs, x.2.length < 4294967296) (tail : List UInt8) :
    ∀ r : ReplayFrameSource, r.Live → r.rest = recordsBytes rs ++ tail →
      (r.receiveN rs.length).1 = rs.map (fun x => (true, x.2)) ∧
      (r.receiveN rs.length).2.Live ∧ (r.receiveN rs.length).2.rest = tail ∧
      (rs ≠ [] → (r.receiveN rs.length).2.done = tail.isEmpty) ∧
      (r.receiveN rs.length).2.framesReplayed.toNat =
        (r.framesReplayed.toNat + rs.length) % 18446744073709551616 := by
  induction rs with
  | nil =>
    intro r hl hr
    simp [receiveN, hl, hr, Nat.mod_eq_of_lt r.framesReplayed.toNat_lt_size]
  | cons x rs ih =>
    intro r hl hr
    have hstep := receive_recordBytes hl (hlen x (List.mem_cons_self x rs))
      (recordsBytes rs ++ tail) (by rw [hr, recordsBytes_cons, List.append_assoc])
    obtain ⟨hout, hlive, hrest, hdone, hcount⟩ :=
      ih (fun y hy => hlen y (List.mem_cons_of_mem x hy)) _ (hl.deliver x.1 _) rfl
    simp only [List.length_cons, receiveN, hstep, List.map_cons]
    refine ⟨by rw [hout], hlive, hrest, fun _ => ?_, ?_⟩
    · rcases rs with _ | ⟨y, rs⟩
      · simp [receiveN]
      · exact hdone (List.cons_ne_nil y rs)
    · rw [hcount, framesReplayed_deliver, toNat_uint64_add, Nat.mod_add_mod]
      exact congrArg (· % 18446744073709551616) (Nat.add_right_comm ..)

/-- **Replay past the end**: once a live source has only a proper prefix of a record left
(possibly nothing), every further `receive` returns `false` with an empty buffer, the first
one leaves the source done, and the count of frames stays. -/
theorem receiveN_truncated {r : ReplayFrameSource} (hl : r.Live) {t : UInt64}
    {f : List UInt8} (hf : f.length < 4294967296) {j : Nat} (hj : j < (recordBytes t f).length)
    (hr : r.rest = (recordBytes t f).take j) (k : Nat) :
    (r.receiveN k).1 = List.replicate k (false, []) ∧
      (r.receiveN k).2.framesReplayed = r.framesReplayed ∧
      (0 < k → (r.receiveN k).2.done = true) := by
  cases hd : r.done
  · cases k with
    | zero => simp [receiveN]
    | succ k =>
      have hdone : ({ r with rest := [], done := true } : ReplayFrameSource).done = true := rfl
      simp [receiveN, receive_truncated hl.1 hd hf hj hr, receiveN_of_done hdone,
        List.replicate_succ]
  · simp [receiveN_of_done hd, hd]

end ReplayFrameSource

/-! ### The round trip -/

/-- The file a recorder writes when opened and given the records `rs`. -/
def recordFile (rs : List (UInt64 × List UInt8)) : List UInt8 :=
  ((({} : FrameRecorder).open true).2.recordAll rs).2.file

/-- The source a replay opens on the bytes of `file`, at speed `0.0`. -/
def replaySource (file : List UInt8) : ReplayFrameSource :=
  (({} : ReplayFrameSource).open (some file)).2.setSpeed false

theorem isEmpty_take_recordBytes (t : UInt64) (f : List UInt8) (j : Nat) :
    ((recordBytes t f).take j).isEmpty = (j == 0) := by
  cases j with
  | zero => rfl
  | succ j => simp [recordBytes_eq, le64, leBytes]

theorem recordFile_eq (rs : List (UInt64 × List UInt8)) : recordFile rs = recordsBytes rs := by
  simpa using (FrameRecorder.recordAll_spec rs _ rfl).2.2.1

theorem live_replaySource (file : List UInt8) : (replaySource file).Live :=
  (ReplayFrameSource.live_open _ file).setSpeed false

/-- **Replaying records with any tail**: a source opened on the records `rs` followed by a
proper prefix of one more record (empty when `j = 0`) returns the frames of `rs` in order, is
not done before the last of them, is done after it exactly when nothing follows, and then
returns `false` with an empty buffer on every later call, which leaves it done; the count of
frames replayed is the number of records. -/
theorem replay_records_then (rs : List (UInt64 × List UInt8))
    (hlen : ∀ x ∈ rs, x.2.length < 4294967296) {t : UInt64} {f : List UInt8}
    (hf : f.length < 4294967296) {j : Nat} (hj : j < (recordBytes t f).length) (k : Nat) :
    let src := replaySource (recordsBytes rs ++ (recordBytes t f).take j)
    (src.receiveN (rs.length + k)).1 =
        rs.map (fun x => (true, x.2)) ++ List.replicate k (false, []) ∧
      (∀ i, 0 < i → i < rs.length → (src.receiveN i).2.done = false) ∧
      (rs ≠ [] → (src.receiveN rs.length).2.done = (j == 0)) ∧
      (0 < k → (src.receiveN (rs.length + k)).2.done = true) ∧
      (src.receiveN (rs.length + k)).2.framesReplayed = UInt64.ofNat rs.length := by
  intro src
  have hsrc : src.rest = recordsBytes rs ++ (recordBytes t f).take j := rfl
  obtain ⟨hout, hlive, hrest, hdone, hcount⟩ :=
    ReplayFrameSource.receiveN_records rs hlen _ src (live_replaySource _) hsrc
  obtain ⟨hout', hcount', hdone'⟩ := ReplayFrameSource.receiveN_truncated hlive hf hj hrest k
  have hsplit : ∀ i ≤ rs.length, src.rest =
      recordsBytes (rs.take i) ++ (recordsBytes (rs.drop i) ++ (recordBytes t f).take j) := by
    intro i _
    rw [← List.append_assoc, ← recordsBytes_append, List.take_append_drop, hsrc]
  refine ⟨by rw [ReplayFrameSource.receiveN_add, hout, hout'], fun i hi hin => ?_,
    fun hne => by rw [hdone hne, isEmpty_take_recordBytes], fun hk => ?_, ?_⟩
  · have hi' : (rs.take i).length = i := List.length_take_of_le (Nat.le_of_lt hin)
    obtain ⟨-, -, -, hdone_i, -⟩ := ReplayFrameSource.receiveN_records (rs.take i)
      (fun x hx => hlen x (List.mem_of_mem_take hx)) _ src (live_replaySource _)
      (hsplit i (Nat.le_of_lt hin))
    have hdrop : rs.drop i ≠ [] := List.ne_nil_of_length_pos (by rw [List.length_drop]; omega)
    obtain ⟨c, cs, hc⟩ := List.exists_cons_of_ne_nil (recordsBytes_ne_nil hdrop)
    rw [← hi', hdone_i (List.ne_nil_of_length_pos (by rw [hi']; exact hi)), hc]
    rfl
  · rw [ReplayFrameSource.receiveN_add]; exact hdone' hk
  · rw [ReplayFrameSource.receiveN_add, hcount']
    apply UInt64.toNat.inj
    rw [hcount, toNat_uint64_ofNat, show src.framesReplayed.toNat = 0 from rfl, Nat.zero_add]

/-- **Record/replay round trip**: a recorder opened and given the records `rs` (frames
shorter than `2^32` bytes, empty ones included) accepts every one; a source opened on its file
at speed `0.0` returns the `n` frames in order, is not done before the `n`-th call and is done
after it, returns `false` with an empty buffer on every later call, and has counted `n`
frames.  If the file ends in any proper prefix of one more record instead, the same frames come
back and the next call fails with an empty buffer and leaves the source done. -/
theorem replay_recordFile (rs : List (UInt64 × List UInt8))
    (hlen : ∀ x ∈ rs, x.2.length < 4294967296) :
    ((({} : FrameRecorder).open true).2.recordAll rs).1 = rs.map (fun _ => true) ∧
    (∀ k, ((replaySource (recordFile rs)).receiveN (rs.length + k)).1 =
        rs.map (fun x => (true, x.2)) ++ List.replicate k (false, [])) ∧
    (∀ i, 0 < i → i < rs.length → ((replaySource (recordFile rs)).receiveN i).2.done = false) ∧
    (rs ≠ [] → ((replaySource (recordFile rs)).receiveN rs.length).2.done = true) ∧
    (∀ k, ((replaySource (recordFile rs)).receiveN (rs.length + k)).2.framesReplayed =
        UInt64.ofNat rs.length) ∧
    (∀ t f j, f.length < 4294967296 → j < (recordBytes t f).length →
      ((replaySource (recordFile rs ++ (recordBytes t f).take j)).receiveN (rs.length + 1)).1 =
          rs.map (fun x => (true, x.2)) ++ [(false, [])] ∧
        ((replaySource (recordFile rs ++ (recordBytes t f).take j)).receiveN
          (rs.length + 1)).2.done = true) := by
  have hclean : recordFile rs = recordsBytes rs ++ (recordBytes 0 []).take 0 := by
    simp [recordFile_eq]
  have h := replay_records_then rs hlen (t := 0) (f := []) (by decide) (j := 0) (by simp)
  refine ⟨(FrameRecorder.recordAll_spec rs _ rfl).1, fun k => ?_, fun i hi hin => ?_,
    fun hne => ?_, fun k => ?_, fun t f j hf hj => ?_⟩
  · rw [hclean]; exact (h k).1
  · rw [hclean]; exact (h 0).2.1 i hi hin
  · rw [hclean]; exact (h 0).2.2.1 hne
  · rw [hclean]; exact (h k).2.2.2.2
  · obtain ⟨hout, -, -, hdone, -⟩ := replay_records_then rs hlen hf hj 1
    rw [recordFile_eq]
    exact ⟨hout, hdone Nat.one_pos⟩

theorem replay_recordFile_two :
    (∀ x ∈ ([(5, [1, 2, 3]), (7, [])] : List (UInt64 × List UInt8)),
      x.2.length < 4294967296) ∧
    ∀ k, ((replaySource (recordFile [(5, [1, 2, 3]), (7, [])])).receiveN
        ([((5 : UInt64), ([1, 2, 3] : List UInt8)), (7, [])].length + k)).1 =
      [((5 : UInt64), ([1, 2, 3] : List UInt8)), (7, [])].map (fun x => (true, x.2)) ++
        List.replicate k (false, []) :=
  ⟨by decide, (replay_recordFile _ (by decide)).2.1⟩

end NetNodeGateway
