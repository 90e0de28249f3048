import NetNodeGateway.Replay.ReplayMain
import NetNodeGateway.Replay.Correctness.ReplayEngine
import NetNodeGateway.Common.Correctness.MainArgs

/-!
# Correctness of the replay tool

`run_records`: on a file of records the recorder wrote, `replay_main` sends the frames of the
records in order, leaving out the empty ones, which `UdpFrameSink::send` refuses; with
`--dry-run` it sends nothing and prints one summary per frame, numbered from `1`.  This holds
at any playback speed, once the loop may run one iteration per record and one more, for frames
that fit in an IPv4 datagram, the only ones the model's `send` is taken to send as the socket
does.

The loop is taken once, by induction on the records (`replayLoop_records`), from the facts
`receive_recordBytes` and `receive_short` give about one `receive`.

**The command line.**  `replay_main --file <path> --speed <text>`, with `--dry-run` or not, runs
that loop on the file (`main_records`).  The body of the argument loop has no final `else`: an
argument that is not an option is passed over (`argStep_of_not_mem`), and so is a `--file`
given last, which the tool reads as an option with a value when another argument follows it.
So on such a command line the tool prints `Error: --file is required` and returns `1`
(`main_file_missing`), where the gateway and the simulator refuse the first such argument.
-/

namespace NetNodeGateway

namespace ReplayMain

/-- The dry run's lines for the frames `fs`, `n` frames having been replayed before them. -/
def frameSummaries (n : UInt64) : List (List UInt8) → List String
  | [] => []
  | f :: fs => frameSummary (n + 1) f :: frameSummaries (n + 1) fs

/-- **The loop over a recording**: from a live source whose bytes are the records `rs`, the loop
sends their nonempty frames in order, or in a dry run prints their summaries. -/
theorem replayLoop_records (dryRun : Bool) (rs : List (UInt64 × List UInt8))
    (hlen : ∀ x ∈ rs, x.2.length < 4294967296) :
    ∀ (fuel : Nat) (src : ReplayFrameSource), src.Live → src.rest = recordsBytes rs →
      rs.length < fuel →
      (replayLoop dryRun fuel src).1 =
          (if dryRun then [] else (rs.map (·.2)).filter (!·.isEmpty)) ∧
        (replayLoop dryRun fuel src).2.1 =
          (if dryRun then frameSummaries src.framesReplayed (rs.map (·.2)) else []) := by
  induction rs with
  | nil =>
    intro fuel src hl hr hf
    obtain ⟨fuel, rfl⟩ : ∃ n, fuel = n + 1 := ⟨fuel - 1, by simp only [List.length_nil] at hf; omega⟩
    have hstop : (replayLoop dryRun (fuel + 1) src).1 = [] ∧ (replayLoop dryRun (fuel + 1) src).2.1 = [] := by
      cases hd : src.done
      · simp only [replayLoop, ReplayFrameSource.receive_short hl.1 hd (by simp [hr]), hd,
          Bool.false_eq_true, if_false, and_self]
      · simp only [replayLoop, hd, if_true, and_self]
    cases dryRun <;> exact hstop
  | cons x rs ih =>
    intro fuel src hl hr hf
    obtain ⟨fuel, rfl⟩ : ∃ n, fuel = n + 1 :=
      ⟨fuel - 1, by simp only [List.length_cons] at hf; omega⟩
    have hx := hlen x (List.mem_cons_self x rs)
    have hstep := ReplayFrameSource.receive_recordBytes hl hx (recordsBytes rs)
      (by rw [hr, recordsBytes_cons])
    have hd : src.done = false := hl.2 (List.ne_nil_of_length_pos (by
      simp only [hr, recordsBytes_cons, List.length_append, length_recordBytes]; omega))
    obtain ⟨ih1, ih2⟩ := ih (fun y hy => hlen y (List.mem_cons_of_mem x hy)) fuel
      (src.deliver x.1 (recordsBytes rs)) (hl.deliver x.1 _) rfl
      (by simp only [List.length_cons] at hf; omega)
    simp only [replayLoop, hd, hstep, Bool.false_eq_true, if_false, if_true]
    cases dryRun
    · cases he : x.2.isEmpty <;>
        simp only [ih1, ih2, he, Bool.false_eq_true, if_false, if_true, List.map_cons,
          List.filter_cons, Bool.not_false, Bool.not_true, List.nil_append, List.singleton_append,
          and_self]
    · simp only [ih1, ih2, if_true, List.map_cons, frameSummaries,
        ReplayFrameSource.framesReplayed_deliver, and_self]

/-- The tool from its file on, as the model has it: on a file of records, each shorter than
`2^32` bytes, it sends the records' nonempty frames in order, or prints their summaries. -/
theorem run_recordsBytes (rs : List (UInt64 × List UInt8))
    (hlen : ∀ x ∈ rs, x.2.length < 4294967296) (timed dryRun : Bool) (fuel : Nat)
    (hfuel : rs.length < fuel) :
    run (some (recordsBytes rs)) timed dryRun fuel =
      some (if dryRun then ([], frameSummaries 0 (rs.map (·.2)))
        else ((rs.map (·.2)).filter (!·.isEmpty), [])) := by
  let src := (({} : ReplayFrameSource).open (some (recordsBytes rs))).2.setSpeed timed
  obtain ⟨h1, h2⟩ := replayLoop_records dryRun rs hlen fuel src
    ((ReplayFrameSource.live_open _ _).setSpeed timed) rfl hfuel
  show some ((replayLoop dryRun fuel src).1, (replayLoop dryRun fuel src).2.1) = _
  rw [h1, h2]
  cases dryRun <;> rfl

/-- **Replaying a recording**: on a file of records whose frames fit in an IPv4 datagram
(`65507` bytes), the tool at any speed sends the records' frames in order, except the empty
ones, and prints nothing; with `--dry-run` it sends nothing and prints one summary per frame,
numbered from `1`. -/
theorem run_records (rs : List (UInt64 × List UInt8)) (hlen : ∀ x ∈ rs, x.2.length ≤ 65507)
    (timed dryRun : Bool) (fuel : Nat) (hfuel : rs.length < fuel) :
    run (some (recordsBytes rs)) timed dryRun fuel =
      some (if dryRun then ([], frameSummaries 0 (rs.map (·.2)))
        else ((rs.map (·.2)).filter (!·.isEmpty), [])) :=
  run_recordsBytes rs (fun x hx => Nat.lt_of_le_of_lt (hlen x hx) (by decide)) timed dryRun fuel
    hfuel

theorem run_records_two :
    (∀ x ∈ ([(5, [1, 2, 3]), (7, [])] : List (UInt64 × List UInt8)), x.2.length ≤ 65507) ∧
      ([(5, [1, 2, 3]), (7, [])] : List (UInt64 × List UInt8)).length < 3 ∧
      run (some (recordsBytes [(5, [1, 2, 3]), (7, [])])) true false 3 = some ([[1, 2, 3]], []) :=
  ⟨by decide, by decide, run_records [(5, [1, 2, 3]), (7, [])] (by decide) true false 3 (by decide)⟩

/-! ### The command line -/

section CommandLine

variable {D : Type} (stod : List Char → Option D)

/-- The options of the tool. -/
def options : List (List Char) :=
  ["--file".toList, "--speed".toList, "--host".toList, "--port".toList, "--dry-run".toList,
    "--help".toList]

/-- An argument that is not an option is passed over, whatever follows it. -/
theorem argStep_of_not_mem (o : ReplayOptions D) {arg : List Char} (h : arg ∉ options)
    (next : Option (List Char)) : argStep stod o arg next = .next o := by
  simp only [options, List.mem_cons, List.mem_singleton, List.not_mem_nil, or_false,
    not_or] at h
  obtain ⟨h1, h2, h3, h4, h5, h6⟩ := h
  simp only [argStep, ifValue_of_ne h1, ifValue_of_ne h2, ifValue_of_ne h3, ifValue_of_ne h4,
    ifFlag_of_ne h5, ifFlag_of_ne h6]

/-- Arguments that are not options, then one the body passes over when nothing follows it, leave
the options as they were. -/
theorem argLoop_not_mem (o : ReplayOptions D) (last : List Char)
    (hlast : argStep stod o last none = .next o) :
    ∀ args : List (List Char), (∀ a ∈ args, a ∉ options) →
      argLoop (argStep stod) o (args ++ [last]) = .done o
  | [], _ => by simp only [List.nil_append, argLoop, hlast]
  | a :: args, h => by
    have ha := h a (List.mem_cons_self a args)
    obtain ⟨b, rest, hb⟩ := List.exists_cons_of_ne_nil (List.append_ne_nil_of_right_ne_nil args
      (List.cons_ne_nil last []))
    rw [List.cons_append, hb, argLoop, argStep_of_not_mem stod o ha, ← hb]
    exact argLoop_not_mem o last hlast args fun x hx => h x (List.mem_cons_of_mem a hx)

variable [OfNat D 0] [OfNat D 1] [LT D] [DecidableRel (@LT.lt D _)]

/-- **Arguments passed over**: `replay_main` passes over every argument that is not one of its
options, and a `--file` given last without its path, so that on such a command line it prints
`Error: --file is required` and returns `1`; the gateway and the simulator refuse the first
such argument as an unknown option. -/
theorem main_file_missing (files : List Char → Option (List UInt8)) (args : List (List Char))
    (hargs : ∀ a ∈ args, a ∉ options) (fuel : Nat) :
    main stod files (args ++ ["--file".toList]) fuel =
      .exit 1 "Error: --file is required\n".toList [] [] := by
  simp only [main, parseArgs, argLoop_not_mem stod _ "--file".toList rfl args hargs]
  rfl

theorem main_file_missing_verbose :
    (∀ a ∈ ["-v".toList], a ∉ options) ∧
      main (fun _ => some (1 : Nat)) (fun _ => none) ["-v".toList, "--file".toList] 3 =
        .exit 1 "Error: --file is required\n".toList [] [] :=
  ⟨by decide, main_file_missing _ _ ["-v".toList] (by decide) 3⟩

/-- **The command line of a replay**: `replay_main --file <path> --speed <text>`, with
`--dry-run` or not, on a file of records whose frames fit in an IPv4 datagram and a speed that
`std::stod` reads, returns `0` having sent the records' nonempty frames in order, or in a dry
run having printed one summary per frame. -/
theorem main_records (files : List Char → Option (List UInt8)) (path : List Char)
    (hpath : path ≠ []) (rs : List (UInt64 × List UInt8)) (hfile : files path = some (recordsBytes rs))
    (hlen : ∀ x ∈ rs, x.2.length ≤ 65507) (t : List Char) (x : D) (ht : stod t = some x)
    (dryRun : Bool) (fuel : Nat) (hfuel : rs.length < fuel) :
    main stod files (["--file".toList, path, "--speed".toList, t] ++
        if dryRun then ["--dry-run".toList] else []) fuel =
      .exit 0 [] (if dryRun then [] else (rs.map (·.2)).filter (!·.isEmpty))
        (if dryRun then frameSummaries 0 (rs.map (·.2)) else []) := by
  have hparse : parseArgs stod (["--file".toList, path, "--speed".toList, t] ++
      if dryRun then ["--dry-run".toList] else []) =
        .done { filePath := path, speed := x, dryRun := dryRun } := by
    cases dryRun <;> simp [parseArgs, argLoop, argStep, ht] <;> rfl
  let src := (({} : ReplayFrameSource).open (some (recordsBytes rs))).2.setSpeed
    (decide ((0 : D) < x))
  obtain ⟨h1, h2⟩ := replayLoop_records dryRun rs
    (fun x hx => Nat.lt_of_le_of_lt (hlen x hx) (by decide)) fuel src
    ((ReplayFrameSource.live_open _ _).setSpeed _) rfl hfuel
  have hempty : path.isEmpty = false := by simpa [List.isEmpty_iff] using hpath
  have hrun : run (some (recordsBytes rs)) (decide ((0 : D) < x)) dryRun fuel =
      some ((replayLoop dryRun fuel src).1, (replayLoop dryRun fuel src).2.1) := rfl
  simp only [main, hparse, hempty, hfile, hrun, h1, h2, Bool.false_eq_true, if_false]
  cases dryRun <;> rfl

theorem main_records_one :
    main (fun _ => some (0 : Nat)) (fun _ => some (recordsBytes [(5, [1, 2, 3])]))
        ["--file".toList, "r.bin".toList, "--speed".toList, "0".toList] 2 =
      .exit 0 [] [[1, 2, 3]] [] :=
  main_records _ _ "r.bin".toList (by decide) [(5, [1, 2, 3])] rfl (by decide) "0".toList 0 rfl
    false 2 (by decide)

end CommandLine

end ReplayMain

end NetNodeGateway
