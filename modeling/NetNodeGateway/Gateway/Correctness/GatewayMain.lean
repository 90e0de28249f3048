import NetNodeGateway.Gateway.GatewayMain
import NetNodeGateway.Common.Correctness.MainArgs

/-!
# Correctness of the gateway's command line

**What `main` can run with.**  On a command line of C strings, as every `argv` entry is, the
configurations with which `main`'s loop ends are exactly those in which a disabled recording
keeps the default record path and the two paths are C strings (`parseArgs_done_iff`): every
branch of the loop keeps that (`argStep_cases`, `argLoop_inv_of_forall`), since only `--record`
sets the record path, to the argument after it, and enables recording too; and every such
configuration is read from the command line `commandLine` that names each of its fields
(`parseArgs_commandLine`), whose arguments are C strings (`cString_commandLine`).

**Unknown options.**  The loop's body reads `argv[i + 1]` only as the value of an option that
requires one (`localStep_argStep`), so a command line is read piece by piece
(`argLoop_append`).  After arguments that `main` accepts, an argument that is not an option, or
an option that needs a value given last, makes `main` print `Unknown option: ` with it and return
`1` (`parseArgs_append_unknown`).
-/

namespace NetNodeGateway

namespace GatewayMain

/-- The options that take no value. -/
def flagOptions : List (List Char) := ["--crc".toList, "--no-crc".toList, "--help".toList]

/-- The options that take a value. -/
def valueOptions : List (List Char) :=
  ["--port".toList, "--record".toList, "--replay".toList, "--log-level".toList]

/-- The name `parse_log_level` reads as a severity. -/
def levelName : Severity → List Char
  | .debug => "DEBUG".toList
  | .info => "INFO".toList
  | .warn => "WARN".toList
  | .alarm => "ALARM".toList
  | .error => "ERROR".toList
  | .fatal => "FATAL".toList

@[simp] theorem parseLogLevel_levelName (v : Severity) : parseLogLevel (levelName v) = v := by
  cases v <;> rfl

/-! ### One pass of the loop -/

/-- What a pass of the loop that goes on can do to the configuration: set the port, the CRC
flag, the record path with recording enabled, the replay path, or the log level. -/
theorem argStep_cases {c c' : FullGatewayConfig} {arg : List Char} {next : Option (List Char)}
    (h : argStep c arg next = .next c' ∨ argStep c arg next = .nextValue c') :
    (∃ p, c' = { c with udpPort := p }) ∨ (∃ b, c' = { c with crcEnabled := b }) ∨
      (∃ v, next = some v ∧ c' = { c with recordEnabled := true, recordPath := v }) ∨
      (∃ v, next = some v ∧ c' = { c with replayPath := v }) ∨
      (∃ l, c' = { c with logLevel := l }) := by
  unfold argStep at h
  rcases ifValue_cases arg "--port".toList next _ _ with ⟨v, -, hv⟩ | hv <;> rw [hv] at h
  · cases hs : stoi v <;> simp only [hs, Option.elim_none, Option.elim_some] at h <;>
      rcases h with h | h <;> cases h
    exact .inl ⟨_, rfl⟩
  rcases ifFlag_cases arg "--crc".toList _ _ with hv | hv <;> rw [hv] at h
  · rcases h with h | h <;> cases h
    exact .inr (.inl ⟨_, rfl⟩)
  rcases ifFlag_cases arg "--no-crc".toList _ _ with hv | hv <;> rw [hv] at h
  · rcases h with h | h <;> cases h
    exact .inr (.inl ⟨_, rfl⟩)
  rcases ifValue_cases arg "--record".toList next _ _ with ⟨v, hn, hv⟩ | hv <;> rw [hv] at h
  · rcases h with h | h <;> cases h
    exact .inr (.inr (.inl ⟨_, hn, rfl⟩))
  rcases ifValue_cases arg "--replay".toList next _ _ with ⟨v, hn, hv⟩ | hv <;> rw [hv] at h
  · rcases h with h | h <;> cases h
    exact .inr (.inr (.inr (.inl ⟨_, hn, rfl⟩)))
  rcases ifValue_cases arg "--log-level".toList next _ _ with ⟨v, -, hv⟩ | hv <;> rw [hv] at h
  · rcases h with h | h <;> cases h
    exact .inr (.inr (.inr (.inr ⟨_, rfl⟩)))
  -- `--help` and the unknown option end the loop
  rcases ifFlag_cases arg "--help".toList .help .unknown with hv | hv <;> rw [hv] at h <;>
    rcases h with h | h <;> cases h

/-- Without a value after it, an argument is passed over as a flag, or ends the loop. -/
theorem localStep_argStep : LocalStep argStep where
  none_ne_nextValue c arg c' := by
    unfold argStep ifFlag
    simp only [ifValue_none]
    split_ifs <;> nofun
  some_of_none c arg c' v h := by
    unfold argStep ifFlag at h
    simp only [ifValue_none] at h
    split_ifs at h with h1 h2 <;> cases h
    · subst h1; rfl
    · subst h2; rfl

/-- An argument that is no flag, followed by nothing or itself no option, is unknown. -/
theorem argStep_unknown (c : FullGatewayConfig) {x : List Char} (hflag : x ∉ flagOptions)
    {next : Option (List Char)} (hvalue : next = none ∨ x ∉ valueOptions) :
    argStep c x next = .unknown := by
  simp only [flagOptions, List.mem_cons, List.mem_singleton, List.not_mem_nil, or_false,
    not_or] at hflag
  have hv : ∀ name ∈ valueOptions,
      ∀ (f : List Char → ArgAction FullGatewayConfig) otherwise, ifValue x name next f otherwise = otherwise := by
    intro name hname f otherwise
    rcases hvalue with rfl | hx
    · rfl
    · exact ifValue_of_ne (fun h => hx (by rw [h]; exact hname)) _ f otherwise
  unfold argStep
  rw [hv _ (by simp [valueOptions]), ifFlag_of_ne hflag.1, ifFlag_of_ne hflag.2.1,
    hv _ (by simp [valueOptions]), hv _ (by simp [valueOptions]), hv _ (by simp [valueOptions]),
    ifFlag_of_ne hflag.2.2]

/-! ### What `main` can run with -/

/-- Arguments that set every field of `o`: the port in five digits, the CRC flag, `--record`
when recording is enabled, the replay path, and the log level by name. -/
def commandLine (o : FullGatewayConfig) : List (List Char) :=
  ["--port".toList, decimal 5 o.udpPort.toNat] ++
    [if o.crcEnabled then "--crc".toList else "--no-crc".toList] ++
    (if o.recordEnabled then ["--record".toList, o.recordPath] else []) ++
    ["--replay".toList, o.replayPath, "--log-level".toList, levelName o.logLevel]

theorem argLoop_port (c : FullGatewayConfig) (p : UInt16) :
    argLoop argStep c ["--port".toList, decimal 5 p.toNat] = .done { c with udpPort := p } := by
  have hp : p.toNat < 65536 := p.toBitVec.isLt
  simp only [argLoop, argStep, ifValue_self,
    stoi_decimal 5 p.toNat (by decide) (lt_of_lt_of_le hp (by decide)) (by omega), Option.elim_some,
    castUInt16_toNat]

theorem argLoop_crc (c : FullGatewayConfig) (b : Bool) :
    argLoop argStep c [if b then "--crc".toList else "--no-crc".toList] =
      .done { c with crcEnabled := b } := by
  cases b <;> rfl

theorem argLoop_record (c : FullGatewayConfig) (v : List Char) :
    argLoop argStep c ["--record".toList, v] =
      .done { c with recordEnabled := true, recordPath := v } := rfl

theorem argLoop_replay_level (c : FullGatewayConfig) (v : List Char) (l : Severity) :
    argLoop argStep c ["--replay".toList, v, "--log-level".toList, levelName l] =
      .done { c with replayPath := v, logLevel := l } := by
  show argLoop argStep { c with replayPath := v } ["--log-level".toList, levelName l] = _
  simp only [argLoop, argStep,
    ifValue_of_ne (show "--log-level".toList ≠ "--port".toList by decide),
    ifFlag_of_ne (show "--log-level".toList ≠ "--crc".toList by decide),
    ifFlag_of_ne (show "--log-level".toList ≠ "--no-crc".toList by decide),
    ifValue_of_ne (show "--log-level".toList ≠ "--record".toList by decide),
    ifValue_of_ne (show "--log-level".toList ≠ "--replay".toList by decide), ifValue_self,
    parseLogLevel_levelName]

/-- The command line of a configuration whose disabled recording keeps the default path reads
back as that configuration. -/
theorem parseArgs_commandLine (o : FullGatewayConfig)
    (ho : o.recordEnabled = false → o.recordPath = "./recorded/session.bin".toList) :
    parseArgs (commandLine o) = .done o := by
  have hl := localStep_argStep
  obtain ⟨⟨crc, rec⟩, port, recordPath, replayPath, logLevel⟩ := o
  simp only [parseArgs, commandLine, List.append_assoc]
  rw [argLoop_append hl _ _ _ _ (argLoop_port _ _), argLoop_append hl _ _ _ _ (argLoop_crc _ _)]
  cases rec
  · obtain rfl := ho rfl
    exact argLoop_replay_level _ _ _
  · exact (argLoop_append hl _ _ _ _ (argLoop_record _ _)).trans (argLoop_replay_level _ _ _)

/-- The arguments of `commandLine o` are C strings when `o`'s paths are. -/
theorem cString_commandLine (o : FullGatewayConfig) (hrecord : CString o.recordPath)
    (hreplay : CString o.replayPath) : ∀ a ∈ commandLine o, CString a := by
  have hport : CString (decimal 5 o.udpPort.toNat) := fun c hc => by
    have := (isDigit_iff c).mp (List.all_eq_true.mp (all_isDigit_decimal 5 _) c hc)
    omega
  have hlevel : CString (levelName o.logLevel) := by cases o.logLevel <;> decide
  simp only [commandLine, List.forall_mem_append, List.forall_mem_cons]
  refine ⟨⟨⟨⟨by decide, hport, nofun⟩, by split <;> decide, nofun⟩, ?_⟩,
    by decide, hreplay, by decide, hlevel, nofun⟩
  split
  · exact List.forall_mem_cons.mpr ⟨by decide, List.forall_mem_cons.mpr ⟨hrecord, nofun⟩⟩
  · exact nofun

/-- **What `gateway_main` can run with**: the configurations with which `main`'s loop over its
arguments, C strings as every `argv` entry is, ends, and with which it constructs and runs the
gateway, are exactly those whose record path is the default `./recorded/session.bin` when
recording is disabled, and whose record and replay paths are C strings. -/
theorem parseArgs_done_iff (o : FullGatewayConfig) :
    (∃ args, (∀ a ∈ args, CString a) ∧ parseArgs args = .done o) ↔
      (o.recordEnabled = false → o.recordPath = "./recorded/session.bin".toList) ∧
        CString o.recordPath ∧ CString o.replayPath := by
  refine ⟨fun ⟨args, hargs, h⟩ => argLoop_inv_of_forall (fun c : FullGatewayConfig =>
    (c.recordEnabled = false → c.recordPath = "./recorded/session.bin".toList) ∧
      CString c.recordPath ∧ CString c.replayPath) CString {} args hargs ?_ o
      ⟨fun _ => rfl, by decide, by decide⟩ h,
    fun ho => ⟨_, cString_commandLine o ho.2.1 ho.2.2, parseArgs_commandLine o ho.1⟩⟩
  intro c arg next _ hnext hc c' hstep
  rcases argStep_cases hstep with
    ⟨_, rfl⟩ | ⟨_, rfl⟩ | ⟨v, rfl, rfl⟩ | ⟨v, rfl, rfl⟩ | ⟨_, rfl⟩
  exacts [hc, hc, ⟨nofun, hnext v rfl, hc.2.2⟩, ⟨hc.1, hc.2.1, hnext v rfl⟩, hc]

/-- **Unknown options**: after arguments that `gateway_main` accepts, an argument that is not one
of its options, or an option other than a flag given last, makes it print
`Unknown option: <arg>` and return `1`, whatever follows. -/
theorem parseArgs_append_unknown (args : List (List Char)) (o : FullGatewayConfig)
    (h : parseArgs args = .done o) (x : List Char) (hflag : x ∉ flagOptions)
    (more : List (List Char)) (hmore : more = [] ∨ x ∉ valueOptions) :
    parseArgs (args ++ x :: more) = .unknown x ∧
      (parseArgs (args ++ x :: more)).exitCode = some 1 ∧
      (parseArgs (args ++ x :: more)).errorText = "Unknown option: ".toList ++ x ++ ['\n'] := by
  have hx : parseArgs (args ++ x :: more) = .unknown x := by
    rw [parseArgs, argLoop_append localStep_argStep _ _ _ _ h]
    rcases more with _ | ⟨v, rest⟩
    · simp only [argLoop, argStep_unknown o hflag (.inl rfl)]
    · simp only [argLoop, argStep_unknown o hflag (.inr (hmore.resolve_left nofun))]
  exact ⟨hx, by rw [hx]; rfl, by rw [hx]; rfl⟩

/-- `gateway --no-crc --port` is refused: the port is given no value. -/
theorem parseArgs_append_unknown_port :
    (parseArgs ["--no-crc".toList, "--port".toList]).errorText =
      "Unknown option: --port\n".toList :=
  (parseArgs_append_unknown ["--no-crc".toList] { crcEnabled := false } (by decide) "--port".toList
    (by decide) [] (.inl rfl)).2.2

end GatewayMain

end NetNodeGateway
