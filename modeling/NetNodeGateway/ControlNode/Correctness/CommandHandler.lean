import NetNodeGateway.ControlNode.CommandHandler

/-!
# The replies of `CommandHandler`

Every reply of `handle` says how the handler changed (`handle_reply_describes_state`).  A reply
starting with `ERR`, `HEALTH` or `STATS` comes with no change; an `OK` reply is `OK k=v`, with
no `=` in `k`, after a `SET` that mapped `k` to `v` and changed nothing else but the CRC flag for
`k = CRC` and the logger level for `k = LOG_LEVEL` (`SetOk`).

`handleSet_spec` and `handle_spec` give, once per function and by the branches of the source,
the reply and the handler after each command; since the words the replies start with differ in
their first bytes (`not_prefix_ok`), the word a reply starts with tells which branch ran.
-/

namespace NetNodeGateway

/-- The names `SET LOG_LEVEL` takes for the severities. -/
def severityName : Severity → List UInt8
  | .debug => ascii "DEBUG"
  | .info => ascii "INFO"
  | .warn => ascii "WARN"
  | .alarm => ascii "ALARM"
  | .error => ascii "ERROR"
  | .fatal => ascii "FATAL"

theorem prefix_ascii_append {s t : String} (u : String) (h : ascii s <+: ascii t) :
    ascii s <+: ascii (t ++ u) :=
  h.trans ⟨ascii u, by simp only [ascii, String.toList, String.data_append, List.map_append]⟩

theorem not_mem_take_of_indexOf? {l : List UInt8} {a : UInt8} {n : Nat}
    (h : l.indexOf? a = some n) : a ∉ l.take n := by
  obtain ⟨hn, -, hbefore⟩ := List.findIdx?_eq_some_iff_getElem.mp h
  intro hmem
  obtain ⟨j, hj, hja⟩ := List.getElem_of_mem hmem
  rw [List.length_take] at hj
  rw [List.getElem_take] at hja
  exact hbefore j (by omega) (by simp [hja])

theorem toUpper_eq_eq {c : UInt8} (h : toUpper c = 0x3D) : c = 0x3D := by
  unfold toUpper at h
  split_ifs at h with hc
  · have hn := congrArg UInt8.toNat h
    simp at hc
    rw [UInt8.toNat_sub_of_le _ _ (by simp; omega)] at hn
    simp at hn
    omega
  · exact h

namespace CommandHandler

theorem severityName_of_parseLogLevel {v : List UInt8} {level : Severity}
    (h : parseLogLevel v = some level) : severityName level = v := by
  unfold parseLogLevel at h
  simp only [ite_eq_iff, Option.some.injEq, reduceCtorEq, and_false, or_false] at h
  rcases h with ⟨rfl, rfl⟩ | ⟨-, ⟨rfl, rfl⟩ | ⟨-, ⟨rfl, rfl⟩ | ⟨-, ⟨rfl, rfl⟩ | ⟨-, ⟨rfl, rfl⟩ |
    ⟨-, rfl, rfl⟩⟩⟩⟩⟩ <;> rfl

/-- What `SET` does when it replies `OK k=v`: `k` maps to `v` and no other key changes, the CRC
flag follows a `CRC` key and the logger level a `LOG_LEVEL` key, and nothing else changes. -/
structure SetOk (h h' : CommandHandler) (k v : List UInt8) : Prop where
  config : h'.config = Function.update h.config k (some v)
  crc : h'.crcEnabled = if k = ascii "CRC" then decide (v = ascii "ON") else h.crcEnabled
  levelSet : k = ascii "LOG_LEVEL" → severityName h'.logLevel = v
  levelKeep : k ≠ ascii "LOG_LEVEL" → h'.logLevel = h.logLevel

/-- `handle_set` either replies with an error and changes nothing, or replies `OK k=v` for a key
`k` without `=` and makes the change `SetOk` describes. -/
theorem handleSet_spec (h : CommandHandler) (args : List UInt8) :
    ((h.handleSet args).2 = h ∧ ascii "ERR" <+: (h.handleSet args).1) ∨
      ∃ k v, (h.handleSet args).1 = ascii "OK " ++ k ++ ascii "=" ++ v ∧ 0x3D ∉ k ∧
        SetOk h (h.handleSet args).2 k v := by
  unfold handleSet
  split
  · exact .inl ⟨rfl, (by decide : ascii "ERR" <+: ascii "ERR INVALID_SET_SYNTAX")⟩
  · rename_i eqPos heq
    have hk : 0x3D ∉ (trim (args.take eqPos)).map toUpper := by
      simp only [List.mem_map, not_exists, not_and]
      exact fun c hc hu => not_mem_take_of_indexOf? heq
        (((trimWith_sublist _).subset hc) |> (toUpper_eq_eq hu ▸ ·))
    dsimp only
    generalize (trim (args.take eqPos)).map toUpper = key at hk ⊢
    generalize (trim (args.drop (eqPos + 1))).map toUpper = valUpper
    by_cases hl : key = ascii "LOG_LEVEL"
    · rw [if_pos hl]
      cases hlevel : parseLogLevel valUpper with
      | none => exact .inl ⟨rfl, (by decide : ascii "ERR" <+: ascii "ERR INVALID_LOG_LEVEL")⟩
      | some level =>
        refine .inr ⟨_, _, by rw [hl]; rfl, hk, ⟨rfl, ?_, fun _ => ?_, fun hne => absurd hl hne⟩⟩
        · rw [hl]; rfl
        · exact severityName_of_parseLogLevel hlevel
    · rw [if_neg hl]
      by_cases hc : key = ascii "CRC"
      · have hkl : key ≠ ascii "LOG_LEVEL" := by rw [hc]; decide
        rw [if_pos hc]
        by_cases hon : valUpper = ascii "ON"
        · rw [if_pos hon]
          exact .inr ⟨_, _, by rw [hc]; rfl, hk, ⟨rfl, by rw [hc]; rfl, fun h => absurd h hkl, fun _ => rfl⟩⟩
        · rw [if_neg hon]
          by_cases hoff : valUpper = ascii "OFF"
          · rw [if_pos hoff]
            exact .inr ⟨_, _, by rw [hc]; rfl, hk, ⟨rfl, by rw [hc]; rfl, fun h => absurd h hkl, fun _ => rfl⟩⟩
          · rw [if_neg hoff]
            exact .inl ⟨rfl, (by decide : ascii "ERR" <+: ascii "ERR INVALID_CRC_VALUE")⟩
      · rw [if_neg hc]
        exact .inr ⟨_, _, rfl, hk, ⟨rfl, by rw [if_neg hc], fun h => absurd h hl, fun _ => rfl⟩⟩

/-- `handle_get` replies `HEALTH ...`, `STATS ...` or `ERR ...`. -/
theorem handleGet_starts (stats : StatsManager) (args : List UInt8) :
    ascii "ERR" <+: handleGet stats args ∨ ascii "HEALTH" <+: handleGet stats args ∨
      ascii "STATS" <+: handleGet stats args := by
  unfold handleGet
  dsimp only
  generalize args.map toUpper = what
  by_cases hh : what = ascii "HEALTH"
  · rw [if_pos hh]
    right; left
    cases stats.getHealth
    · exact (by decide : ascii "HEALTH" <+: ascii "HEALTH OK")
    · exact (by decide : ascii "HEALTH" <+: ascii "HEALTH DEGRADED")
    · exact (by decide : ascii "HEALTH" <+: ascii "HEALTH ERROR")
  · rw [if_neg hh]
    by_cases hs : what = ascii "STATS"
    · rw [if_pos hs]
      right; right
      unfold statsReply
      repeat apply prefix_ascii_append
      decide
    · rw [if_neg hs]
      exact .inl (by decide : ascii "ERR" <+: ascii "ERR UNKNOWN_COMMAND")

/-- `handle` either changes nothing and replies `ERR ...`, `HEALTH ...` or `STATS ...`, or it is a
`SET` that replies `OK k=v` and makes the change `SetOk` describes. -/
theorem handle_spec (h : CommandHandler) (stats : StatsManager) (cmd : List UInt8) :
    ((h.handle stats cmd).2 = h ∧
      (ascii "ERR" <+: (h.handle stats cmd).1 ∨ ascii "HEALTH" <+: (h.handle stats cmd).1 ∨
        ascii "STATS" <+: (h.handle stats cmd).1)) ∨
      ∃ k v, (h.handle stats cmd).1 = ascii "OK " ++ k ++ ascii "=" ++ v ∧ 0x3D ∉ k ∧
        SetOk h (h.handle stats cmd).2 k v := by
  unfold handle
  by_cases he : cmd = []
  · rw [if_pos he]
    exact .inl ⟨rfl, .inl (by decide : ascii "ERR" <+: ascii "ERR EMPTY_COMMAND")⟩
  · rw [if_neg he]
    dsimp only
    generalize (List.takeWhile (fun x => !isSpace x) (cmd.dropWhile isSpace)).map toUpper = verb
    by_cases hg : verb = ascii "GET"
    · rw [if_pos hg]
      exact .inl ⟨rfl, handleGet_starts _ _⟩
    · rw [if_neg hg]
      by_cases hs : verb = ascii "SET"
      · rw [if_pos hs]
        exact (handleSet_spec h _).imp (fun ⟨hs, hp⟩ => ⟨hs, .inl hp⟩) id
      · rw [if_neg hs]
        exact .inl ⟨rfl, .inl (by decide : ascii "ERR" <+: ascii "ERR UNKNOWN_COMMAND")⟩

end CommandHandler

theorem head?_of_isPrefix {p l : List UInt8} {a : UInt8} (hp : p.head? = some a) (h : p <+: l) :
    l.head? = some a := by
  obtain ⟨t, rfl⟩ := h
  cases p with
  | nil => cases hp
  | cons b p => exact hp

/-- An `OK ` reply starts with none of the other replies' words. -/
theorem not_prefix_ok (rest : List UInt8) :
    ¬(ascii "ERR" <+: ascii "OK " ++ rest ∨ ascii "HEALTH" <+: ascii "OK " ++ rest ∨
      ascii "STATS" <+: ascii "OK " ++ rest) := by
  have hok : (ascii "OK " ++ rest).head? = some 0x4F := rfl
  rintro (h | h | h)
  · exact absurd (hok.symm.trans (head?_of_isPrefix (a := 0x45) (by decide) h)) (by decide)
  · exact absurd (hok.symm.trans (head?_of_isPrefix (a := 0x48) (by decide) h)) (by decide)
  · exact absurd (hok.symm.trans (head?_of_isPrefix (a := 0x53) (by decide) h)) (by decide)

/-- **A command handler's reply states how its state changed.**  Every reply starts with `ERR`,
`HEALTH`, `STATS` or `OK `; after the first three the configuration, the CRC flag and the
logger level are as before; an `OK ` reply is `k=v` with the first `=` after `k`, and then
`get_config(k)` is `v`, no other key changed, the CRC flag changed only if `k` is `CRC`, to
`v == "ON"`, and the logger level only if `k` is `LOG_LEVEL`, to the severity named `v`. -/
theorem handle_reply_describes_state (h : CommandHandler) (stats : StatsManager)
    (cmd : List UInt8) :
    let r := (h.handle stats cmd).1
    let h' := (h.handle stats cmd).2
    (ascii "ERR" <+: r ∨ ascii "HEALTH" <+: r ∨ ascii "STATS" <+: r ∨ ascii "OK " <+: r) ∧
      ((ascii "ERR" <+: r ∨ ascii "HEALTH" <+: r ∨ ascii "STATS" <+: r) →
        h'.config = h.config ∧ h'.crcEnabled = h.crcEnabled ∧ h'.logLevel = h.logLevel) ∧
      ∀ rest, r = ascii "OK " ++ rest → ∃ k v, rest = k ++ ascii "=" ++ v ∧ 0x3D ∉ k ∧
        h'.getConfig k = v ∧ (∀ k', k' ≠ k → h'.config k' = h.config k') ∧
        h'.crcEnabled = (if k = ascii "CRC" then decide (v = ascii "ON") else h.crcEnabled) ∧
        (k = ascii "LOG_LEVEL" → severityName h'.logLevel = v) ∧
        (k ≠ ascii "LOG_LEVEL" → h'.logLevel = h.logLevel) := by
  intro r h'
  rcases CommandHandler.handle_spec h stats cmd with ⟨hs, hp⟩ | ⟨k, v, hr, hk, hok⟩
  · refine ⟨hp.elim .inl fun hp => .inr (hp.elim .inl fun hp => .inr (.inl hp)),
      fun _ => by simp only [h', hs, and_self], fun rest hrest => ?_⟩
    have hrest' : (h.handle stats cmd).1 = ascii "OK " ++ rest := hrest
    rw [hrest'] at hp
    exact absurd hp (not_prefix_ok rest)
  · have hr' : r = ascii "OK " ++ (k ++ ascii "=" ++ v) := by simp only [r, hr, List.append_assoc]
    refine ⟨.inr (.inr (.inr (hr' ▸ List.prefix_append _ _))),
      fun hp => absurd (hr' ▸ hp) (not_prefix_ok _), fun rest hrest => ⟨k, v, ?_, hk, ?_, ?_, hok.crc,
        hok.levelSet, hok.levelKeep⟩⟩
    · exact List.append_cancel_left (hrest.symm.trans hr')
    · rw [CommandHandler.getConfig, hok.config, Function.update_same]; rfl
    · intro k' hk'
      rw [hok.config, Function.update_noteq hk']

end NetNodeGateway
