import NetNodeGateway.Cli.CliClient
import NetNodeGateway.ControlNode.Correctness.ControlNode
import NetNodeGateway.ControlNode.Correctness.CommandHandler
import Mathlib.Data.Nat.Digits

/-!
# A CLI session with the control node

A `CliClient` and a connection's `client_loop` talk over one TCP connection: the client sends a
command as a frame and waits for the reply frame before it sends the next; the node answers
every complete command frame with the handler's reply.  TCP may cut either stream into chunks
in any way.  `cliSession` is such a session: `up i` cuts the `i`-th command's bytes into the
chunks the node's `recv` calls return, and `down i` cuts the bytes the node sends back into
the chunks the client's `recv` calls return.

* `cliSession_replies`: for commands of at most `10 MiB`, however the two streams are cut
  (the client's `recv` never returning an empty chunk), `send_command` returns, for every
  command in turn, the handler's reply to it, the handler ends as after handling the commands
  one by one, and the node's framer ends empty.

Two facts make this work.  A reply is never longer than its command or `211` bytes, the length
of the longest `STATS` reply (`length_handle_le`), so it fits the framer's `10 MiB` bound; and
the client's fresh framer returns the reply exactly when its last byte is in
(`awaitReply_encode`).
-/

namespace NetNodeGateway

/-! ### The length of a reply -/

theorem length_ascii (s : String) : (ascii s).length = s.length := by
  simp only [ascii, List.length_map, String.length, String.toList]

theorem length_toString_uint64 (n : UInt64) : (toString n).length ≤ 20 :=
  Nat.repr_length n.toNat 20 (by norm_num) (lt_of_lt_of_le n.toBitVec.isLt (by norm_num))

namespace CommandHandler

/-- The `STATS` reply: six names, five newlines and six numbers of at most twenty digits. -/
theorem length_statsReply (g : GlobalStats) : (statsReply g).length ≤ 211 := by
  have h := length_toString_uint64
  have := h g.rxTotal
  have := h g.malformedTotal
  have := h g.gapTotal
  have := h g.reorderTotal
  have := h g.duplicateTotal
  have := h g.crcFailTotal
  have hlit : "STATS\n".length + "rx_total=".length + "\n".length + "malformed_total=".length +
      "\n".length + "gap_total=".length + "\n".length + "reorder_total=".length + "\n".length +
      "duplicate_total=".length + "\n".length + "crc_fail_total=".length = 91 := rfl
  simp only [statsReply, length_ascii, String.length_append]
  omega

theorem length_handleGet_le (stats : StatsManager) (args : List UInt8) :
    (handleGet stats args).length ≤ 211 := by
  unfold handleGet
  dsimp only
  split_ifs
  · split <;> decide
  · exact length_statsReply _
  · decide

theorem length_le_of_parseLogLevel {v : List UInt8} {level : Severity}
    (h : parseLogLevel v = some level) : v.length ≤ 5 := by
  rw [← severityName_of_parseLogLevel h]
  cases level <;> decide

/-- A `SET` reply echoes at most the key and the value, which lie in the arguments. -/
theorem length_handleSet_le (h : CommandHandler) (args : List UInt8) :
    (h.handleSet args).1.length ≤ max (args.length + 3) 22 := by
  unfold handleSet
  split
  · exact le_max_of_le_right (by dsimp only; decide)
  · rename_i eqPos heq
    have hlt : eqPos < args.length := (List.findIdx?_eq_some_iff_getElem.mp heq).1
    dsimp only
    split
    · split
      · rename_i hlevel
        have := length_le_of_parseLogLevel hlevel
        simp only [List.length_append, length_ascii]
        have : "OK LOG_LEVEL=".length = 13 := rfl
        omega
      · exact le_max_of_le_right (by dsimp only; decide)
    split
    · split
      · exact le_max_of_le_right (by dsimp only; decide)
      split <;> exact le_max_of_le_right (by dsimp only; decide)
    · have hkey := (trimWith_sublist (p := isBlank) (args.take eqPos)).length_le
      have hval := (trimWith_sublist (p := isBlank) (args.drop (eqPos + 1))).length_le
      simp only [List.length_take, List.length_drop] at hkey hval
      simp only [List.length_append, List.length_map, length_ascii, trim]
      have : "OK ".length = 3 := rfl
      have : "=".length = 1 := rfl
      omega

/-- `rest` after the verb `SET` is at most the command less the verb's three bytes. -/
theorem length_rest_le {cmd : List UInt8}
    (hverb : ((cmd.dropWhile isSpace).takeWhile (!isSpace ·)).map toUpper = ascii "SET") :
    (trimLeft (((cmd.dropWhile isSpace).dropWhile (!isSpace ·)).takeWhile (· ≠ 0x0A))).length + 3 ≤
      cmd.length := by
  have h3 := congrArg List.length hverb
  rw [List.length_map] at h3
  have hsplit := congrArg List.length ((cmd.dropWhile isSpace).takeWhile_append_dropWhile (!isSpace ·))
  have hws := (List.dropWhile_sublist isSpace (l := cmd)).length_le
  have hrest : (trimLeft (((cmd.dropWhile isSpace).dropWhile (!isSpace ·)).takeWhile (· ≠ 0x0A))).length ≤
      ((cmd.dropWhile isSpace).dropWhile (!isSpace ·)).length :=
    ((List.dropWhile_sublist _).trans (List.takeWhile_sublist _)).length_le
  rw [List.length_append] at hsplit
  simp only [show (ascii "SET").length = 3 from rfl] at h3
  omega

/-- **Replies are short**: a reply is never longer than its command or than `211` bytes. -/
theorem length_handle_le (h : CommandHandler) (stats : StatsManager) (cmd : List UInt8) :
    (h.handle stats cmd).1.length ≤ max cmd.length 211 := by
  unfold handle
  dsimp only
  split_ifs with hnil hget hset
  · exact le_max_of_le_right (by dsimp only; decide)
  · exact le_max_of_le_right (length_handleGet_le stats _)
  · have := length_handleSet_le h
      (trimLeft (((cmd.dropWhile isSpace).dropWhile (!isSpace ·)).takeWhile (· ≠ 0x0A)))
    have := length_rest_le hset
    omega
  · exact le_max_of_le_right (by dsimp only; decide)

end CommandHandler

/-! ### The client waits for one frame -/

namespace CliClient

/-- A framer that has been fed a proper prefix of the encoding of `p` and holds no frame
returns `p` once the rest arrives in non-empty chunks. -/
theorem awaitReply_of_inv {p : List UInt8} (hp : p.length ≤ maxFrameLen) :
    ∀ (chunks : List (List UInt8)) (s : TcpFramer) (fed : List UInt8), Inv [] [p] s fed [] →
      s.readyFrames = [] → fed ++ chunks.flatten = encode p → [] ∉ chunks → awaitReply s chunks = p
  | [], s, fed, hinv, hready, hfed, _ => by
    have hfed' : fed = ([p].map encode).flatten := by simpa using hfed
    have hall := (hfed' ▸ hinv).complete.2
    rw [hready] at hall
    simp at hall
  | data :: chunks, s, fed, hinv, hready, hfed, hne => by
    have hdata : data ≠ [] := fun h => hne (h ▸ List.mem_cons_self _ _)
    have hps : ∀ q ∈ [p], q.length ≤ maxFrameLen := fun q hq => by
      rw [List.mem_singleton.mp hq]; exact hp
    rw [List.flatten_cons, ← List.append_assoc] at hfed
    have hfeed := hinv.feed hps data (by
      rw [show ([p].map encode).flatten = encode p by simp, ← hfed]
      exact List.prefix_append _ _)
    rw [awaitReply, if_neg (by simpa using hdata)]
    obtain ⟨i, hi, -, hout, -⟩ := id hfeed
    rw [List.nil_append, List.nil_append] at hout
    dsimp only
    by_cases hf : (s.feed data).hasFrame
    · rw [if_pos hf]
      have hi1 : i = 1 := by
        by_contra hne1
        have : i = 0 := by simp only [List.length_singleton] at hi; omega
        simp [TcpFramer.hasFrame, hout, this] at hf
      simp [TcpFramer.popFrame, hout, hi1]
    · rw [if_neg hf]
      refine awaitReply_of_inv hp chunks _ _ hfeed ?_ hfed fun h => hne (List.mem_cons_of_mem _ h)
      simpa [TcpFramer.hasFrame] using hf

/-- **The client's wait**: `send_command` returns the frame whose encoding its `recv` calls
deliver, in any non-empty chunks. -/
theorem awaitReply_encode {p : List UInt8} (hp : p.length ≤ maxFrameLen)
    (chunks : List (List UInt8)) (hflat : chunks.flatten = encode p) (hne : [] ∉ chunks) :
    sendCommand chunks = p :=
  awaitReply_of_inv hp chunks {} [] ⟨0, Nat.zero_le _, rfl, rfl, pending_zero_nil [p]⟩ rfl
    (by rw [List.nil_append, hflat]) hne

end CliClient

/-! ### The session -/

/-- A session of a CLI client with the control node over one connection: the client sends each
command in turn and waits for its reply before the next; `up i` cuts the bytes of the `i`-th
command into the chunks the node's `recv` calls return, and `down i` cuts the bytes the node
sends back into the chunks the client's `recv` calls return.  The replies `send_command`
returns, and the node's handler and framer after the session. -/
def cliSession (stats : StatsManager) (up down : Nat → List UInt8 → List (List UInt8)) :
    Nat → CommandHandler → TcpFramer → List (List UInt8) →
      List (List UInt8) × CommandHandler × TcpFramer
  | _, h, framer, [] => ([], h, framer)
  | i, h, framer, cmd :: cmds =>
    let served := ControlNode.clientLoop stats h framer (up i (CliClient.request cmd))
    let reply := CliClient.sendCommand (down i served.1)
    let rest := cliSession stats up down (i + 1) served.2.1 served.2.2 cmds
    (reply :: rest.1, rest.2)

/-- **Every command gets its reply**: in a session on a fresh connection, with commands of at
most `10 MiB`, however TCP cuts the two streams (the client's `recv` never returning an empty
chunk), `send_command` returns the handler's reply to each command in turn, the handler ends as
after handling them one by one, and the node's framer ends empty. -/
theorem cliSession_replies (stats : StatsManager) (h : CommandHandler) (cmds : List (List UInt8))
    (hc : ∀ c ∈ cmds, c.length ≤ maxFrameLen) (up down : Nat → List UInt8 → List (List UInt8))
    (hup : ∀ i bs, (up i bs).flatten = bs) (hdown : ∀ i bs, (down i bs).flatten = bs)
    (hne : ∀ i bs, [] ∉ down i bs) (i : Nat) :
    cliSession stats up down i h {} cmds =
      ((ControlNode.handleAll stats h cmds).1, (ControlNode.handleAll stats h cmds).2, {}) := by
  induction cmds generalizing i h with
  | nil => rfl
  | cons cmd cmds ih =>
    have hcmd := hc cmd (List.mem_cons_self _ _)
    have hserved := ControlNode.clientLoop_complete stats h [cmd] (by simpa using hcmd)
      (up i (CliClient.request cmd)) (by simp [hup, CliClient.request])
    have hreply : ((h.handle stats cmd).1).length ≤ maxFrameLen :=
      (CommandHandler.length_handle_le h stats cmd).trans
        (max_le hcmd (by unfold maxFrameLen; omega))
    simp only [ControlNode.handleAll, List.map_cons, List.map_nil, List.flatten_cons,
      List.flatten_nil, List.append_nil] at hserved
    simp only [cliSession, hserved, ih _ (fun c hc' => hc c (List.mem_cons_of_mem _ hc')),
      CliClient.awaitReply_encode hreply _ (hdown i _) (hne i _), ControlNode.handleAll]

theorem cliSession_replies_bytewise :
    (∀ c ∈ [ascii "GET HEALTH", ascii "SET CRC=off"], c.length ≤ maxFrameLen) ∧
    (∀ (i : Nat) (bs : List UInt8),
      ((fun (_ : Nat) (bs : List UInt8) => bs.map ([·])) i bs).flatten = bs) ∧
    (∀ (i : Nat) (bs : List UInt8), [] ∉ (fun (_ : Nat) (bs : List UInt8) => bs.map ([·])) i bs) ∧
    cliSession {} (fun _ bs => bs.map ([·])) (fun _ bs => bs.map ([·])) 0 {} {}
        [ascii "GET HEALTH", ascii "SET CRC=off"] =
      ((ControlNode.handleAll {} {} [ascii "GET HEALTH", ascii "SET CRC=off"]).1,
        (ControlNode.handleAll {} {} [ascii "GET HEALTH", ascii "SET CRC=off"]).2, {}) :=
  have hflat : ∀ (i : Nat) (bs : List UInt8),
      ((fun (_ : Nat) (bs : List UInt8) => bs.map ([·])) i bs).flatten = bs := fun _ bs => by
    induction bs <;> simp [*]
  have hne : ∀ (i : Nat) (bs : List UInt8),
      [] ∉ (fun (_ : Nat) (bs : List UInt8) => bs.map ([·])) i bs := fun _ bs => by simp
  ⟨by decide, hflat, hne, cliSession_replies {} {} _ (by decide) _ _ hflat hflat hne 0⟩

end NetNodeGateway
