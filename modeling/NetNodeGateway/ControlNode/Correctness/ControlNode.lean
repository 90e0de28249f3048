import NetNodeGateway.ControlNode.ControlNode
import NetNodeGateway.ControlNode.Correctness.TcpFramer

/-!
# Correctness of the control node's client loop

**One reply per command, in order.**  A client that sends commands of at most `10 MiB` each as
frames, cut into chunks in any way, gets back exactly the framed replies the handler gives those
commands in order, and the handler ends as after handling them one by one.  After every chunk
the bytes sent answer exactly the commands complete so far, and the framer holds only the
incomplete rest (`clientLoop_replies`).

The inner loop answers every ready frame and empties the queue (`serveReady_eq`).  With the
framer's invariant `Inv` this gives `Session`, which every chunk keeps (`Session.step`) and so
does a whole run (`Session.run`).
-/

namespace NetNodeGateway

/-- Answering the ready frames moves them to the payloads returned. -/
theorem Inv.clearReady {Q ps : List (List UInt8)} {s : TcpFramer} {fed : List UInt8}
    {out : List (List UInt8)} (h : Inv Q ps s fed out) :
    Inv Q ps { s with readyFrames := [] } fed (out ++ s.readyFrames) := by
  obtain ⟨i, hi, hfed, hout, hpend⟩ := h
  exact ⟨i, hi, hfed, by simpa using hout, hpend⟩

theorem TcpFramer.eq_empty {s : TcpFramer} (hb : s.buffer = []) (hr : s.readyFrames = []) :
    s = {} := by
  cases s
  subst hb hr
  rfl

namespace ControlNode

/-- The replies to commands handled in order, and the handler after them. -/
def handleAll (stats : StatsManager) (h : CommandHandler) :
    List (List UInt8) → List (List UInt8) × CommandHandler
  | [] => ([], h)
  | command :: commands =>
    let r := h.handle stats command
    let r' := handleAll stats r.2 commands
    (r.1 :: r'.1, r'.2)

theorem handleAll_append (stats : StatsManager) (h : CommandHandler)
    (commands commands' : List (List UInt8)) :
    handleAll stats h (commands ++ commands') =
      ((handleAll stats h commands).1 ++ (handleAll stats (handleAll stats h commands).2 commands').1,
        (handleAll stats (handleAll stats h commands).2 commands').2) := by
  induction commands generalizing h with
  | nil => rfl
  | cons c commands ih => simp [handleAll, ih]

/-- The inner loop answers every ready frame, in order, and empties the queue. -/
theorem serveReady_eq (stats : StatsManager) (h : CommandHandler) (framer : TcpFramer) :
    serveReady stats h framer =
      (((handleAll stats h framer.readyFrames).1.map encode).flatten,
        (handleAll stats h framer.readyFrames).2, { framer with readyFrames := [] }) := by
  obtain ⟨buffer, fs⟩ := framer
  induction fs generalizing h with
  | nil => rw [serveReady, dif_neg (by simp [TcpFramer.hasFrame])]; rfl
  | cons f fs ih =>
    rw [serveReady, dif_pos (by simp [TcpFramer.hasFrame])]
    simp only [TcpFramer.popFrame, ih, handleAll, List.map_cons, List.flatten_cons]

/-! ### A session -/

/-- A session that has received `fed` and is in state `r` (bytes sent, handler, framer): the
framer holds no ready frame, its invariant `Inv` holds with the commands `handled` so far, and
the bytes sent and the handler are those of handling them. -/
def Session (stats : StatsManager) (h₀ : CommandHandler) (commands : List (List UInt8))
    (fed : List UInt8) (r : List UInt8 × CommandHandler × TcpFramer) : Prop :=
  ∃ handled, Inv [] commands r.2.2 fed handled ∧ r.2.2.readyFrames = [] ∧
    r.1 = ((handleAll stats h₀ handled).1.map encode).flatten ∧ r.2.1 = (handleAll stats h₀ handled).2

theorem session_start (stats : StatsManager) (h₀ : CommandHandler)
    (commands : List (List UInt8)) : Session stats h₀ commands [] ([], h₀, {}) :=
  ⟨[], ⟨0, Nat.zero_le _, rfl, rfl, pending_zero_nil commands⟩, rfl, rfl, rfl⟩

section Steps

variable {stats : StatsManager} {h₀ : CommandHandler} {commands : List (List UInt8)}
  (hc : ∀ c ∈ commands, c.length ≤ maxFrameLen)
include hc

/-- A chunk that continues the stream keeps the session invariant. -/
theorem Session.step {fed : List UInt8} {r : List UInt8 × CommandHandler × TcpFramer}
    (hs : Session stats h₀ commands fed r) (data : List UInt8)
    (hpre : fed ++ data <+: (commands.map encode).flatten) :
    Session stats h₀ commands (fed ++ data)
      (r.1 ++ (serveReady stats r.2.1 (r.2.2.feed data)).1,
        (serveReady stats r.2.1 (r.2.2.feed data)).2) := by
  obtain ⟨handled, hinv, hready, hout, hh⟩ := hs
  have hfeed := hinv.feed hc data hpre
  rw [serveReady_eq]
  refine ⟨handled ++ (r.2.2.feed data).readyFrames, hfeed.clearReady, rfl, ?_, ?_⟩
  · rw [hout, hh, handleAll_append, List.map_append, List.flatten_append]
  · rw [hh, handleAll_append]

/-- **The run lemma**: chunks that continue the stream keep the session invariant. -/
theorem Session.run (chunks : List (List UInt8)) :
    ∀ (fed : List UInt8) (r : List UInt8 × CommandHandler × TcpFramer),
      Session stats h₀ commands fed r → fed ++ chunks.flatten <+: (commands.map encode).flatten →
      Session stats h₀ commands (fed ++ chunks.flatten)
        (r.1 ++ (clientLoop stats r.2.1 r.2.2 chunks).1, (clientLoop stats r.2.1 r.2.2 chunks).2) := by
  induction chunks with
  | nil => intro fed r hs _; simpa [clientLoop] using hs
  | cons data chunks ih =>
    intro fed r hs hpre
    rw [List.flatten_cons, ← List.append_assoc] at hpre ⊢
    have := ih _ _ (hs.step hc data ((List.prefix_append _ _).trans hpre)) hpre
    simpa only [clientLoop, List.append_assoc] using this

end Steps

/-- **A complete stream**: a fresh connection that receives the whole stream of the frames of
`commands`, cut into any chunks, sends the frames of their replies and ends with an empty
framer. -/
theorem clientLoop_complete (stats : StatsManager) (h : CommandHandler)
    (commands : List (List UInt8)) (hc : ∀ c ∈ commands, c.length ≤ maxFrameLen)
    (chunks : List (List UInt8)) (hchunks : chunks.flatten = (commands.map encode).flatten) :
    clientLoop stats h {} chunks =
      (((handleAll stats h commands).1.map encode).flatten, (handleAll stats h commands).2, {}) := by
  obtain ⟨handled, hinv, hready, hout, hh⟩ := by
    simpa using Session.run hc chunks [] _ (session_start stats h commands)
      (by rw [hchunks, List.nil_append])
  obtain ⟨hbuf, hall⟩ := (hchunks ▸ hinv).complete
  rw [hready, List.append_nil, List.nil_append] at hall
  rw [hall] at hout hh
  exact Prod.ext hout (Prod.ext hh (TcpFramer.eq_empty hbuf hready))

/-- **One reply per command, in order**: a fresh connection that receives the frames of
`commands` (each at most `10 MiB`) cut into any chunks sends back the frames of the handler's
replies to those commands, in order, leaves the handler as handling them in turn would, and
ends with an empty framer.  After each prefix of the chunks, the bytes sent are the replies to
the commands complete so far, and the framer holds what follows them. -/
theorem clientLoop_replies (stats : StatsManager) (h : CommandHandler)
    (commands : List (List UInt8)) (hc : ∀ c ∈ commands, c.length ≤ maxFrameLen)
    (chunks : List (List UInt8)) (hchunks : chunks.flatten = (commands.map encode).flatten) :
    (clientLoop stats h {} chunks).1 = ((handleAll stats h commands).1.map encode).flatten ∧
    (clientLoop stats h {} chunks).2.1 = (handleAll stats h commands).2 ∧
    (clientLoop stats h {} chunks).2.2 = {} ∧
    ∀ n ≤ chunks.length, ∃ i ≤ commands.length,
      (clientLoop stats h {} (chunks.take n)).1 =
        ((handleAll stats h (commands.take i)).1.map encode).flatten ∧
      ((commands.take i).map encode).flatten ++ (clientLoop stats h {} (chunks.take n)).2.2.buffer =
        (chunks.take n).flatten := by
  have hrun (n : Nat) :
      Session stats h commands (chunks.take n).flatten (clientLoop stats h {} (chunks.take n)) := by
    have hpre : (chunks.take n).flatten <+: (commands.map encode).flatten := by
      rw [← hchunks, ← List.take_append_drop n chunks, List.flatten_append, List.take_append_drop]
      exact List.prefix_append _ _
    simpa using Session.run hc (chunks.take n) [] _ (session_start stats h commands) hpre
  have hall := clientLoop_complete stats h commands hc chunks hchunks
  refine ⟨by rw [hall], by rw [hall], by rw [hall], fun n _ => ?_⟩
  obtain ⟨handled, ⟨i, hi, hfed, hdone, -⟩, hready, hout, -⟩ := hrun n
  rw [hready, List.append_nil, List.nil_append] at hdone
  exact ⟨i, hi, by rw [hout, hdone], hfed⟩

theorem clientLoop_replies_get_health :
    (∀ c ∈ [ascii "GET health"], c.length ≤ maxFrameLen) ∧
    [[0, 0, 0], [10] ++ ascii "GET health"].flatten = ([ascii "GET health"].map encode).flatten ∧
    (clientLoop {} {} {} [[0, 0, 0], [10] ++ ascii "GET health"]).1 =
      ((handleAll {} {} [ascii "GET health"]).1.map encode).flatten :=
  ⟨by decide, by decide, (clientLoop_replies {} {} [ascii "GET health"] (by decide)
    [[0, 0, 0], [10] ++ ascii "GET health"] (by decide)).1⟩

end ControlNode

end NetNodeGateway
