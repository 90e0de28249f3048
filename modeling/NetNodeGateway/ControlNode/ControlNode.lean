import NetNodeGateway.ControlNode.TcpFramer
import NetNodeGateway.ControlNode.CommandHandler

/-!
# The client loop of `control_node/control_node.cpp`

`client_loop` feeds each chunk that `recv` returns to the connection's own framer; then, while
the framer has a frame, it pops the frame, hands it to the node's `CommandHandler` and sends the
encoded reply.  A run of the loop is the list of chunks received (each `recv` that returned
`n > 0` bytes).  The sockets, the poll timeouts and the errors that end the loop are not
modelled, and every `send` succeeds.  The `StatsManager` the handler reads is passed in as
the session sees it.
-/

namespace NetNodeGateway

namespace ControlNode

/-- The inner `while (framer.has_frame())` loop: the bytes sent, then the handler and the
framer after it. -/
def serveReady (stats : StatsManager) (h : CommandHandler) (framer : TcpFramer) :
    List UInt8 × CommandHandler × TcpFramer :=
  if _hf : framer.hasFrame then
    let command := framer.popFrame
    let response := h.handle stats command.1
    let rest := serveReady stats response.2 command.2
    (encode response.1 ++ rest.1, rest.2)
  else ([], h, framer)
termination_by framer.readyFrames.length
decreasing_by
  simp only [TcpFramer.hasFrame, TcpFramer.popFrame] at _hf ⊢
  cases hr : framer.readyFrames with
  | nil => simp [hr] at _hf
  | cons f fs => simp

/-- `client_loop` over the chunks received: the bytes sent, then the handler and the framer
after them. -/
def clientLoop (stats : StatsManager) (h : CommandHandler) (framer : TcpFramer) :
    List (List UInt8) → List UInt8 × CommandHandler × TcpFramer
  | [] => ([], h, framer)
  | data :: chunks =>
    let r := serveReady stats h (framer.feed data)
    let r' := clientLoop stats r.2.1 r.2.2 chunks
    (r.1 ++ r'.1, r'.2)

end ControlNode

end NetNodeGateway
