import NetNodeGateway.ControlNode.TcpFramer

/-!
# `CliClient` of `cli/cli_client.cpp`

`send_command(cmd)` sends `TcpFramer::encode(cmd)` in one `send`, then feeds what each `recv`
returns to a fresh framer until the framer has a frame, and returns that frame.  The wait gives
up with the empty string when `poll` times out or reports an error or a hang-up, and when
`recv` returns `0` or less.

The replies arrive here as the list of chunks the successive `recv` calls return: an empty
chunk is a `recv` that returned `0` (the node closed the connection), and running out of chunks
is `poll` timing out.  The framer is fresh, so the `has_frame()` test before the first `recv`
fails.  Connecting, closing, and a `send` that sends less than the whole encoding are not
modelled: the client is connected and its `send` is whole.
-/

namespace NetNodeGateway

namespace CliClient

/-- What `send_command(cmd)` sends: the command as one frame. -/
def request (cmd : List UInt8) : List UInt8 := encode cmd

/-- The `while (!framer.has_frame())` loop of `send_command`, from the chunks the `recv` calls
return: the frame it returns, or the empty string when the chunks end or one is empty. -/
def awaitReply (framer : TcpFramer) : List (List UInt8) → List UInt8
  | [] => []
  | data :: chunks =>
    if data.isEmpty then [] else
    let framer := framer.feed data
    if framer.hasFrame then framer.popFrame.1 else awaitReply framer chunks

/-- The reply `send_command` returns, from the chunks its `recv` calls return. -/
def sendCommand (chunks : List (List UInt8)) : List UInt8 := awaitReply {} chunks

end CliClient

end NetNodeGateway
