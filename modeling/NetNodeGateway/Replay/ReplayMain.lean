import NetNodeGateway.Replay.ReplayEngine
import NetNodeGateway.Common.Protocol
import NetNodeGateway.Common.MainArgs

/-!
# The replay tool of `replay/replay_main.cpp`

`replay_main --file <path>` opens a `ReplayFrameSource` on the recording, sets its speed, and
loops `while (!replay.is_done())`: a `receive` that fails ends the loop, and a frame received is
sent to the target with `UdpFrameSink::send` or, with `--dry-run`, summarised on one line.

`run` is the tool from its file on: `contents` is the file's bytes (`none` when it cannot be
opened), `timed` the sign of the speed.  `main` reads the options before it with the loop of
`Common.MainArgs`, whose body here has no final `else`: an argument the tool does not know is
passed over, and so is an option that needs a value given last.  Without `--file` it prints
`Error: --file is required`.  The speed is `std::stod` of its text, of any type `D` with a
decidable `<`, a `0` and a `1`.

The connection of the sink and the summary printed at the end are not modelled.  The sink is
connected, and `send` refuses an empty buffer; over IPv4 it also refuses, with `EMSGSIZE`, a
buffer of more than `65507` bytes, which the model does not: it is faithful for frames that fit
in a datagram, those a gateway receiving over IPv4 records, and its theorems bound the frames
so.  The playback sleeps are real time and are not modelled.  The loop is given `fuel`
iterations.
-/

namespace NetNodeGateway

namespace ReplayMain

/-- The name the dry run's `switch` gives a message type, `UNKNOWN` for any other value. -/
def msgTypeName (msgType : UInt8) : String :=
  match MsgType.ofUInt8? msgType with
  | some .plot => "PLOT"
  | some .track => "TRACK"
  | some .heartbeat => "HEARTBEAT"
  | some .engagement => "ENGAGEMENT"
  | none => "UNKNOWN"

/-- The line the dry run prints for a frame, `n` being `replay.frames_replayed()` after it. -/
def frameSummary (n : UInt64) (buf : List UInt8) : String :=
  if buf.length ≥ frameHeaderSize then
    let hdr := deserializeHeader buf
    "Frame " ++ toString n ++ ": src_id=" ++ toString hdr.srcId ++ " seq=" ++ toString hdr.seq ++
      " type=" ++ msgTypeName hdr.msgType ++ " len=" ++ toString buf.length
  else "Frame " ++ toString n ++ ": len=" ++ toString buf.length ++ " (too short for header)"

/-- The `while (!replay.is_done())` loop, for at most `fuel` iterations: the datagrams sent, the
lines printed, and the source after it.  `send` is taken to send every nonempty frame, as it does
every one that fits in an IPv4 datagram. -/
def replayLoop (dryRun : Bool) :
    Nat → ReplayFrameSource → List (List UInt8) × List String × ReplayFrameSource
  | 0, src => ([], [], src)
  | fuel + 1, src =>
    if src.done then ([], [], src) else
    let r := src.receive
    if r.1 then
      let rest := replayLoop dryRun fuel r.2.2
      if dryRun then (rest.1, frameSummary r.2.2.framesReplayed r.2.1 :: rest.2.1, rest.2.2)
      else ((if r.2.1.isEmpty then [] else [r.2.1]) ++ rest.1, rest.2)
    else ([], [], r.2.2)

/-- `main` once its options are read: `none` when the file cannot be opened, and otherwise the
datagrams sent and the lines printed by the loop. -/
def run (contents : Option (List UInt8)) (timed dryRun : Bool) (fuel : Nat) :
    Option (List (List UInt8) × List String) :=
  let (opened, src) := ({} : ReplayFrameSource).open contents
  if opened then
    let r := replayLoop dryRun fuel (src.setSpeed timed)
    some (r.1, r.2.1)
  else none

/-! ### The command line -/

/-- The options `main` reads, with their initial values. -/
structure ReplayOptions (D : Type) where
  filePath : List Char := []
  host : List Char := "127.0.0.1".toList
  port : UInt16 := 5000
  speed : D
  dryRun : Bool := false
  deriving DecidableEq, Repr

variable {D : Type} (stod : List Char → Option D)

/-- The body of `main`'s loop on `argv[i]`, `next` being `argv[i + 1]` when there is one.  It has
no final `else`: an argument it does not know is passed over. -/
def argStep (o : ReplayOptions D) (arg : List Char) (next : Option (List Char)) :
    ArgAction (ReplayOptions D) :=
  ifValue arg "--file".toList next (fun v => .nextValue { o with filePath := v }) <|
  ifValue arg "--speed".toList next
    (fun v => (stod v).elim .abort fun x => .nextValue { o with speed := x }) <|
  ifValue arg "--host".toList next (fun v => .nextValue { o with host := v }) <|
  ifValue arg "--port".toList next
    (fun v => (stoi v).elim .abort fun p => .nextValue { o with port := castUInt16 p }) <|
  ifFlag arg "--dry-run".toList (.next { o with dryRun := true }) <|
  ifFlag arg "--help".toList .help (.next o)

/-- `main`'s loop over `argv[1], …`, from its initial values, the speed being `1.0`. -/
def parseArgs [OfNat D 1] (args : List (List Char)) : ArgsOutcome (ReplayOptions D) :=
  argLoop (argStep stod) { speed := 1 } args

/-- How the tool ends: the code `main` returns, what it wrote to `std::cerr` before the usage,
the datagrams sent and the lines printed; or an abort. -/
inductive Exit
  | exit (code : Nat) (err : List Char) (sent : List (List UInt8)) (lines : List String)
  | abort
  deriving DecidableEq, Repr

/-- `main`, the file system giving the bytes of each file that can be opened. -/
def main [OfNat D 0] [OfNat D 1] [LT D] [DecidableRel (@LT.lt D _)]
    (files : List Char → Option (List UInt8)) (args : List (List Char)) (fuel : Nat) : Exit :=
  match parseArgs stod args with
  | .done o =>
    if o.filePath.isEmpty then .exit 1 "Error: --file is required\n".toList [] []
    else
      match run (files o.filePath) (decide ((0 : D) < o.speed)) o.dryRun fuel with
      | some r => .exit 0 [] r.1 r.2
      | none => .exit 1 ("Error: Could not open file: ".toList ++ o.filePath ++ ['\n']) [] []
  | .help => .exit 0 [] [] []
  | .unknown _ | .abort => .abort

end ReplayMain

end NetNodeGateway
