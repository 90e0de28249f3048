import NetNodeGateway.Gateway.StatsManager
import NetNodeGateway.Common.Protocol
import NetNodeGateway.Common.Text

/-!
# `CommandHandler` of `control_node/command_handler.cpp`

A `std::string` is its list of bytes: a command arrives as the payload of a frame and its reply
leaves as one, so both are byte lists here.  `::toupper` and the whitespace of `operator>>` are
those of the "C" locale, which move only ASCII bytes; the literals of the source are the bytes
of their ASCII text (`ascii`).

`iss >> verb` skips whitespace and reads up to the next whitespace byte, which it leaves in the
stream; `std::getline(iss, rest)` then reads up to the next `'\n'`.  When the verb runs to the
end of the command, or there is no verb, the stream is at its end and `rest` stays empty, which
the formula of `handle` gives as well.

The handler's state is its `config_` map (a total map with `none` for absent keys), its
`crc_enabled_` flag, and the level of the logger it holds, which `SET LOG_LEVEL` changes.  The
`StatsManager` is only read, by `GET`.
-/

namespace NetNodeGateway

/-- The bytes of an ASCII literal. -/
def ascii (s : String) : List UInt8 := s.toList.map fun c => c.toNat.toUInt8

/-- `::toupper` in the "C" locale. -/
def toUpper (c : UInt8) : UInt8 := if 0x61 ≤ c ∧ c ≤ 0x7A then c - 0x20 else c

/-- `isspace` in the "C" locale: space, `\t`, `\n`, `\v`, `\f` and `\r`. -/
def isSpace (c : UInt8) : Bool := c = 0x20 ∨ (0x09 ≤ c ∧ c ≤ 0x0D)

/-- The set `" \t"` that the trims of the source skip. -/
def isBlank (c : UInt8) : Bool := c = 0x20 ∨ c = 0x09

/-- `s.substr(s.find_first_not_of(" \t"))`, or the empty string when there is no such byte. -/
def trimLeft (s : List UInt8) : List UInt8 := s.dropWhile isBlank

/-- The `trim` lambda of `handle_set`: the bytes from the first to the last one not in `" \t"`. -/
def trim (s : List UInt8) : List UInt8 := trimWith isBlank s

/-- `CommandHandler`: `config_`, `crc_enabled_`, and the level of its logger. -/
structure CommandHandler where
  config : List UInt8 → Option (List UInt8) := fun _ => none
  crcEnabled : Bool := true
  logLevel : Severity := .info

namespace CommandHandler

/-- The `if` chain of `SET LOG_LEVEL` on the upper-cased value. -/
def parseLogLevel (valUpper : List UInt8) : Option Severity :=
  if valUpper = ascii "DEBUG" then some .debug
  else if valUpper = ascii "INFO" then some .info
  else if valUpper = ascii "WARN" then some .warn
  else if valUpper = ascii "ALARM" then some .alarm
  else if valUpper = ascii "ERROR" then some .error
  else if valUpper = ascii "FATAL" then some .fatal
  else none

/-- The reply to `GET STATS`. -/
def statsReply (g : GlobalStats) : List UInt8 :=
  ascii ("STATS\n" ++ "rx_total=" ++ toString g.rxTotal ++ "\n" ++
    "malformed_total=" ++ toString g.malformedTotal ++ "\n" ++
    "gap_total=" ++ toString g.gapTotal ++ "\n" ++
    "reorder_total=" ++ toString g.reorderTotal ++ "\n" ++
    "duplicate_total=" ++ toString g.duplicateTotal ++ "\n" ++
    "crc_fail_total=" ++ toString g.crcFailTotal)

/-- `handle_get(args)`. -/
def handleGet (stats : StatsManager) (args : List UInt8) : List UInt8 :=
  let what := args.map toUpper
  if what = ascii "HEALTH" then
    match stats.getHealth with
    | .ok => ascii "HEALTH OK"
    | .degraded => ascii "HEALTH DEGRADED"
    | .error => ascii "HEALTH ERROR"
  else if what = ascii "STATS" then statsReply stats.getGlobalStats
  else ascii "ERR UNKNOWN_COMMAND"

/-- `handle_set(args)`: the reply and the handler after. -/
def handleSet (h : CommandHandler) (args : List UInt8) : List UInt8 × CommandHandler :=
  match args.indexOf? 0x3D with
  | none => (ascii "ERR INVALID_SET_SYNTAX", h)
  | some eqPos =>
    let key := (trim (args.take eqPos)).map toUpper
    let value := trim (args.drop (eqPos + 1))
    if key = ascii "LOG_LEVEL" then
      let valUpper := value.map toUpper
      match parseLogLevel valUpper with
      | some level =>
        (ascii "OK LOG_LEVEL=" ++ valUpper,
          { h with logLevel := level, config := Function.update h.config key (some valUpper) })
      | none => (ascii "ERR INVALID_LOG_LEVEL", h)
    else if key = ascii "CRC" then
      let valUpper := value.map toUpper
      if valUpper = ascii "ON" then
        (ascii "OK CRC=ON",
          { h with crcEnabled := true, config := Function.update h.config key (some (ascii "ON")) })
      else if valUpper = ascii "OFF" then
        (ascii "OK CRC=OFF",
          { h with crcEnabled := false, config := Function.update h.config key (some (ascii "OFF")) })
      else (ascii "ERR INVALID_CRC_VALUE", h)
    else
      (ascii "OK " ++ key ++ ascii "=" ++ value,
        { h with config := Function.update h.config key (some value) })

/-- `handle(command)`: the reply and the handler after. -/
def handle (h : CommandHandler) (stats : StatsManager) (command : List UInt8) :
    List UInt8 × CommandHandler :=
  if command = [] then (ascii "ERR EMPTY_COMMAND", h) else
  let afterWs := command.dropWhile isSpace
  let verb := (afterWs.takeWhile (!isSpace ·)).map toUpper
  let rest := trimLeft ((afterWs.dropWhile (!isSpace ·)).takeWhile (· ≠ 0x0A))
  if verb = ascii "GET" then (handleGet stats rest, h)
  else if verb = ascii "SET" then h.handleSet rest
  else (ascii "ERR UNKNOWN_COMMAND", h)

/-- `get_config(key)`: the stored value, or the empty string. -/
def getConfig (h : CommandHandler) (key : List UInt8) : List UInt8 := (h.config key).getD []

end CommandHandler

end NetNodeGateway
