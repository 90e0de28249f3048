import NetNodeGateway.Common.MainArgs
import NetNodeGateway.Gateway.Gateway

/-!
# The command line of `gateway/gateway_main.cpp`

`main` starts from a default `GatewayConfig` and reads its options in order: `--port <port>`,
`--crc`, `--no-crc`, `--record <path>` (which also enables recording), `--replay <path>`,
`--log-level <level>` and `--help`; any other argument, and an option that needs a value given
as the last argument, is an unknown option.  The port is `static_cast<uint16_t>` of
`std::stoi`, and `parse_log_level` reads an exact severity name, `INFO` for any other text.

What `main` does after its loop (the signal handlers, the gateway's run and the final
statistics it prints) is not modelled here.
-/

namespace NetNodeGateway

/-- `GatewayConfig` with every field `main` sets: the two the gateway's model reads, and the
port, paths and log level that `run()` and the logger read. -/
structure FullGatewayConfig extends GatewayConfig where
  udpPort : UInt16 := 5000
  recordPath : List Char := "./recorded/session.bin".toList
  replayPath : List Char := []
  logLevel : Severity := .info
  deriving DecidableEq, Repr

namespace GatewayMain

/-- `parse_log_level`: a severity by its exact name, and `INFO` for any other text. -/
def parseLogLevel (level : List Char) : Severity :=
  if level = "DEBUG".toList then .debug
  else if level = "INFO".toList then .info
  else if level = "WARN".toList then .warn
  else if level = "ALARM".toList then .alarm
  else if level = "ERROR".toList then .error
  else if level = "FATAL".toList then .fatal
  else .info

/-- The body of `main`'s loop on `argv[i]`, `next` being `argv[i + 1]` when there is one. -/
def argStep (config : FullGatewayConfig) (arg : List Char) (next : Option (List Char)) :
    ArgAction FullGatewayConfig :=
  ifValue arg "--port".toList next
    (fun v => (stoi v).elim .abort fun p => .nextValue { config with udpPort := castUInt16 p }) <|
  ifFlag arg "--crc".toList (.next { config with crcEnabled := true }) <|
  ifFlag arg "--no-crc".toList (.next { config with crcEnabled := false }) <|
  ifValue arg "--record".toList next
    (fun v => .nextValue { config with recordEnabled := true, recordPath := v }) <|
  ifValue arg "--replay".toList next (fun v => .nextValue { config with replayPath := v }) <|
  ifValue arg "--log-level".toList next
    (fun v => .nextValue { config with logLevel := parseLogLevel v }) <|
  ifFlag arg "--help".toList .help .unknown

/-- `main`'s loop over `argv[1], …`, from `nng::GatewayConfig config;`. -/
def parseArgs (args : List (List Char)) : ArgsOutcome FullGatewayConfig := argLoop argStep {} args

end GatewayMain

end NetNodeGateway
