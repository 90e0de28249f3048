import NetNodeGateway.Common.Bytes
import NetNodeGateway.Common.Protocol
import NetNodeGateway.Common.Crc32
import NetNodeGateway.Common.Correctness.Crc32
import NetNodeGateway.Common.Text
import NetNodeGateway.Common.Logger
import NetNodeGateway.Common.Correctness.Logger
import NetNodeGateway.Common.MainArgs
import NetNodeGateway.Common.Correctness.MainArgs
import NetNodeGateway.Gateway.TelemetryParser
import NetNodeGateway.Gateway.Correctness.TelemetryParser
import NetNodeGateway.Gateway.Correctness.Corruption
import NetNodeGateway.Gateway.SequenceTracker
import NetNodeGateway.Gateway.Correctness.SequenceTracker
import NetNodeGateway.Gateway.StatsManager
import NetNodeGateway.Gateway.Correctness.StatsManager
import NetNodeGateway.Common.EventBus
import NetNodeGateway.Common.Correctness.EventBus
import NetNodeGateway.Gateway.FrameRecorder
import NetNodeGateway.Replay.ReplayEngine
import NetNodeGateway.Replay.Correctness.ReplayEngine
import NetNodeGateway.Replay.ReplayMain
import NetNodeGateway.Replay.Correctness.ReplayMain
import NetNodeGateway.Gateway.Gateway
import NetNodeGateway.Gateway.Correctness.Gateway
import NetNodeGateway.Gateway.Correctness.Events
import NetNodeGateway.Gateway.Correctness.ReadBounds
import NetNodeGateway.Gateway.GatewayMain
import NetNodeGateway.Gateway.Correctness.GatewayMain
import NetNodeGateway.Gateway.Run
import NetNodeGateway.Gateway.Correctness.Replay
import NetNodeGateway.System.RecordReplay
import NetNodeGateway.ControlNode.TcpFramer
import NetNodeGateway.ControlNode.Correctness.TcpFramer
import NetNodeGateway.ControlNode.CommandHandler
import NetNodeGateway.ControlNode.Correctness.CommandHandler
import NetNodeGateway.ControlNode.ControlNode
import NetNodeGateway.ControlNode.Correctness.ControlNode
import NetNodeGateway.Cli.CliClient
import NetNodeGateway.System.ControlSession
import NetNodeGateway.SensorSim.MeasurementGenerator
import NetNodeGateway.SensorSim.Correctness.MeasurementGenerator
import NetNodeGateway.SensorSim.Correctness.TrackUpdates
import NetNodeGateway.SensorSim.FaultInjector
import NetNodeGateway.SensorSim.Correctness.FaultInjector
import NetNodeGateway.SensorSim.ScenarioLoader
import NetNodeGateway.SensorSim.Correctness.ScenarioLoader
import NetNodeGateway.SensorSim.SensorSimMain
import NetNodeGateway.SensorSim.Correctness.SensorSimMain
import NetNodeGateway.System.Pipeline
import NetNodeGateway.System.SimulatorGateway
import NetNodeGateway.SensorSim.Correctness.ObjectGenerator
import NetNodeGateway.SensorSim.Correctness.World
