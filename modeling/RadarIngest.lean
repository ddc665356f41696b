import RadarIngest.Fault
import RadarIngest.Word
import RadarIngest.Text.Hex
import RadarIngest.Text.Printable
import RadarIngest.Frame.Geometry
import RadarIngest.Frame.Sample
import RadarIngest.Json.Value
import RadarIngest.Decimal.Shortest
import RadarIngest.Decimal.Notation
import RadarIngest.Json.Read
import RadarIngest.Json.Write
import RadarIngest.Binary32
import RadarIngest.Signal.Stats
import RadarIngest.Schema.Message
import RadarIngest.Schema.FromJson
import RadarIngest.Frame.Document
import RadarIngest.Buffer.Staging
import RadarIngest.Buffer.Supply
import RadarIngest.Manager.Config
import RadarIngest.Subscriber.Consumer
import RadarIngest.Subscriber.Registry
import RadarIngest.Telemetry.Metrics
import RadarIngest.Manager.Producer
import RadarIngest.Manager.Basic
import RadarIngest.Manager.Run
import RadarIngest.Source.Script
import RadarIngest.Random.ChaCha
import RadarIngest.Random.Seed
import RadarIngest.Random.Uniform
import RadarIngest.Source.Sensor
import RadarIngest.Bench.Source
import RadarIngest.Bench.Session
import RadarIngest.Presence.RateSwitch
import RadarIngest.Yaml.Syntax
import RadarIngest.Yaml.Scanner
import RadarIngest.Yaml.Parser
import RadarIngest.Yaml.Document
import RadarIngest.Decimal.Nearest
import RadarIngest.Yaml.Scalar
import RadarIngest.Yaml.Decode
import RadarIngest.Simulation.Config
import RadarIngest.Storage.Tree
import RadarIngest.Simulation.Failure
import RadarIngest.Simulation.Runner
import RadarIngest.Simulation.Status
import RadarIngest.Simulation.Document
import RadarIngest.Cli.Args
import RadarIngest.Cli.Program
import RadarIngest.Main
import RadarIngest.Proofs.Manager.Session
import RadarIngest.Proofs.Manager.Cycle
import RadarIngest.Proofs.Subscriber.Slots
import RadarIngest.Proofs.Manager.Calls
import RadarIngest.Proofs.Manager.Consistency
import RadarIngest.Proofs.Manager.Queue
import RadarIngest.Proofs.Manager.Delivery
import RadarIngest.Proofs.Manager.Compaction
import RadarIngest.Proofs.Manager.Allocation
import RadarIngest.Proofs.Manager.Refusal
import RadarIngest.Proofs.Manager.Binding
import RadarIngest.Proofs.Manager.Phase
import RadarIngest.Proofs.Manager.Coherence
import RadarIngest.Proofs.Manager.Metrics
import RadarIngest.Proofs.Manager.Sensing
import RadarIngest.Proofs.Manager.Wakes
import RadarIngest.Proofs.Frame.Codec
import RadarIngest.Proofs.Buffer.ByteQueue
import RadarIngest.Proofs.Buffer.Budget
import RadarIngest.Proofs.Simulation.Unattended
import RadarIngest.Proofs.Simulation.Sizing
import RadarIngest.Proofs.Presence.History
