import PreAggregation.Channel
import PreAggregation.Control.Network
import PreAggregation.Control.Listener
import PreAggregation.Main
import PreAggregation.Proofs.Stage.Totals
import PreAggregation.Stage.Deployment
import PreAggregation.Proofs.Bundle.Keys
import PreAggregation.Proofs.Stage.Retention
import PreAggregation.Proofs.Controller.LiveTuning
import PreAggregation.Proofs.Control.Memory
import PreAggregation.Proofs.Deployment.Wiring
import PreAggregation.Proofs.Deployment.Hearing
import PreAggregation.Proofs.Deployment.Scope
import PreAggregation.Proofs.Operator.Matching
import PreAggregation.Proofs.Operator.Indifference
import PreAggregation.Proofs.Operator.Elements
import PreAggregation.Proofs.Operator.Relay
import PreAggregation.Proofs.Stage.Indifference
import PreAggregation.Proofs.Operator.Pipeline
import PreAggregation.Proofs.Control.Topics
import PreAggregation.Proofs.Control.Sessions
import PreAggregation.Proofs.Control.Routing
import PreAggregation.Proofs.Control.Traffic
import PreAggregation.Proofs.Operator.Books
import PreAggregation.Proofs.Stage.Books
import PreAggregation.Proofs.Operator.Accounts
import PreAggregation.Proofs.Sensor.Dealing
import PreAggregation.Proofs.Sensor.Gathering
import PreAggregation.Proofs.Sensor.Report
import PreAggregation.Proofs.Sensor.Job
import PreAggregation.Control.Wire
import PreAggregation.Proofs.Text.Utf8
import PreAggregation.Proofs.Control.Codec
import PreAggregation.Proofs.Control.Carriage
import PreAggregation.Proofs.Control.Moves
import PreAggregation.Proofs.Control.Registration
import PreAggregation.Proofs.Control.Service
import PreAggregation.Proofs.Control.Handshake
import PreAggregation.Control.Transport
import PreAggregation.Control.Frame.Transfer
import PreAggregation.Control.Broker.Exchange
import PreAggregation.Proofs.Controller.Cycle
import PreAggregation.Proofs.Controller.Sharing
import PreAggregation.Proofs.Control.Streams
import PreAggregation.Proofs.Control.Transmission
import PreAggregation.Proofs.Control.Holdings
import PreAggregation.Proofs.Control.Simulation
import PreAggregation.Proofs.Control.Exchanges
import PreAggregation.Proofs.Control.Deliveries
import PreAggregation.Proofs.Stage.Persistence
import PreAggregation.Proofs.Stage.Pacing
import PreAggregation.Proofs.Stage.Blocks
import PreAggregation.Proofs.Operator.Buffering
import PreAggregation.Proofs.Operator.Protocol
import PreAggregation.Proofs.Stage.Heritage
import PreAggregation.Proofs.Stage.Mirroring
import PreAggregation.Proofs.Deployment.Inbox
import PreAggregation.Proofs.Deployment.Restart
import PreAggregation.Proofs.Control.FanOuts
import PreAggregation.Proofs.Control.Succession
import PreAggregation.Proofs.Stage.Heeding
import PreAggregation.Proofs.Deployment.Agreement
import PreAggregation.Proofs.Controller.Exactness
import PreAggregation.Control.Reception
import PreAggregation.Proofs.Control.Confirmation
import PreAggregation.Proofs.Control.Reception
import PreAggregation.Proofs.Control.Writing
import PreAggregation.Stage.Bench
import PreAggregation.Proofs.Stage.Bench
import PreAggregation.Proofs.Stage.Failures
import PreAggregation.Proofs.Stage.Journal
import PreAggregation.Proofs.Stage.Tallies
import PreAggregation.Proofs.Stage.Timeliness
import PreAggregation.Proofs.Text.Numerals
import PreAggregation.Proofs.Controller.Payload
import PreAggregation.Stage.Construction
import PreAggregation.Proofs.Config.Admission
import PreAggregation.Proofs.Json.Strings
import PreAggregation.Proofs.Json.Documents
import PreAggregation.Proofs.Config.Validation
import PreAggregation.Proofs.Config.Json
import PreAggregation.Proofs.Deployment.Separation
import PreAggregation.Proofs.Bundle.Merging
import PreAggregation.Proofs.Metrics.Percentiles
import PreAggregation.Proofs.Sensor.Tokens
