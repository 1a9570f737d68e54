import ServiceCall.Call.Executor
import ServiceCall.Config.Load
import ServiceCall.Http.Wire
import ServiceCall.Scripted.Breaker
import ServiceCall.Scripted.Implementation
import ServiceCall.Scripted.Transport
import ServiceCall.Proofs.Sequencing
import ServiceCall.Proofs.Call.Attempt
import ServiceCall.Proofs.Call.Loop
import ServiceCall.Proofs.Call.Simulation
import ServiceCall.Proofs.Call.Remembering
import ServiceCall.Proofs.Call.Exchanges
import ServiceCall.Proofs.Call.Course
import ServiceCall.Proofs.Call.Binding
import ServiceCall.Proofs.Call.Delivery
import ServiceCall.Proofs.Call.Accounts
import ServiceCall.Proofs.Call.Retries
import ServiceCall.Proofs.Call.Handover
import ServiceCall.Proofs.Balancer.Totals
import ServiceCall.Proofs.Call.Statistics
import ServiceCall.Proofs.Target.Remembering
import ServiceCall.Proofs.Target.Episodes
import ServiceCall.Proofs.Target.Registrations
import ServiceCall.Proofs.Target.Fallbacks
import ServiceCall.Proofs.Http.Release
import ServiceCall.Proofs.Balancer.Rotation
import ServiceCall.Proofs.Balancer.Fairness
import ServiceCall.Proofs.Config.Construction
import ServiceCall.Proofs.Text.Ascii
import ServiceCall.Proofs.Text.Trim
import ServiceCall.Proofs.Server.Entry
import ServiceCall.Proofs.Server.Identity
import ServiceCall.Proofs.Call.Rebinding
import ServiceCall.Proofs.Text.Utf8
import ServiceCall.Proofs.Url.Domain
import ServiceCall.Proofs.Url.Address
import ServiceCall.Proofs.Url.Host
import ServiceCall.Proofs.Config.Callable
import ServiceCall.Proofs.Meter
import ServiceCall.Proofs.Call.Metering
import ServiceCall.Proofs.Call.Conservation
import ServiceCall.Proofs.Config.References
import ServiceCall.Proofs.Call.Operations
import ServiceCall.Proofs.Call.Interruption
import ServiceCall.Proofs.Call.Tour
import ServiceCall.Proofs.Http.Content
import ServiceCall.Proofs.Duration
import ServiceCall.Proofs.Http.Headers
import ServiceCall.Proofs.Server.Average
import ServiceCall.Proofs.Config.Missing
import ServiceCall.Proofs.Call.Timeouts
import ServiceCall.Proofs.Server.Address
import ServiceCall.Proofs.Target.InterfaceName
import ServiceCall.Proofs.Target.Commands
import ServiceCall.Proofs.Target.Identity
