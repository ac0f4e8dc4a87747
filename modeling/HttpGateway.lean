import HttpGateway.Balance.Gray
import HttpGateway.Balance.RoundRobin
import HttpGateway.Balance.Selector
import HttpGateway.Balance.Weighted
import HttpGateway.Breaker.Basic
import HttpGateway.Breaker.Registry
import HttpGateway.Breaker.Window
import HttpGateway.CommandLine
import HttpGateway.Deadline
import HttpGateway.Fallback
import HttpGateway.Filter.Basic
import HttpGateway.Filter.Bearer
import HttpGateway.Filter.Chain
import HttpGateway.Filter.RateLimit
import HttpGateway.Forward.Exchange
import HttpGateway.Forward.Outbound
import HttpGateway.Forward.TrackedBody
import HttpGateway.Gateway.Basic
import HttpGateway.Gateway.Pipeline
import HttpGateway.Hash.Xxh3
import HttpGateway.Health.Probe
import HttpGateway.Http.Field
import HttpGateway.Http.Forwarded
import HttpGateway.Http.Hop
import HttpGateway.Http.Message
import HttpGateway.Http.Status
import HttpGateway.Http.Target
import HttpGateway.Keyed
import HttpGateway.Lifecycle.Run
import HttpGateway.Lifecycle.Shutdown
import HttpGateway.Lifecycle.Startup
import HttpGateway.Main
import HttpGateway.Net.Address
import HttpGateway.Number.Decimal
import HttpGateway.Number.Floating
import HttpGateway.Observe.Metrics
import HttpGateway.Pool.Basic
import HttpGateway.Pool.Registry
import HttpGateway.Proofs.Breaker.HalfOpen
import HttpGateway.Proofs.Breaker.History
import HttpGateway.Proofs.Breaker.Session
import HttpGateway.Proofs.Breaker.Trials
import HttpGateway.Proofs.Breaker.Window
import HttpGateway.Proofs.Keyed
import HttpGateway.Proofs.Pool.Bounds
import HttpGateway.Proofs.Pool.Permits
import HttpGateway.Proofs.Pool.Session
import HttpGateway.Request.Context
import HttpGateway.Request.Desk
import HttpGateway.Request.Incoming
import HttpGateway.Request.Slot
import HttpGateway.RequestError
import HttpGateway.Retry.Backoff
import HttpGateway.Retry.Policy
import HttpGateway.Route.Basic
import HttpGateway.Route.Instance
import HttpGateway.Route.Mount
import HttpGateway.Route.Table
import HttpGateway.Settings.Check
import HttpGateway.Settings.Decode
import HttpGateway.Settings.Encode
import HttpGateway.Settings.Load
import HttpGateway.Settings.Schema
import HttpGateway.Simulation.Checkup
import HttpGateway.Simulation.Clock
import HttpGateway.Simulation.Connecting
import HttpGateway.Simulation.GatewayRun
import HttpGateway.Simulation.Network
import HttpGateway.Simulation.PoolRun
import HttpGateway.Simulation.Reply
import HttpGateway.Text.Blank
import HttpGateway.Text.Numeral
import HttpGateway.Text.Quoted
import HttpGateway.Text.Utf8
import HttpGateway.Time
import HttpGateway.Toml.Reader
import HttpGateway.Toml.Scalar
import HttpGateway.Toml.Section
import HttpGateway.Toml.Value
import HttpGateway.Unicode.Composed
import HttpGateway.Unicode.Direction
import HttpGateway.Unicode.DomainMap
import HttpGateway.Unicode.Printable
import HttpGateway.Unicode.Ranges
import HttpGateway.Url.Basic
import HttpGateway.Url.Domain
import HttpGateway.Url.Host
import HttpGateway.Url.Percent
import HttpGateway.Url.Punycode
import HttpGateway.Proofs.Balance.Selection
import HttpGateway.Proofs.Breaker.Registry
import HttpGateway.Proofs.Filter.Chain
import HttpGateway.Proofs.Gateway.Dispatch
import HttpGateway.Proofs.Route.Mount
import HttpGateway.Proofs.Gateway.Journey
import HttpGateway.Proofs.Gateway.Outcome
import HttpGateway.Proofs.Forward.Standing
import HttpGateway.Proofs.Gateway.Backends
import HttpGateway.Proofs.Breaker.Waiting
import HttpGateway.Proofs.Balance.Groups
import HttpGateway.Proofs.Http.Field
import HttpGateway.Proofs.Net.Address
import HttpGateway.Proofs.Url.Host
import HttpGateway.Proofs.Forward.Outbound
import HttpGateway.Proofs.Request.Session
import HttpGateway.Proofs.Request.Visits
import HttpGateway.Proofs.Gateway.Admission
import HttpGateway.Proofs.Route.Table
import HttpGateway.Proofs.Breaker.Slots
import HttpGateway.Proofs.Pool.Ledger
import HttpGateway.Proofs.Pool.Reuse
import HttpGateway.Proofs.Settings.Accepted
import HttpGateway.Proofs.Route.Building
import HttpGateway.Proofs.Gateway.Registered
import HttpGateway.Proofs.Lifecycle.Startup
import HttpGateway.Proofs.Pool.Sweeping
import HttpGateway.Proofs.Balance.Apart
import HttpGateway.Proofs.Breaker.Overrides
import HttpGateway.Proofs.Breaker.Services
import HttpGateway.Proofs.Request.Slot
import HttpGateway.Proofs.Forward.Origin
import HttpGateway.Proofs.Pool.Queue
import HttpGateway.Proofs.Filter.Bearer
import HttpGateway.Proofs.Lifecycle.Tokens
import HttpGateway.Proofs.Lifecycle.Signal
import HttpGateway.Proofs.Number.Rounding
import HttpGateway.Proofs.Settings.Schema
import HttpGateway.Proofs.Settings.RoundTrip
import HttpGateway.Proofs.Lifecycle.StandIn
import HttpGateway.Proofs.Url.Parts
import HttpGateway.Proofs.Http.Target
import HttpGateway.Proofs.Health.Aim
import HttpGateway.Proofs.Health.Rounds
import HttpGateway.Proofs.Lifecycle.Remains
import HttpGateway.Proofs.Balance.Cycle
import HttpGateway.Proofs.Retry.Attempts
import HttpGateway.Proofs.Forward.Handover
import HttpGateway.Proofs.Forward.Deadlines
import HttpGateway.Proofs.Forward.Chain
import HttpGateway.Proofs.Route.Remainder
import HttpGateway.Proofs.Forward.Size
import HttpGateway.Proofs.Balance.Turns
import HttpGateway.Proofs.Balance.Widening
import HttpGateway.Proofs.Health.Streaks
import HttpGateway.Proofs.Breaker.Late
import HttpGateway.Proofs.Route.Parts
import HttpGateway.Proofs.Retry.Delay
import HttpGateway.Proofs.Filter.Clients
import HttpGateway.Proofs.Filter.Order
import HttpGateway.Proofs.Lifecycle.Filters
import HttpGateway.Proofs.Text.Trimmed
import HttpGateway.Proofs.Http.Hop
import HttpGateway.Proofs.Filter.Allowance
import HttpGateway.Proofs.Breaker.Disorder
