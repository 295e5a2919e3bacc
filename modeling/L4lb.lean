import L4lb.Effect.Prog
import L4lb.Core.System
import L4lb.Health.HealthState
import L4lb.Health.UdpProbeChecker
import L4lb.Health.ProbeSteps
import L4lb.Health.ProbeSoundness
import L4lb.Health.HealthContinuity
import L4lb.Arith.OnesComplement
import L4lb.Effect.Tree
import L4lb.Xdp.Schema
import L4lb.Xdp.PacketProgram
import L4lb.Xdp.UdpDsr
import L4lb.Xdp.UdpRuntime
import L4lb.Xdp.RuntimeMapStore
import L4lb.Xdp.SnapshotAtomicity
import L4lb.Net.Shared
import L4lb.Net.UdpReactor
import L4lb.Net.UdpSteps
import L4lb.Net.UdpFlows
import L4lb.Net.UdpDatagrams
import L4lb.Net.UdpFlowTable
import L4lb.Net.UdpConservation
import L4lb.Net.UdpAssociation
import L4lb.Data.Circular
import L4lb.Net.TcpState
import L4lb.Net.TcpReactor
import L4lb.Net.TcpHistory
import L4lb.Xdp.PublishFailure
import L4lb.Xdp.XdpAttachment
import L4lb.Xdp.ForeignPrograms
import L4lb.Text.Chars
import L4lb.Control.XdpConfigSync
import L4lb.Control.DsrConfigSync
import L4lb.Control.ProfilesAgree
import L4lb.Control.RuntimeDsrConfig
import L4lb.Control.RuntimeSnapshot
import L4lb.Control.ConfigClosure
import L4lb.Control.RuntimeDsrService
import L4lb.Control.ServiceHistory
import L4lb.Control.ServiceRuns
import L4lb.Control.ServicePublishing
import L4lb.Control.ControlLoop
import L4lb.Control.AppliedSnapshot
import L4lb.Control.SignalPacing
import L4lb.Net.TcpCircuits
import L4lb.Net.TcpTables
import L4lb.Net.TcpSound
import L4lb.Net.TcpLifetimes
import L4lb.Net.TcpRuns
import L4lb.Net.TcpClosing
import L4lb.Net.TcpStopping
import L4lb.Net.TcpVisits
import L4lb.Core.RoundRobinScheduler
import L4lb.Health.TcpHealthChecker
import L4lb.Health.TcpHealthProtocol
import L4lb.Config.Config
import L4lb.Config.ConfigGrammar
import L4lb.Config.ConfigParsing
import L4lb.Control.HealthSelection
import L4lb.Control.RuntimeConfigGrammar
import L4lb.Health.ProbeHistory
import L4lb.Health.ProbeRecord
import L4lb.Health.ProbeLifecycle
import L4lb.Health.ProbeResources
import L4lb.Net.UdpExpiry
import L4lb.Net.UdpIsolation
import L4lb.Effect.Owners
import L4lb.Net.SafeClosing
import L4lb.Data.BoundedFifo
import L4lb.Net.PendingRing
import L4lb.Config.EndpointCodec
import L4lb.Control.MapSync
import L4lb.Xdp.CounterPartition
import L4lb.Control.RuntimeOutput
import L4lb.Effect.Simulation
import L4lb.Control.ServiceOutput
import L4lb.Metrics.MetricsCollector
import L4lb.Text.Json
import L4lb.Metrics.MetricsLine
import L4lb.Metrics.MetricsOutput
import L4lb.Effect.Total
import L4lb.Health.ProbeIsolation
import L4lb.Net.TcpTransfers
import L4lb.Net.TcpPump
import L4lb.Net.TcpInterests
import L4lb.Net.TcpEvents
import L4lb.Net.TcpAccepting
import L4lb.Net.TcpBarrier
import L4lb.Net.TcpHalfClose
import L4lb.Net.TcpIdentity
import L4lb.Net.TcpStreams
import L4lb.Net.TcpWakeups
