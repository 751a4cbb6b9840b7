import NxReverse.Lib.SlotTable
import NxReverse.Lib.SlotMaps
import NxReverse.Lib.Runs
import NxReverse.Lib.Text
import NxReverse.Lib.PrefixCodes
import NxReverse.Lib.Utf8
import NxReverse.Lib.Dicts
import NxReverse.Lib.Words
import NxReverse.Lib.Lines
import NxReverse.Lib.OnesComplement
import NxReverse.Lib.RingBuffer
import NxReverse.Lib.Chunks
import NxReverse.Lib.Ranks
import NxReverse.Lib.Programs
import NxReverse.Lib.TrackedPrograms
import NxReverse.Lib.Leases
import NxReverse.Lib.Retries
import NxReverse.Lib.Custody
import NxReverse.Lib.KeyValues
import NxReverse.Lib.Countdowns
import NxReverse.Lib.JsonLines
import NxReverse.Probe.Tables
import NxReverse.Probe.TableKeys
import NxReverse.Probe.ForgottenSessions
import NxReverse.Probe.TrackerView
import NxReverse.Probe.CloneOrder
import NxReverse.Probe.SessionTrace
import NxReverse.Probe.FinalClose
import NxReverse.Probe.Cmif
import NxReverse.Probe.CmifLayout
import NxReverse.Probe.CmifRequests
import NxReverse.Probe.CmifResponses
import NxReverse.Probe.DomainPaths
import NxReverse.Probe.ObjectReuse
import NxReverse.Probe.ObjectPaths
import NxReverse.Probe.ObjectKinds
import NxReverse.Probe.ObjectChains
import NxReverse.Probe.CommandNames
import NxReverse.Probe.Summaries
import NxReverse.Probe.LogQueues
import NxReverse.Probe.Logger
import NxReverse.Probe.LoggerBooks
import NxReverse.Probe.DispatchRecords
import NxReverse.Probe.SendToMutation
import NxReverse.Probe.SendToArguments
import NxReverse.Probe.RecordLengths
import NxReverse.Probe.TraceRecords
import NxReverse.Probe.LineSink
import NxReverse.Probe.LoggerShutdown
import NxReverse.Probe.BinaryCapture
import NxReverse.Probe.BinaryStream
import NxReverse.Probe.Liveness
import NxReverse.Probe.Lifecycle
import NxReverse.Probe.StartServers
import NxReverse.Probe.MitmPolicy
import NxReverse.Probe.Watchdog
import NxReverse.Probe.Snapshots
import NxReverse.Probe.DriverProbe
import NxReverse.Probe.ProbeCustody
import NxReverse.Toolbox.HttpResponse
import NxReverse.Toolbox.TunnelWait
import NxReverse.Toolbox.Previews
import NxReverse.Toolbox.WaitBound
import NxReverse.Toolbox.TcpProgress
import NxReverse.Toolbox.RuntimeConfig
import NxReverse.Toolbox.ConfigFile
import NxReverse.Toolbox.ConfigSettings
import NxReverse.Toolbox.ConfigNames
import NxReverse.Toolbox.ConfigRoundTrip
import NxReverse.Toolbox.ConfigRejection
import NxReverse.Toolbox.ConfigLines
import NxReverse.Toolbox.ConfigCrash
import NxReverse.Toolbox.SaveAtomicity
import NxReverse.Toolbox.TunnelScenario
import NxReverse.Toolbox.WaitReports
import NxReverse.Toolbox.FlowLeak
import NxReverse.Toolbox.HeardWaits
import NxReverse.Toolbox.RetryDiscipline
import NxReverse.Toolbox.LostSession
import NxReverse.Toolbox.BsdSystemUdp
import NxReverse.Toolbox.WritableRecovery
import NxReverse.Toolbox.SocketClosure
import NxReverse.Toolbox.BsdSystemTcp
import NxReverse.Toolbox.TcpTransfer
import NxReverse.Toolbox.WgnxPacket
import NxReverse.Toolbox.PacketTampering
import NxReverse.Toolbox.UdpWorkloadMetrics
import NxReverse.Toolbox.DottedQuads
import NxReverse.Toolbox.HttpsUri
import NxReverse.Toolbox.GlobalIp
import NxReverse.Toolbox.StartRun
import NxReverse.Toolbox.ManualBsdLifecycle
import NxReverse.Toolbox.ManualBsdCustody
import NxReverse.Toolbox.ManualBsdReports
import NxReverse.Toolbox.NetScenarios
import NxReverse.Toolbox.HttpsScenarios
import NxReverse.Toolbox.ScenarioCustody
import NxReverse.Toolbox.HttpsMilestones
import NxReverse.Toolbox.PacketEcho
import NxReverse.Toolbox.StartupTrace
import NxReverse.Toolbox.StartupLog
import NxReverse.Tools.RequesterHarness
import NxReverse.Tools.WorkloadIdentity
import NxReverse.Tools.WorkloadAccounts
import NxReverse.Tools.WorkloadDelivery
import NxReverse.Tools.ReportSummaries
import NxReverse.Tools.ReportRows
import NxReverse.Tools.HarnessReports
import NxReverse.Tools.RequesterReports
import NxReverse.Tools.ReportChecks
import NxReverse.Tools.Msgpack
import NxReverse.Tools.MsgpackReader
import NxReverse.Tools.MsgpackEncodings
import NxReverse.Tools.PythonTexts
import NxReverse.Tools.MapFields
import NxReverse.Tools.PosixPaths
import NxReverse.Tools.FtpSync
import NxReverse.Tools.CleaningPull
import NxReverse.Tools.TemporaryNames
import NxReverse.Tools.PullWalk
import NxReverse.Tools.FaithfulPull
import NxReverse.Tools.FatalReports
import NxReverse.Tools.FatalTexts
