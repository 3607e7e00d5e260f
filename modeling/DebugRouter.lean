import DebugRouter.Library.Runs
import DebugRouter.Library.Json
import DebugRouter.Library.JsonText
import DebugRouter.Library.JsonRoundTrip
import DebugRouter.Connector.Mirror
import DebugRouter.Library.Registry
import DebugRouter.Connector.SnapshotLaw
import DebugRouter.Connector.Convergence
import DebugRouter.Manager.Waits
import DebugRouter.Manager.SpawnLock
import DebugRouter.Manager.Ensure
import DebugRouter.Daemon.Message
import DebugRouter.Daemon.Moves
import DebugRouter.Daemon.RouteIsolation
import DebugRouter.Daemon.Replies
import DebugRouter.Daemon.Publication
import DebugRouter.Daemon.Ownership
import DebugRouter.Daemon.Strokes
import DebugRouter.Daemon.Wire
import DebugRouter.Daemon.Agreement
import DebugRouter.Library.Bytes
import DebugRouter.Library.Framing
import DebugRouter.Transport.UsbFrame
import DebugRouter.Peer.Intake
import DebugRouter.Peer.Tolerance
import DebugRouter.Transport.UsbAgreement
import DebugRouter.Library.Search
import DebugRouter.Transport.Control
import DebugRouter.Transport.ControlRoundTrip
import DebugRouter.Library.Threads
import DebugRouter.Native.Handshake
import DebugRouter.Native.Core
import DebugRouter.Native.System
import DebugRouter.Native.Sendable
import DebugRouter.Native.Listening
import DebugRouter.Native.Replacement
import DebugRouter.Native.AcceptLoop
import DebugRouter.Native.Stopping
import DebugRouter.Native.Protocol
import DebugRouter.Native.Processor
import DebugRouter.Native.Digestion
import DebugRouter.Native.Sessions
import DebugRouter.Native.Isolation
import DebugRouter.Native.SessionLists
import DebugRouter.Client.DaemonClient
import DebugRouter.Client.Moves
import DebugRouter.Client.Connection
import DebugRouter.Client.Rpc
import DebugRouter.Daemon.Managers
import DebugRouter.Daemon.ManagerCounts
import DebugRouter.Daemon.Watchers
import DebugRouter.Daemon.WatcherStarts
import DebugRouter.Daemon.Endpoints
import DebugRouter.Device.AndroidManager
import DebugRouter.Daemon.IdleShutdown
import DebugRouter.Daemon.WebSocketStartups
import DebugRouter.Daemon.LifecycleRuns
import DebugRouter.Library.JsonPaths
import DebugRouter.Native.Stringify
import DebugRouter.Daemon.AppReplies
import DebugRouter.Transport.Chunking
import DebugRouter.Native.Schema
import DebugRouter.Library.CoercionRoundTrip
import DebugRouter.Manager.EntryArgs
import DebugRouter.Library.JsonKeys
import DebugRouter.Library.JsonSteps
import DebugRouter.Library.ObjectHeap
import DebugRouter.Library.ObjectWrites
import DebugRouter.Daemon.InPlace
import DebugRouter.Daemon.IdRewriting
import DebugRouter.Daemon.Recollection
import DebugRouter.Daemon.ReplyShape
import DebugRouter.Daemon.QueryTable
import DebugRouter.Daemon.QuerySound
import DebugRouter.Daemon.QueryRuns
import DebugRouter.Daemon.QueryView
import DebugRouter.Daemon.RouteTimers
import DebugRouter.Daemon.HostTables
import DebugRouter.Daemon.SendFailure
import DebugRouter.Daemon.HandOver
import DebugRouter.Manager.FileLock
import DebugRouter.Manager.LockExclusion
import DebugRouter.Connector.Recovery
import DebugRouter.Daemon.OwnershipGuard
import DebugRouter.Daemon.ReportBridge
import DebugRouter.Device.PortForwarding
import DebugRouter.Transport.UsbBuffer
import DebugRouter.Daemon.NetworkWatch
import DebugRouter.Device.HarmonyTracker
import DebugRouter.Device.ManagedDevices
import DebugRouter.Device.SetupFailures
import DebugRouter.Transport.UsbThreads
import DebugRouter.Transport.WebSocketFrame
import DebugRouter.Daemon.ClientIds
import DebugRouter.Native.PlugCalls
import DebugRouter.Native.Retries
import DebugRouter.Native.SchemaEnds
import DebugRouter.Native.SessionFilter
import DebugRouter.Native.StopTask
import DebugRouter.Native.WebSocketUrl
import DebugRouter.Trace.Recorder
import DebugRouter.Native.WorkThread
import DebugRouter.Trace.Attempts
