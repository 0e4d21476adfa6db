import Cruise.Controller.Isolation
import Cruise.Controller.OldProc
import Cruise.Lib.Socket
import Cruise.Native.IpcPayload
import Cruise.Native.ServerLoop
import Cruise.Worker.Correlation
import Cruise.Worker.DeviceView
import Cruise.Worker.Fallback
import Cruise.Worker.HostImport
import Cruise.Worker.Interchange
import Cruise.Worker.KvImport
import Cruise.Scheduler.Capacity
import Cruise.Scheduler.Continuity
import Cruise.Scheduler.DeadEnds
import Cruise.Scheduler.LeaseRuns
import Cruise.Scheduler.Ownership
import Cruise.Scheduler.Readmission
import Cruise.Assets.RuntimeConfig
import Cruise.Guard.BoundedLog
import Cruise.Lib.Handles
import Cruise.Native.RowCheck
import Cruise.Scheduler.Freshness
import Cruise.Worker.KvExports
import Cruise.Assets.Checkpoint
import Cruise.Assets.Publish
import Cruise.Lib.Counter
import Cruise.Lib.Lines
import Cruise.Scheduler.BenchmarkMetrics
import Cruise.Lib.Csv
import Cruise.Lib.JsonEquals
import Cruise.Trace.Agreement
import Cruise.Scheduler.Serving
import Cruise.Assets.BundleChecks
import Cruise.Launch.Environment
