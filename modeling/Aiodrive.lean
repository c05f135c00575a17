import Aiodrive.Transition.Runs
import Aiodrive.Transition.Outputs
import Aiodrive.Transition.Fuel
import Aiodrive.Resources.Ledger
import Aiodrive.Dict.Entries
import Aiodrive.Grants.Table
import Aiodrive.Asyncio.Future
import Aiodrive.Asyncio.DoneCallbacks
import Aiodrive.Asyncio.Wait
import Aiodrive.Gather.Model
import Aiodrive.Gather.Outcome
import Aiodrive.Race.Model
import Aiodrive.Race.Winner
import Aiodrive.Queue.Button
import Aiodrive.Queue.Channel
import Aiodrive.Queue.Ordered
import Aiodrive.Queue.OrderedDelivery
import Aiodrive.Queue.Unordered
import Aiodrive.Queue.UnorderedDelivery
import Aiodrive.Map.Model
import Aiodrive.Map.Chain
import Aiodrive.Map.Steps
import Aiodrive.Map.Progress
import Aiodrive.Map.Completeness
import Aiodrive.Map.Scheduling
import Aiodrive.ThreadsafeLock.Model
import Aiodrive.ThreadsafeLock.Invariant
import Aiodrive.ThreadsafeLock.Exclusion
import Aiodrive.ThreadsafeLock.HandOff
import Aiodrive.Framing.LengthPrefix
import Aiodrive.Multiprocessing.Connection
import Aiodrive.Multiprocessing.Delivery
import Aiodrive.Multiprocessing.Answers
import Aiodrive.Multiprocessing.Process
import Aiodrive.Multiprocessing.Replies
import Aiodrive.Asyncio.Task
import Aiodrive.Asyncio.TaskLife
import Aiodrive.Cancellation.Scope
import Aiodrive.Cancellation.NestedScopes
import Aiodrive.Cancellation.CancelTask
import Aiodrive.Cancellation.GuaranteedTask
import Aiodrive.Cancellation.GuaranteedLife
import Aiodrive.Cancellation.GuaranteedClient
import Aiodrive.Cancellation.Contextualize
import Aiodrive.Cancellation.ContextualizeExit
import Aiodrive.BufferAiter.Model
import Aiodrive.BufferAiter.Items
import Aiodrive.Zip.Model
import Aiodrive.Zip.Tuples
import Aiodrive.Prime.Delegation
import Aiodrive.NestableLock.Model
import Aiodrive.NestableLock.Exclusion
import Aiodrive.ThreadsafeCondition.Model
import Aiodrive.ThreadsafeCondition.Notify
import Aiodrive.ThreadsafeCondition.Wait
import Aiodrive.ThreadsafeCondition.Reacquire
import Aiodrive.ThreadsafeState.Model
import Aiodrive.ThreadsafeState.Observers
import Aiodrive.ThreadsafeState.WaitSync
import Aiodrive.ThreadManager.Model
import Aiodrive.ThreadManager.Invariant
import Aiodrive.ThreadManager.Shutdown
import Aiodrive.ThreadManager.Cancellation
import Aiodrive.Amass.Model
import Aiodrive.Amass.Refill
import Aiodrive.Amass.Serving
import Aiodrive.Amass.Delivery
import Aiodrive.Amass.Closing
import Aiodrive.Asyncio.FirstSteps
import Aiodrive.StartOrder.Programs
import Aiodrive.StartOrder.FirstSteps
import Aiodrive.Shield.Model
import Aiodrive.Shield.Callbacks
import Aiodrive.Shield.Mirrors
import Aiodrive.Shield.Wait
import Aiodrive.Shield.WaitForever
import Aiodrive.Cleanup.Model
import Aiodrive.Cleanup.FirstRequest
import Aiodrive.Gather.Requests
import Aiodrive.ConcurrentContexts.Exits
import Aiodrive.ConcurrentContexts.Model
import Aiodrive.ConcurrentContexts.Entered
import Aiodrive.Multiprocessing.Containment
import Aiodrive.Multiprocessing.Exit
import Aiodrive.ThreadLoop.Model
import Aiodrive.ThreadLoop.LaunchSync
import Aiodrive.ThreadLoop.Run
import Aiodrive.PendingDaemon.Model
import Aiodrive.PendingDaemon.Finalisation
import Aiodrive.DaemonHandle.Entry
import Aiodrive.WatchPath.Reports
import Aiodrive.WatchPath.UpToDate
import Aiodrive.WatchPath.History
import Aiodrive.WatchPath.Exit
import Aiodrive.WatchPath.Watching
import Aiodrive.WatchPath.DeepestPrefix
import Aiodrive.Prompt.Model
import Aiodrive.Prompt.Line
import Aiodrive.FlockKqueue.Model
import Aiodrive.FlockKqueue.Unlocks
import Aiodrive.RWLock.Model
import Aiodrive.RWLock.HandOver
import Aiodrive.RWLock.Exclusion
import Aiodrive.RWLock.Owners
import Aiodrive.SmartLock.Model
import Aiodrive.SmartLock.Refinement
import Aiodrive.SmartLock.Serving
import Aiodrive.Latch.Model
import Aiodrive.Latch.Waits
import Aiodrive.Queue.Cargo
import Aiodrive.Brackets.Programs
import Aiodrive.Settings.Model
import Aiodrive.Settings.Nesting
import Aiodrive.ExceptionGroups.Rest
import Aiodrive.Cancellation.Suppress
import Aiodrive.Process.Model
import Aiodrive.Process.Wait
import Aiodrive.Process.WaitFor
import Aiodrive.Signals.HandleSignal
import Aiodrive.Signals.WatchSignal
import Aiodrive.Asyncio.Streams
import Aiodrive.Pipe.Model
import Aiodrive.Pipe.Copy
import Aiodrive.Pipe.Drain
import Aiodrive.Pipe.Ends
import Aiodrive.TaskGroup.Model
import Aiodrive.TaskGroup.Exit
import Aiodrive.TaskGroup.Ends
import Aiodrive.TaskGroup.Volatile
import Aiodrive.TCPServer.Model
import Aiodrive.TCPServer.Listen
import Aiodrive.ThreadLoop.Finish
import Aiodrive.ThreadLoop.FinishCalls
import Aiodrive.ThreadLoop.FinishEnds
import Aiodrive.ShieldAiter.Model
import Aiodrive.ShieldAiter.Items
import Aiodrive.Debounce.Model
import Aiodrive.Debounce.Calls
import Aiodrive.Debounce.Answers
