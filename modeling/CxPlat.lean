import CxPlat.Lib.Comp
import CxPlat.Lib.Transition
import CxPlat.Lib.Threads
import CxPlat.Lib.Scaling
import CxPlat.Lib.Ledger
import CxPlat.Lib.Ranges
import CxPlat.Lib.Serial
import CxPlat.Lib.Tickets
import CxPlat.Lib.Bytes
import CxPlat.Lib.Integers
import CxPlat.Lib.Watch
import CxPlat.Lib.Simulation
import CxPlat.Lib.Progress
import CxPlat.Lib.Cost
import CxPlat.Lib.Contract
import CxPlat.KArray.Heap
import CxPlat.KArray.Basic
import CxPlat.KArray.Slots
import CxPlat.KArray.MoveElements
import CxPlat.KArray.Storage
import CxPlat.KArray.Elements
import CxPlat.KArray.Fill
import CxPlat.KArray.Insertion
import CxPlat.KArray.Alias
import CxPlat.KArray.World
import CxPlat.KArray.Refinement
import CxPlat.KArray.Refusal
import CxPlat.KArray.Kept
import CxPlat.KArray.Watched
import CxPlat.KArray.WatchedShifts
import CxPlat.KArray.Lifetime
import CxPlat.KArray.Sorted
import CxPlat.KArray.LowerBound
import CxPlat.KArray.Growth
import CxPlat.KArray.Cost
import CxPlat.KArray.Stable
import CxPlat.KArray.Iterators
import CxPlat.KArray.OwnSet
import CxPlat.WinTime
import CxPlat.TimeOrder
import CxPlat.ThreadConfig
import CxPlat.WinKernel.RwLock
import CxPlat.WinKernel.DispatchLock
import CxPlat.WinKernel.PushLock
import CxPlat.WinKernel.LockOrder
import CxPlat.WinKernel.Thread
import CxPlat.WinKernel.Timeouts
import CxPlat.WinKernel.Library
import CxPlat.Posix.Event
import CxPlat.Posix.EventOutline
import CxPlat.Posix.EventSafety
import CxPlat.Posix.EventAtomic
import CxPlat.Posix.EventProgress
import CxPlat.Posix.EventDestroy
import CxPlat.Posix.Interlocked
import CxPlat.Posix.Shims
import CxPlat.Posix.Thread
import CxPlat.Posix.Async
import CxPlat.Posix.Library
import CxPlat.Posix.Clock
import CxPlat.Posix.Deadline
import CxPlat.AllocFailure
import CxPlat.AllocThreads
import CxPlat.Posix.Random
import CxPlat.Posix.Session
import CxPlat.WinUser.Processors
import CxPlat.WinUser.Ownership
import CxPlat.WinUser.Numbering
import CxPlat.WinUser.Library
import CxPlat.WinUser.Thread
import CxPlat.WinUser.Placement
import CxPlat.WinUser.DebugHeap
import CxPlat.WinAsync
import CxPlat.Locks.Platforms
import CxPlat.Locks.Portable
import CxPlat.TestDriver.Ioctl
import CxPlat.TestDriver.Harness
import CxPlat.TestDriver.Verdicts
import CxPlat.TestDriver.Environment
import CxPlat.Tests.FailureInjection
import CxPlat.Tests.LockBasic
import CxPlat.Tests.LockBasicEnds
