import CxPlat.Locks.Platforms
import CxPlat.Posix.Async
import CxPlat.Posix.EventAtomic
import CxPlat.Posix.EventDestroy

/-
  The last block of `CxPlatTestLockBasic` in `LockTest.cpp`,
  on POSIX platforms: a lock, an event and a `CxPlatAsyncT`
  whose thread acquires the lock, sets the event and releases
  the lock.

  The test holds the lock while it starts the thread and
  waits for the event a first time, which has to time out.
  Then it releases the lock and waits a second time, which
  has to succeed.  At the end of the block the destructors
  join the thread and take the lock and the event down.

  The statements of the test and of the thread, and within
  the event those of `cxplat_posix.h`, interleave in any
  order.  The thread is that of `CxPlatThreadCreate`, and
  the object joins it if the status says that there is one.

  Key definitions include:
    * `TestPc`, `WorkerPc`, `State`
    * `Setup`, `construct`
    * `step`
    * `Inv`

  Key theorems include:
    * `shift_of_moves`
    * `inv_start`
-/

------------------------------------------------------------
-- The Test and Its Thread
------------------------------------------------------------

namespace CxPlat

namespace LockTest

open Contract (Result)
open LockPlatforms (Recursive pthreadMutexLock
  pthreadMutexUnlock)
open Posix (Pc Choice)
open PosixThread (Build Answers Status statusSuccess)

inductive Party where
  | test
  | worker
deriving DecidableEq, Repr

/- The two calls of `Event.WaitTimeout`. -/
inductive Wait where
  | first
  | second
deriving DecidableEq, Repr

/- The next statement of the test. -/
inductive TestPc where
  | acquire
  | create
  | call (wait : Wait)
  | waiting (wait : Wait)
  | check (wait : Wait) (result : Bool)
  | release
  | destroyAsync
  | destroyLock
  | destroyEvent
  | done
deriving DecidableEq, Repr

/- The next statement of the thread, if there is one. -/
inductive WorkerPc where
  | absent
  | enter
  | acquire
  | call
  | setting
  | release
  | finished
deriving DecidableEq, Repr

inductive Fault where
  | lock
  | lockBusy
  | eventBusy (busy : Posix.Busy)
  | create (fault : PosixThread.Fault)
  | badHandle
  | gone
deriving DecidableEq, Repr

/- What the block is compiled with, and what it is answered. -/
structure Setup where
  build : Build
  answers : Answers
  addresses : Async.Addresses

/- The event, and where the parties are in its functions. -/
abbrev Events :=
  Threads.Config (Posix.Event Party) Posix.Thread Party

/-
  Where the parties are, the objects of the block, the field
  `Initialized` and the waits whose check has failed.
-/
structure State where
  test : TestPc
  worker : WorkerPc
  events : Events
  lock : Recursive Party
  initialized : Bool
  failures : List Wait
  fault : Option Fault

/- A statement, or the end of a sleep. -/
inductive Action where
  | next (party : Party)
  | wake (expired : Bool)
deriving DecidableEq, Repr

/- The statement of a party in the event's functions. -/
def State.pc
    (s : State)
    (party : Party) : Pc :=
  (s.events.locals party).pc

/- The destructors run in the order that the source implies. -/
def TestPc.asyncGone : TestPc → Bool
  | .destroyLock | .destroyEvent | .done => true
  | _ => false

def TestPc.lockGone : TestPc → Bool
  | .destroyEvent | .done => true
  | _ => false

def TestPc.eventGone : TestPc → Bool
  | .done => true
  | _ => false

def State.failed
    (s : State)
    (fault : Fault) : State :=
  { s with fault := some fault }

/- A call on the lock, which may block. -/
def onLock
    (s : State)
    (result : Result (Recursive Party))
    (next : Recursive Party → State) : Option State :=
  match result with
  | .done lock => some (next lock)
  | .blocked => none
  | .broken => some (s.failed .lock)

/- A statement of a party in the event's functions. -/
def onEvent
    (s : State)
    (party : Party)
    (choice : Choice)
    (next : Events → State) : Option State :=
  (Threads.step Posix.program s.events (party, choice)).map
    next

/- A wait that returns hands over its result. -/
def afterWait
    (wait : Wait) : Pc → Pc → TestPc
  | .waitUnlock _ satisfied, .idle => .check wait satisfied
  | _, _ => .waiting wait

/- A statement of `WaitTimeout`. -/
def waitStatement
    (s : State)
    (wait : Wait)
    (choice : Choice) : Option State :=
  onEvent s .test choice (fun events => { s with
    events
    test :=
      afterWait wait (s.pc .test)
        (events.locals .test).pc })

/- A check that fails is logged, and the block is left. -/
def leave
    (s : State)
    (wait : Wait) : State :=
  { s with
    failures := s.failures ++ [wait]
    test := .destroyAsync }

/- The call of `CxPlatThreadCreate`. -/
def Setup.creation
    (setup : Setup) :
    Except PosixThread.Fault (Status × PosixThread.State) :=
  Comp.exec
    (PosixThread.threadCreate setup.build setup.answers
      (Async.threadConfig setup.addresses))
    PosixThread.begin

/- The constructor of `CxPlatAsyncT`. -/
def construct
    (setup : Setup)
    (s : State) : State :=
  match setup.creation with
  | .error fault => s.failed (.create fault)
  | .ok (status, created) =>
      { s with
        test := .call .first
        worker :=
          if created.thread.isSome then .enter else .absent
        initialized := status = statusSuccess }

/-
  Its destructor.  `pthread_join` waits for the thread, and a
  handle that was never set cannot be joined.
-/
def destruct
    (s : State) : Option State :=
  if s.initialized then
    match s.worker with
    | .absent => some (s.failed .badHandle)
    | .finished => some { s with test := .destroyLock }
    | _ => none
  else
    some { s with test := .destroyLock }

def testNext
    (setup : Setup)
    (s : State) : Option State :=
  match s.test with
  | .acquire =>
      onLock s (pthreadMutexLock s.lock .test)
        (fun lock => { s with lock, test := .create })
  | .create => some (construct setup s)
  | .call wait =>
      onEvent s .test .waitWithTimeout
        (fun events =>
          { s with events, test := .waiting wait })
  | .waiting wait => waitStatement s wait .next
  -- `TEST_FALSE`
  | .check .first result =>
      some
        (if result then leave s .first
         else { s with test := .release })
  | .release =>
      onLock s (pthreadMutexUnlock s.lock .test)
        (fun lock => { s with lock, test := .call .second })
  -- `TEST_TRUE`
  | .check .second result =>
      some
        (if result then { s with test := .destroyAsync }
         else leave s .second)
  | .destroyAsync => destruct s
  | .destroyLock =>
      some
        (if s.lock.owner = none then
          { s with test := .destroyEvent }
         else
          s.failed .lockBusy)
  | .destroyEvent =>
      some
        (match Posix.eventUninitialize s.events.shared with
         | .ok _ => { s with test := .done }
         | .error busy => s.failed (.eventBusy busy))
  | .done => none

/- What the thread uses has to be there. -/
def ifThere
    (s : State)
    (isGone : Bool)
    (next : Option State) : Option State :=
  if isGone then some (s.failed .gone) else next

def workerNext
    (s : State) : Option State :=
  match s.worker with
  | .absent => none
  -- `ThreadCallback` reads the members of the object
  | .enter =>
      ifThere s s.test.asyncGone
        (some { s with worker := .acquire })
  | .acquire =>
      ifThere s s.test.lockGone
        (onLock s (pthreadMutexLock s.lock .worker)
          (fun lock => { s with lock, worker := .call }))
  | .call =>
      ifThere s s.test.eventGone
        (onEvent s .worker .set
          (fun events =>
            { s with events, worker := .setting }))
  | .setting =>
      ifThere s s.test.eventGone
        (onEvent s .worker .next
          (fun events => { s with
            events
            worker :=
              if (events.locals .worker).pc = .idle then
                .release
              else
                .setting }))
  | .release =>
      ifThere s s.test.lockGone
        (onLock s (pthreadMutexUnlock s.lock .worker)
          (fun lock => { s with lock, worker := .finished }))
  | .finished => none

def wakeUp
    (s : State)
    (expired : Bool) : Option State :=
  match s.test with
  | .waiting wait => waitStatement s wait (.wake expired)
  | _ => none

def step
    (setup : Setup)
    (s : State)
    (action : Action) : Option State :=
  if s.fault ≠ none then
    none
  else
    match action with
    | .next .test => testNext setup s
    | .next .worker => workerNext s
    | .wake expired => wakeUp s expired

/- After the constructors of the event and of the lock. -/
def start : State where
  test := .acquire
  worker := .absent
  events := Posix.start false false
  lock := Recursive.free
  initialized := false
  failures := []
  fault := none

end LockTest

end CxPlat

------------------------------------------------------------
-- What a Statement Does to the Event
------------------------------------------------------------

namespace CxPlat

namespace LockTest

open Posix (Phase Operation Moves)

/-
  What a statement does to the phase of its thread and to
  `Signaled`.
-/
inductive Shift (autoReset : Bool) :
    Phase → Bool → Phase → Bool → Prop where
  | call (op : Operation) (signaled : Bool) :
      Shift autoReset .idle signaled (.called op) signaled
  | quiet (phase : Phase) (signaled : Bool)
      (hBusy : phase ≠ .idle) :
      Shift autoReset phase signaled phase signaled
  | set (signaled : Bool) :
      Shift autoReset (.called .set) signaled
        (.done .set true) true
  | reset (signaled : Bool) :
      Shift autoReset (.called .reset) signaled
        (.done .reset true) false
  | satisfied (timed : Bool) :
      Shift autoReset (.called (.wait timed)) true
        (.done (.wait timed) true) (!autoReset)
  | expired (signaled : Bool) :
      Shift autoReset (.called (.wait true)) signaled
        (.done (.wait true) false) signaled
  | returns (op : Operation) (result signaled : Bool) :
      Shift autoReset (.done op result) signaled .idle
        signaled

variable {Th : Type} [DecidableEq Th]
variable {e e' : Posix.Event Th} {th : Th}
  {pc pc' : Posix.Pc}

theorem shift_of_moves
    (hReady : Posix.Ready e pc)
    (hMoves : Moves e th pc e' pc') :
    Shift e.autoReset pc.phase e.signaled pc'.phase
      e'.signaled := by
  cases hMoves with
  | call hEntry =>
      cases pc' <;>
        first | contradiction | exact .call _ _
  | lock hFree hLocked =>
      cases pc with
      | setLock => cases hLocked; exact .quiet _ _ nofun
      | resetLock => cases hLocked; exact .quiet _ _ nofun
      | waitLock timed => cases hLocked; exact .quiet _ _ nofun
      | waitRelock timed expired =>
          cases hLocked
          cases expired with
          | false => exact .quiet _ _ nofun
          | true =>
              have hTimed := hReady.expiring timed rfl
              subst hTimed
              exact .expired _
      | _ => contradiction
  | setStore => exact .set _
  | broadcast => exact .quiet _ _ nofun
  | resetStore => exact .reset _
  | unlock hPc =>
      rcases hPc with hPc | hPc
      all_goals
        subst hPc
        exact .returns _ _ _
  | found hSignaled => exact .quiet _ _ nofun
  | notFound hSignaled => exact .quiet _ _ nofun
  | sleep => exact .quiet _ _ nofun
  | wake hTimed => exact .quiet _ _ nofun
  | @take timed =>
      have hSignaled := hReady.taking timed rfl
      have hAfter :
          (Posix.take e).signaled = !e.autoReset := by
        cases hAuto : e.autoReset <;>
          simp [Posix.take, hAuto, hSignaled]
      rw [hAfter, hSignaled]
      exact .satisfied _
  | @waitUnlock timed satisfied =>
      cases timed <;> cases satisfied <;>
        exact .returns _ _ _

end LockTest

end CxPlat

------------------------------------------------------------
-- The Invariant
------------------------------------------------------------

namespace CxPlat

namespace LockTest

open LockPlatforms (Recursive)
open Posix (Pc Phase)

/-
  The constructor returns and knows whether there is a
  thread.
-/
def Setup.Tells
    (setup : Setup)
    (refused : Bool) : Prop :=
  ∀ s,
    construct setup s =
      { s with
        test := .call .first
        worker := if refused then .absent else .enter
        initialized := !refused }

/- How far the test is, as far as the thread is concerned. -/
inductive Zone where
  | outset
  | holding
  | started
  | opened
  | closed
deriving DecidableEq, Repr

def TestPc.zone : TestPc → Zone
  | .acquire => .outset
  | .create => .holding
  | .call .first | .waiting .first => .started
  | .check .first _ | .release => .started
  | .call .second | .waiting .second => .opened
  | .check .second _ | .destroyAsync => .opened
  | .destroyLock | .destroyEvent | .done => .closed

/- There is no thread yet. -/
def Zone.unstarted : Zone → Bool
  | .outset | .holding => true
  | _ => false

def heldBy
    (party : Party) : Recursive Party where
  owner := some party
  count := 1

/- The thread has not got the lock yet. -/
def WorkerPc.early : WorkerPc → Bool
  | .absent | .enter | .acquire => true
  | _ => false

/- The lock, when the test does not hold it. -/
def WorkerPc.lock : WorkerPc → Recursive Party
  | .call | .setting | .release => heldBy .worker
  | _ => Recursive.free

/- Who has the lock, and how far the thread can be. -/
def Situation
    (zone : Zone)
    (worker : WorkerPc)
    (lock : Recursive Party) : Prop :=
  match zone with
  | .outset => worker = .absent ∧ lock = Recursive.free
  | .holding => worker = .absent ∧ lock = heldBy .test
  | .started => worker.early = true ∧ lock = heldBy .test
  | .opened => lock = worker.lock
  | .closed =>
      (worker = .absent ∨ worker = .finished) ∧
        lock = Recursive.free

/- `refused` says whether the thread cannot be created. -/
structure Control
    (refused : Bool)
    (s : State) : Prop where
  situation : Situation s.test.zone s.worker s.lock
  absent :
    s.worker = .absent ↔
      s.test.zone.unstarted = true ∨ refused = true
  initialized :
    s.initialized = true ↔ s.worker ≠ .absent

/- In the event's functions exactly where it calls them. -/
def TestPc.Allows : TestPc → Phase → Prop
  | .waiting wait, phase =>
      phase = .called (.wait true) ∨
        ∃ result, phase = .done (.wait true) result ∧
          (wait = .first → result = false)
  | .check .first result, phase =>
      result = false ∧ phase = .idle
  | _, phase => phase = .idle

def WorkerPc.Allows : WorkerPc → Phase → Prop
  | .setting, phase =>
      phase = .called .set ∨ phase = .done .set true
  | _, phase => phase = .idle

/- The thread has set the event. -/
def WorkerPc.stored : WorkerPc → Phase → Bool
  | .setting, phase => phase = .done .set true
  | .release, _ | .finished, _ => true
  | _, _ => false

/- The test is about to wait, or waits, for the signal. -/
def TestPc.awaits : TestPc → Phase → Bool
  | .call .second, _ => true
  | .waiting .second, phase =>
      phase ≠ .done (.wait true) true
  | _, _ => false

/-
  The event is signaled only by the thread, and stays so
  until the second wait takes the signal.
-/
structure Signal
    (s : State) : Prop where
  reached : ∃ moves, Posix.Reaches false false moves s.events
  test : s.test.Allows (s.pc .test).phase
  worker : s.worker.Allows (s.pc .worker).phase
  raised :
    s.events.shared.signaled = true →
      s.worker.stored (s.pc .worker).phase = true
  kept :
    s.worker.stored (s.pc .worker).phase = true →
      s.test.awaits (s.pc .test).phase = true →
        s.events.shared.signaled = true

/- The time is up. -/
def lapsed : Pc → Nat
  | .waitRelock _ true => 1
  | .waitUnlock _ false => 1
  | _ => 0

/- How often the time has been up so far. -/
def State.expiries
    (s : State) : Nat :=
  match s.test with
  | .acquire | .create | .call .first => 0
  | .waiting .first => lapsed (s.pc .test)
  | .check .first _ | .release | .call .second => 1
  | .waiting .second => 1 + lapsed (s.pc .test)
  | .check .second result => 1 + (!result).toNat
  | .destroyAsync | .destroyLock => 1 + s.failures.length
  | .destroyEvent | .done => 1 + s.failures.length

/- The block has been left. -/
def TestPc.left : TestPc → Bool
  | .destroyAsync | .destroyLock => true
  | .destroyEvent | .done => true
  | _ => false

structure Tally
    (expiries : Nat)
    (s : State) : Prop where
  expiries : expiries = s.expiries
  failures : s.failures = [] ∨ s.failures = [.second]
  none : s.test.left = false → s.failures = []

structure Inv
    (refused : Bool)
    (expiries : Nat)
    (s : State) : Prop where
  fault : s.fault = none
  control : Control refused s
  signal : Signal s
  tally : Tally expiries s

theorem inv_start
    (refused : Bool) :
    Inv refused 0 start where
  fault := rfl
  control :=
    { situation := ⟨rfl, rfl⟩
      absent := by simp [start, TestPc.zone, Zone.unstarted]
      initialized := by simp [start] }
  signal :=
    { reached := ⟨[], rfl⟩
      test := rfl
      worker := rfl
      raised := nofun
      kept := nofun }
  tally :=
    { expiries := rfl
      failures := Or.inl rfl
      none := fun _ => rfl }

end LockTest

end CxPlat
