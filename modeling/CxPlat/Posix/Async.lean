import CxPlat.Posix.Thread

/-
  `CxPlatAsyncT` from `cxplat.hpp` over POSIX threads.

  The constructor creates a thread, `Wait` joins it, and the
  destructor joins it unless a `Wait` has done so.  Joining a
  thread a second time is an error, on which
  `CxPlatThreadWaitForever` aborts.

  Key definitions include:
    * `construct`, `wait`, `destruct`
    * `lifetime`
    * `JoinedOnce`

  Key theorems include:
    * `returns_use_fresh`, `not_returns_use_fresh`
    * `lifetime_joinedOnce_iff`
-/

------------------------------------------------------------
-- The Object
------------------------------------------------------------

namespace CxPlat

namespace Async

open PosixThread (Build Answers Status statusSuccess)

/- What is done to threads, and the end of the destructor. -/
inductive Event where
  | join (thread : Nat)
  | destructed
deriving DecidableEq, Repr

/- `ContextT`. -/
structure Context where
  userContext : Nat
  userCallback : Nat
deriving DecidableEq, Repr

/-
  The fields of the object, the threads that have been
  joined, and a log of events that no code reads.
-/
structure State where
  asyncContext : Context
  thread : Option Nat
  threadCompleted : Bool
  initialized : Bool
  joined : List Nat
  log : List Event
deriving DecidableEq, Repr

inductive Fault where
  | create (fault : PosixThread.Fault)
  | badHandle
  | abort
deriving DecidableEq, Repr

/- The member initialisers, before the constructor's own. -/
def blank : State where
  asyncContext := { userContext := 0, userCallback := 0 }
  thread := none
  threadCompleted := false
  initialized := false
  joined := []
  log := []

/- `ThreadCallback` and `&AsyncContext`, as addresses. -/
structure Addresses where
  threadCallback : Nat
  asyncContext : Nat
deriving DecidableEq, Repr

/- The member `ThreadConfig`. -/
def threadConfig
    (addresses : Addresses) : ThreadConfig where
  flags := 0
  idealProcessor := 0
  name := some "CxPlatAsync"
  callback := addresses.threadCallback
  context := addresses.asyncContext

/- The constructor, which also gives the status it compares. -/
def construct
    (build : Build)
    (answers : Answers)
    (addresses : Addresses)
    (callback userContext : Nat) :
    Comp Fault State Status := do
  modify (fun s => { s with
    asyncContext :=
      { userContext := userContext, userCallback := callback } })
  match Comp.exec
      (PosixThread.threadCreate build answers
        (threadConfig addresses)) PosixThread.begin with
  | .error fault => throw (.create fault)
  | .ok (status, created) =>
      modify (fun s => { s with
        thread := created.thread
        initialized := status = statusSuccess })
      return status

/-
  `pthread_join`.  It comes back, with zero, when the thread
  has ended; a thread that has been joined is no more.
-/
def pthreadJoin
    (thread : Option Nat) :
    Comp Fault State (BitVec 32) := do
  let s ← get
  match thread with
  | none => throw .badHandle
  | some th =>
      set { s with
        joined := th :: s.joined
        log := s.log ++ [Event.join th] }
      if th ∈ s.joined then
        return 3
      else
        return 0

/- `CxPlatThreadWaitForever`. -/
def threadWaitForever
    (thread : Option Nat) : Comp Fault State Unit := do
  let code ← pthreadJoin thread
  if code ≠ 0 then
    throw .abort

/- `CxPlatThreadDelete`, which does nothing. -/
def threadDelete
    (_thread : Option Nat) : Comp Fault State Unit :=
  pure ()

def wait : Comp Fault State Unit := do
  let s ← get
  if s.initialized then
    threadWaitForever s.thread
    modify (fun s => { s with threadCompleted := true })

def destruct : Comp Fault State Unit := do
  let s ← get
  if s.initialized then
    if !s.threadCompleted then
      threadWaitForever s.thread
    threadDelete s.thread
  modify (fun s => { s with log := s.log ++ [.destructed] })

/- A number of calls of `Wait`. -/
def waits : Nat → Comp Fault State Unit
  | 0 => pure ()
  | n + 1 => do
      wait
      waits n

/- What becomes of an object after its construction. -/
def use
    (n : Nat) : Comp Fault State Unit := do
  waits n
  destruct

def lifetime
    (build : Build)
    (answers : Answers)
    (addresses : Addresses)
    (callback userContext n : Nat) :
    Comp Fault State Status := do
  let status ←
    construct build answers addresses callback userContext
  use n
  return status

/-
  After a creation that succeeded the thread is joined once,
  before the end of the destructor; after one that failed
  nothing is.
-/
structure JoinedOnce
    (status : Status)
    (s : State) : Prop where
  success :
    status = statusSuccess →
      ∃ th before,
        s.thread = some th ∧
          s.log = before ++ [.destructed] ∧
          before.count (.join th) = 1 ∧
          ∀ th', .join th' ∈ before → th' = th
  failure :
    status ≠ statusSuccess →
      ∀ th, Event.join th ∉ s.log

end Async

end CxPlat

------------------------------------------------------------
-- Waiting and Destruction
------------------------------------------------------------

namespace CxPlat

namespace Async

open Comp

variable {s : State} {th : Nat}

/- The thread is created and has not been joined. -/
structure Fresh
    (th : Nat)
    (s : State) : Prop where
  initialized : s.initialized = true
  thread : s.thread = some th
  completed : s.threadCompleted = false
  joined : s.joined = []
  log : s.log = []

/- It has been joined by a `Wait`. -/
structure Waited
    (th : Nat)
    (s : State) : Prop where
  initialized : s.initialized = true
  thread : s.thread = some th
  completed : s.threadCompleted = true
  joined : s.joined = [th]
  log : s.log = [.join th]

theorem returns_wait_fresh
    (hFresh : Fresh th s) :
    Returns wait s (fun _ t => Waited th t) := by
  rcases hFresh with ⟨hInit, hThread, _, hJoined, hLog⟩
  simp only [wait, threadWaitForever, pthreadJoin, hInit,
    hThread, hJoined, hLog, returns_bind, returns_get,
    returns_set, if_true, List.not_mem_nil, if_false,
    returns_pure, ne_eq, not_true_eq_false, returns_modify]
  exact ⟨rfl, rfl, rfl, rfl, rfl⟩

/- A second `Wait` joins again, and aborts. -/
theorem exec_wait_waited
    (hWaited : Waited th s) :
    exec wait s = .error .abort := by
  rcases hWaited with ⟨hInit, hThread, _, hJoined, _⟩
  simp [wait, threadWaitForever, pthreadJoin, hInit, hThread,
    hJoined, exec_bind]

theorem returns_destruct_fresh
    (hFresh : Fresh th s) :
    Returns destruct s (fun _ t =>
      t.thread = some th ∧
        t.log = [.join th, .destructed]) := by
  rcases hFresh with ⟨hInit, hThread, hOpen, hJoined, hLog⟩
  simp [destruct, threadWaitForever, pthreadJoin,
    threadDelete, hInit, hThread, hOpen, hJoined, hLog]

theorem returns_destruct_waited
    (hWaited : Waited th s) :
    Returns destruct s (fun _ t =>
      t.thread = some th ∧
        t.log = [.join th, .destructed]) := by
  rcases hWaited with ⟨hInit, hThread, hDone, _, hLog⟩
  simp [destruct, threadDelete, hInit, hThread, hDone, hLog]

/- With one `Wait` or none, both of which join once. -/
theorem returns_use_fresh
    (hFresh : Fresh th s)
    {n : Nat}
    (hFew : n ≤ 1) :
    Returns (use n) s (fun _ t =>
      t.thread = some th ∧
        t.log = [.join th, .destructed]) := by
  match n with
  | 0 =>
      simp only [use, waits, returns_bind, returns_pure]
      exact returns_destruct_fresh hFresh
  | 1 =>
      simp only [use, waits, returns_bind, returns_pure]
      apply (returns_wait_fresh hFresh).mono
      intro _ t hWaited
      exact returns_destruct_waited hWaited

/- With more of them the object aborts. -/
theorem not_returns_use_fresh
    (hFresh : Fresh th s)
    {n : Nat}
    (hMany : 1 < n)
    (Q : Unit → State → Prop) :
    ¬ Returns (use n) s Q := by
  match n with
  | n + 2 =>
      simp only [use, waits, returns_bind]
      intro hReturns
      rcases returns_wait_fresh hFresh with
        ⟨_, t, hFirst, hWaited⟩
      rcases hReturns.post hFirst with ⟨_, _, hSecond, _⟩
      rw [exec_wait_waited hWaited] at hSecond
      contradiction

/- Without a thread no call does anything. -/
theorem returns_waits_idle
    (hIdle : s.initialized = false)
    (n : Nat) :
    Returns (waits n) s (fun _ t => t = s) := by
  induction n with
  | zero => simp [waits]
  | succ n ih => simpa [waits, wait, hIdle] using ih

theorem returns_use_idle
    (hIdle : s.initialized = false)
    (n : Nat) :
    Returns (use n) s (fun _ t =>
      t.log = s.log ++ [.destructed]) := by
  unfold use
  apply (returns_waits_idle hIdle n).bind
  rintro _ t rfl
  simp [destruct, hIdle]

/- A handle that was never set cannot be joined. -/
theorem not_returns_use_noThread
    (hInit : s.initialized = true)
    (hThread : s.thread = none)
    (hOpen : s.threadCompleted = false)
    (n : Nat)
    (Q : Unit → State → Prop) :
    ¬ Returns (use n) s Q := by
  cases n with
  | zero =>
      simp [use, waits, destruct, threadWaitForever,
        pthreadJoin, hInit, hThread, hOpen]
  | succ n =>
      simp [use, waits, wait, threadWaitForever, pthreadJoin,
        hInit, hThread]

end Async

end CxPlat

------------------------------------------------------------
-- Construction
------------------------------------------------------------

namespace CxPlat

namespace Async

open Comp

open PosixThread (Build Answers Status statusSuccess)

variable {build : Build} {answers : Answers}
variable {addresses : Addresses}

/- The object after a creation that has come back. -/
def constructed
    (callback userContext : Nat)
    (status : Status)
    (created : PosixThread.State) : State :=
  { blank with
    asyncContext :=
      { userContext := userContext, userCallback := callback }
    thread := created.thread
    initialized := status = statusSuccess }

theorem exec_construct
    (callback userContext : Nat)
    {status : Status}
    {created : PosixThread.State}
    (hCreate :
      exec (PosixThread.threadCreate build answers
          (threadConfig addresses)) PosixThread.begin =
        .ok (status, created)) :
    exec
        (construct build answers addresses callback
          userContext) blank =
      .ok (status,
        constructed callback userContext status created) := by
  simp only [construct, hCreate, exec_bind, exec_modify,
    exec_pure]
  rfl

/- The object is used only if the creation comes back. -/
theorem returns_lifetime_iff
    (callback userContext n : Nat)
    (Q : Status → State → Prop) :
    Returns
        (lifetime build answers addresses callback
          userContext n) blank Q ↔
      Returns
        (PosixThread.threadCreate build answers
          (threadConfig addresses)) PosixThread.begin
        (fun status created =>
          Returns (use n)
            (constructed callback userContext status created)
            (fun _ t => Q status t)) := by
  unfold lifetime
  simp only [returns_bind, returns_pure]
  cases hCreate :
      exec (PosixThread.threadCreate build answers
        (threadConfig addresses)) PosixThread.begin with
  | ok r =>
      rcases r with ⟨status, created⟩
      have hConstruct :=
        exec_construct callback userContext hCreate
      constructor
      · intro hReturns
        exact returns_of_exec hCreate
          (hReturns.post hConstruct)
      · intro hReturns
        exact returns_of_exec hConstruct
          (hReturns.post hCreate)
  | error fault =>
      constructor
      · rintro ⟨_, _, hConstruct, _⟩
        simp [construct, hCreate, exec_bind] at hConstruct
      · rintro ⟨_, _, hExec, _⟩
        rw [hCreate] at hExec
        contradiction

theorem fresh_constructed
    {callback userContext : Nat}
    {created : PosixThread.State}
    (hStarted :
      PosixThread.Started (threadConfig addresses) created) :
    Fresh 0
      (constructed callback userContext statusSuccess
        created) := by
  rcases hStarted with ⟨_, _, hThread, _⟩
  exact ⟨rfl, hThread, rfl, rfl, rfl⟩

end Async

end CxPlat

------------------------------------------------------------
-- One Join
------------------------------------------------------------

namespace CxPlat

namespace Async

open Comp

open PosixThread (Build Answers Status statusSuccess
  ContextFits CreatesNone reportedErrno)

variable {build : Build} {answers : Answers}
variable {status : Status} {t : State}

theorem joinedOnce_of_log
    {th : Nat}
    (hThread : t.thread = some th)
    (hLog : t.log = [.join th, .destructed]) :
    JoinedOnce statusSuccess t := by
  constructor
  · intro _
    refine ⟨th, [.join th], hThread, hLog, by simp, ?_⟩
    intro th' hJoin
    simpa using hJoin
  · intro hStatus
    exact absurd rfl hStatus

theorem joinedOnce_of_failure
    (hStatus : status ≠ statusSuccess)
    (hLog : t.log = [.destructed]) :
    JoinedOnce status t := by
  constructor
  · intro hSuccess
    exact absurd hSuccess hStatus
  · intro _ th
    simp [hLog]

/- Where no thread was created, the object has to know. -/
theorem joinedOnce_noThread_iff
    (hFits : ContextFits build answers)
    (hNone : CreatesNone build answers)
    (addresses : Addresses)
    (callback userContext n : Nat) :
    Returns
        (lifetime build answers addresses callback
          userContext n) blank JoinedOnce ↔
      reportedErrno answers ≠ statusSuccess := by
  rw [returns_lifetime_iff]
  constructor
  · rintro ⟨status, created, hCreate, hUse⟩ hErrno
    rcases PosixThread.threadCreate_nothing hNone hCreate
      with ⟨rfl, _, hThread, _⟩
    refine not_returns_use_noThread ?_ hThread rfl n _ hUse
    simp [constructed, hErrno]
  · intro hErrno
    apply (PosixThread.returns_threadCreate_nothing hFits
      hNone hErrno).mono
    rintro status created ⟨rfl, _⟩
    apply (returns_use_idle _ n).mono
    · intro _ t hLog
      exact joinedOnce_of_failure hErrno hLog
    · simp [constructed, hErrno]

/- Where one was, it can be waited for once. -/
theorem joinedOnce_thread_iff
    (hFits : ContextFits build answers)
    (hSome : ¬ CreatesNone build answers)
    (addresses : Addresses)
    (callback userContext n : Nat) :
    Returns
        (lifetime build answers addresses callback
          userContext n) blank JoinedOnce ↔
      n ≤ 1 := by
  rw [returns_lifetime_iff]
  rcases PosixThread.returns_threadCreate_started hFits hSome
    with ⟨_, created, hCreate, rfl, hStarted⟩
  constructor
  · intro hReturns
    have hUse := hReturns.post hCreate
    by_contra hMany
    exact not_returns_use_fresh
      (fresh_constructed hStarted) (by omega) _ hUse
  · intro hFew
    apply returns_of_exec hCreate
    apply (returns_use_fresh
      (fresh_constructed hStarted) hFew).mono
    rintro _ t ⟨hThread, hLog⟩
    exact joinedOnce_of_log hThread hLog

/-
  A thread that was created is joined once, and where none
  was created none is joined, exactly if there is at most one
  `Wait` in the first case and the second is reported, and
  the creation does not run into a context that could not be
  allocated.
-/
theorem lifetime_joinedOnce_iff
    (build : Build)
    (answers : Answers)
    (addresses : Addresses)
    (callback userContext n : Nat) :
    Returns
        (lifetime build answers addresses callback
          userContext n) blank JoinedOnce ↔
      ContextFits build answers ∧
        (¬ CreatesNone build answers → n ≤ 1) ∧
        (CreatesNone build answers →
          reportedErrno answers ≠ statusSuccess) := by
  by_cases hFits : ContextFits build answers
  · by_cases hNone : CreatesNone build answers
    · rw [joinedOnce_noThread_iff hFits hNone]
      simp only [hFits, hNone, true_and, not_true,
        false_implies, true_implies]
    · rw [joinedOnce_thread_iff hFits hNone]
      simp only [hFits, hNone, true_and, not_false_eq_true,
        false_implies, true_implies, and_true]
  · rw [returns_lifetime_iff]
    constructor
    · intro hReturns
      exact absurd hReturns
        (PosixThread.not_returns_threadCreate_null hFits _)
    · intro hHolds
      exact absurd hHolds.1 hFits

/- Every call of the creation succeeds. -/
def succeeding : Answers :=
  { PosixThread.refused with create := 0, createAgain := 0 }

def someAddresses : Addresses where
  threadCallback := 1000
  asyncContext := 2000

/- The second of two `Wait` calls joins the thread again. -/
theorem secondWait_aborts :
    exec
        (lifetime PosixThread.plainBuild succeeding
          someAddresses 3000 0 2) blank =
      .error .abort ∧
    ¬ Returns
        (lifetime PosixThread.plainBuild succeeding
          someAddresses 3000 0 2) blank JoinedOnce ∧
    Returns
        (construct PosixThread.plainBuild succeeding
          someAddresses 3000 0) blank
        (fun status s =>
          status = statusSuccess ∧ s.thread = some 0) := by
  have hAbort :
      exec
          (lifetime PosixThread.plainBuild succeeding
            someAddresses 3000 0 2) blank =
        .error .abort := rfl
  refine ⟨hAbort, ?_, ?_⟩
  · rintro ⟨_, _, hExec, _⟩
    rw [hAbort] at hExec
    contradiction
  · exact ⟨_, _, rfl, rfl, rfl⟩

end Async

end CxPlat
