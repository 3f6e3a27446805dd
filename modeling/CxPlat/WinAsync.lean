import CxPlat.Posix.Async
import CxPlat.WinKernel.Thread
import CxPlat.WinUser.Thread

/-
  `CxPlatAsyncT` from `cxplat.hpp` on Windows, together with
  the thread it creates.

  The new thread reads the callback and its context out of
  the object, so the object has to be there until it has.
  Its owner may call `Wait` and `WaitFor` any number of times
  before it destroys the object, and the two threads run in
  any order.  The destructor waits for the thread if the
  constructor has been told that there is one.

  Key definitions include:
    * `Outcome`, `State`
    * `ownerStep`, `workerStep`, `step`
    * `Sound`

  Key theorems include:
    * `inv_step`
    * `sound_iff`
    * `kernel_async_sound_iff`
    * `user_async_sound`
-/

------------------------------------------------------------
-- The Object and the Thread
------------------------------------------------------------

namespace CxPlat

namespace WinAsync

open Async (Context Addresses threadConfig)

/- Whether `CxPlatThreadCreate` started a thread, and what
   it returned. -/
structure Outcome where
  started : Bool
  status : BitVec 32
deriving DecidableEq, Repr

/-
  How far the new thread is in `ThreadCallback`.  It is wild
  once it has read an object that is not there.
-/
inductive Worker where
  | unborn
  | started
  | loaded (callback : Nat)
  | running (callback userContext : Nat)
  | ended
  | wild
deriving DecidableEq, Repr

/- The next statement of the owner. -/
inductive Pc where
  | storeContext
  | create
  | storeInitialized
  | ready
  | waitTest
  | waitThread
  | waitStore
  | waitForTest
  | waitForThread
  | waitForStore (satisfied : Bool)
  | destructTest
  | destructCompleted
  | destructWait
  | destructDelete
  | gone
deriving DecidableEq, Repr

/- A call to make, the next statement, or a time-out. -/
inductive Choice where
  | wait
  | waitFor
  | destruct
  | next
  | expire
deriving DecidableEq, Repr

inductive Action where
  | owner (choice : Choice)
  | worker
deriving DecidableEq, Repr

/-
  The fields of the object and the two threads.  `closed`
  counts how often the thread has been closed or its
  reference dropped, and `results` holds what calls of
  `WaitFor` have returned.
-/
structure State where
  asyncContext : Option Context
  threadCompleted : Bool
  initialized : Bool
  pc : Pc
  worker : Worker
  closed : Nat
  results : List Bool
deriving DecidableEq, Repr

def begin : State where
  asyncContext := none
  threadCompleted := false
  initialized := false
  pc := .storeContext
  worker := .unborn
  closed := 0
  results := []

/- No thread, or one that has returned from its callback. -/
def Worker.resting : Worker → Bool
  | .unborn | .ended => true
  | _ => false

/-
  The statements of the owner.  A wait comes back when the
  thread has ended; on a handle that is no thread it fails
  at once, and a time-out fails as well.
-/
def ownerStep
    (outcome : Outcome)
    (context : Context)
    (s : State) : Pc → Choice → Option State
  | .storeContext, .next =>
      some { s with asyncContext := some context, pc := .create }
  | .create, .next =>
      some { s with
        worker := if outcome.started then .started else .unborn
        pc := .storeInitialized }
  | .storeInitialized, .next =>
      some { s with
        initialized := outcome.status = 0
        pc := .ready }
  | .ready, .wait => some { s with pc := .waitTest }
  | .ready, .waitFor => some { s with pc := .waitForTest }
  | .ready, .destruct => some { s with pc := .destructTest }
  | .waitTest, .next =>
      some { s with
        pc := if s.initialized then .waitThread else .ready }
  | .waitThread, .next =>
      if s.worker.resting then
        some { s with pc := .waitStore }
      else
        none
  | .waitStore, .next =>
      some { s with threadCompleted := true, pc := .ready }
  | .waitForTest, .next =>
      if s.initialized then
        some { s with pc := .waitForThread }
      else
        some { s with
          results := s.results ++ [false]
          pc := .ready }
  | .waitForThread, .next =>
      if s.worker = .ended then
        some { s with pc := .waitForStore true }
      else
        none
  | .waitForThread, .expire =>
      if s.worker = .ended then
        none
      else
        some { s with pc := .waitForStore false }
  | .waitForStore satisfied, .next =>
      some { s with
        threadCompleted := satisfied
        results := s.results ++ [satisfied]
        pc := .ready }
  | .destructTest, .next =>
      some { s with
        pc := if s.initialized then .destructCompleted
          else .gone }
  | .destructCompleted, .next =>
      some { s with
        pc := if s.threadCompleted then .destructDelete
          else .destructWait }
  | .destructWait, .next =>
      if s.worker.resting then
        some { s with pc := .destructDelete }
      else
        none
  | .destructDelete, .next =>
      some { s with closed := s.closed + 1, pc := .gone }
  | _, _ => none

/- A load from `AsyncContext`. -/
def loadContext
    (s : State)
    (use : Context → Worker) : State :=
  match s.asyncContext with
  | some context =>
      if s.pc = .gone then
        { s with worker := .wild }
      else
        { s with worker := use context }
  | none => { s with worker := .wild }

/- `ThreadCallback`: two loads, the call and the return. -/
def workerStep
    (s : State) : Option State :=
  match s.worker with
  | .started =>
      some (loadContext s
        (fun context => .loaded context.userCallback))
  | .loaded callback =>
      some (loadContext s
        (fun context =>
          .running callback context.userContext))
  | .running _ _ => some { s with worker := .ended }
  | .unborn | .ended | .wild => none

def step
    (outcome : Outcome)
    (context : Context)
    (s : State) : Action → Option State
  | .owner choice => ownerStep outcome context s s.pc choice
  | .worker => workerStep s

def Reaches
    (outcome : Outcome)
    (context : Context)
    (actions : List Action)
    (s : State) : Prop :=
  Transition.run (step outcome context) begin actions = some s

/- What the callback of a thread was called with. -/
def Worker.Right
    (context : Context) : Worker → Prop
  | .loaded callback => callback = context.userCallback
  | .running callback userContext =>
      callback = context.userCallback ∧
        userContext = context.userContext
  | .wild => False
  | _ => True

/-
  The thread reads what the constructor was given, it is done
  with the object when the object goes, a `WaitFor` that
  returns true is right, and the thread is closed once if
  there is one to close.
-/
structure Sound
    (context : Context)
    (s : State) : Prop where
  reads : s.worker.Right context
  finished : s.pc = .gone → s.worker.resting = true
  truthful : true ∈ s.results → s.worker = .ended
  closed :
    s.closed =
      if s.pc = .gone ∧ s.worker ≠ .unborn then 1 else 0

end WinAsync

end CxPlat

------------------------------------------------------------
-- The Invariant
------------------------------------------------------------

namespace CxPlat

namespace WinAsync

open Async (Context Addresses threadConfig)

variable {outcome : Outcome} {context : Context}
variable {s t : State} {actions : List Action}

/- Before the thread can have been created. -/
def Pc.before : Pc → Bool
  | .storeContext | .create => true
  | _ => false

/- The constructor has returned. -/
def Pc.constructed : Pc → Bool
  | .storeContext | .create | .storeInitialized => false
  | _ => true

/- Only reached if the object has a thread. -/
def Pc.threaded : Pc → Bool
  | .waitThread | .waitStore => true
  | .waitForThread | .waitForStore _ => true
  | .destructCompleted | .destructWait => true
  | .destructDelete => true
  | _ => false

/- Only reached once there is no thread at work. -/
def Pc.afterWait : Pc → Bool
  | .waitStore | .destructDelete | .gone => true
  | _ => false

/- The status tells the constructor whether there is one. -/
def Outcome.Honest
    (outcome : Outcome) : Prop :=
  outcome.started = true ↔ outcome.status = 0

structure Inv
    (outcome : Outcome)
    (context : Context)
    (s : State) : Prop where
  stored :
    s.pc ≠ .storeContext → s.asyncContext = some context
  unborn : s.pc.before = true → s.worker = .unborn
  born :
    s.pc.before = false →
      (s.worker ≠ .unborn ↔ outcome.started = true)
  reads : s.worker.Right context
  initialized :
    s.pc.constructed = true →
      (s.initialized = true ↔ outcome.started = true)
  threaded : s.pc.threaded = true → s.initialized = true
  resting :
    s.pc.afterWait = true → s.worker.resting = true
  satisfied : s.pc = .waitForStore true → s.worker = .ended
  early :
    s.pc.constructed = false → s.threadCompleted = false
  completed :
    s.threadCompleted = true → s.worker.resting = true
  truthful : true ∈ s.results → s.worker = .ended
  closed :
    s.closed =
      if s.pc = .gone then s.initialized.toNat else 0

theorem inv_begin :
    Inv outcome context begin := by
  constructor <;> simp [begin, Pc.before, Pc.constructed,
    Pc.threaded, Pc.afterWait, Worker.Right]

/- A thread that can go on is neither unborn nor ended. -/
theorem working_of_workerStep
    (hStep : workerStep s = some t) :
    s.worker.resting = false := by
  unfold workerStep at hStep
  split at hStep <;> simp_all [Worker.resting]

/- While the thread works, the object is there. -/
theorem Inv.loadContext_eq
    (hInv : Inv outcome context s)
    (hWorking : s.worker.resting = false)
    (use : Context → Worker) :
    loadContext s use = { s with worker := use context } := by
  have hThere : s.pc ≠ .gone := by
    intro hGone
    have hResting := hInv.resting (by rw [hGone]; rfl)
    rw [hWorking] at hResting
    cases hResting
  have hBorn : s.pc ≠ .storeContext := by
    intro hFirst
    have hUnborn := hInv.unborn (by rw [hFirst]; rfl)
    rw [hUnborn] at hWorking
    cases hWorking
  unfold loadContext
  rw [hInv.stored hBorn]
  simp only
  rw [if_neg hThere]

/- The thread goes on, from a state in which it works. -/
theorem Inv.worker
    {worker : Worker}
    (hInv : Inv outcome context s)
    (hWorking : s.worker.resting = false)
    (hRight : worker.Right context)
    (hBorn : worker ≠ .unborn) :
    Inv outcome context { s with worker := worker } := by
  have hNotUnborn : s.worker ≠ .unborn := by
    intro hUnborn
    rw [hUnborn] at hWorking
    cases hWorking
  have hNotEnded : s.worker ≠ .ended := by
    intro hEnded
    rw [hEnded] at hWorking
    cases hWorking
  have hNot : ¬ s.worker.resting = true := by simp [hWorking]
  constructor
  · exact hInv.stored
  · intro hBefore
    exact absurd (hInv.unborn hBefore) hNotUnborn
  · intro hBefore
    rw [← hInv.born hBefore]
    exact iff_of_true hBorn hNotUnborn
  · exact hRight
  · exact hInv.initialized
  · exact hInv.threaded
  · intro hAfter
    exact absurd (hInv.resting hAfter) hNot
  · intro hSatisfied
    exact absurd (hInv.satisfied hSatisfied) hNotEnded
  · exact hInv.early
  · intro hCompleted
    exact absurd (hInv.completed hCompleted) hNot
  · intro hTrue
    exact absurd (hInv.truthful hTrue) hNotEnded
  · exact hInv.closed

theorem inv_workerStep
    (hInv : Inv outcome context s)
    (hStep : workerStep s = some t) :
    Inv outcome context t := by
  have hWorking := working_of_workerStep hStep
  have hReads := hInv.reads
  unfold workerStep at hStep
  split at hStep
  · rw [hInv.loadContext_eq hWorking] at hStep
    cases hStep
    exact hInv.worker hWorking rfl (by simp)
  next hWorker =>
    rw [hInv.loadContext_eq hWorking] at hStep
    cases hStep
    rw [hWorker] at hReads
    exact hInv.worker hWorking ⟨hReads, rfl⟩ (by simp)
  · cases hStep
    exact hInv.worker hWorking trivial (by simp)
  · cases hStep
  · cases hStep
  · cases hStep

/- The constructor creates the thread, or does not. -/
theorem Inv.create
    (hInv : Inv outcome context s)
    (hPc : s.pc = .create) :
    Inv outcome context
      { s with
        worker :=
          if outcome.started then .started else .unborn
        pc := .storeInitialized } := by
  have hUnborn := hInv.unborn (by rw [hPc]; rfl)
  have hStored := hInv.stored (by simp [hPc])
  have hEarly := hInv.early (by rw [hPc]; rfl)
  have hClosed := hInv.closed
  have hTruthful : true ∉ s.results := by
    intro hTrue
    have hEnded := hInv.truthful hTrue
    rw [hUnborn] at hEnded
    cases hEnded
  rw [hPc] at hClosed
  cases hStarted : outcome.started <;>
    constructor <;>
      simp_all [Pc.before, Pc.constructed, Pc.threaded,
        Pc.afterWait, Worker.Right]

/- The constructor stores its arguments first. -/
theorem Inv.storeContext
    (hInv : Inv outcome context s)
    (hPc : s.pc = .storeContext) :
    Inv outcome context
      { s with
        asyncContext := some context
        pc := .create } := by
  have hUnborn := hInv.unborn (by rw [hPc]; rfl)
  have hEarly := hInv.early (by rw [hPc]; rfl)
  have hClosed := hInv.closed
  rw [hPc] at hClosed
  constructor
  · exact fun _ => rfl
  · exact fun _ => hUnborn
  · intro hBefore
    cases hBefore
  · exact hInv.reads
  · intro hConstructed
    cases hConstructed
  · intro hThreaded
    cases hThreaded
  · intro hAfter
    cases hAfter
  · intro hSatisfied
    cases hSatisfied
  · exact fun _ => hEarly
  · exact hInv.completed
  · exact hInv.truthful
  · exact hClosed

/- It stores `Initialized` last, as the status tells it. -/
theorem Inv.storeInitialized
    (hHonest : outcome.Honest)
    (hInv : Inv outcome context s)
    (hPc : s.pc = .storeInitialized) :
    Inv outcome context
      { s with
        initialized := outcome.status = 0
        pc := .ready } := by
  have hClosed := hInv.closed
  rw [hPc] at hClosed
  constructor
  · exact fun _ => hInv.stored (by simp [hPc])
  · intro hBefore
    cases hBefore
  · exact fun _ => hInv.born (by rw [hPc]; rfl)
  · exact hInv.reads
  · intro _
    rw [Outcome.Honest] at hHonest
    simp [hHonest]
  · intro hThreaded
    cases hThreaded
  · intro hAfter
    cases hAfter
  · intro hSatisfied
    cases hSatisfied
  · intro hConstructed
    cases hConstructed
  · exact hInv.completed
  · exact hInv.truthful
  · exact hClosed

/- Constructed, and not destroyed yet. -/
def Pc.inUse
    (pc : Pc) : Bool :=
  pc.constructed && pc != .gone

theorem Pc.inUse_iff
    (pc : Pc) :
    pc.inUse = true ↔ pc.constructed = true ∧ pc ≠ .gone := by
  simp [Pc.inUse]

theorem Pc.constructed_born
    {pc : Pc}
    (hConstructed : pc.constructed = true) :
    pc ≠ .storeContext ∧ pc.before = false := by
  cases pc <;> first | contradiction | exact ⟨by simp, rfl⟩

/-
  In use, the owner needs to know what the next statement
  relies on, and whether the thread is through where it
  stores that.
-/
theorem Inv.owner_stores
    (hInv : Inv outcome context s)
    (pc : Pc)
    {completed : Bool}
    {results : List Bool}
    (hWas : s.pc.inUse = true)
    (hNow : pc.inUse = true)
    (hThreaded : pc.threaded = true → s.initialized = true)
    (hResting :
      pc.afterWait = true → s.worker.resting = true)
    (hSatisfied :
      pc = .waitForStore true → s.worker = .ended)
    (hCompleted :
      completed = true → s.worker.resting = true)
    (hTruthful : true ∈ results → s.worker = .ended) :
    Inv outcome context
      { s with
        threadCompleted := completed
        results := results
        pc := pc } := by
  rw [Pc.inUse_iff] at hWas hNow
  rcases Pc.constructed_born hWas.1 with ⟨hFirst, hBorn⟩
  rcases Pc.constructed_born hNow.1 with ⟨_, hLater⟩
  have hClosed := hInv.closed
  rw [if_neg hWas.2] at hClosed
  constructor
  · exact fun _ => hInv.stored hFirst
  · intro hBefore
    exact absurd (hBefore.symm.trans hLater) (by simp)
  · exact fun _ => hInv.born hBorn
  · exact hInv.reads
  · exact fun _ => hInv.initialized hWas.1
  · exact hThreaded
  · exact hResting
  · exact hSatisfied
  · intro hNot
    exact absurd (hNow.1.symm.trans hNot) (by simp)
  · exact hCompleted
  · exact hTruthful
  · rw [hClosed, if_neg hNow.2]

/- It may also only go on. -/
theorem Inv.owner_goesOn
    (hInv : Inv outcome context s)
    (pc : Pc)
    (hWas : s.pc.inUse = true)
    (hNow : pc.inUse = true)
    (hThreaded : pc.threaded = true → s.initialized = true)
    (hResting :
      pc.afterWait = true → s.worker.resting = true)
    (hSatisfied :
      pc = .waitForStore true → s.worker = .ended) :
    Inv outcome context { s with pc := pc } :=
  hInv.owner_stores pc hWas hNow hThreaded hResting
    hSatisfied hInv.completed hInv.truthful

/- The end of the destructor, with the thread closed. -/
theorem Inv.owner_destroys
    {closed : Nat}
    (hInv : Inv outcome context s)
    (hWas : s.pc.inUse = true)
    (hResting : s.worker.resting = true)
    (hClosed : closed = s.initialized.toNat) :
    Inv outcome context
      { s with closed := closed, pc := .gone } := by
  rw [Pc.inUse_iff] at hWas
  rcases Pc.constructed_born hWas.1 with ⟨hFirst, hBorn⟩
  constructor
  · exact fun _ => hInv.stored hFirst
  · intro hBefore
    cases hBefore
  · exact fun _ => hInv.born hBorn
  · exact hInv.reads
  · exact fun _ => hInv.initialized hWas.1
  · intro hThreaded
    cases hThreaded
  · exact fun _ => hResting
  · intro hSatisfied
    cases hSatisfied
  · intro hNot
    cases hNot
  · exact hInv.completed
  · exact hInv.truthful
  · rw [hClosed, if_pos rfl]

/- Without a thread there is nothing that could be at work. -/
theorem Inv.resting_of_uninitialized
    (hInv : Inv outcome context s)
    (hConstructed : s.pc.constructed = true)
    (hNot : s.initialized = false) :
    s.worker.resting = true := by
  have hInitialized := hInv.initialized hConstructed
  rw [← hInv.born (Pc.constructed_born hConstructed).2,
    hNot] at hInitialized
  have hUnborn : s.worker = .unborn := by
    by_contra hBorn
    cases hInitialized.mpr hBorn
  rw [hUnborn]
  rfl

/- The statements of `Wait`. -/
theorem inv_wait
    {choice : Choice}
    (hInv : Inv outcome context s)
    (hPc :
      s.pc = .waitTest ∨ s.pc = .waitThread ∨
        s.pc = .waitStore)
    (hStep :
      ownerStep outcome context s s.pc choice = some t) :
    Inv outcome context t := by
  have hUse : s.pc.inUse = true := by
    rcases hPc with hPc | hPc | hPc <;> rw [hPc] <;> rfl
  rcases hPc with hPc | hPc | hPc
  · cases choice <;> simp [ownerStep, hPc] at hStep
    subst hStep
    by_cases hInit : s.initialized = true
    · rw [if_pos hInit]
      exact hInv.owner_goesOn .waitThread hUse rfl
        (fun _ => hInit) (by simp [Pc.afterWait]) (by simp)
    · rw [if_neg hInit]
      exact hInv.owner_goesOn .ready hUse rfl
        (by simp [Pc.threaded]) (by simp [Pc.afterWait])
        (by simp)
  · cases choice <;> simp [ownerStep, hPc] at hStep
    rcases hStep with ⟨hResting, rfl⟩
    exact hInv.owner_goesOn .waitStore hUse rfl
      (fun _ => hInv.threaded (by rw [hPc]; rfl))
      (fun _ => hResting) (by simp)
  · cases choice <;> simp [ownerStep, hPc] at hStep
    subst hStep
    exact hInv.owner_stores .ready hUse rfl
      (by simp [Pc.threaded]) (by simp [Pc.afterWait])
      (by simp)
      (fun _ => hInv.resting (by rw [hPc]; rfl))
      hInv.truthful

/- The start of `WaitFor`, and the wait itself. -/
theorem inv_waitFor
    {choice : Choice}
    (hInv : Inv outcome context s)
    (hPc : s.pc = .waitForTest ∨ s.pc = .waitForThread)
    (hStep :
      ownerStep outcome context s s.pc choice = some t) :
    Inv outcome context t := by
  have hUse : s.pc.inUse = true := by
    rcases hPc with hPc | hPc <;> rw [hPc] <;> rfl
  rcases hPc with hPc | hPc
  · cases choice <;> simp [ownerStep, hPc] at hStep
    by_cases hInit : s.initialized = true
    · rw [if_pos hInit] at hStep
      cases hStep
      exact hInv.owner_goesOn .waitForThread hUse rfl
        (fun _ => hInit) (by simp [Pc.afterWait]) (by simp)
    · rw [if_neg hInit] at hStep
      cases hStep
      exact hInv.owner_stores .ready hUse rfl
        (by simp [Pc.threaded]) (by simp [Pc.afterWait])
        (by simp) hInv.completed
        (by simpa using hInv.truthful)
  · have hThread := hInv.threaded (by rw [hPc]; rfl)
    cases choice <;> simp [ownerStep, hPc] at hStep
    · rcases hStep with ⟨hEnded, rfl⟩
      exact hInv.owner_goesOn (.waitForStore true) hUse rfl
        (fun _ => hThread) (by simp [Pc.afterWait])
        (fun _ => hEnded)
    · rcases hStep with ⟨_, rfl⟩
      exact hInv.owner_goesOn (.waitForStore false) hUse rfl
        (fun _ => hThread) (by simp [Pc.afterWait])
        (by simp)

/- What `WaitFor` stores and returns. -/
theorem inv_waitForStore
    {choice : Choice}
    {satisfied : Bool}
    (hInv : Inv outcome context s)
    (hPc : s.pc = .waitForStore satisfied)
    (hStep :
      ownerStep outcome context s s.pc choice = some t) :
    Inv outcome context t := by
  have hEnded : satisfied = true → s.worker = .ended := by
    rintro rfl
    exact hInv.satisfied hPc
  cases choice <;> simp [ownerStep, hPc] at hStep
  subst hStep
  apply hInv.owner_stores .ready (by rw [hPc]; rfl) rfl
    (by simp [Pc.threaded]) (by simp [Pc.afterWait])
    (by simp)
  · intro hTrue
    rw [hEnded hTrue]
    rfl
  · intro hTrue
    rcases List.mem_append.mp hTrue with hOld | hNew
    · exact hInv.truthful hOld
    · exact hEnded (List.mem_singleton.mp hNew).symm

/- The statements of the destructor. -/
theorem inv_destruct
    {choice : Choice}
    (hInv : Inv outcome context s)
    (hPc :
      s.pc = .destructTest ∨ s.pc = .destructCompleted ∨
        s.pc = .destructWait ∨ s.pc = .destructDelete)
    (hStep :
      ownerStep outcome context s s.pc choice = some t) :
    Inv outcome context t := by
  have hUse : s.pc.inUse = true := by
    rcases hPc with hPc | hPc | hPc | hPc <;> rw [hPc] <;> rfl
  have hConstructed := ((Pc.inUse_iff _).mp hUse).1
  have hClosed := hInv.closed
  rw [if_neg ((Pc.inUse_iff _).mp hUse).2] at hClosed
  rcases hPc with hPc | hPc | hPc | hPc
  · cases choice <;> simp [ownerStep, hPc] at hStep
    subst hStep
    by_cases hInit : s.initialized = true
    · rw [if_pos hInit]
      exact hInv.owner_goesOn .destructCompleted hUse rfl
        (fun _ => hInit) (by simp [Pc.afterWait]) (by simp)
    · rw [if_neg hInit]
      rw [Bool.not_eq_true] at hInit
      exact hInv.owner_destroys hUse
        (hInv.resting_of_uninitialized hConstructed hInit)
        (show s.closed = _ by rw [hClosed, hInit]; rfl)
  · have hThread := hInv.threaded (by rw [hPc]; rfl)
    cases choice <;> simp [ownerStep, hPc] at hStep
    subst hStep
    by_cases hDone : s.threadCompleted = true
    · rw [if_pos hDone]
      exact hInv.owner_goesOn .destructDelete hUse rfl
        (fun _ => hThread) (fun _ => hInv.completed hDone)
        (by simp)
    · rw [if_neg hDone]
      exact hInv.owner_goesOn .destructWait hUse rfl
        (fun _ => hThread) (by simp [Pc.afterWait]) (by simp)
  · cases choice <;> simp [ownerStep, hPc] at hStep
    rcases hStep with ⟨hResting, rfl⟩
    exact hInv.owner_goesOn .destructDelete hUse rfl
      (fun _ => hInv.threaded (by rw [hPc]; rfl))
      (fun _ => hResting) (by simp)
  · have hThread := hInv.threaded (by rw [hPc]; rfl)
    cases choice <;> simp [ownerStep, hPc] at hStep
    subst hStep
    exact hInv.owner_destroys hUse
      (hInv.resting (by rw [hPc]; rfl))
      (by rw [hClosed, hThread]; rfl)

/- The statements of the owner, function by function. -/
theorem inv_ownerStep
    {choice : Choice}
    (hHonest : outcome.Honest)
    (hInv : Inv outcome context s)
    (hStep :
      ownerStep outcome context s s.pc choice = some t) :
    Inv outcome context t := by
  cases hPc : s.pc with
  | storeContext =>
      cases choice <;> simp [ownerStep, hPc] at hStep
      subst hStep
      exact hInv.storeContext hPc
  | create =>
      cases choice <;> simp [ownerStep, hPc] at hStep
      subst hStep
      exact hInv.create hPc
  | storeInitialized =>
      cases choice <;> simp [ownerStep, hPc] at hStep
      subst hStep
      exact hInv.storeInitialized hHonest hPc
  | ready =>
      have hUse : s.pc.inUse = true := by rw [hPc]; rfl
      cases choice <;> simp [ownerStep, hPc] at hStep
      all_goals
        subst hStep
        exact hInv.owner_goesOn _ hUse rfl
          (by simp [Pc.threaded]) (by simp [Pc.afterWait])
          (by simp)
  | waitTest => exact inv_wait hInv (by simp [hPc]) hStep
  | waitThread => exact inv_wait hInv (by simp [hPc]) hStep
  | waitStore => exact inv_wait hInv (by simp [hPc]) hStep
  | waitForTest =>
      exact inv_waitFor hInv (by simp [hPc]) hStep
  | waitForThread =>
      exact inv_waitFor hInv (by simp [hPc]) hStep
  | waitForStore satisfied =>
      exact inv_waitForStore hInv hPc hStep
  | destructTest =>
      exact inv_destruct hInv (by simp [hPc]) hStep
  | destructCompleted =>
      exact inv_destruct hInv (by simp [hPc]) hStep
  | destructWait =>
      exact inv_destruct hInv (by simp [hPc]) hStep
  | destructDelete =>
      exact inv_destruct hInv (by simp [hPc]) hStep
  | gone => cases choice <;> simp [ownerStep, hPc] at hStep

theorem inv_step
    (hHonest : outcome.Honest)
    (s : State)
    (action : Action)
    (t : State)
    (hInv : Inv outcome context s)
    (hStep : step outcome context s action = some t) :
    Inv outcome context t := by
  cases action with
  | owner choice => exact inv_ownerStep hHonest hInv hStep
  | worker => exact inv_workerStep hInv hStep

theorem Inv.sound
    (hInv : Inv outcome context s) :
    Sound context s := by
  constructor
  · exact hInv.reads
  · intro hGone
    exact hInv.resting (by rw [hGone]; rfl)
  · exact hInv.truthful
  · rw [hInv.closed]
    by_cases hGone : s.pc = .gone
    · have hInitialized := hInv.initialized (by rw [hGone]; rfl)
      rw [← hInv.born (by rw [hGone]; rfl)] at hInitialized
      by_cases hUnborn : s.worker = .unborn
      · have hNot : s.initialized = false := by
          simpa [hUnborn] using hInitialized
        simp [hGone, hUnborn, hNot]
      · simp [hGone, hUnborn, hInitialized.mpr hUnborn]
    · simp [hGone]

end WinAsync

end CxPlat

------------------------------------------------------------
-- When the Object Is Sound
------------------------------------------------------------

namespace CxPlat

namespace WinAsync

open Async (Context Addresses threadConfig)

variable {outcome : Outcome} {context : Context}

/- The object is constructed and destroyed at once. -/
def atOnce : List Action :=
  [.owner .next, .owner .next, .owner .next,
    .owner .destruct, .owner .next]

/- It is destroyed with a thread that has already ended. -/
def afterwards : List Action :=
  [.owner .next, .owner .next, .owner .next,
    .owner .destruct, .owner .next, .owner .next,
    .owner .next, .owner .next]

/- A thread that the constructor does not know of. -/
theorem not_sound_of_hidden
    (context : Context)
    (hStarted : outcome.started = true)
    (hStatus : outcome.status ≠ 0) :
    ∃ actions s,
      Reaches outcome context actions s ∧
        ¬ Sound context s := by
  refine ⟨atOnce,
    { begin with
      asyncContext := some context
      pc := .gone
      worker := .started }, ?_, ?_⟩
  · simpa [Reaches, atOnce, Transition.run, step, ownerStep,
      begin, hStarted] using hStatus
  · intro hSound
    cases hSound.finished rfl

/- A thread that it believes in, and that there is not. -/
theorem not_sound_of_missing
    (context : Context)
    (hStarted : outcome.started = false)
    (hStatus : outcome.status = 0) :
    ∃ actions s,
      Reaches outcome context actions s ∧
        ¬ Sound context s := by
  refine ⟨afterwards,
    { begin with
      asyncContext := some context
      initialized := true
      pc := .gone
      closed := 1 }, ?_, ?_⟩
  · simp [Reaches, afterwards, Transition.run, step,
      ownerStep, begin, hStarted, hStatus, Worker.resting]
  · intro hSound
    cases hSound.closed

/-
  The object is safe in every interleaving exactly if the
  status of the creation says whether a thread runs.
-/
theorem sound_iff :
    (∀ actions s,
      Reaches outcome context actions s → Sound context s) ↔
      outcome.Honest := by
  constructor
  · intro hAll
    constructor
    · intro hStarted
      by_contra hStatus
      rcases not_sound_of_hidden context
        hStarted hStatus with ⟨actions, s, hReach, hNot⟩
      exact hNot (hAll actions s hReach)
    · intro hStatus
      by_contra hStarted
      rcases not_sound_of_missing context
        (by simpa using hStarted) hStatus with
        ⟨actions, s, hReach, hNot⟩
      exact hNot (hAll actions s hReach)
  · intro hHonest actions s hReach
    exact (Transition.invariant_run (inv_step hHonest)
      inv_begin hReach).sound

end WinAsync

end CxPlat

------------------------------------------------------------
-- In the Kernel
------------------------------------------------------------

namespace CxPlat

namespace KernelThread

open Comp

variable {answers : Answers} {config : ThreadConfig}
variable {s : State} {status : Status}

/- With a name to set, the only success is zero. -/
theorem returns_setPriority_named
    (hHandle : s.handle = .opened)
    (hThread : s.thread = .object)
    (hName : config.name.isSome = true) :
    Returns (setPriority answers config status) s
      (fun status' _ => status' = statusSuccess) := by
  have hSetName : ∀ t : State, t.handle = .opened →
      Returns (setName answers config status) t
        (fun status' _ => status' = statusSuccess) := by
    intro t hOpened
    unfold setName
    rw [if_pos hName]
    apply (returns_setInformationThread hOpened _ _).bind
    intro _ u _
    rw [returns_pure]
  unfold setPriority
  split
  · apply (returns_setBasePriorityThread hThread).bind
    intro _ t hSame
    exact hSetName t (hSame.handle.trans hHandle)
  · exact hSetName s hHandle

theorem returns_setUp_named
    (hHandle : s.handle = .opened)
    (hThread : s.thread = .object)
    (hName : config.name.isSome = true) :
    Returns (setUp answers config) s
      (fun status _ =>
        failed status = false → status = statusSuccess) := by
  have hLast : ∀ (status : Status) (t : State),
      SameBut s t →
      Returns (setPriority answers config status) t
        (fun status' _ =>
          failed status' = false →
            status' = statusSuccess) := by
    intro status t hSame
    apply (returns_setPriority_named
      (hSame.handle.trans hHandle)
      (hSame.thread.trans hThread) hName).mono
    intro status' _ hStatus _
    exact hStatus
  unfold setUp
  split
  · exact hLast _ s (SameBut.refl s)
  · apply (returns_setProcessors hHandle).bind
    rintro status t ⟨_, hSame⟩
    split
    next hFailed =>
      rw [returns_pure, hFailed]
      intro hSuccess
      cases hSuccess
    next => exact hLast status t hSame

theorem returns_configure_named
    (hHandle : s.handle = .opened)
    (hName : config.name.isSome = true) :
    Returns (configure answers config) s
      (fun status _ =>
        failed status = false → status = statusSuccess) := by
  unfold configure
  split
  next hReference =>
    simp [clearThread, hReference]
  next =>
    rw [returns_bind, returns_modify]
    exact returns_setUp_named hHandle rfl hName

/-
  With a name, the status is zero exactly if there is a
  thread that the caller can manage.
-/
theorem returns_threadCreate_named
    (hName : config.name.isSome = true) :
    Returns (threadCreate answers config) begin
      (fun status s =>
        (s.started ≠ [] ↔
          failed answers.createSystemThread = false) ∧
        (status = statusSuccess ↔
          failed answers.createSystemThread = false ∧
            Manageable answers config)) := by
  unfold threadCreate
  split
  next hCreate =>
    have hStatus :
        answers.createSystemThread ≠ statusSuccess := by
      intro hZero
      rw [hZero] at hCreate
      cases hCreate
    simp [clearThread, hCreate, hStatus, begin]
  next hCreate =>
    rw [returns_bind, returns_modify]
    apply ((returns_configure rfl).and
      (returns_configure_named rfl hName)).bind
    rintro status t
      ⟨⟨hStarted, hHandle, hOutcome⟩, hNamed⟩
    simp only [closeHandle, returns_bind, returns_get,
      hHandle, if_true, returns_set, returns_pure]
    have hCreated :
        failed answers.createSystemThread = false := by
      simpa using hCreate
    rcases manageable_created hCreate hOutcome with
      ⟨_, hStatus⟩
    rw [hStarted, ← hStatus]
    refine ⟨by simp [begin, hCreated], ?_⟩
    constructor
    · intro hZero
      rw [hZero]
      exact ⟨hCreated, rfl⟩
    · rintro ⟨_, hSuccess⟩
      exact hNamed hSuccess

end KernelThread

namespace WinAsync

open Async (Context Addresses threadConfig)

/- What the constructor learns from `CxPlatThreadCreate`. -/
def kernelOutcome
    (answers : KernelThread.Answers)
    (addresses : Addresses) : Option Outcome :=
  match Comp.exec
      (KernelThread.threadCreate answers
        (threadConfig addresses)) KernelThread.begin with
  | .ok (status, s) =>
      some
        { started := s.started ≠ []
          status := status }
  | .error _ => none

/-
  In the kernel the object is safe in every interleaving
  exactly if no call after the creation of the thread fails
  in a way that is reported.
-/
theorem kernel_async_sound_iff
    (answers : KernelThread.Answers)
    (addresses : Addresses)
    (context : Context) :
    ∃ outcome,
      kernelOutcome answers addresses = some outcome ∧
      ((∀ actions s,
        Reaches outcome context actions s →
          Sound context s) ↔
        KernelThread.Manageable answers
          (threadConfig addresses)) := by
  have hReturns :
      Comp.Returns
        (KernelThread.threadCreate answers
          (threadConfig addresses)) KernelThread.begin _ :=
    KernelThread.returns_threadCreate_named rfl
  rcases hReturns with ⟨status, s, hExec, hStarted, hStatus⟩
  refine ⟨_, by rw [kernelOutcome, hExec], ?_⟩
  rw [sound_iff, Outcome.Honest, decide_eq_true_iff]
  simp only
  rw [hStarted]
  change (_ ↔ status = KernelThread.statusSuccess) ↔ _
  rw [hStatus]
  cases hCreate :
    KernelThread.failed answers.createSystemThread with
  | true =>
      -- Without a thread there is nothing to get wrong.
      simp [KernelThread.Manageable, hCreate]
  | false => simp

end WinAsync

end CxPlat

------------------------------------------------------------
-- In User Mode
------------------------------------------------------------

namespace CxPlat

namespace WinUser

open Comp

variable {build : Build} {answers : ThreadAnswers}
variable {config : ThreadConfig}

/- Every thread there is has its handle in `*Thread`. -/
theorem returns_startThread_handled
    {s : State}
    (hInit : Initialized s) :
    Returns (startThread build answers config) (enter s)
      (fun _ c => ¬ c.LiveThread → c.started = []) := by
  cases build with
  | plain =>
      unfold startThread createThread
      simp only [returns_bind, returns_modify, returns_get]
      cases answers.createThread with
      | true => simp [enter, Creation.LiveThread]
      | false => simp [enter]
  | customContext =>
      apply (returns_startThread hInit .customContext).mono
      intro _ c hStarted hNone
      exact ((hStarted.context rfl).creator hNone).1

/-
  With a last error that is one, the status is zero exactly
  if there is a thread.
-/
theorem returns_threadCreate_zero
    {s : State}
    (hInit : Initialized s)
    (hProc : config.idealProcessor.toNat < s.processorCount)
    (hError : answers.lastError ≠ 0) :
    Returns (threadCreate build answers config) (enter s)
      (fun status c => c.started ≠ [] ↔ status = 0) := by
  rcases hInit.tables with ⟨groups, hFilled⟩
  unfold threadCreate
  apply ((returns_startThread hInit build).and
    (returns_startThread_handled hInit)).bind
  rintro result c ⟨hStarted, hHandled⟩
  rw [hStarted.result]
  by_cases hStarts : Starts build answers
  · rw [if_pos hStarts]
    simp only
    have hHere := hFilled.congr hStarted.tables
    have hCount := hStarted.tables.2.2
    apply (returns_configure hHere (by rwa [hCount])).bind
    rintro _ d ⟨_, hSame, _⟩
    rcases hStarted.live.mpr hStarts with ⟨n, _, hLess⟩
    rw [returns_pure, hSame]
    refine iff_of_true ?_ rfl
    exact List.ne_nil_of_length_pos (by omega)
  · rw [if_neg hStarts]
    simp only
    rw [returns_pure]
    have hNone : ¬ c.LiveThread := fun hLive =>
      hStarts (hStarted.live.mp hLive)
    refine iff_of_false (not_not.mpr (hHandled hNone)) ?_
    unfold refusal
    split
    · decide
    · exact hError

end WinUser

namespace WinAsync

open Async (Context Addresses threadConfig)

def userOutcome
    (build : WinUser.Build)
    (answers : WinUser.ThreadAnswers)
    (addresses : Addresses)
    (library : WinUser.State) : Option Outcome :=
  match Comp.exec
      (WinUser.threadCreate build answers
        (threadConfig addresses))
      (WinUser.enter library) with
  | .ok (status, c) =>
      some
        { started := c.started ≠ []
          status := status }
  | .error _ => none

/-
  In user mode the object is safe in every interleaving,
  since its constructor compares the status with zero and
  does not ask whether it is a success.
-/
theorem user_async_sound
    (build : WinUser.Build)
    (answers : WinUser.ThreadAnswers)
    (addresses : Addresses)
    (context : Context)
    {library : WinUser.State}
    (hInit : WinUser.Initialized library)
    (hError : answers.lastError ≠ 0) :
    ∃ outcome,
      userOutcome build answers addresses library =
        some outcome ∧
      ∀ actions s,
        Reaches outcome context actions s →
          Sound context s := by
  have hProc :
      (threadConfig addresses).idealProcessor.toNat <
        library.processorCount := by
    rcases hInit.tables with ⟨groups, hFilled⟩
    rw [hFilled.count]
    exact hFilled.total.1
  have hReturns :
      Comp.Returns
        (WinUser.threadCreate build answers
          (threadConfig addresses))
        (WinUser.enter library) _ :=
    WinUser.returns_threadCreate_zero hInit hProc hError
  rcases hReturns with ⟨status, c, hExec, hHonest⟩
  refine ⟨_, by rw [userOutcome, hExec], ?_⟩
  rw [sound_iff, Outcome.Honest, decide_eq_true_iff]
  exact hHonest

/- `CreateThread` fails, with a code that is no failure. -/
theorem user_async_sound_refused :
    WinUser.Initialized WinUser.gapState ∧
      WinUser.refusedThread.lastError ≠ 0 ∧
      ∃ outcome,
        userOutcome .customContext WinUser.refusedThread
            { threadCallback := 4096, asyncContext := 8192 }
            WinUser.gapState =
          some outcome ∧
        ∀ actions s,
          Reaches outcome
              { userContext := 1, userCallback := 2 }
              actions s →
            Sound { userContext := 1, userCallback := 2 } s :=
  ⟨WinUser.initialized_gapState, by decide,
    user_async_sound _ _ _ _ WinUser.initialized_gapState
      (by decide)⟩

end WinAsync

end CxPlat
