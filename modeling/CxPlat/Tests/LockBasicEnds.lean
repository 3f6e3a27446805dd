import CxPlat.Lib.Progress
import CxPlat.Posix.EventProgress
import CxPlat.Tests.LockBasicWorker

/-
  The last block of `CxPlatTestLockBasic` never gets stuck
  and never fails without a reason.

  From every reachable state some party can take a step that
  brings the end of the block nearer: whoever is inside the
  event, then the thread unless the lock keeps it waiting,
  then the test.  On that way the time is up only in the
  first wait, unless there is no thread to wait for.

  Key definitions include:
    * `rank`
    * `Nearer`

  Key theorems include:
    * `Inv.nearer_of_inside`
    * `Inv.nearer_of_free`
    * `reports_of_noFault`
    * `lockBasic_sound_iff`
-/

------------------------------------------------------------
-- How Much Is Left
------------------------------------------------------------

namespace CxPlat

namespace LockTest

open Posix (Pc Choice)

variable {s t : State}

/- The statements of the test that are left. -/
def TestPc.ahead : TestPc → Nat
  | .acquire => 12
  | .create => 11
  | .call .first => 10
  | .waiting .first => 9
  | .check .first _ => 8
  | .release => 7
  | .call .second => 6
  | .waiting .second => 5
  | .check .second _ => 4
  | .destroyAsync => 3
  | .destroyLock => 2
  | .destroyEvent => 1
  | .done => 0

/- The statements of `Set` that are left. -/
def setAhead : Pc → Nat
  | .setLock => 4
  | .setStore => 3
  | .setBroadcast => 2
  | .setUnlock => 1
  | _ => 0

/- The statements of the thread that are left. -/
def WorkerPc.ahead
    (pc : Pc) : WorkerPc → Nat
  | .enter => 8
  | .acquire => 7
  | .call => 6
  | .setting => 1 + setAhead pc
  | .release => 1
  | .absent | .finished => 0

/-
  The statements of a wait that are left.  A test that is
  asleep has to go through the loop again if the event has
  been signaled, and is as good as through otherwise.
-/
def waitAhead
    (signaled : Bool) : Pc → Nat
  | .waitLock _ => 6
  | .waitTest _ => 5
  | .waitCall _ => 4
  | .waitSleep _ => if signaled then 7 else 3
  | .waitRelock _ expired => if expired then 2 else 6
  | .waitTake _ => 2
  | .waitUnlock _ _ => 1
  | _ => 0

def rank
    (s : State) : Nat :=
  100 * s.test.ahead + 8 * s.worker.ahead (s.pc .worker) +
    waitAhead s.events.shared.signaled (s.pc .test)

/- The store of `Set` sends a sleeping test round again. -/
theorem waitAhead_le
    (signaled signaled' : Bool)
    (pc : Pc) :
    waitAhead signaled' pc ≤ waitAhead signaled pc + 4 := by
  cases pc with
  | waitSleep timed =>
      cases signaled <;> cases signaled' <;>
        simp [waitAhead]
  | _ => exact Nat.le_add_right _ 4

theorem waitAhead_bound
    (signaled : Bool)
    (pc : Pc) :
    waitAhead signaled pc ≤ 7 := by
  cases pc with
  | waitSleep timed => cases signaled <;> simp [waitAhead]
  | waitRelock timed expired =>
      cases expired <;> simp [waitAhead]
  | _ => simp [waitAhead]

theorem workerAhead_bound
    (worker : WorkerPc)
    (pc : Pc) :
    worker.ahead pc ≤ 8 := by
  cases worker with
  | setting => cases pc <;> simp [WorkerPc.ahead, setAhead]
  | _ => simp [WorkerPc.ahead]

/- A statement of the test outweighs all that it causes. -/
theorem rank_lt_of_test
    (hAhead : t.test.ahead < s.test.ahead) :
    rank t < rank s := by
  have hWorker := workerAhead_bound t.worker (t.pc .worker)
  have hWait := waitAhead_bound
    t.events.shared.signaled (t.pc .test)
  unfold rank
  omega

/- So does one of the thread, for the test's wait. -/
theorem rank_lt_of_worker
    (hTest : t.test = s.test)
    (hPc : t.pc .test = s.pc .test)
    (hAhead :
      t.worker.ahead (t.pc .worker) <
        s.worker.ahead (s.pc .worker)) :
    rank t < rank s := by
  have hWait := waitAhead_le s.events.shared.signaled
    t.events.shared.signaled (s.pc .test)
  unfold rank
  rw [hTest, hPc]
  omega

theorem rank_lt_of_wait
    (hTest : t.test = s.test)
    (hWorker : t.worker = s.worker)
    (hPc : t.pc .worker = s.pc .worker)
    (hAhead :
      waitAhead t.events.shared.signaled (t.pc .test) <
        waitAhead s.events.shared.signaled (s.pc .test)) :
    rank t < rank s := by
  unfold rank
  rw [hTest, hWorker, hPc]
  omega

end LockTest

end CxPlat

------------------------------------------------------------
-- Statements of the Event
------------------------------------------------------------

namespace CxPlat

namespace LockTest

open Posix (Pc Choice)

variable {e e' : Posix.Event Party} {party : Party}
  {pc pc' : Pc} {choice : Choice}

/-
  A wait that goes on is nearer to its end, if a sleeping
  test wakes up for the signal or, without one, because the
  time is up.
-/
theorem WaitMove.ahead_lt
    {signaled signaled' : Bool}
    (hMove : WaitMove signaled choice pc signaled' pc')
    (hCalls :
      ∀ timed, pc = .waitCall timed → signaled = false)
    (hChoice : choice = .next ∨ choice = .wake (!signaled))
    (hBusy : pc' ≠ .idle) :
    waitAhead signaled' pc' < waitAhead signaled pc := by
  cases hMove with
  | sleep timed =>
      -- the mutex has been held since the test
      simp [waitAhead, hCalls timed rfl]
  | wake timed expired =>
      have hExpired : expired = !signaled := by
        simpa using hChoice
      subst hExpired
      cases signaled <;> simp [waitAhead]
  | returns => exact absurd rfl hBusy
  | _ => simp [waitAhead]

/- A statement of `Set`, and where the thread is after it. -/
theorem setAhead_lt
    (hStatement :
      Posix.statement e party pc .next = some (e', pc'))
    (hSets :
      pc.phase = .called .set ∨ pc.phase = .done .set true) :
    (if pc' = .idle then WorkerPc.release
      else .setting).ahead pc' <
      WorkerPc.setting.ahead pc := by
  cases pc with
  | setLock =>
      rcases Posix.mutexLock_some hStatement with ⟨_, _, hPc⟩
      subst hPc
      simp [WorkerPc.ahead, setAhead]
  | setStore =>
      cases hStatement
      simp [WorkerPc.ahead, setAhead]
  | setBroadcast =>
      cases hStatement
      simp [WorkerPc.ahead, setAhead]
  | setUnlock =>
      cases hStatement
      simp [WorkerPc.ahead, setAhead]
  | _ => simp [Pc.phase] at hSets

end LockTest

end CxPlat

------------------------------------------------------------
-- Nearer to the End
------------------------------------------------------------

namespace CxPlat

namespace LockTest

open LockPlatforms (Recursive)
open Posix (Pc Choice)

variable {setup : Setup} {refused : Bool} {expiries : Nat}
  {s t : State} {wait : Wait} {choice : Choice}

/-
  Some step brings the end nearer.  The time is up in it only
  the first time or without a thread.
-/
def Nearer
    (setup : Setup)
    (refused : Bool)
    (expiries : Nat)
    (s : State) : Prop :=
  ∃ action t,
    step setup s action = some t ∧ rank t < rank s ∧
      (action.expires = true →
        refused = true ∨ expiries = 0)

theorem Inv.nearer_of_testNext
    (hInv : Inv refused expiries s)
    (hNext : testNext setup s = some t)
    (hRank : rank t < rank s) :
    Nearer setup refused expiries s := by
  refine ⟨.next .test, t, ?_, hRank, ?_⟩
  · simpa [LockTest.step, hInv.fault] using hNext
  · intro hExpires
    cases hExpires

theorem Inv.nearer_of_workerNext
    (hInv : Inv refused expiries s)
    (hNext : workerNext s = some t)
    (hRank : rank t < rank s) :
    Nearer setup refused expiries s := by
  refine ⟨.next .worker, t, ?_, hRank, ?_⟩
  · simpa [LockTest.step, hInv.fault] using hNext
  · intro hExpires
    cases hExpires

theorem onEvent_some
    {party : Party}
    {d : Events}
    {next : Events → State}
    (hStep :
      Threads.step Posix.program s.events (party, choice) =
        some d) :
    onEvent s party choice next = some (next d) := by
  rw [onEvent, hStep]
  rfl

/- A statement of `WaitTimeout`. -/
theorem Inv.wait_nearer
    {r : Posix.Event Party × Pc}
    (hInv : Inv refused expiries s)
    (hTest : s.test = .waiting wait)
    (hChoice :
      choice = .next ∨
        choice = .wake (!s.events.shared.signaled))
    (hStatement :
      Posix.statement s.events.shared .test (s.pc .test)
        choice = some r) :
    ∃ t, waitStatement s wait choice = some t ∧
      rank t < rank s := by
  rcases Posix.step_of_statement hStatement with ⟨d, hStep⟩
  have hAllows := hInv.signal.test
  rw [hTest] at hAllows
  have hCalls :
      ∀ timed, s.pc .test = .waitCall timed →
        s.events.shared.signaled = false := by
    intro timed hPc
    rcases hInv.signal.reached with ⟨moves, hReached⟩
    have hLocal := (Posix.annotated_reaches hReached).2 .test
    refine (hLocal.critical ?_).unsignaled timed hPc
    rw [show (s.events.locals .test).pc = _ from hPc]
    rfl
  have hMove := waitMove_of_statement
    (statement_of_step hStep) hAllows.waits
  refine ⟨_, onEvent_some hStep, ?_⟩
  rcases hMove.lapses with
    ⟨result, hPc, hIdle, _⟩ | ⟨hBusy, _⟩
  · apply rank_lt_of_test
    rw [State.pc, hPc, hIdle, hTest]
    cases wait <;> simp [afterWait, TestPc.ahead]
  · apply rank_lt_of_wait
    · rw [afterWait_busy wait _ hBusy, hTest]
    · rfl
    · exact other_pc hStep (by simp)
    · exact hMove.ahead_lt hCalls hChoice hBusy

/- A statement of `Set`. -/
theorem Inv.nearer_of_setting
    {r : Posix.Event Party × Pc}
    (hInv : Inv refused expiries s)
    (hWorker : s.worker = .setting)
    (hStatement :
      Posix.statement s.events.shared .worker (s.pc .worker)
        .next = some r) :
    Nearer setup refused expiries s := by
  rcases Posix.step_of_statement hStatement with ⟨d, hStep⟩
  have hSets := hInv.signal.worker
  rw [hWorker] at hSets
  have hThere :=
    (hInv.there (by simp [hWorker]) (by simp [hWorker])).2.2
  have hNext :
      workerNext s =
        some { s with
          events := d
          worker :=
            if (d.locals .worker).pc = .idle then .release
            else .setting } := by
    simp [workerNext, hWorker, ifThere, hThere,
      onEvent_some hStep]
  refine hInv.nearer_of_workerNext hNext ?_
  apply rank_lt_of_worker
  · rfl
  · exact other_pc hStep (by simp)
  · rw [hWorker]
    exact setAhead_lt (statement_of_step hStep) hSets

theorem Inv.waiting_of_busy
    (hInv : Inv refused expiries s)
    (hBusy : s.pc .test ≠ .idle) :
    ∃ wait, s.test = .waiting wait := by
  by_contra hNot
  simp only [not_exists] at hNot
  exact hBusy
    (idle_of_phase (idle_of_allows hInv.signal.test hNot))

theorem Inv.setting_of_busy
    (hInv : Inv refused expiries s)
    (hBusy : s.pc .worker ≠ .idle) :
    s.worker = .setting := by
  have hAllows := hInv.signal.worker
  cases hWorker : s.worker with
  | setting => rfl
  | _ =>
      rw [hWorker] at hAllows
      exact absurd (idle_of_phase hAllows) hBusy

/- Whoever is inside the event goes on. -/
theorem Inv.nearer_of_inside
    {party : Party}
    (hInv : Inv refused expiries s)
    (hOwner : s.events.shared.owner = some party) :
    Nearer setup refused expiries s := by
  rcases hInv.signal.reached with ⟨moves, hReached⟩
  have hInside : (s.pc party).inside = true :=
    ((Posix.annotated_reaches hReached).2 party).owns.mpr
      hOwner
  have hBusy : s.pc party ≠ .idle := by
    intro hIdle
    rw [hIdle] at hInside
    cases hInside
  rcases Posix.statement_inside s.events.shared party hInside
    with ⟨r, hStatement⟩
  cases party with
  | test =>
      rcases hInv.waiting_of_busy hBusy with ⟨wait, hTest⟩
      rcases hInv.wait_nearer hTest (Or.inl rfl) hStatement
        with ⟨t, hNext, hRank⟩
      refine hInv.nearer_of_testNext ?_ hRank
      simpa only [testNext, hTest] using hNext
  | worker =>
      exact hInv.nearer_of_setting
        (hInv.setting_of_busy hBusy) hStatement

end LockTest

end CxPlat

------------------------------------------------------------
-- While Nobody Is Inside the Event
------------------------------------------------------------

namespace CxPlat

namespace LockTest

open LockPlatforms (Recursive)
open Posix (Pc Choice)

variable {setup : Setup} {refused : Bool} {expiries : Nat}
  {s t : State} {wait : Wait} {party : Party}

/- Outside its mutex a party is idle, asleep or gets it. -/
theorem Inv.outside_of_free
    (hInv : Inv refused expiries s)
    (hFree : s.events.shared.owner = none)
    (party : Party) :
    s.pc party = .idle ∨
      (∃ timed, s.pc party = .waitSleep timed) ∨
      ∃ r, Posix.statement s.events.shared party
        (s.pc party) .next = some r := by
  rcases hInv.signal.reached with ⟨moves, hReached⟩
  have hOwns :
      (s.pc party).inside = true ↔
        s.events.shared.owner = some party :=
    ((Posix.annotated_reaches hReached).2 party).owns
  rcases (s.pc party).where
    with hInside | ⟨first, hLocked⟩ | hIdle | hAsleep
  · rw [hOwns, hFree] at hInside
    cases hInside
  · exact Or.inr (Or.inr
      (Posix.statement_locked party hFree hLocked))
  · exact Or.inl hIdle
  · exact Or.inr (Or.inl hAsleep)

/- A thread that is in `Set`. -/
theorem Inv.nearer_of_setting_free
    (hInv : Inv refused expiries s)
    (hFree : s.events.shared.owner = none)
    (hWorker : s.worker = .setting) :
    Nearer setup refused expiries s := by
  have hSets := hInv.signal.worker
  rw [hWorker] at hSets
  rcases hInv.outside_of_free hFree .worker
    with hIdle | ⟨timed, hAsleep⟩ | ⟨r, hStatement⟩
  · rw [hIdle] at hSets
    simp [WorkerPc.Allows, Pc.phase] at hSets
  · rw [hAsleep] at hSets
    simp [WorkerPc.Allows, Pc.phase] at hSets
  · exact hInv.nearer_of_setting hWorker hStatement

/- The calls of the event start at once. -/
theorem call_step
    {choice : Choice}
    {first : Pc}
    (hIdle : s.pc party = .idle)
    (hCall :
      Posix.statement s.events.shared party .idle choice =
        some (s.events.shared, first)) :
    ∃ d, Threads.step Posix.program s.events
        (party, choice) = some d ∧
      (d.locals party).pc = first := by
  rw [← hIdle] at hCall
  rcases Posix.step_of_statement hCall with ⟨d, hStep⟩
  have hAfter := statement_of_step hStep
  rw [State.pc] at hCall
  rw [hCall] at hAfter
  have hPair := Option.some.inj hAfter
  exact ⟨d, hStep, (congrArg Prod.snd hPair).symm⟩

/-
  The thread goes on, unless there is none, it has finished
  or the test keeps it from the lock.
-/
theorem Inv.nearer_of_thread
    (hInv : Inv refused expiries s)
    (hFree : s.events.shared.owner = none)
    (hThere : s.worker ≠ .absent)
    (hUnfinished : s.worker ≠ .finished) :
    s.test.zone = .started ∨
      Nearer setup refused expiries s := by
  have hObjects := hInv.there hThere hUnfinished
  have hIdle := hInv.signal.worker
  rcases hInv.zone_of_worker hThere hUnfinished
    with ⟨hZone, _⟩ | ⟨_, hLock⟩
  · exact Or.inl hZone
  right
  cases hWorker : s.worker with
  | absent => exact absurd hWorker hThere
  | enter =>
      refine hInv.nearer_of_workerNext
        (t := { s with worker := .acquire }) ?_ ?_
      · simp [workerNext, hWorker, ifThere, hObjects]
      · refine rank_lt_of_worker rfl rfl ?_
        simp [hWorker, WorkerPc.ahead]
  | acquire =>
      rw [hWorker] at hLock
      refine hInv.nearer_of_workerNext
        (t := { s with
          lock := heldBy .worker
          worker := .call }) ?_ ?_
      · simp [workerNext, hWorker, ifThere, hObjects, hLock,
          WorkerPc.lock, pthreadMutexLock_free, onLock]
      · refine rank_lt_of_worker rfl rfl ?_
        simp [hWorker, WorkerPc.ahead]
  | call =>
      rw [hWorker] at hIdle
      have hCall :
          Posix.statement s.events.shared .worker .idle
            .set = some (s.events.shared, .setLock) := rfl
      rcases call_step (idle_of_phase hIdle) hCall
        with ⟨d, hStep, hPc⟩
      refine hInv.nearer_of_workerNext
        (t := { s with events := d, worker := .setting })
        ?_ ?_
      · simp [workerNext, hWorker, ifThere, hObjects,
          onEvent_some hStep]
      · refine rank_lt_of_worker rfl ?_ ?_
        · exact other_pc hStep (by simp)
        · rw [hWorker, State.pc, hPc]
          simp [WorkerPc.ahead, setAhead]
  | setting => exact hInv.nearer_of_setting_free hFree hWorker
  | release =>
      rw [hWorker] at hLock
      refine hInv.nearer_of_workerNext
        (t := { s with
          lock := Recursive.free
          worker := .finished }) ?_ ?_
      · simp [workerNext, hWorker, ifThere, hObjects, hLock,
          WorkerPc.lock, pthreadMutexUnlock_held, onLock]
      · refine rank_lt_of_worker rfl rfl ?_
        simp [hWorker, WorkerPc.ahead]
  | finished => exact absurd hWorker hUnfinished

end LockTest

end CxPlat

------------------------------------------------------------
-- The Test Goes On
------------------------------------------------------------

namespace CxPlat

namespace LockTest

open LockPlatforms (Recursive)
open Posix (Pc Choice)

variable {setup : Setup} {refused : Bool} {expiries : Nat}
  {s t : State} {wait : Wait}

/- The thread is through, and the test is asleep. -/
theorem Inv.signaled_of_finished
    {timed : Bool}
    (hInv : Inv refused expiries s)
    (hWorker : s.worker = .finished)
    (hTest : s.test = .waiting .second)
    (hAsleep : s.pc .test = .waitSleep timed) :
    s.events.shared.signaled = true := by
  apply hInv.signal.kept
  · rw [hWorker]
    rfl
  · rw [hTest, hAsleep]
    rfl

/-
  A sleeping test wakes up for the signal if there is one.
  If not, either the wait is the first one, or there is no
  thread.
-/
theorem Inv.expires_only_if
    {timed : Bool}
    (hInv : Inv refused expiries s)
    (hTest : s.test = .waiting wait)
    (hAsleep : s.pc .test = .waitSleep timed)
    (hWorker :
      s.worker = .absent ∨ s.worker = .finished ∨
        s.test.zone = .started)
    (hUnsignaled : s.events.shared.signaled = false) :
    refused = true ∨ expiries = 0 := by
  cases wait with
  | first =>
      right
      rw [hInv.tally.expiries]
      simp [State.expiries, hTest, hAsleep, lapsed]
  | second =>
      rcases hWorker with hAbsent | hFinished | hZone
      · have hCases := hInv.control.absent.mp hAbsent
        rw [hTest] at hCases
        exact Or.inl (hCases.resolve_left (by
          simp [TestPc.zone, Zone.unstarted]))
      · have hSignaled := hInv.signaled_of_finished
          hFinished hTest hAsleep
        rw [hUnsignaled] at hSignaled
        cases hSignaled
      · rw [hTest] at hZone
        cases hZone

/- A wait goes on while nobody is inside the event. -/
theorem Inv.nearer_of_waiting
    (hInv : Inv refused expiries s)
    (hFree : s.events.shared.owner = none)
    (hTest : s.test = .waiting wait)
    (hWorker :
      s.worker = .absent ∨ s.worker = .finished ∨
        s.test.zone = .started) :
    Nearer setup refused expiries s := by
  have hAllows := hInv.signal.test
  rw [hTest] at hAllows
  rcases hInv.outside_of_free hFree .test
    with hIdle | ⟨timed, hAsleep⟩ | ⟨r, hStatement⟩
  · rw [hIdle] at hAllows
    simp [TestPc.Allows, Pc.phase] at hAllows
  · have hTimed : timed = true := by
      rw [hAsleep] at hAllows
      simpa [TestPc.Allows, Pc.phase] using hAllows
    subst hTimed
    have hStatement :
        ∃ r, Posix.statement s.events.shared .test
          (s.pc .test)
          (.wake (!s.events.shared.signaled)) = some r := by
      rw [hAsleep]
      simp [Posix.statement]
    rcases hStatement with ⟨r, hStatement⟩
    rcases hInv.wait_nearer hTest (Or.inr rfl) hStatement
      with ⟨t, hNext, hRank⟩
    refine ⟨.wake (!s.events.shared.signaled), t, ?_, hRank,
      ?_⟩
    · simpa [LockTest.step, hInv.fault, wakeUp, hTest]
        using hNext
    · intro hExpires
      have hUnsignaled :
          s.events.shared.signaled = false := by
        simpa [Action.expires] using hExpires
      exact hInv.expires_only_if hTest hAsleep hWorker
        hUnsignaled
  · rcases hInv.wait_nearer hTest (Or.inl rfl) hStatement
      with ⟨t, hNext, hRank⟩
    refine hInv.nearer_of_testNext ?_ hRank
    simpa only [testNext, hTest] using hNext

/- A statement of the test that takes it to the next one. -/
theorem Inv.nearer_of_ahead
    (hInv : Inv refused expiries s)
    (hNext : testNext setup s = some t)
    (hAhead : t.test.ahead < s.test.ahead) :
    Nearer setup refused expiries s :=
  hInv.nearer_of_testNext hNext (rank_lt_of_test hAhead)

/- The constructor of `CxPlatAsyncT`. -/
theorem Inv.nearer_of_create
    (hTells : setup.Tells refused)
    (hInv : Inv refused expiries s)
    (hTest : s.test = .create) :
    Nearer setup refused expiries s := by
  refine hInv.nearer_of_ahead (t := construct setup s) ?_ ?_
  · simp only [testNext, hTest]
  · simp [hTells s, hTest, TestPc.ahead]

/- The call of `WaitTimeout`. -/
theorem Inv.nearer_of_call
    (hInv : Inv refused expiries s)
    (hTest : s.test = .call wait) :
    Nearer setup refused expiries s := by
  have hIdle := hInv.signal.test
  rw [hTest] at hIdle
  have hCall :
      Posix.statement s.events.shared .test .idle
          .waitWithTimeout =
        some (s.events.shared, .waitLock true) := rfl
  rcases call_step (idle_of_phase hIdle) hCall
    with ⟨d, hStep, _⟩
  refine hInv.nearer_of_ahead
    (t := { s with events := d, test := .waiting wait })
    ?_ ?_
  · simp [testNext, hTest, onEvent_some hStep]
  · cases wait <;> simp [hTest, TestPc.ahead]

/- The thread has been joined, or there is none. -/
theorem Inv.nearer_of_destroyAsync
    (hInv : Inv refused expiries s)
    (hTest : s.test = .destroyAsync)
    (hWorker :
      s.worker = .absent ∨ s.worker = .finished) :
    Nearer setup refused expiries s := by
  refine hInv.nearer_of_ahead
    (t := { s with test := .destroyLock }) ?_ ?_
  · simp only [testNext, hTest]
    exact hInv.destruct_iff.mpr ⟨hWorker, rfl⟩
  · simp [hTest, TestPc.ahead]

/- Nothing is in use when it is taken down. -/
theorem Inv.nearer_of_destroyEvent
    (hTells : setup.Tells refused)
    (hInv : Inv refused expiries s)
    (hTest : s.test = .destroyEvent) :
    Nearer setup refused expiries s := by
  cases hEvent :
      Posix.eventUninitialize s.events.shared with
  | ok e =>
      refine hInv.nearer_of_ahead
        (t := { s with test := .done }) ?_ ?_
      · simp [testNext, hTest, hEvent]
      · simp [hTest, TestPc.ahead]
  | error busy =>
      have hNext :
          testNext setup s =
            some (s.failed (.eventBusy busy)) := by
        simp [testNext, hTest, hEvent]
      have hFault := (hInv.test_next hTells hNext).fault
      cases hFault

/-
  The test goes on, if it does not have to wait for the
  thread.
-/
theorem Inv.nearer_of_test
    (hTells : setup.Tells refused)
    (hInv : Inv refused expiries s)
    (hFree : s.events.shared.owner = none)
    (hNotDone : s.test ≠ .done)
    (hWorker :
      s.worker = .absent ∨ s.worker = .finished ∨
        s.test.zone = .started) :
    Nearer setup refused expiries s := by
  have hSituation := hInv.control.situation
  have hIdle := hInv.signal.test
  cases hTest : s.test with
  | acquire =>
      rw [hTest] at hSituation
      refine hInv.nearer_of_ahead
        (t := { s with
          lock := heldBy .test
          test := .create }) ?_ ?_
      · simp [testNext, hTest, hSituation.2,
          pthreadMutexLock_free, onLock]
      · simp [hTest, TestPc.ahead]
  | create => exact hInv.nearer_of_create hTells hTest
  | call wait => exact hInv.nearer_of_call hTest
  | waiting wait =>
      exact hInv.nearer_of_waiting hFree hTest hWorker
  | check wait result =>
      cases wait with
      | first =>
          rw [hTest] at hIdle
          refine hInv.nearer_of_ahead
            (t := { s with test := .release }) ?_ ?_
          · simp [testNext, hTest, hIdle.1]
          · simp [hTest, TestPc.ahead]
      | second =>
          refine hInv.nearer_of_ahead
            (t :=
              if result then { s with test := .destroyAsync }
              else leave s .second) ?_ ?_
          · simp only [testNext, hTest]
          · cases result <;>
              simp [hTest, leave, TestPc.ahead]
  | release =>
      rw [hTest] at hSituation
      refine hInv.nearer_of_ahead
        (t := { s with
          lock := Recursive.free
          test := .call .second }) ?_ ?_
      · simp [testNext, hTest, hSituation.2,
          pthreadMutexUnlock_held, onLock]
      · simp [hTest, TestPc.ahead]
  | destroyAsync =>
      have hJoined :
          s.worker = .absent ∨ s.worker = .finished := by
        rcases hWorker with hAbsent | hFinished | hZone
        · exact Or.inl hAbsent
        · exact Or.inr hFinished
        · rw [hTest] at hZone
          cases hZone
      exact hInv.nearer_of_destroyAsync hTest hJoined
  | destroyLock =>
      rw [hTest] at hSituation
      refine hInv.nearer_of_ahead
        (t := { s with test := .destroyEvent }) ?_ ?_
      · simp [testNext, hTest, hSituation.2, Recursive.free]
      · simp [hTest, TestPc.ahead]
  | destroyEvent =>
      exact hInv.nearer_of_destroyEvent hTells hTest
  | done => exact absurd hTest hNotDone

/- Nobody is inside the event. -/
theorem Inv.nearer_of_free
    (hTells : setup.Tells refused)
    (hInv : Inv refused expiries s)
    (hFree : s.events.shared.owner = none)
    (hNotDone : s.test ≠ .done) :
    Nearer setup refused expiries s := by
  by_cases hAbsent : s.worker = .absent
  · exact hInv.nearer_of_test hTells hFree hNotDone
      (Or.inl hAbsent)
  by_cases hFinished : s.worker = .finished
  · exact hInv.nearer_of_test hTells hFree hNotDone
      (Or.inr (Or.inl hFinished))
  rcases hInv.nearer_of_thread hFree hAbsent hFinished
    with hZone | hNearer
  · exact hInv.nearer_of_test hTells hFree hNotDone
      (Or.inr (Or.inr hZone))
  · exact hNearer

theorem Inv.nearer
    (hTells : setup.Tells refused)
    (hInv : Inv refused expiries s)
    (hNotDone : s.test ≠ .done) :
    Nearer setup refused expiries s := by
  cases hOwner : s.events.shared.owner with
  | some party => exact hInv.nearer_of_inside hOwner
  | none => exact hInv.nearer_of_free hTells hOwner hNotDone

end LockTest

end CxPlat

------------------------------------------------------------
-- The Block as a Whole
------------------------------------------------------------

namespace CxPlat

namespace LockTest

open PosixThread (ContextFits CreatesNone reportedErrno
  statusSuccess)

variable {setup : Setup} {promise : Prop} {refused : Bool}
  {expiries : Nat} {s t : State} {moves : List Action}

/-
  A state of the block.  Under the promise there is a thread
  and the time has been up at most once.
-/
def Promising
    (refused : Bool)
    (promise : Prop)
    (s : State) : Prop :=
  ∃ expiries,
    Inv refused expiries s ∧
      (promise → refused = false ∧ expiries ≤ 1)

/- The promise can be kept up to the end. -/
theorem Promising.nearer
    (hTells : setup.Tells refused)
    (hPromising : Promising refused promise s)
    (hNotDone : s.test ≠ .done) :
    ∃ action t, step setup s action = some t ∧
      Promising refused promise t ∧ rank t < rank s := by
  rcases hPromising with ⟨expiries, hInv, hKept⟩
  rcases hInv.nearer hTells hNotDone
    with ⟨action, t, hStep, hRank, hExpires⟩
  refine ⟨action, t, hStep,
    ⟨_, hInv.step hTells hStep, ?_⟩, hRank⟩
  intro hPromise
  rcases hKept hPromise with ⟨hThread, hOnce⟩
  refine ⟨hThread, ?_⟩
  cases hNow : action.expires with
  | false => simpa using hOnce
  | true =>
      rcases hExpires hNow with hRefused | hNever
      · rw [hThread] at hRefused
        cases hRefused
      · simp [hNever]

/- A check fails only after both waits have timed out. -/
theorem Inv.failures_cases
    (hInv : Inv refused expiries s) :
    s.failures = [] ∨
      s.failures = [.second] ∧ expiries = 2 := by
  have hTally := hInv.tally
  rcases hTally.failures with hNone | hSecond
  · exact Or.inl hNone
  · refine Or.inr ⟨hSecond, ?_⟩
    have hLeft : s.test.left = true := by
      by_contra hNot
      have hNone := hTally.none (by simpa using hNot)
      rw [hSecond] at hNone
      cases hNone
    rw [hTally.expiries, expiries_of_left hLeft, hSecond]
    rfl

/- A run whose constructor tells whether there is a thread. -/
theorem sound_of_tells
    (hTells : setup.Tells refused)
    (hRun :
      Transition.run (step setup) start moves = some s) :
    s.fault = none ∧
      (s.failures = [] ∨
        s.failures = [.second] ∧
          moves.countP Action.expires = 2) ∧
      ∃ more t,
        Transition.run (step setup) s more = some t ∧
        t.test = .done ∧
        (refused = false →
          moves.countP Action.expires ≤ 1 →
            t.failures = []) := by
  have hInv := (inv_start refused).run hTells hRun
  rw [Nat.zero_add] at hInv
  refine ⟨hInv.fault, hInv.failures_cases, ?_⟩
  have hPromising :
      Promising refused
        (refused = false ∧
          moves.countP Action.expires ≤ 1) s :=
    ⟨_, hInv, id⟩
  rcases Transition.exists_run_of_measure
    (fun _ hNow hNot => Promising.nearer hTells hNow hNot)
    hPromising
    with ⟨more, t, hMore, ⟨expiries, hEnd, hKept⟩, hDone⟩
  refine ⟨more, t, hMore, hDone, ?_⟩
  intro hThread hOnce
  have hLess := (hKept ⟨hThread, hOnce⟩).2
  rcases hEnd.failures_cases with hNone | ⟨_, hTwice⟩
  · exact hNone
  · omega

/- A failure to create the thread is reported. -/
def Setup.Reports
    (setup : Setup) : Prop :=
  ContextFits setup.build setup.answers ∧
    (CreatesNone setup.build setup.answers →
      reportedErrno setup.answers ≠ statusSuccess)

theorem Setup.Reports.tells
    (hReports : setup.Reports) :
    setup.Tells
      (decide
        (CreatesNone setup.build setup.answers)) := by
  rcases hReports with ⟨hFits, hErrno⟩
  intro s
  unfold construct Setup.creation
  by_cases hNone : CreatesNone setup.build setup.answers
  · rcases PosixThread.returns_threadCreate_nothing hFits
      hNone (hErrno hNone) with
      ⟨status, created, hCreate, rfl, hNothing⟩
    rw [hCreate]
    simp [hNone, hErrno hNone, hNothing.2.1]
  · rcases PosixThread.returns_threadCreate_started hFits
      hNone with
      ⟨status, created, hCreate, rfl, t, _, hThread, _⟩
    rw [hCreate]
    simp [hNone, hThread]

/- The object believes in a thread that there is not. -/
def deceived : State :=
  { start with
    test := .call .first
    lock := heldBy .test
    initialized := true }

/- Both waits time out, and the object is destroyed. -/
def bothExpire : List Action :=
  -- the first wait, its check and the release
  [.next .test, .next .test, .next .test, .next .test,
    .wake true, .next .test, .next .test, .next .test,
    .next .test] ++
  -- the second wait, its check and the destructor
  [.next .test, .next .test, .next .test, .next .test,
    .wake true, .next .test, .next .test, .next .test,
    .next .test]

theorem run_deceived
    (setup : Setup) :
    ∃ s, Transition.run (step setup) deceived bothExpire =
        some s ∧
      s.fault = some .badHandle :=
  ⟨_, rfl, rfl⟩

/- The statement that creates the thread. -/
theorem run_construct
    (setup : Setup) :
    Transition.run (step setup) start
        [.next .test, .next .test] =
      some (construct setup
        { start with
          test := .create
          lock := heldBy .test }) := rfl

/- What is not reported leads to a fault. -/
theorem reports_of_noFault
    (hSound :
      ∀ moves s,
        Transition.run (step setup) start moves = some s →
          s.fault = none) :
    setup.Reports := by
  have hConstruct := run_construct setup
  have hFault := hSound _ _ hConstruct
  unfold construct at hConstruct hFault
  cases hCreation : setup.creation with
  | error fault =>
      rw [hCreation] at hFault
      cases hFault
  | ok outcome =>
      rcases outcome with ⟨status, created⟩
      rw [hCreation] at hConstruct
      constructor
      · by_contra hNot
        exact PosixThread.not_returns_threadCreate_null hNot
          (fun _ _ => True)
          (Comp.returns_of_exec hCreation trivial)
      · intro hNone hErrno
        rcases PosixThread.threadCreate_nothing hNone
          hCreation with ⟨rfl, _, hThread, _⟩
        simp only [hThread, hErrno] at hConstruct
        rcases run_deceived setup with ⟨s, hRun, hBad⟩
        have hNoFault := hSound _ s
          ((Transition.run_append _ bothExpire
            hConstruct).trans hRun)
        rw [hBad] at hNoFault
        cases hNoFault

/-
  In every interleaving nothing is used that is not there or
  taken down while it is in use, only the second check ever
  fails, and then both waits have timed out, and the block
  can always be finished, without a failure if there is a
  thread and the time has not been up twice.  All this holds
  exactly if a failure to create the thread is reported.
-/
theorem lockBasic_sound_iff
    (setup : Setup) :
    (∀ moves s,
      Transition.run (step setup) start moves = some s →
        s.fault = none ∧
          (s.failures = [] ∨
            s.failures = [.second] ∧
              moves.countP Action.expires = 2) ∧
          ∃ more t,
            Transition.run (step setup) s more = some t ∧
            t.test = .done ∧
            (¬ CreatesNone setup.build setup.answers →
              moves.countP Action.expires ≤ 1 →
                t.failures = [])) ↔
      ContextFits setup.build setup.answers ∧
        (CreatesNone setup.build setup.answers →
          reportedErrno setup.answers ≠ statusSuccess) := by
  constructor
  · intro hSound
    exact reports_of_noFault
      (fun moves s hRun => (hSound moves s hRun).1)
  · intro hReports moves s hRun
    rcases sound_of_tells (Setup.Reports.tells hReports) hRun
      with ⟨hFault, hFailures, more, t, hMore, hDone, hKept⟩
    refine ⟨hFault, hFailures, more, t, hMore, hDone, ?_⟩
    intro hThread
    exact hKept (decide_eq_false hThread)

end LockTest

end CxPlat
