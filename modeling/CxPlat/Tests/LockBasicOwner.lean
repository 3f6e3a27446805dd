import CxPlat.Tests.LockBasic

/-
  The statements of the test in `CxPlatTestLockBasic` keep
  the invariant.

  As long as the test holds the lock the thread has not set
  the event, so the first wait can only time out, and the
  check of its result never leaves the block with the lock
  held.  The destructor of the `CxPlatAsyncT` returns after
  the thread has finished, so nobody uses the lock or the
  event when they are taken down.

  Key definitions include:
    * `WaitMove`

  Key theorems include:
    * `Inv.test_moves`, `Inv.test_event`
    * `waitMove_of_statement`
    * `Inv.unsignaled_of_first`
    * `Inv.test_waiting`
    * `Inv.test_next`
-/

------------------------------------------------------------
-- Statements Outside the Event
------------------------------------------------------------

namespace CxPlat

namespace LockTest

open LockPlatforms (Recursive pthreadMutexLock
  pthreadMutexUnlock lockRecursive unlockRecursive)
open Posix (Pc Phase)

variable {setup : Setup} {refused : Bool} {expiries : Nat}
  {s t : State}

/- A party acquires the lock when it is free. -/
theorem pthreadMutexLock_free
    (party : Party) :
    pthreadMutexLock Recursive.free party =
      .done (heldBy party) := rfl

theorem pthreadMutexLock_held
    {holder party : Party}
    (hNe : holder ≠ party) :
    pthreadMutexLock (heldBy holder) party = .blocked := by
  simp [pthreadMutexLock, lockRecursive, heldBy, hNe]

theorem pthreadMutexUnlock_held
    (party : Party) :
    pthreadMutexUnlock (heldBy party) party =
      .done Recursive.free := by
  simp [pthreadMutexUnlock, unlockRecursive, heldBy]

theorem not_stored_of_early
    {worker : WorkerPc}
    {phase : Phase}
    (hEarly : worker.early = true) :
    worker.stored phase = false := by
  cases worker <;> first | rfl | contradiction

theorem idle_of_allows
    {test : TestPc}
    {phase : Phase}
    (hAllows : test.Allows phase)
    (hNot : ∀ wait, test ≠ .waiting wait) :
    phase = .idle := by
  cases test with
  | waiting wait => exact absurd rfl (hNot wait)
  | check wait result =>
      cases wait with
      | first => exact hAllows.2
      | second => exact hAllows
  | _ => exact hAllows

/- The test goes on, without the event. -/
theorem Inv.test_moves
    {test : TestPc}
    {lock : Recursive Party}
    {failures : List Wait}
    (hInv : Inv refused expiries s)
    (hNot : ∀ wait, s.test ≠ .waiting wait)
    (hSituation : Situation test.zone s.worker lock)
    (hUnstarted :
      test.zone.unstarted = s.test.zone.unstarted)
    (hAllows : test.Allows .idle)
    (hAwaits :
      test.awaits .idle = true → s.worker.early = true)
    (hTally :
      Tally expiries { s with test, lock, failures }) :
    Inv refused expiries { s with test, lock, failures } := by
  rcases hInv with ⟨hFault, hControl, hSignal, _⟩
  have hIdle := idle_of_allows hSignal.test hNot
  refine ⟨hFault, ?_, ?_, hTally⟩
  · constructor
    · exact hSituation
    · rw [hUnstarted]
      exact hControl.absent
    · exact hControl.initialized
  · constructor
    · exact hSignal.reached
    · show test.Allows (s.pc .test).phase
      rw [hIdle]
      exact hAllows
    · exact hSignal.worker
    · exact hSignal.raised
    · intro hStored hNow
      change test.awaits (s.pc .test).phase = true at hNow
      rw [hIdle] at hNow
      have hNotYet :
          s.worker.stored (s.pc .worker).phase = false :=
        not_stored_of_early (hAwaits hNow)
      exact absurd (hStored.symm.trans hNotYet) (by simp)

/- The count of a test that goes on within the block. -/
theorem Tally.goes_on
    {test : TestPc}
    {lock : Recursive Party}
    (hTally : Tally expiries s)
    (hStays : s.test.left = false)
    (hExpiries :
      s.expiries = { s with test, lock }.expiries) :
    Tally expiries { s with test, lock } where
  expiries := hTally.expiries.trans hExpiries
  failures := hTally.failures
  none := fun _ => hTally.none hStays

/- `Lock.Acquire()`. -/
theorem Inv.test_acquire
    (hInv : Inv refused expiries s)
    (hTest : s.test = .acquire)
    (hNext : testNext setup s = some t) :
    Inv refused expiries t := by
  have hSituation := hInv.control.situation
  rw [hTest] at hSituation
  rcases hSituation with ⟨hAbsent, hLock⟩
  simp only [testNext, hTest, hLock, pthreadMutexLock_free,
    onLock] at hNext
  cases hNext
  apply hInv.test_moves (by simp [hTest])
  · exact ⟨hAbsent, rfl⟩
  · rw [hTest]
    rfl
  · rfl
  · nofun
  · apply hInv.tally.goes_on
    · rw [hTest]
      rfl
    · simp [State.expiries, hTest]

/- `Lock.Release()`: the thread has not got the lock yet. -/
theorem Inv.test_release
    (hInv : Inv refused expiries s)
    (hTest : s.test = .release)
    (hNext : testNext setup s = some t) :
    Inv refused expiries t := by
  have hSituation := hInv.control.situation
  rw [hTest] at hSituation
  rcases hSituation with ⟨hEarly, hLock⟩
  simp only [testNext, hTest, hLock, pthreadMutexUnlock_held,
    onLock] at hNext
  cases hNext
  apply hInv.test_moves (by simp [hTest])
  · show Recursive.free = s.worker.lock
    cases hWorker : s.worker <;> first
      | rfl
      | simp [hWorker, WorkerPc.early] at hEarly
  · rw [hTest]
    rfl
  · rfl
  · exact fun _ => hEarly
  · apply hInv.tally.goes_on
    · rw [hTest]
      rfl
    · simp [State.expiries, hTest]

/- `TEST_FALSE`: the first wait has not been satisfied. -/
theorem Inv.test_checkFirst
    {result : Bool}
    (hInv : Inv refused expiries s)
    (hTest : s.test = .check .first result)
    (hNext : testNext setup s = some t) :
    Inv refused expiries t := by
  have hSituation := hInv.control.situation
  rw [hTest] at hSituation
  have hAllows := hInv.signal.test
  rw [hTest] at hAllows
  rcases hAllows with ⟨hResult, _⟩
  subst hResult
  simp only [testNext, hTest] at hNext
  cases hNext
  apply hInv.test_moves (by simp [hTest])
  · exact hSituation
  · rw [hTest]
    rfl
  · rfl
  · nofun
  · apply hInv.tally.goes_on
    · rw [hTest]
      rfl
    · simp [State.expiries, hTest]

/- `TEST_TRUE`. -/
theorem Inv.test_checkSecond
    {result : Bool}
    (hInv : Inv refused expiries s)
    (hTest : s.test = .check .second result)
    (hNext : testNext setup s = some t) :
    Inv refused expiries t := by
  have hSituation := hInv.control.situation
  rw [hTest] at hSituation
  have hNone := hInv.tally.none (by rw [hTest]; rfl)
  have hExpiries := hInv.tally.expiries
  simp only [State.expiries, hTest] at hExpiries
  simp only [testNext, hTest] at hNext
  cases hNext
  cases result with
  | true =>
      apply hInv.test_moves (by simp [hTest])
      · exact hSituation
      · rw [hTest]
        rfl
      · rfl
      · nofun
      · exact
          { expiries := by simp [State.expiries, hNone, hExpiries]
            failures := Or.inl hNone
            none := nofun }
  | false =>
      apply hInv.test_moves (by simp [hTest])
      · exact hSituation
      · rw [hTest]
        rfl
      · rfl
      · nofun
      · exact
          { expiries := by simp [State.expiries, hNone, hExpiries]
            failures := Or.inr (by simp [hNone])
            none := nofun }

theorem expiries_of_left
    (hLeft : s.test.left = true) :
    s.expiries = 1 + s.failures.length := by
  unfold State.expiries
  cases hTest : s.test <;> first
    | rfl
    | (rw [hTest] at hLeft; contradiction)

/- The count stays as it is once the block has been left. -/
theorem Tally.left
    {test : TestPc}
    (hTally : Tally expiries s)
    (hWas : s.test.left = true)
    (hLeft : test.left = true) :
    Tally expiries { s with test } where
  expiries := by
    have hAfter :
        { s with test }.expiries = 1 + s.failures.length :=
      expiries_of_left hLeft
    rw [hTally.expiries, expiries_of_left hWas, hAfter]
  failures := hTally.failures
  none := by
    intro hNot
    exact absurd (hLeft.symm.trans hNot) (by simp)

/- The constructor of `CxPlatAsyncT`. -/
theorem Inv.test_create
    (hTells : setup.Tells refused)
    (hInv : Inv refused expiries s)
    (hTest : s.test = .create)
    (hNext : testNext setup s = some t) :
    Inv refused expiries t := by
  simp only [testNext, hTest, hTells s] at hNext
  cases hNext
  rcases hInv with ⟨hFault, hControl, hSignal, hTally⟩
  have hSituation := hControl.situation
  have hIdle := hSignal.test
  have hWorker := hSignal.worker
  have hRaised := hSignal.raised
  have hExpiries := hTally.expiries
  have hNone := hTally.none (by rw [hTest]; rfl)
  rw [hTest] at hSituation hIdle
  rcases hSituation with ⟨hAbsent, hLock⟩
  rw [hAbsent] at hWorker hRaised
  refine ⟨hFault, ?_, ?_, ?_⟩
  · constructor
    · refine ⟨?_, hLock⟩
      cases refused <;> rfl
    · cases refused <;> simp [TestPc.zone, Zone.unstarted]
    · cases refused <;> simp
  · constructor
    · exact hSignal.reached
    · exact hIdle
    · cases refused <;> exact hWorker
    · intro hSignaled
      exact absurd (hRaised hSignaled)
        (by simp [WorkerPc.stored])
    · intro _ hAwaits
      cases hAwaits
  · exact
      { expiries := by
          rw [hExpiries]
          simp [State.expiries, hTest]
        failures := Or.inl hNone
        none := fun _ => hNone }

/- The destructor goes on when the thread has finished. -/
theorem Inv.destruct_iff
    (hInv : Inv refused expiries s) :
    destruct s = some t ↔
      (s.worker = .absent ∨ s.worker = .finished) ∧
        t = { s with test := .destroyLock } := by
  have hInitialized := hInv.control.initialized
  unfold destruct
  cases hWorker : s.worker <;>
    simp [hWorker] at hInitialized <;>
    simp [hInitialized, eq_comm]

/- `~CxPlatAsyncT` returns when the thread has. -/
theorem Inv.test_destroyAsync
    (hInv : Inv refused expiries s)
    (hTest : s.test = .destroyAsync)
    (hNext : testNext setup s = some t) :
    Inv refused expiries t := by
  have hSituation := hInv.control.situation
  rw [hTest] at hSituation
  simp only [testNext, hTest] at hNext
  rcases hInv.destruct_iff.mp hNext with ⟨hWorker, rfl⟩
  apply hInv.test_moves (by simp [hTest])
  · refine ⟨hWorker, ?_⟩
    rw [show s.lock = s.worker.lock from hSituation]
    rcases hWorker with hWorker | hWorker
    all_goals
      rw [hWorker]
      rfl
  · rw [hTest]
    rfl
  · rfl
  · nofun
  · exact hInv.tally.left (by rw [hTest]; rfl) rfl

theorem Inv.test_destroyLock
    (hInv : Inv refused expiries s)
    (hTest : s.test = .destroyLock)
    (hNext : testNext setup s = some t) :
    Inv refused expiries t := by
  have hSituation := hInv.control.situation
  rw [hTest] at hSituation
  have hFree : s.lock.owner = none := by
    rw [hSituation.2]
    rfl
  simp only [testNext, hTest, hFree] at hNext
  cases hNext
  apply hInv.test_moves (by simp [hTest])
  · exact hSituation
  · rw [hTest]
    rfl
  · rfl
  · nofun
  · exact hInv.tally.left (by rw [hTest]; rfl) rfl

theorem idle_of_phase
    {pc : Pc}
    (hPhase : pc.phase = .idle) :
    pc = .idle := by
  cases pc <;> first | rfl | contradiction

theorem Inv.test_destroyEvent
    (hInv : Inv refused expiries s)
    (hTest : s.test = .destroyEvent)
    (hNext : testNext setup s = some t) :
    Inv refused expiries t := by
  have hSituation := hInv.control.situation
  rw [hTest] at hSituation
  have hIdle : ∀ party, s.pc party = .idle := by
    intro party
    apply idle_of_phase
    cases party with
    | test =>
        have hAllows := hInv.signal.test
        rwa [hTest] at hAllows
    | worker =>
        have hAllows := hInv.signal.worker
        rcases hSituation.1 with hWorker | hWorker
        all_goals
          rwa [hWorker] at hAllows
  obtain ⟨moves, hReached⟩ := hInv.signal.reached
  simp only [testNext, hTest,
    Posix.eventUninitialize_of_idle hReached hIdle] at hNext
  cases hNext
  apply hInv.test_moves (by simp [hTest])
  · exact hSituation
  · rw [hTest]
    rfl
  · rfl
  · nofun
  · exact hInv.tally.left (by rw [hTest]; rfl) rfl

end LockTest

end CxPlat

------------------------------------------------------------
-- Statements of the Event
------------------------------------------------------------

namespace CxPlat

namespace LockTest

open LockPlatforms (Recursive)
open Posix (Pc Phase Choice)

variable {setup : Setup} {refused : Bool}
  {expiries later : Nat} {s t : State} {c d : Events}
  {choice : Choice} {party : Party}

theorem reached_step
    (hReached : ∃ moves, Posix.Reaches false false moves c)
    (hStep :
      Threads.step Posix.program c (party, choice) =
        some d) :
    ∃ moves, Posix.Reaches false false moves d := by
  rcases hReached with ⟨moves, hRun⟩
  refine ⟨moves ++ [(party, choice)], ?_⟩
  unfold Posix.Reaches
  rw [Transition.run_append moves _ hRun,
    Transition.run_cons _ hStep, Transition.run_nil]

/- An event that resets itself, in a reachable state. -/
theorem shift_of_step
    (hReached : ∃ moves, Posix.Reaches false false moves c)
    (hStep :
      Threads.step Posix.program c (party, choice) =
        some d) :
    Shift true (c.locals party).pc.phase c.shared.signaled
      (d.locals party).pc.phase d.shared.signaled := by
  rcases hReached with ⟨moves, hRun⟩
  have hAnnotated := Posix.annotated_reaches hRun
  have hShift := shift_of_moves
    (hAnnotated.2 party).ready (Posix.step_moves hStep)
  rwa [hAnnotated.1.mode] at hShift

/- A statement leaves the other party where it is. -/
theorem other_pc
    {other : Party}
    (hStep :
      Threads.step Posix.program s.events (party, choice) =
        some d)
    (hNe : other ≠ party) :
    (d.locals other).pc = s.pc other := by
  rw [(Posix.step_call_or_moves hStep).1 other hNe]
  rfl

/- A statement of the test in the event. -/
theorem Inv.test_event
    {test : TestPc}
    (hInv : Inv refused expiries s)
    (hStep :
      Threads.step Posix.program s.events (.test, choice) =
        some d)
    (hZone : test.zone = s.test.zone)
    (hAllows : test.Allows (d.locals .test).pc.phase)
    (hRaised :
      d.shared.signaled = true →
        s.events.shared.signaled = true)
    (hKept :
      test.awaits (d.locals .test).pc.phase = true →
        s.test.awaits (s.pc .test).phase = true ∧
          d.shared.signaled = s.events.shared.signaled)
    (hTally :
      Tally later { s with events := d, test }) :
    Inv refused later { s with events := d, test } := by
  rcases hInv with ⟨hFault, hControl, hSignal, _⟩
  have hOther : (d.locals .worker).pc = s.pc .worker :=
    other_pc hStep (by simp)
  refine ⟨hFault, ?_, ?_, hTally⟩
  · constructor
    · show Situation test.zone s.worker s.lock
      rw [hZone]
      exact hControl.situation
    · rw [hZone]
      exact hControl.absent
    · exact hControl.initialized
  · constructor
    · exact reached_step hSignal.reached hStep
    · exact hAllows
    · show s.worker.Allows (d.locals .worker).pc.phase
      rw [hOther]
      exact hSignal.worker
    · show _ → s.worker.stored (d.locals .worker).pc.phase = _
      rw [hOther]
      exact fun hNow => hSignal.raised (hRaised hNow)
    · show s.worker.stored (d.locals .worker).pc.phase = _ → _
      rw [hOther]
      intro hStored hNow
      rcases hKept hNow with ⟨hBefore, hSame⟩
      exact hSame.trans (hSignal.kept hStored hBefore)

/- The call of `WaitTimeout`. -/
theorem Inv.test_call
    {wait : Wait}
    (hInv : Inv refused expiries s)
    (hTest : s.test = .call wait)
    (hNext : testNext setup s = some t) :
    Inv refused expiries t := by
  have hIdle : (s.events.locals .test).pc = .idle := by
    apply idle_of_phase
    have hAllows := hInv.signal.test
    rwa [hTest] at hAllows
  simp only [testNext, hTest, onEvent,
    Option.map_eq_some_iff] at hNext
  rcases hNext with ⟨d, hStep, rfl⟩
  rcases Posix.step_call_or_moves hStep
    with ⟨_, ⟨_, hShared, hEntry⟩ | ⟨hBusy, _⟩⟩
  · have hPc : (d.locals .test).pc = .waitLock true :=
      (Option.some.inj hEntry).symm
    apply hInv.test_event hStep
    · rw [hTest]
      cases wait <;> rfl
    · rw [hPc]
      exact Or.inl rfl
    · rw [hShared]
      exact id
    · intro hAwaits
      rw [hShared, hTest]
      cases wait with
      | first => contradiction
      | second => exact ⟨rfl, rfl⟩
    · have hTally := hInv.tally
      refine ⟨?_, hTally.failures, ?_⟩
      · rw [hTally.expiries]
        cases wait <;>
          simp [State.expiries, hTest, State.pc, hPc, lapsed]
      · intro _
        exact hTally.none (by rw [hTest]; rfl)
  · exact absurd hIdle hBusy

theorem statement_of_step
    (hStep :
      Threads.step Posix.program c (party, choice) =
        some d) :
    Posix.statement c.shared party (c.locals party).pc
        choice =
      some (d.shared, (d.locals party).pc) := by
  rcases Threads.step_some hStep with
    ⟨e, l, hProgram, hNext⟩
  subst hNext
  simp only [Posix.program] at hProgram
  split at hProgram
  next hStatement =>
    cases hProgram
    simpa using hStatement
  next => contradiction

/- The time is up in a wait. -/
def expiry : Choice → Nat
  | .wake true => 1
  | _ => 0

/-
  What a statement of a wait can do, from what `Signaled` is
  before it to what it is after it.
-/
inductive WaitMove (signaled : Bool) :
    Choice → Pc → Bool → Pc → Prop where
  | lock (timed : Bool) :
      WaitMove signaled .next (.waitLock timed) signaled
        (.waitTest timed)
  | found (timed : Bool) :
      WaitMove signaled .next (.waitTest timed) signaled
        (.waitTake timed)
  | missing (timed : Bool) :
      WaitMove signaled .next (.waitTest timed) signaled
        (.waitCall timed)
  | sleep (timed : Bool) :
      WaitMove signaled .next (.waitCall timed) signaled
        (.waitSleep timed)
  | wake (timed expired : Bool) :
      WaitMove signaled (.wake expired) (.waitSleep timed)
        signaled (.waitRelock timed expired)
  | expire (timed : Bool) :
      WaitMove signaled .next (.waitRelock timed true)
        signaled (.waitUnlock timed false)
  | again (timed : Bool) :
      WaitMove signaled .next (.waitRelock timed false)
        signaled (.waitTest timed)
  | take (timed after : Bool) :
      WaitMove signaled .next (.waitTake timed) after
        (.waitUnlock timed true)
  | returns (satisfied after : Bool) :
      WaitMove signaled .next (.waitUnlock true satisfied)
        after .idle

theorem waitMove_of_statement
    {e e' : Posix.Event Party}
    {pc pc' : Pc}
    (hStatement :
      Posix.statement e party pc choice = some (e', pc'))
    (hWaits :
      pc.phase = .called (.wait true) ∨
        ∃ result, pc.phase = .done (.wait true) result) :
    WaitMove e.signaled choice pc e'.signaled pc' := by
  cases pc with
  | waitLock timed =>
      cases choice with
      | next =>
          rcases Posix.mutexLock_some hStatement
            with ⟨_, hEvent, hPc⟩
          subst hEvent hPc
          exact .lock timed
      | _ => contradiction
  | waitTest timed =>
      cases choice with
      | next =>
          cases hStatement
          split
          next => exact .found timed
          next => exact .missing timed
      | _ => contradiction
  | waitCall timed =>
      cases choice with
      | next =>
          cases hStatement
          exact .sleep timed
      | _ => contradiction
  | waitSleep timed =>
      cases choice with
      | wake expired =>
          simp only [Posix.statement] at hStatement
          split at hStatement
          next => contradiction
          next =>
            cases hStatement
            exact .wake timed expired
      | _ => contradiction
  | waitRelock timed expired =>
      cases choice with
      | next =>
          rcases Posix.mutexLock_some hStatement
            with ⟨_, hEvent, hPc⟩
          subst hEvent hPc
          cases expired with
          | true => exact .expire timed
          | false => exact .again timed
      | _ => contradiction
  | waitTake timed =>
      cases choice with
      | next =>
          cases hStatement
          exact .take timed _
      | _ => contradiction
  | waitUnlock timed satisfied =>
      cases choice with
      | next =>
          cases hStatement
          have hTimed : timed = true := by
            simpa [Pc.phase] using hWaits
          subst hTimed
          exact .returns satisfied _
      | _ => contradiction
  | _ => simp [Pc.phase] at hWaits

/- The result of a wait, and whether its time is up. -/
theorem WaitMove.lapses
    {signaled signaled' : Bool}
    {pc pc' : Pc}
    (hMove : WaitMove signaled choice pc signaled' pc') :
    (∃ result, pc = .waitUnlock true result ∧
        pc' = .idle ∧ choice = .next) ∨
      pc' ≠ .idle ∧
        lapsed pc' = lapsed pc + expiry choice := by
  cases hMove with
  | returns satisfied =>
      exact Or.inl ⟨satisfied, rfl, rfl, rfl⟩
  | wake timed expired =>
      right
      cases expired <;> simp [lapsed, expiry]
  | _ => exact Or.inr ⟨by simp, rfl⟩

theorem TestPc.Allows.waits
    {wait : Wait}
    {phase : Phase}
    (hAllows : (TestPc.waiting wait).Allows phase) :
    phase = .called (.wait true) ∨
      ∃ result, phase = .done (.wait true) result := by
  rcases hAllows with hCalled | ⟨result, hDone, _⟩
  · exact Or.inl hCalled
  · exact Or.inr ⟨result, hDone⟩

/- `WaitTimeout` returns. -/
theorem Inv.test_returns
    {wait : Wait}
    {result : Bool}
    (hInv : Inv refused expiries s)
    (hTest : s.test = .waiting wait)
    (hStep :
      Threads.step Posix.program s.events (.test, .next) =
        some d)
    (hPc : s.pc .test = .waitUnlock true result)
    (hIdle : (d.locals .test).pc = .idle) :
    Inv refused expiries
      { s with events := d, test := .check wait result } := by
  have hAllows := hInv.signal.test
  have hShift := shift_of_step hInv.signal.reached hStep
  have hTally := hInv.tally
  have hNone := hTally.none (by rw [hTest]; rfl)
  have hExpiries := hTally.expiries
  rw [hTest, hPc] at hAllows
  have hFirst : wait = .first → result = false := by
    rcases hAllows with hCalled | ⟨_, hDone, hFalse⟩
    · cases hCalled
    · cases hDone
      exact hFalse
  have hSame :
      d.shared.signaled = s.events.shared.signaled := by
    rw [show (s.events.locals .test).pc = _ from hPc,
      hIdle] at hShift
    generalize d.shared.signaled = after at hShift ⊢
    generalize s.events.shared.signaled = before at hShift ⊢
    cases hShift
    rfl
  apply hInv.test_event hStep
  · rw [hTest]
    cases wait <;> rfl
  · rw [hIdle]
    cases wait with
    | first => exact ⟨hFirst rfl, rfl⟩
    | second => rfl
  · rw [hSame]
    exact id
  · nofun
  · refine ⟨?_, hTally.failures, fun _ => hNone⟩
    rw [hExpiries]
    cases wait with
    | first =>
        have hFalse := hFirst rfl
        subst hFalse
        simp [State.expiries, hTest, hPc, lapsed]
    | second =>
        cases result <;>
          simp [State.expiries, hTest, hPc, lapsed]

/- A statement of a wait that does not return. -/
theorem Shift.waits
    {before after : Phase}
    {signaled signaled' : Bool}
    (hShift : Shift true before signaled after signaled')
    (hWaits :
      before = .called (.wait true) ∨
        ∃ result, before = .done (.wait true) result)
    (hBusy : after ≠ .idle) :
    after = before ∧ signaled' = signaled ∨
      signaled = true ∧ after = .done (.wait true) true ∧
        signaled' = false ∨
      before = .called (.wait true) ∧
        after = .done (.wait true) false ∧
        signaled' = signaled := by
  cases hShift with
  | quiet => exact Or.inl ⟨rfl, rfl⟩
  | satisfied timed =>
      have hTimed : timed = true := by simpa using hWaits
      subst hTimed
      exact Or.inr (Or.inl ⟨rfl, rfl, rfl⟩)
  | expired => exact Or.inr (Or.inr ⟨rfl, rfl, rfl⟩)
  | returns => exact absurd rfl hBusy
  | _ => simp at hWaits

/- While the test holds the lock nobody sets the event. -/
theorem Inv.unsignaled_of_first
    (hInv : Inv refused expiries s)
    (hTest : s.test = .waiting .first) :
    s.events.shared.signaled = false := by
  by_contra hSignaled
  have hStored :=
    hInv.signal.raised (by simpa using hSignaled)
  have hSituation := hInv.control.situation
  rw [hTest] at hSituation
  rw [not_stored_of_early hSituation.1] at hStored
  cases hStored

/- `WaitTimeout` goes on. -/
theorem Inv.test_waits
    {wait : Wait}
    (hInv : Inv refused expiries s)
    (hTest : s.test = .waiting wait)
    (hStep :
      Threads.step Posix.program s.events (.test, choice) =
        some d)
    (hBusy : (d.locals .test).pc ≠ .idle)
    (hLapsed :
      lapsed (d.locals .test).pc =
        lapsed (s.pc .test) + expiry choice) :
    Inv refused (expiries + expiry choice)
      { s with events := d, test := .waiting wait } := by
  have hAllows := hInv.signal.test
  have hTally := hInv.tally
  have hNone := hTally.none (by rw [hTest]; rfl)
  rw [hTest] at hAllows
  have hCases := (shift_of_step hInv.signal.reached hStep).waits
    hAllows.waits (fun hIdle => hBusy (idle_of_phase hIdle))
  apply hInv.test_event hStep
  · rw [hTest]
  · rcases hCases with ⟨hSame, _⟩ | ⟨hSignaled, hDone, _⟩ |
      ⟨_, hDone, _⟩
    · rw [hSame]
      exact hAllows
    · refine Or.inr ⟨true, hDone, ?_⟩
      rintro rfl
      rw [hInv.unsignaled_of_first hTest] at hSignaled
      cases hSignaled
    · exact Or.inr ⟨false, hDone, fun _ => rfl⟩
  · rcases hCases with ⟨_, hSame⟩ | ⟨_, _, hTaken⟩ |
      ⟨_, _, hSame⟩
    · rw [hSame]
      exact id
    · rw [hTaken]
      exact nofun
    · rw [hSame]
      exact id
  · intro hAwaits
    rw [hTest]
    rcases hCases with ⟨hPhase, hSame⟩ | ⟨_, hDone, _⟩ |
      ⟨hCalled, _, hSame⟩
    · rw [hPhase] at hAwaits
      exact ⟨hAwaits, hSame⟩
    · rw [hDone] at hAwaits
      cases wait <;> contradiction
    · cases wait with
      | first => contradiction
      | second =>
          refine ⟨?_, hSame⟩
          rw [State.pc, hCalled]
          rfl
  · refine ⟨?_, hTally.failures, fun _ => hNone⟩
    rw [hTally.expiries]
    cases wait <;>
      simp [State.expiries, hTest, State.pc] at hLapsed ⊢ <;>
      omega

theorem afterWait_busy
    (wait : Wait)
    (pc : Pc)
    {pc' : Pc}
    (hBusy : pc' ≠ .idle) :
    afterWait wait pc pc' = .waiting wait := by
  unfold afterWait
  split
  next => exact absurd rfl hBusy
  next => rfl

/- A statement of `WaitTimeout`. -/
theorem Inv.test_waiting
    {wait : Wait}
    (hInv : Inv refused expiries s)
    (hTest : s.test = .waiting wait)
    (hNext : waitStatement s wait choice = some t) :
    Inv refused (expiries + expiry choice) t := by
  have hAllows := hInv.signal.test
  rw [hTest] at hAllows
  simp only [waitStatement, onEvent,
    Option.map_eq_some_iff] at hNext
  rcases hNext with ⟨d, hStep, rfl⟩
  have hMove := waitMove_of_statement
    (statement_of_step hStep) hAllows.waits
  rcases hMove.lapses with
    ⟨result, hPc, hIdle, rfl⟩ | ⟨hBusy, hLapsed⟩
  · have hReturns := hInv.test_returns hTest hStep hPc hIdle
    rw [State.pc, hPc, hIdle]
    exact hReturns
  · rw [afterWait_busy wait _ hBusy]
    exact hInv.test_waits hTest hStep hBusy hLapsed

/- The next statement of the test. -/
theorem Inv.test_next
    (hTells : setup.Tells refused)
    (hInv : Inv refused expiries s)
    (hNext : testNext setup s = some t) :
    Inv refused expiries t := by
  cases hTest : s.test with
  | acquire => exact hInv.test_acquire hTest hNext
  | create => exact hInv.test_create hTells hTest hNext
  | call wait => exact hInv.test_call hTest hNext
  | waiting wait =>
      simp only [testNext, hTest] at hNext
      exact hInv.test_waiting hTest hNext
  | check wait result =>
      cases wait with
      | first => exact hInv.test_checkFirst hTest hNext
      | second => exact hInv.test_checkSecond hTest hNext
  | release => exact hInv.test_release hTest hNext
  | destroyAsync => exact hInv.test_destroyAsync hTest hNext
  | destroyLock => exact hInv.test_destroyLock hTest hNext
  | destroyEvent => exact hInv.test_destroyEvent hTest hNext
  | done => simp [testNext, hTest] at hNext

end LockTest

end CxPlat
