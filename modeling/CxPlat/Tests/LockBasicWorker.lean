import CxPlat.Tests.LockBasicOwner

/-
  The statements of the thread in `CxPlatTestLockBasic` keep
  the invariant, and so does every run.

  Key theorems include:
    * `Inv.worker_moves`, `Inv.worker_event`
    * `Inv.worker_next`
    * `Inv.step`, `Inv.run`
-/

------------------------------------------------------------
-- Statements of the Thread
------------------------------------------------------------

namespace CxPlat

namespace LockTest

open LockPlatforms (Recursive pthreadMutexLock
  pthreadMutexUnlock)
open Posix (Pc Phase Choice)

variable {refused : Bool} {expiries : Nat}
  {s t : State} {d : Events} {choice : Choice}

/- The objects of the block are there until it is over. -/
theorem not_gone
    {test : TestPc}
    (hZone : test.zone ≠ .closed) :
    test.asyncGone = false ∧ test.lockGone = false ∧
      test.eventGone = false := by
  cases test with
  | destroyLock => exact absurd rfl hZone
  | destroyEvent => exact absurd rfl hZone
  | done => exact absurd rfl hZone
  | _ => exact ⟨rfl, rfl, rfl⟩

/- A thread that has not finished. -/
theorem Inv.zone_of_worker
    (hInv : Inv refused expiries s)
    (hThere : s.worker ≠ .absent)
    (hUnfinished : s.worker ≠ .finished) :
    s.test.zone = .started ∧ s.worker.early = true ∧
        s.lock = heldBy .test ∨
      s.test.zone = .opened ∧ s.lock = s.worker.lock := by
  have hSituation := hInv.control.situation
  cases hZone : s.test.zone with
  | outset =>
      rw [hZone] at hSituation
      exact absurd hSituation.1 hThere
  | holding =>
      rw [hZone] at hSituation
      exact absurd hSituation.1 hThere
  | started =>
      rw [hZone] at hSituation
      exact Or.inl ⟨rfl, hSituation⟩
  | opened =>
      rw [hZone] at hSituation
      exact Or.inr ⟨rfl, hSituation⟩
  | closed =>
      rw [hZone] at hSituation
      rcases hSituation.1 with hWorker | hWorker
      · exact absurd hWorker hThere
      · exact absurd hWorker hUnfinished

/- What such a thread uses is there. -/
theorem Inv.there
    (hInv : Inv refused expiries s)
    (hThere : s.worker ≠ .absent)
    (hUnfinished : s.worker ≠ .finished) :
    s.test.asyncGone = false ∧ s.test.lockGone = false ∧
      s.test.eventGone = false := by
  apply not_gone
  rcases hInv.zone_of_worker hThere hUnfinished
    with ⟨hZone, _⟩ | ⟨hZone, _⟩
  all_goals
    rw [hZone]
    simp

/- A thread that has got the lock and has not finished. -/
theorem Inv.opened_of_late
    (hInv : Inv refused expiries s)
    (hLate : s.worker.early = false)
    (hUnfinished : s.worker ≠ .finished) :
    s.test.zone = .opened ∧ s.lock = s.worker.lock := by
  have hThere : s.worker ≠ .absent := by
    intro hAbsent
    rw [hAbsent] at hLate
    cases hLate
  rcases hInv.zone_of_worker hThere hUnfinished
    with ⟨_, hEarly, _⟩ | hOpened
  · exact absurd (hEarly.symm.trans hLate) (by simp)
  · exact hOpened

/- The thread goes on, without the event. -/
theorem Inv.worker_moves
    {worker : WorkerPc}
    {lock : Recursive Party}
    (hInv : Inv refused expiries s)
    (hIdle : (s.pc .worker).phase = .idle)
    (hThere : s.worker ≠ .absent)
    (hSituation : Situation s.test.zone worker lock)
    (hStill : worker ≠ .absent)
    (hAllows : worker.Allows .idle)
    (hStored :
      worker.stored .idle = s.worker.stored .idle) :
    Inv refused expiries { s with worker, lock } := by
  rcases hInv with ⟨hFault, hControl, hSignal, hTally⟩
  refine ⟨hFault, ?_, ?_, ?_⟩
  · constructor
    · exact hSituation
    · exact (iff_of_false hStill hThere).trans
        hControl.absent
    · exact hControl.initialized.trans
        (iff_of_true hThere hStill)
  · have hRaised := hSignal.raised
    have hKept := hSignal.kept
    rw [hIdle, ← hStored] at hRaised hKept
    constructor
    · exact hSignal.reached
    · exact hSignal.test
    · show worker.Allows (s.pc .worker).phase
      rw [hIdle]
      exact hAllows
    · show _ → worker.stored (s.pc .worker).phase = true
      rw [hIdle]
      exact hRaised
    · show worker.stored (s.pc .worker).phase = true → _
      rw [hIdle]
      exact hKept
  · exact ⟨hTally.expiries, hTally.failures, hTally.none⟩

/- `ThreadCallback` starts. -/
theorem Inv.worker_enter
    (hInv : Inv refused expiries s)
    (hWorker : s.worker = .enter)
    (hNext : workerNext s = some t) :
    Inv refused expiries t := by
  have hZone := hInv.zone_of_worker
    (by simp [hWorker]) (by simp [hWorker])
  have hIdle := hInv.signal.worker
  rw [hWorker] at hZone hIdle
  have hThere :=
    (hInv.there (by simp [hWorker]) (by simp [hWorker])).1
  simp only [workerNext, hWorker, ifThere, hThere] at hNext
  cases hNext
  apply hInv.worker_moves hIdle
  · simp [hWorker]
  · rcases hZone with ⟨hZone, _, hLock⟩ | ⟨hZone, hLock⟩
    · rw [hZone]
      exact ⟨rfl, hLock⟩
    · rw [hZone]
      exact hLock
  · simp
  · rfl
  · rw [hWorker]
    rfl

/- `Ctx->Lock->Acquire()` waits for the test's release. -/
theorem Inv.worker_acquire
    (hInv : Inv refused expiries s)
    (hWorker : s.worker = .acquire)
    (hNext : workerNext s = some t) :
    Inv refused expiries t := by
  have hZone := hInv.zone_of_worker
    (by simp [hWorker]) (by simp [hWorker])
  have hIdle := hInv.signal.worker
  rw [hWorker] at hZone hIdle
  have hThere :=
    (hInv.there (by simp [hWorker]) (by simp [hWorker])).2.1
  rcases hZone with ⟨hZone, _, hLock⟩ | ⟨hZone, hLock⟩
  · simp [workerNext, hWorker, ifThere, hThere, hLock,
      pthreadMutexLock_held, onLock] at hNext
  · simp only [workerNext, hWorker, ifThere, hThere, hLock]
      at hNext
    cases hNext
    apply hInv.worker_moves hIdle
    · simp [hWorker]
    · rw [hZone]
      rfl
    · simp
    · rfl
    · rw [hWorker]
      rfl

/- `Ctx->Lock->Release()`. -/
theorem Inv.worker_release
    (hInv : Inv refused expiries s)
    (hWorker : s.worker = .release)
    (hNext : workerNext s = some t) :
    Inv refused expiries t := by
  have hOpened := hInv.opened_of_late
    (by rw [hWorker]; rfl) (by simp [hWorker])
  have hIdle := hInv.signal.worker
  rw [hWorker] at hOpened hIdle
  rcases hOpened with ⟨hZone, hLock⟩
  have hThere :=
    (hInv.there (by simp [hWorker]) (by simp [hWorker])).2.1
  simp only [workerNext, hWorker, ifThere, hThere, hLock,
    WorkerPc.lock, pthreadMutexUnlock_held, onLock] at hNext
  cases hNext
  apply hInv.worker_moves hIdle
  · simp [hWorker]
  · rw [hZone]
    rfl
  · simp
  · rfl
  · rw [hWorker]
    rfl

/- A statement of the thread in the event. -/
theorem Inv.worker_event
    {worker : WorkerPc}
    (hInv : Inv refused expiries s)
    (hStep :
      Threads.step Posix.program s.events (.worker, choice) =
        some d)
    (hZone : s.test.zone = .opened)
    (hThere : s.worker ≠ .absent)
    (hStill : worker ≠ .absent)
    (hLock : s.lock = worker.lock)
    (hAllows : worker.Allows (d.locals .worker).pc.phase)
    (hRaised :
      d.shared.signaled = true →
        worker.stored (d.locals .worker).pc.phase = true)
    (hKept :
      worker.stored (d.locals .worker).pc.phase = true →
        d.shared.signaled = true ∨
          s.worker.stored (s.pc .worker).phase = true ∧
            d.shared.signaled = s.events.shared.signaled) :
    Inv refused expiries { s with events := d, worker } := by
  rcases hInv with ⟨hFault, hControl, hSignal, hTally⟩
  have hOther : (d.locals .test).pc = s.pc .test :=
    other_pc hStep (by simp)
  refine ⟨hFault, ?_, ?_, ?_⟩
  · constructor
    · show Situation s.test.zone worker s.lock
      rw [hZone]
      exact hLock
    · exact (iff_of_false hStill hThere).trans
        hControl.absent
    · exact hControl.initialized.trans
        (iff_of_true hThere hStill)
  · constructor
    · exact reached_step hSignal.reached hStep
    · show s.test.Allows (d.locals .test).pc.phase
      rw [hOther]
      exact hSignal.test
    · exact hAllows
    · exact hRaised
    · show _ → s.test.awaits (d.locals .test).pc.phase = _ → _
      rw [hOther]
      intro hStored hAwaits
      rcases hKept hStored with hNow | ⟨hBefore, hSame⟩
      · exact hNow
      · exact hSame.trans (hSignal.kept hBefore hAwaits)
  · refine ⟨?_, hTally.failures, hTally.none⟩
    rw [hTally.expiries]
    unfold State.expiries State.pc
    rw [hOther]
    rfl

/- The call of `Ctx->Event->Set()`. -/
theorem Inv.worker_call
    (hInv : Inv refused expiries s)
    (hWorker : s.worker = .call)
    (hNext : workerNext s = some t) :
    Inv refused expiries t := by
  have hOpened := hInv.opened_of_late
    (by rw [hWorker]; rfl) (by simp [hWorker])
  have hIdle := hInv.signal.worker
  have hRaised := hInv.signal.raised
  rw [hWorker] at hOpened hIdle hRaised
  rcases hOpened with ⟨hZone, hLock⟩
  have hThere :=
    (hInv.there (by simp [hWorker]) (by simp [hWorker])).2.2
  simp only [workerNext, hWorker, ifThere, hThere, onEvent]
    at hNext
  rcases Option.map_eq_some_iff.mp hNext with ⟨d, hStep, rfl⟩
  rcases Posix.step_call_or_moves hStep
    with ⟨_, ⟨_, hShared, hEntry⟩ | ⟨hBusy, _⟩⟩
  · have hPc : (d.locals .worker).pc = .setLock :=
      (Option.some.inj hEntry).symm
    apply hInv.worker_event hStep hZone
    · simp [hWorker]
    · simp
    · exact hLock
    · rw [hPc]
      exact Or.inl rfl
    · rw [hShared]
      intro hSignaled
      exact absurd (hRaised hSignaled) (by simp [WorkerPc.stored])
    · rw [hPc]
      intro hStored
      cases hStored
  · exact absurd (idle_of_phase hIdle) hBusy

/- A statement of `Set`. -/
theorem Shift.sets
    {before after : Phase}
    {signaled signaled' : Bool}
    (hShift : Shift true before signaled after signaled')
    (hSets : before = .called .set ∨ before = .done .set true) :
    after = before ∧ signaled' = signaled ∨
      after = .done .set true ∧ signaled' = true ∨
      before = .done .set true ∧ after = .idle ∧
        signaled' = signaled := by
  cases hShift with
  | quiet => exact Or.inl ⟨rfl, rfl⟩
  | set => exact Or.inr (Or.inl ⟨rfl, rfl⟩)
  | returns op result =>
      have hDone : op = .set ∧ result = true := by
        simpa using hSets
      rcases hDone with ⟨rfl, rfl⟩
      exact Or.inr (Or.inr ⟨rfl, rfl, rfl⟩)
  | _ => simp at hSets

/- `Ctx->Event->Set()`. -/
theorem Inv.worker_setting
    (hInv : Inv refused expiries s)
    (hWorker : s.worker = .setting)
    (hNext : workerNext s = some t) :
    Inv refused expiries t := by
  have hOpened := hInv.opened_of_late
    (by rw [hWorker]; rfl) (by simp [hWorker])
  have hSets := hInv.signal.worker
  have hRaised := hInv.signal.raised
  rw [hWorker] at hOpened hSets hRaised
  rcases hOpened with ⟨hZone, hLock⟩
  have hThere :=
    (hInv.there (by simp [hWorker]) (by simp [hWorker])).2.2
  simp only [workerNext, hWorker, ifThere, hThere, onEvent]
    at hNext
  rcases Option.map_eq_some_iff.mp hNext with ⟨d, hStep, rfl⟩
  rcases (shift_of_step hInv.signal.reached hStep).sets hSets
    with ⟨hPhase, hSame⟩ | ⟨hPhase, hSignaled⟩ |
      ⟨hBefore, hPhase, hSame⟩
  · have hBusy : (d.locals .worker).pc ≠ .idle := by
      intro hIdle
      rw [hIdle] at hPhase
      rcases hSets with hCalled | hDone
      · cases hPhase.trans hCalled
      · cases hPhase.trans hDone
    rw [if_neg hBusy]
    apply hInv.worker_event hStep hZone
    · simp [hWorker]
    · simp
    · exact hLock
    · rw [hPhase]
      exact hSets
    · rw [hPhase, hSame]
      exact hRaised
    · rw [hPhase, hWorker]
      exact fun hStored => Or.inr ⟨hStored, hSame⟩
  · have hBusy : (d.locals .worker).pc ≠ .idle := by
      intro hIdle
      rw [hIdle] at hPhase
      cases hPhase
    rw [if_neg hBusy]
    apply hInv.worker_event hStep hZone
    · simp [hWorker]
    · simp
    · exact hLock
    · exact Or.inr hPhase
    · rw [hPhase]
      exact fun _ => rfl
    · exact fun _ => Or.inl hSignaled
  · rw [if_pos (idle_of_phase hPhase)]
    apply hInv.worker_event hStep hZone
    · simp [hWorker]
    · simp
    · exact hLock
    · exact hPhase
    · exact fun _ => rfl
    · refine fun _ => Or.inr ⟨?_, hSame⟩
      rw [hWorker, State.pc, hBefore]
      rfl

end LockTest

end CxPlat

------------------------------------------------------------
-- Steps and Runs
------------------------------------------------------------

namespace CxPlat

namespace LockTest

variable {setup : Setup} {refused : Bool} {expiries : Nat}
  {s t : State} {action : Action} {moves : List Action}

/- The time is up in a wait. -/
def Action.expires : Action → Bool
  | .wake expired => expired
  | _ => false

/- The next statement of the thread. -/
theorem Inv.worker_next
    (hInv : Inv refused expiries s)
    (hNext : workerNext s = some t) :
    Inv refused expiries t := by
  cases hWorker : s.worker with
  | absent => simp [workerNext, hWorker] at hNext
  | enter => exact hInv.worker_enter hWorker hNext
  | acquire => exact hInv.worker_acquire hWorker hNext
  | call => exact hInv.worker_call hWorker hNext
  | setting => exact hInv.worker_setting hWorker hNext
  | release => exact hInv.worker_release hWorker hNext
  | finished => simp [workerNext, hWorker] at hNext

theorem Inv.step
    (hTells : setup.Tells refused)
    (hInv : Inv refused expiries s)
    (hStep : LockTest.step setup s action = some t) :
    Inv refused (expiries + action.expires.toNat) t := by
  unfold LockTest.step at hStep
  rw [if_neg (by simp [hInv.fault])] at hStep
  cases action with
  | next party =>
      cases party with
      | test => exact hInv.test_next hTells hStep
      | worker => exact hInv.worker_next hStep
  | wake expired =>
      simp only [wakeUp] at hStep
      split at hStep
      next wait hTest =>
        have hWaiting := hInv.test_waiting hTest hStep
        cases expired <;> exact hWaiting
      next => contradiction

/- Along a run, with the expiries counted. -/
theorem Inv.run
    (hTells : setup.Tells refused)
    (hInv : Inv refused expiries s)
    (hRun :
      Transition.run (LockTest.step setup) s moves =
        some t) :
    Inv refused (expiries + moves.countP Action.expires)
      t := by
  induction moves generalizing expiries s with
  | nil =>
      cases hRun
      simpa using hInv
  | cons move moves ih =>
      rcases Transition.run_cons_some hRun
        with ⟨m, hStep, hRest⟩
      have hNext := ih (hInv.step hTells hStep) hRest
      rw [List.countP_cons]
      cases hExpires : move.expires with
      | true =>
          rw [hExpires, Bool.toNat_true, Nat.add_right_comm]
            at hNext
          exact hNext
      | false => simpa [hExpires] using hNext

end LockTest

end CxPlat
