import CxPlat.TestDriver.Harness
import Mathlib.Data.Fintype.Basic

/-
  What the kernel-mode test driver makes of its tests, over
  all orders in which programs, requests and cleanups can
  take their steps.

  `CxPlatDriverClient::Run` returns true only if the test has
  run and has logged no failure.  The converse needs runs in
  which nothing times out and no file is opened while another
  one is cleaned up: otherwise a test may be blamed for the
  failure of another one, and a failure that is logged when
  `CxPlatTestClient` is null brings the system down.

  Key definitions include:
    * `Passed`
    * `Reliable`
    * `Quiet`, `Truthful`

  Key theorems include:
    * `passed_step`
    * `passes_are_right`
    * `harness_truthful`
-/

------------------------------------------------------------
-- What the Answers Say
------------------------------------------------------------

namespace CxPlat

namespace TestDriver

variable {F R : Type} {s t : Harness F R}
variable {action : Action F R} {r : R}

/- The request has run a test, which has logged no failure. -/
def Passed
    (s : Harness F R)
    (r : R) : Prop :=
  (∃ request routine,
    s.sent r = some request ∧
      deviceControl request = .runs routine) ∧
  s.logged r = false

theorem passed_congr
    (hSent : t.sent r = s.sent r)
    (hLogged : t.logged r = s.logged r) :
    Passed t r ↔ Passed s r := by
  unfold Passed
  rw [hSent, hLogged]

/- A request that runs nothing is not a success. -/
theorem ntSuccess_of_completes
    {request : IoRequest}
    {status : Status}
    (hControl : deviceControl request = .completes status) :
    ntSuccess status = false := by
  rcases deviceControl_cases request with
    ⟨routine, hRuns⟩ | ⟨found, hFound, hFails⟩
  · rw [hControl] at hRuns
    cases hRuns
  · rw [hControl] at hFound
    cases hFound
    exact hFails

/- The status is about the flag. -/
theorem ntSuccess_routineStatus_iff
    (d : Device F)
    (f : F) :
    ntSuccess (routineStatus d f) = true ↔
      d.testFailure f = false := by
  unfold routineStatus
  cases d.testFailure f with
  | false => decide
  | true => decide

variable [DecidableEq F] [DecidableEq R]

/- What an update has not made was there before. -/
theorem old_of_update
    {α β : Type}
    [DecidableEq α]
    {values : α → β}
    {a b : α}
    {x y : β}
    (hNe : x ≠ y)
    (hValue : Function.update values a x b = y) :
    b ≠ a ∧ values b = y := by
  by_cases hSame : b = a
  · subst hSame
    rw [Function.update_self] at hValue
    exact absurd hValue hNe
  · rw [Function.update_of_ne hSame] at hValue
    exact ⟨hSame, hValue⟩

theorem fresh_step
    (hFresh :
      ∀ r, s.requests r = .unsent → s.logged r = false)
    (hMoves : Moves s action t)
    (r : R)
    (hRequest : t.requests r = .unsent) :
    t.logged r = false := by
  cases hMoves with
  | completes =>
      exact hFresh r
        (old_of_update (by simp) hRequest).2
  | runs =>
      exact hFresh r
        (old_of_update (by simp) hRequest).2
  | finish =>
      exact hFresh r
        (old_of_update (by simp) hRequest).2
  | @logs r' f g routine hRuns hClient =>
      have hOld : s.requests r = .unsent := hRequest
      have hOther : r ≠ r' :=
        ne_of_apply_ne s.requests (by simp [hOld, hRuns])
      simp only [Function.update_of_ne hOther]
      exact hFresh r hRequest
  | @crashes r' f routine hRuns hClient =>
      have hOld : s.requests r = .unsent := hRequest
      have hOther : r ≠ r' :=
        ne_of_apply_ne s.requests (by simp [hOld, hRuns])
      simp only [Function.update_of_ne hOther]
      exact hFresh r hRequest
  | _ => exact hFresh r hRequest

/- A step does not change what a completed request was. -/
theorem passed_step
    (hMoves : Moves s action t)
    {status : Status}
    (hRequest : s.requests r = .completed status) :
    t.requests r = .completed status ∧
      (Passed t r ↔ Passed s r) := by
  cases hMoves with
  | @completes f r' request status' _ _ hNew =>
      have hOther : r ≠ r' :=
        ne_of_apply_ne s.requests (by simp [hRequest, hNew])
      refine ⟨?_, passed_congr ?_ rfl⟩
      · simpa [hOther] using hRequest
      · simp [hOther]
  | @runs f r' request routine _ _ hNew =>
      have hOther : r ≠ r' :=
        ne_of_apply_ne s.requests (by simp [hRequest, hNew])
      refine ⟨?_, passed_congr ?_ rfl⟩
      · simpa [hOther] using hRequest
      · simp [hOther]
  | @logs r' f g routine hRuns =>
      have hOther : r ≠ r' :=
        ne_of_apply_ne s.requests (by simp [hRequest, hRuns])
      refine ⟨hRequest, passed_congr rfl ?_⟩
      simp [hOther]
  | @crashes r' f routine hRuns =>
      have hOther : r ≠ r' :=
        ne_of_apply_ne s.requests (by simp [hRequest, hRuns])
      refine ⟨hRequest, passed_congr rfl ?_⟩
      simp [hOther]
  | @finish r' f routine hRuns =>
      have hOther : r ≠ r' :=
        ne_of_apply_ne s.requests (by simp [hRequest, hRuns])
      refine ⟨?_, passed_congr rfl rfl⟩
      simpa [hOther] using hRequest
  | _ => exact ⟨hRequest, passed_congr rfl rfl⟩

end TestDriver

end CxPlat

------------------------------------------------------------
-- A Pass Is Right
------------------------------------------------------------

namespace CxPlat

namespace TestDriver

variable {F R : Type} {s t : Harness F R}
variable {action : Action F R} {r : R}

/-
  What holds in every run.  The current client can only be
  the one that is open, or none.  A request that somebody
  waits for runs for that file; if it has logged a failure,
  the flag is up, since only a new request of the same file
  takes it down.
-/
structure Reliable
    (s : Harness F R) : Prop where
  oneClient : OneClient s
  current :
    ∀ f g,
      s.files f = .opened →
        s.device.testClient = some g → g = f
  fresh :
    ∀ r, s.requests r = .unsent → s.logged r = false
  waits :
    ∀ f r,
      s.waiting f = some r →
        s.files f = .opened ∧ s.requests r ≠ .unsent
  running :
    ∀ r f routine,
      s.requests r = .running f routine →
        (∃ request,
          s.sent r = some request ∧
            deviceControl request = .runs routine) ∧
        ∀ g, s.waiting g = some r → g = f
  flag :
    s.crashed = false →
      ∀ r f routine,
        s.requests r = .running f routine →
          s.waiting f = some r →
            s.logged r = true →
              s.device.testFailure f = true
  verdict :
    ∀ r f status,
      s.waiting f = some r →
        s.requests r = .completed status →
          ntSuccess status = true → Passed s r
  answered :
    ∀ r,
      (r, true) ∈ s.answers →
        (∃ status, s.requests r = .completed status) ∧
          Passed s r

theorem reliable_start :
    Reliable (start : Harness F R) := by
  refine ⟨oneClient_start, ?_, ?_, ?_, ?_, ?_, ?_, ?_⟩
  · intro f g hPhase
    cases hPhase
  · intro r _
    rfl
  · intro f r hWaiting
    cases hWaiting
  · intro r f routine hRequest
    cases hRequest
  · intro _ r f routine hRequest
    cases hRequest
  · intro r f status hWaiting
    cases hWaiting
  · intro r hMem
    cases hMem

variable [DecidableEq F] [DecidableEq R]

/- Somebody waits since before, or for a new request. -/
theorem waiting_of_moves
    (hMoves : Moves s action t)
    {f : F}
    (hWaiting : t.waiting f = some r) :
    s.waiting f = some r ∨
      (∃ request, action = .send f r request) ∧
        s.files f = .opened ∧ s.requests r = .unsent := by
  cases hMoves with
  | @completes g r' request status hPhase _ hNew =>
      by_cases hSame : f = g
      · subst hSame
        simp only [Function.update_self] at hWaiting
        cases hWaiting
        exact Or.inr ⟨⟨request, rfl⟩, hPhase, hNew⟩
      · simp only [Function.update_of_ne hSame] at hWaiting
        exact Or.inl hWaiting
  | @runs g r' request routine hPhase _ hNew =>
      by_cases hSame : f = g
      · subst hSame
        simp only [Function.update_self] at hWaiting
        cases hWaiting
        exact Or.inr ⟨⟨request, rfl⟩, hPhase, hNew⟩
      · simp only [Function.update_of_ne hSame] at hWaiting
        exact Or.inl hWaiting
  | receive =>
      exact Or.inl (old_of_update (by simp) hWaiting).2
  | timeOut =>
      exact Or.inl (old_of_update (by simp) hWaiting).2
  | _ => exact Or.inl hWaiting

theorem reliable_current
    (hReliable : Reliable s)
    (hOne : OneClient t)
    (hMoves : Moves s action t)
    (f g : F)
    (hOpened : t.files f = .opened)
    (hClient : t.device.testClient = some g) :
    g = f := by
  cases hMoves with
  | @opened h hPhase hSize =>
      have hHere :
          Function.update s.files h FilePhase.opened h =
            .opened :=
        Function.update_self ..
      cases hClient
      exact hOne.unique hHere hOpened
  | refused =>
      exact hReliable.current f g
        (old_of_update (by decide) hOpened).2 hClient
  | closeFile =>
      exact hReliable.current f g
        (old_of_update (by decide) hOpened).2 hClient
  | clear => cases hClient
  | _ => exact hReliable.current f g hOpened hClient

/- What has been sent stays sent. -/
theorem unsent_of_moves
    (hMoves : Moves s action t)
    (hUnsent : t.requests r = .unsent) :
    s.requests r = .unsent ∧
      ∀ f request, action ≠ .send f r request := by
  cases hMoves with
  | completes =>
      rcases old_of_update (by simp) hUnsent with
        ⟨hOther, hOld⟩
      exact ⟨hOld, by simp [hOther.symm]⟩
  | runs =>
      rcases old_of_update (by simp) hUnsent with
        ⟨hOther, hOld⟩
      exact ⟨hOld, by simp [hOther.symm]⟩
  | finish =>
      exact ⟨(old_of_update (by simp) hUnsent).2, by simp⟩
  | _ => exact ⟨hUnsent, by simp⟩

/- A file that somebody waits on stays open. -/
theorem opened_of_waiting
    (hReliable : Reliable s)
    (hMoves : Moves s action t)
    {f : F}
    (hWaiting : t.waiting f = some r)
    (hOpened : s.files f = .opened) :
    t.files f = .opened := by
  cases hMoves with
  | @opened g hPhase hSize =>
      have hOther : f ≠ g :=
        ne_of_apply_ne s.files (by simp [hOpened, hPhase])
      simpa [hOther] using hOpened
  | @refused g hasContext hPhase =>
      have hOther : f ≠ g :=
        ne_of_apply_ne s.files (by simp [hOpened, hPhase])
      simpa [hOther] using hOpened
  | @closeFile g hPhase hNone =>
      have hSame :=
        hReliable.oneClient.unique hOpened hPhase
      subst hSame
      simp only [hNone] at hWaiting
      cases hWaiting
  | @clear g hPhase =>
      have hOther : f ≠ g :=
        ne_of_apply_ne s.files (by simp [hOpened, hPhase])
      simpa [hOther] using hOpened
  | _ => exact hOpened

theorem reliable_waits
    (hReliable : Reliable s)
    (hMoves : Moves s action t)
    (f : F)
    (r : R)
    (hWaiting : t.waiting f = some r) :
    t.files f = .opened ∧ t.requests r ≠ .unsent := by
  rcases waiting_of_moves hMoves hWaiting with
    hOld | ⟨⟨request, hSend⟩, hPhase, _⟩
  · rcases hReliable.waits f r hOld with ⟨hOpened, hSent⟩
    refine ⟨opened_of_waiting hReliable hMoves hWaiting
      hOpened, ?_⟩
    intro hUnsent
    exact hSent (unsent_of_moves hMoves hUnsent).1
  · refine ⟨opened_of_waiting hReliable hMoves hWaiting
      hPhase, ?_⟩
    intro hUnsent
    exact (unsent_of_moves hMoves hUnsent).2 f request hSend

/- A request runs since before, or it has just been sent. -/
theorem running_of_moves
    (hMoves : Moves s action t)
    {f : F}
    {routine : Routine}
    (hRequest : t.requests r = .running f routine) :
    s.requests r = .running f routine ∧
        t.sent r = s.sent r ∨
      s.requests r = .unsent ∧ t.logged r = s.logged r ∧
        ∃ request,
          action = .send f r request ∧
            t.sent r = some request ∧
            deviceControl request = .runs routine := by
  cases hMoves with
  | @completes g r' request status _ _ hNew =>
      rcases old_of_update (by simp) hRequest with
        ⟨hOther, hOld⟩
      exact Or.inl ⟨hOld, by simp [hOther]⟩
  | @runs g r' request routine' _ _ hNew hControl =>
      by_cases hSame : r = r'
      · subst hSame
        simp only [Function.update_self] at hRequest
        cases hRequest
        exact Or.inr ⟨hNew, rfl, request, rfl,
          Function.update_self .., hControl⟩
      · simp only [Function.update_of_ne hSame] at hRequest
        exact Or.inl ⟨hRequest, by simp [hSame]⟩
  | finish =>
      exact Or.inl
        ⟨(old_of_update (by simp) hRequest).2, rfl⟩
  | _ => exact Or.inl ⟨hRequest, rfl⟩

theorem reliable_running
    (hReliable : Reliable s)
    (hMoves : Moves s action t)
    (r : R)
    (f : F)
    (routine : Routine)
    (hRequest : t.requests r = .running f routine) :
    (∃ request,
      t.sent r = some request ∧
        deviceControl request = .runs routine) ∧
    ∀ g, t.waiting g = some r → g = f := by
  rcases running_of_moves hMoves hRequest with
    ⟨hOld, hSent⟩ | ⟨hNew, _, request, hSend, hSent, hControl⟩
  · rcases hReliable.running r f routine hOld with
      ⟨hRan, hOwner⟩
    rw [hSent]
    refine ⟨hRan, ?_⟩
    intro g hWaiting
    rcases waiting_of_moves hMoves hWaiting with
      hBefore | ⟨_, _, hUnsent⟩
    · exact hOwner g hBefore
    · rw [hUnsent] at hOld
      cases hOld
  · refine ⟨⟨request, hSent, hControl⟩, ?_⟩
    intro g hWaiting
    rcases waiting_of_moves hMoves hWaiting with
      hBefore | ⟨⟨request', hSend'⟩, _, _⟩
    · exact absurd hNew (hReliable.waits g r hBefore).2
    · rw [hSend] at hSend'
      cases hSend'
      rfl

/- No step takes down the flag of a file that waits. -/
theorem flag_of_moves
    (hReliable : Reliable s)
    (hMoves : Moves s action t)
    {f : F}
    (hOpened : s.files f = .opened)
    (hWaiting : s.waiting f = some r)
    (hFlag : s.device.testFailure f = true) :
    t.device.testFailure f = true := by
  cases hMoves with
  | @opened g hPhase hSize =>
      have hOther : f ≠ g :=
        ne_of_apply_ne s.files (by simp [hOpened, hPhase])
      simpa [hOther] using hFlag
  | @runs g r' request routine hPhase hNone =>
      have hSame :=
        hReliable.oneClient.unique hOpened hPhase
      rw [hSame, hNone] at hWaiting
      cases hWaiting
  | @logs r' g h routine hRuns hClient =>
      by_cases hSame : f = h
      · subst hSame
        simp
      · simpa [hSame] using hFlag
  | _ => exact hFlag

theorem reliable_flag
    (hReliable : Reliable s)
    (hAlive : s.crashed = false)
    (hMoves : Moves s action t)
    (hAfter : t.crashed = false)
    (r : R)
    (f : F)
    (routine : Routine)
    (hRequest : t.requests r = .running f routine)
    (hWaiting : t.waiting f = some r)
    (hLogged : t.logged r = true) :
    t.device.testFailure f = true := by
  rcases running_of_moves hMoves hRequest with
    ⟨hOld, _⟩ | ⟨hNew, hSame, _⟩
  · have hWaits : s.waiting f = some r := by
      rcases waiting_of_moves hMoves hWaiting with
        hBefore | ⟨_, _, hUnsent⟩
      · exact hBefore
      · rw [hUnsent] at hOld
        cases hOld
    have hOpened := (hReliable.waits f r hWaits).1
    -- The failure was logged before, or it is just now.
    by_cases hBefore : s.logged r = true
    · exact flag_of_moves hReliable hMoves hOpened hWaits
        (hReliable.flag hAlive r f routine hOld hWaits
          hBefore)
    · cases hMoves with
      | @logs r' g h routine' hRuns hClient =>
          have hHere := hReliable.current f h hOpened hClient
          subst hHere
          simp
      | crashes => cases hAfter
      | _ => exact absurd hLogged hBefore
  · rw [hSame, hReliable.fresh r hNew] at hLogged
    cases hLogged

/- How a request comes to be completed. -/
theorem completed_of_moves
    (hMoves : Moves s action t)
    {status : Status}
    (hRequest : t.requests r = .completed status) :
    s.requests r = .completed status ∨
      ntSuccess status = false ∨
      ∃ f routine,
        s.requests r = .running f routine ∧
          status = routineStatus s.device f ∧
          (Passed t r ↔ Passed s r) := by
  cases hMoves with
  | @completes f r' request status' _ _ _ hControl =>
      by_cases hSame : r = r'
      · subst hSame
        simp only [Function.update_self] at hRequest
        cases hRequest
        exact Or.inr (Or.inl (ntSuccess_of_completes hControl))
      · simp only [Function.update_of_ne hSame] at hRequest
        exact Or.inl hRequest
  | runs =>
      exact Or.inl (old_of_update (by simp) hRequest).2
  | @finish r' f routine hRuns =>
      by_cases hSame : r = r'
      · subst hSame
        simp only [Function.update_self] at hRequest
        cases hRequest
        exact Or.inr (Or.inr
          ⟨f, routine, hRuns, rfl, passed_congr rfl rfl⟩)
      · simp only [Function.update_of_ne hSame] at hRequest
        exact Or.inl hRequest
  | _ => exact Or.inl hRequest

theorem reliable_verdict
    (hReliable : Reliable s)
    (hAlive : s.crashed = false)
    (hMoves : Moves s action t)
    (r : R)
    (f : F)
    (status : Status)
    (hWaiting : t.waiting f = some r)
    (hRequest : t.requests r = .completed status)
    (hSuccess : ntSuccess status = true) :
    Passed t r := by
  have hWaits :
      s.requests r ≠ .unsent → s.waiting f = some r := by
    intro hSent
    rcases waiting_of_moves hMoves hWaiting with
      hBefore | ⟨_, _, hUnsent⟩
    · exact hBefore
    · exact absurd hUnsent hSent
  rcases completed_of_moves hMoves hRequest with
    hOld | hFails | ⟨g, routine, hRuns, hStatus, hPassed⟩
  · rw [(passed_step hMoves hOld).2]
    exact hReliable.verdict r f status
      (hWaits (by simp [hOld])) hOld hSuccess
  · rw [hFails] at hSuccess
    cases hSuccess
  · have hBefore := hWaits (by simp [hRuns])
    rcases hReliable.running r g routine hRuns with
      ⟨⟨request, hSent, hControl⟩, hOwner⟩
    have hSame := hOwner f hBefore
    subst hSame
    rw [hStatus, ntSuccess_routineStatus_iff] at hSuccess
    rw [hPassed]
    refine ⟨⟨request, routine, hSent, hControl⟩, ?_⟩
    -- A failure would have put the flag up.
    by_contra hLogged
    have hFlag := hReliable.flag hAlive r f routine hRuns
      hBefore (by simpa using hLogged)
    rw [hFlag] at hSuccess
    cases hSuccess

theorem reliable_answered
    (hReliable : Reliable s)
    (hMoves : Moves s action t)
    (r : R)
    (hMem : (r, true) ∈ t.answers) :
    (∃ status, t.requests r = .completed status) ∧
      Passed t r := by
  have hKept :
      (r, true) ∈ s.answers →
        (∃ status, t.requests r = .completed status) ∧
          Passed t r := by
    intro hOld
    rcases hReliable.answered r hOld with
      ⟨⟨status, hRequest⟩, hPassed⟩
    rcases passed_step hMoves hRequest with ⟨hStill, hSame⟩
    exact ⟨⟨status, hStill⟩, hSame.mpr hPassed⟩
  cases hMoves with
  | @receive f r' status hWaiting hDone =>
      rcases List.mem_append.mp hMem with hOld | hNew
      · exact hKept hOld
      · have hPair := List.mem_singleton.mp hNew
        rw [Prod.mk.injEq] at hPair
        rcases hPair with ⟨hSame, hSuccess⟩
        subst hSame
        exact ⟨⟨status, hDone⟩,
          hReliable.verdict r f status hWaiting hDone
            hSuccess.symm⟩
  | timeOut =>
      rcases List.mem_append.mp hMem with hOld | hNew
      · exact hKept hOld
      · simp at hNew
  | _ => exact hKept hMem

theorem reliable_step
    (hReliable : Reliable s)
    (hStep : step s action = some t) :
    Reliable t := by
  have hOne := oneClient_step hReliable.oneClient hStep
  rcases moves_of_step hStep with ⟨hAlive, hMoves⟩
  constructor
  · exact hOne
  · exact reliable_current hReliable hOne hMoves
  · exact fresh_step hReliable.fresh hMoves
  · exact reliable_waits hReliable hMoves
  · exact reliable_running hReliable hMoves
  · exact reliable_flag hReliable hAlive hMoves
  · exact reliable_verdict hReliable hAlive hMoves
  · exact reliable_answered hReliable hMoves

/- A request that the driver is ready for. -/
def askFor
    (code : BitVec 32) : IoRequest where
  irql := 0
  hasFileObject := true
  hasFileContext := true
  inputBufferLength := 0
  retrieveStatus := statusSuccess
  retrievesBuffer := false
  ioControlCode := code

end TestDriver

end CxPlat

------------------------------------------------------------
-- Quiet Runs
------------------------------------------------------------

namespace CxPlat

namespace TestDriver

variable {F R : Type} {s t : Harness F R}
variable {action : Action F R} {r : R}

/-
  No wait times out, and no file is opened while another one
  is in the last part of its cleanup.
-/
def Quiet
    (s : Harness F R) : Action F R → Prop
  | .timeOut _ => False
  | .openFile _ _ => ∀ g, s.files g ≠ .clearing
  | _ => True

instance
    [Fintype F]
    (s : Harness F R)
    (action : Action F R) :
    Decidable (Quiet s action) := by
  unfold Quiet
  split
  · infer_instance
  · infer_instance
  · infer_instance

/-
  A request runs for the file that is open and waits for it,
  and the flag of the client is about the request.
-/
structure RunsFor
    (s : Harness F R)
    (r : R)
    (f : F)
    (routine : Routine) : Prop where
  opened : s.files f = .opened
  waits : s.waiting f = some r
  flag : s.device.testFailure f = s.logged r
  sent :
    ∃ request,
      s.sent r = some request ∧
        deviceControl request = .runs routine

/-
  What holds as long as nothing times out: the current client
  is the one that is open, requests run for it, and what has
  been answered is right.
-/
structure Truthful
    (s : Harness F R) : Prop where
  reliable : Reliable s
  alive : s.crashed = false
  current :
    ∀ f,
      s.files f = .opened → s.device.testClient = some f
  apart :
    ∀ f g, s.files f = .opened → s.files g ≠ .clearing
  running :
    ∀ r f routine,
      s.requests r = .running f routine →
        RunsFor s r f routine
  verdict :
    ∀ r status,
      s.requests r = .completed status →
        (ntSuccess status = true ↔ Passed s r)
  answered :
    ∀ r answer,
      (r, answer) ∈ s.answers →
        (∃ status, s.requests r = .completed status) ∧
          (answer = true ↔ Passed s r)

theorem truthful_start :
    Truthful (start : Harness F R) := by
  refine ⟨reliable_start, rfl, ?_, ?_, ?_, ?_, ?_⟩
  · intro f hPhase
    cases hPhase
  · intro f g hPhase
    cases hPhase
  · intro r f routine hRequest
    cases hRequest
  · intro r status hRequest
    cases hRequest
  · intro r answer hMem
    cases hMem

/- Only one request runs at a time. -/
theorem Truthful.running_unique
    (hTruthful : Truthful s)
    {r r' : R}
    {f f' : F}
    {routine routine' : Routine}
    (hFirst : s.requests r = .running f routine)
    (hSecond : s.requests r' = .running f' routine') :
    f = f' ∧ r = r' := by
  have hRuns := hTruthful.running r f routine hFirst
  have hRuns' := hTruthful.running r' f' routine' hSecond
  have hSame :=
    hTruthful.reliable.oneClient.unique hRuns.opened hRuns'.opened
  subst hSame
  refine ⟨rfl, ?_⟩
  rw [← Option.some_inj, ← hRuns.waits, hRuns'.waits]

/- While a file is open and waits for nothing, none runs. -/
theorem Truthful.idle
    (hTruthful : Truthful s)
    {f : F}
    (hPhase : s.files f = .opened)
    (hWaiting : s.waiting f = none)
    (r : R)
    (g : F)
    (routine : Routine) :
    s.requests r ≠ .running g routine := by
  intro hRequest
  have hRuns := hTruthful.running r g routine hRequest
  have hWaits := hRuns.waits
  rw [hTruthful.reliable.oneClient.unique hRuns.opened hPhase,
    hWaiting] at hWaits
  cases hWaits

variable [DecidableEq F] [DecidableEq R]

theorem current_step
    (hTruthful : Truthful s)
    (hOne : OneClient t)
    (hMoves : Moves s action t)
    (f : F)
    (hOpened : t.files f = .opened) :
    t.device.testClient = some f := by
  cases hMoves with
  | @opened g hPhase hSize =>
      have hHere :
          Function.update s.files g FilePhase.opened g =
            .opened :=
        Function.update_self ..
      rw [hOne.unique hHere hOpened]
  | refused =>
      exact hTruthful.current f
        (old_of_update (by decide) hOpened).2
  | closeFile =>
      exact hTruthful.current f
        (old_of_update (by decide) hOpened).2
  | clear hPhase =>
      -- Nothing is open while a cleanup comes to its end.
      have hOld := (old_of_update (by decide) hOpened).2
      exact absurd hPhase (hTruthful.apart f _ hOld)
  | _ => exact hTruthful.current f hOpened

theorem apart_step
    (hTruthful : Truthful s)
    (hQuiet : Quiet s action)
    (hMoves : Moves s action t)
    (f g : F)
    (hOpened : t.files f = .opened) :
    t.files g ≠ .clearing := by
  cases hMoves with
  | @opened h hPhase hSize =>
      by_cases hSame : g = h
      · subst hSame
        simp
      · simpa [hSame] using hQuiet g
  | @refused h hasContext hPhase =>
      have hOld := (old_of_update (by decide) hOpened).2
      by_cases hSame : g = h
      · subst hSame
        simp
      · simpa [hSame] using hTruthful.apart f g hOld
  | closeFile hPhase =>
      -- The file that is closed was the only one open.
      rcases old_of_update (by decide) hOpened with
        ⟨hOther, hOld⟩
      exact absurd
        (hTruthful.reliable.oneClient.unique hOld hPhase) hOther
  | @clear h hPhase =>
      have hOld := (old_of_update (by decide) hOpened).2
      exact absurd hPhase (hTruthful.apart f _ hOld)
  | _ => exact hTruthful.apart f g hOpened

/- A failure is logged with the client that runs the test. -/
theorem RunsFor.logs
    {f : F}
    {routine : Routine}
    (hRuns : RunsFor s r f routine) :
    RunsFor
      { s with
        device :=
          { s.device with
            testFailure :=
              Function.update s.device.testFailure f true }
        logged := Function.update s.logged r true }
      r f routine := by
  refine ⟨hRuns.opened, hRuns.waits, ?_, hRuns.sent⟩
  simp

theorem running_step
    (hTruthful : Truthful s)
    (hQuiet : Quiet s action)
    (hMoves : Moves s action t)
    (r : R)
    (f : F)
    (routine : Routine)
    (hRequest : t.requests r = .running f routine) :
    RunsFor t r f routine := by
  cases hMoves with
  | @opened g hPhase hSize =>
      have hRuns := hTruthful.running r f routine hRequest
      have hOther : f ≠ g := by
        intro hSame
        rw [← hSame, hRuns.opened] at hPhase
        cases hPhase
      refine ⟨?_, hRuns.waits, ?_, hRuns.sent⟩
      · simp only [Function.update_of_ne hOther]
        exact hRuns.opened
      · simp only [Function.update_of_ne hOther]
        exact hRuns.flag
  | @refused g hasContext hPhase =>
      have hRuns := hTruthful.running r f routine hRequest
      have hOther : f ≠ g := by
        intro hSame
        rw [← hSame, hRuns.opened] at hPhase
        cases hPhase
      refine ⟨?_, hRuns.waits, hRuns.flag, hRuns.sent⟩
      simp only [Function.update_of_ne hOther]
      exact hRuns.opened
  | completes hPhase hWaiting =>
      have hOld := (old_of_update (by simp) hRequest).2
      exact absurd hOld
        (hTruthful.idle hPhase hWaiting r f routine)
  | @runs g r' request routine' hPhase hWaiting hNew hControl =>
      by_cases hSame : r = r'
      · subst hSame
        simp only [Function.update_self] at hRequest
        cases hRequest
        refine ⟨hPhase, Function.update_self .., ?_, request,
          Function.update_self .., hControl⟩
        simp [beginRoutine, hTruthful.reliable.fresh r hNew]
      · simp only [Function.update_of_ne hSame] at hRequest
        exact absurd hRequest
          (hTruthful.idle hPhase hWaiting r f routine)
  | @logs r' g h routine' hRuns hClient =>
      -- The client is the one whose request is running.
      rcases hTruthful.running_unique hRequest hRuns with
        ⟨hSame, hSame'⟩
      subst hSame hSame'
      have hHere := hTruthful.running r f routine hRequest
      have hCurrent := hTruthful.current f hHere.opened
      rw [hCurrent, Option.some_inj] at hClient
      subst hClient
      exact hHere.logs
  | crashes hRuns hClient =>
      have hHere := hTruthful.running _ _ _ hRuns
      have hCurrent := hTruthful.current _ hHere.opened
      rw [hClient] at hCurrent
      cases hCurrent
  | finish hRuns =>
      rcases old_of_update (by simp) hRequest with
        ⟨hOther, hOld⟩
      exact absurd
        (hTruthful.running_unique hOld hRuns).2 hOther
  | @receive g r' status hWaiting hDone =>
      have hRuns := hTruthful.running r f routine hRequest
      have hOther : f ≠ g := by
        intro hSame
        have hWaits := hRuns.waits
        rw [hSame, hWaiting, Option.some_inj] at hWaits
        subst hWaits
        rw [hDone] at hRequest
        cases hRequest
      refine ⟨hRuns.opened, ?_, hRuns.flag, hRuns.sent⟩
      simp only [Function.update_of_ne hOther]
      exact hRuns.waits
  | timeOut => exact absurd hQuiet id
  | closeFile hPhase hWaiting =>
      exact absurd hRequest
        (hTruthful.idle hPhase hWaiting r f routine)
  | @clear g hPhase =>
      have hRuns := hTruthful.running r f routine hRequest
      exact absurd hPhase
        (hTruthful.apart f g hRuns.opened)

theorem verdict_step
    (hTruthful : Truthful s)
    (hMoves : Moves s action t)
    (r : R)
    (status : Status)
    (hRequest : t.requests r = .completed status) :
    ntSuccess status = true ↔ Passed t r := by
  -- A request that was completed before has not changed.
  have hKept :
      s.requests r = .completed status →
        (ntSuccess status = true ↔ Passed t r) := by
    intro hOld
    rw [(passed_step hMoves hOld).2]
    exact hTruthful.verdict r status hOld
  cases hMoves with
  | @completes f r' request status' _ _ _ hControl =>
      by_cases hSame : r = r'
      · subst hSame
        simp only [Function.update_self] at hRequest
        cases hRequest
        rw [ntSuccess_of_completes hControl]
        simp [Passed, hControl]
      · simp only [Function.update_of_ne hSame] at hRequest
        exact hKept hRequest
  | runs => exact hKept (old_of_update (by simp) hRequest).2
  | @finish r' f routine hRuns =>
      by_cases hSame : r = r'
      · subst hSame
        simp only [Function.update_self] at hRequest
        cases hRequest
        have hHere := hTruthful.running r f routine hRuns
        rcases hHere.sent with ⟨request, hSent, hControl⟩
        have hRan :
            ∃ request routine,
              s.sent r = some request ∧
                deviceControl request = .runs routine :=
          ⟨request, routine, hSent, hControl⟩
        refine Iff.trans ?_ (and_iff_right hRan).symm
        rw [ntSuccess_routineStatus_iff, hHere.flag]
      · simp only [Function.update_of_ne hSame] at hRequest
        exact hKept hRequest
  | _ => exact hKept hRequest

theorem answered_step
    (hTruthful : Truthful s)
    (hQuiet : Quiet s action)
    (hMoves : Moves s action t)
    (r : R)
    (answer : Bool)
    (hMem : (r, answer) ∈ t.answers) :
    (∃ status, t.requests r = .completed status) ∧
      (answer = true ↔ Passed t r) := by
  have hKept :
      (r, answer) ∈ s.answers →
        (∃ status, t.requests r = .completed status) ∧
          (answer = true ↔ Passed t r) := by
    intro hOld
    rcases hTruthful.answered r answer hOld with
      ⟨⟨status, hRequest⟩, hAnswer⟩
    rcases passed_step hMoves hRequest with ⟨hStill, hPassed⟩
    exact ⟨⟨status, hStill⟩, hAnswer.trans hPassed.symm⟩
  cases hMoves with
  | @receive f r' status hWaiting hDone =>
      rcases List.mem_append.mp hMem with hOld | hNew
      · exact hKept hOld
      · cases List.mem_singleton.mp hNew
        exact ⟨⟨status, hDone⟩,
          hTruthful.verdict r status hDone⟩
  | timeOut => exact absurd hQuiet id
  | _ => exact hKept hMem

theorem truthful_step
    (hTruthful : Truthful s)
    (hQuiet : Quiet s action)
    (hStep : step s action = some t) :
    Truthful t := by
  have hReliable := reliable_step hTruthful.reliable hStep
  have hOne := hReliable.oneClient
  have hMoves := (moves_of_step hStep).2
  constructor
  · exact hReliable
  · cases hMoves with
    | crashes hRuns hClient =>
        have hHere := hTruthful.running _ _ _ hRuns
        have hCurrent := hTruthful.current _ hHere.opened
        rw [hClient] at hCurrent
        cases hCurrent
    | _ => exact hTruthful.alive
  · exact current_step hTruthful hOne hMoves
  · exact apart_step hTruthful hQuiet hMoves
  · exact running_step hTruthful hQuiet hMoves
  · exact verdict_step hTruthful hMoves
  · exact answered_step hTruthful hQuiet hMoves

/-
  In every run without time-outs in which no file is opened
  while another one is cleaned up, the driver does not crash,
  and what `CxPlatDriverClient::Run` returns is whether the
  request has run the test that it names and the test has
  logged no failure.
-/
theorem harness_truthful
    {actions : List (Action F R)}
    (hQuiet : Transition.Meets step Quiet start actions)
    (hRun : Transition.run step start actions = some s) :
    s.crashed = false ∧
      ∀ r answer,
        (r, answer) ∈ s.answers →
          (answer = true ↔
            (∃ request routine,
              s.sent r = some request ∧
                request.Ready ∧
                ioctlRun routine =
                  some request.ioControlCode) ∧
            s.logged r = false) := by
  have hTruthful : Truthful s :=
    Transition.invariant_meets
      (fun _ _ _ => truthful_step) truthful_start hQuiet hRun
  refine ⟨hTruthful.alive, ?_⟩
  intro r answer hMem
  rw [(hTruthful.answered r answer hMem).2]
  unfold Passed
  simp only [deviceControl_runs_iff]

/- One test fails, and the next one passes. -/
def failAndPass : List (Action Bool Bool) :=
  [.openFile true true,
    .send true false (askFor ioctlRunTimeBasic),
    .log false, .finish false, .receive true,
    .send true true (askFor ioctlRunLockBasic),
    .finish true, .receive true,
    .closeFile true, .clear true, .openFile false true]

theorem harness_truthful_failAndPass :
    Transition.Meets step Quiet start failAndPass ∧
      ∃ s,
        Transition.run step start failAndPass = some s ∧
          s.answers = [(false, false), (true, true)] ∧
          s.logged true = false ∧ s.crashed = false := by
  have hQuiet :
      Transition.Meets step Quiet start failAndPass := by
    decide
  have hEnds :
      ∃ s,
        Transition.run step start failAndPass = some s ∧
          s.answers = [(false, false), (true, true)] :=
    ⟨_, rfl, rfl⟩
  rcases hEnds with ⟨s, hRun, hAnswers⟩
  rcases harness_truthful hQuiet hRun with ⟨hAlive, hRight⟩
  have hPassed := hRight true true (by simp [hAnswers])
  exact ⟨hQuiet, s, hRun, hAnswers, (hPassed.mp rfl).2,
    hAlive⟩

/-
  What may happen otherwise.  A late failure is counted for
  the next test; a failure that is logged after the file was
  closed brings the system down; and so does one that is
  logged for a file that was opened during the cleanup of
  another one.
-/
theorem harness_not_quiet :
    (∃ s,
      Transition.run step start
          [.openFile true true,
            .send true false (askFor ioctlRunTimeBasic),
            .timeOut true,
            .send true true (askFor ioctlRunLockBasic),
            .log false, .finish true, .receive true] =
          some s ∧
        (true, false) ∈ s.answers ∧
        s.logged true = false) ∧
    (∃ s,
      Transition.run step start
          [.openFile true true,
            .send true false (askFor ioctlRunTimeBasic),
            .timeOut true, .closeFile true, .clear true,
            .log false] =
          some (s : Harness Bool Bool) ∧
        s.crashed = true) ∧
    (∃ s,
      Transition.run step start
          [.openFile true true, .closeFile true,
            .openFile false true, .clear true,
            .send false false (askFor ioctlRunTimeBasic),
            .log false] =
          some (s : Harness Bool Bool) ∧
        s.crashed = true) := by
  refine ⟨⟨_, rfl, ?_, rfl⟩, ⟨_, rfl, rfl⟩, ⟨_, rfl, rfl⟩⟩
  exact List.mem_cons_of_mem _ List.mem_cons_self

end TestDriver

end CxPlat
