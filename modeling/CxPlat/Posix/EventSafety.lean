import CxPlat.Lib.Simulation
import CxPlat.Posix.EventOutline

/-
  What events on POSIX platforms guarantee, in every state
  that any number of threads can reach: every signal is
  taken at most once and none gets lost, and no thread sleeps
  on while the event is signaled.

  Key definitions include:
    * `Reaches`
    * `Deed`, `countOf`
    * `returningNow`

  Key theorems include:
    * `signal_conservation`
    * `no_lost_wakeup`
-/

------------------------------------------------------------
-- Signals Are Conserved
------------------------------------------------------------

namespace CxPlat

namespace Posix

variable {Th : Type} [DecidableEq Th]
variable {e e' : Event Th} {th q : Th} {pc pc' : Pc}
variable {c d d' : Threads.Config (Event Th) Thread Th}
variable {manualReset initialState : Bool}
variable {moves : List (Th × Choice)} {choice : Choice}

/- `moves` lead from the initialised event to `c`. -/
def Reaches
    (manualReset initialState : Bool)
    (moves : List (Th × Choice))
    (c : Threads.Config (Event Th) Thread Th) : Prop :=
  Transition.run (Threads.step program)
    (start manualReset initialState) moves = some c

theorem annotated_reaches
    (hRun : Reaches manualReset initialState moves c) :
    Threads.Annotated
      (Global manualReset initialState) Local c := by
  apply outline.run annotated_start hRun

theorem step_moves
    (hStep : Threads.step program c (th, choice) = some d) :
    Moves c.shared th (c.locals th).pc
      d.shared (d.locals th).pc := by
  rcases Threads.step_some hStep with
    ⟨e, l, hProgram, hNext⟩
  subst hNext
  simp only [Function.update_self]
  exact (program_some hProgram).1

/- Only three statements change `Signaled`. -/
theorem Moves.signaled_changed
    (hMoves : Moves e th pc e' pc')
    (hChanged : e'.signaled ≠ e.signaled) :
    pc = .setStore ∨ pc = .resetStore ∨
      (∃ timed, pc = .waitTake timed) ∧
        e.autoReset = true := by
  cases hMoves with
  | setStore => exact Or.inl rfl
  | resetStore => exact Or.inr (Or.inl rfl)
  | @take timed =>
      refine Or.inr (Or.inr ⟨⟨timed, rfl⟩, ?_⟩)
      by_contra hManual
      simp [Posix.take, hManual] at hChanged
  | @waitUnlock timed satisfied =>
      cases timed <;> cases satisfied <;>
        exact absurd rfl hChanged
  | _ => exact absurd rfl hChanged

/-
  The thread that has taken the signal in a wait, but has
  not returned yet.
-/
def returningNow
    (c : Threads.Config (Event Th) Thread Th) : Nat :=
  match c.shared.owner with
  | some th => (c.locals th).pc.returning
  | none => 0

omit [DecidableEq Th] in
theorem taken_eq_satisfied
    (hAnnotated :
      Threads.Annotated
        (Global manualReset initialState) Local c) :
    c.shared.taken =
      c.shared.satisfied + returningNow c := by
  rcases hAnnotated with ⟨hGlobal, hLocal⟩
  unfold returningNow
  split
  next th hOwner =>
    have hInside := (hLocal th).owns.mpr hOwner
    exact ((hLocal th).critical hInside).counted
  next hFree => exact (hGlobal.free hFree).2

/- A signal is raised, withdrawn or used up by a wait. -/
inductive Deed where
  | set
  | reset
  | returned
deriving DecidableEq, Repr

/-
  `Set` of an event that is not signaled, `Reset` of one that
  is, and the return of a wait other than by its time.
-/
def Event.deeds
    (e : Event Th) : Pc → List Deed
  | .setStore => if e.signaled then [] else [.set]
  | .resetStore => if e.signaled then [.reset] else []
  | .waitUnlock timed satisfied =>
      if timed && !satisfied then [] else [.returned]
  | _ => []

/- How often something is done along a run from `c`. -/
def countOf
    (deed : Deed)
    (c : Threads.Config (Event Th) Thread Th)
    (moves : List (Th × Choice)) : Nat :=
  (Transition.labels (Threads.step program)
    (fun c move => c.shared.deeds (c.locals move.1).pc)
    c moves).count deed

/- The fields of the event that count do so. -/
def Event.counter
    (e : Event Th) : Deed → Nat
  | .set => e.setsUnsignaled
  | .reset => e.resetsSignaled
  | .returned => e.satisfied

theorem Moves.counter
    (hMoves : Moves e th pc e' pc')
    (deed : Deed) :
    e'.counter deed =
      e.counter deed + (e.deeds pc).count deed := by
  cases hMoves with
  | lock hFree hLocked =>
      cases pc <;> first | contradiction | (cases deed <;> rfl)
  | setStore =>
      cases hSignaled : e.signaled <;> cases deed <;>
        simp [Event.counter, Event.deeds, storeSet,
          Event.satisfied, hSignaled]
  | resetStore =>
      cases hSignaled : e.signaled <;> cases deed <;>
        simp [Event.counter, Event.deeds, storeReset,
          Event.satisfied, hSignaled]
  | unlock hPc =>
      rcases hPc with rfl | rfl
      all_goals
        cases deed <;> rfl
  | @waitUnlock timed satisfied =>
      cases timed <;> cases satisfied <;> cases deed <;>
        simp [Event.counter, Event.deeds, countReturn,
          mutexUnlock, Event.satisfied] <;> omega
  | _ => cases deed <;> rfl

theorem counter_run
    (hRun :
      Transition.run (Threads.step program) c moves =
        some d)
    (deed : Deed) :
    d.shared.counter deed =
      c.shared.counter deed + countOf deed c moves := by
  apply Transition.count_labels
    (fun c => c.shared.counter deed) _ hRun
  rintro c ⟨th, choice⟩ d hStep
  exact (step_moves hStep).counter deed

/- The counters of a new event are zero. -/
theorem counter_reaches
    (hRun : Reaches manualReset initialState moves c)
    (deed : Deed) :
    c.shared.counter deed =
      countOf deed (start manualReset initialState)
        moves := by
  have hCount := counter_run hRun deed
  have hZero :
      (eventInitialize manualReset initialState :
        Event Th).counter deed = 0 := by
    cases deed <;> rfl
  rw [hCount, start, hZero, Nat.zero_add]

/- The balance of an auto-reset event, with the returns. -/
theorem balance_reaches
    (hRun : Reaches false initialState moves c) :
    (c.shared.counter .returned + returningNow c) +
        c.shared.counter .reset +
        c.shared.signaled.toNat =
      initialState.toNat + c.shared.counter .set := by
  have hAnnotated := annotated_reaches hRun
  have hTaken := taken_eq_satisfied hAnnotated
  have hBalance := hAnnotated.1.balance hAnnotated.1.mode
  rw [hTaken] at hBalance
  exact hBalance

/-
  In every state of every run, with any number of threads.
  A wait that takes the signal is counted when it takes it,
  and that is also when it is bound to return.
-/
theorem signal_conservation
    (hRun : Reaches manualReset initialState moves c) :
    (manualReset = false →
      (countOf .returned (start manualReset initialState)
            moves +
          returningNow c) +
          countOf .reset (start manualReset initialState)
            moves +
          c.shared.signaled.toNat =
        initialState.toNat +
          countOf .set (start manualReset initialState)
            moves) ∧
    (manualReset = false → ∀ more d,
      Transition.run (Threads.step program) c more = some d →
        countOf .returned c more + returningNow d ≤
          returningNow c + c.shared.signaled.toNat +
            countOf .set c more) ∧
    (∀ th, (c.locals th).pc = .waitUnlock true false →
      (c.locals th).changed = false) ∧
    (manualReset = true → ∀ th choice d,
      Threads.step program c (th, choice) = some d →
        d.shared.signaled ≠ c.shared.signaled →
          (c.locals th).pc = .setStore ∨
            (c.locals th).pc = .resetStore) := by
  have hAnnotated := annotated_reaches hRun
  rcases hAnnotated with ⟨hGlobal, hLocal⟩
  constructor
  · intro hAuto
    subst hAuto
    have hBalance := balance_reaches hRun
    simp only [counter_reaches hRun] at hBalance
    exact hBalance
  constructor
  · intro hAuto more d hMore
    subst hAuto
    have hNow := balance_reaches hRun
    have hLater : Reaches false initialState
        (moves ++ more) d := by
      unfold Reaches
      rw [Transition.run_append _ _ hRun]
      exact hMore
    have hThen := balance_reaches hLater
    simp only [counter_run hMore] at hThen
    omega
  constructor
  · intro th hPc
    apply (hLocal th).unchanged
    rw [hPc]
    rfl
  · intro hManual th choice d hStep hChanged
    have hMoves := step_moves hStep
    rcases hMoves.signaled_changed hChanged
      with hSet | hReset | ⟨_, hAuto⟩
    · exact Or.inl hSet
    · exact Or.inr hReset
    · rw [hGlobal.mode, hManual] at hAuto
      contradiction

/-
  A timed wait falls asleep and its time runs out while the
  event is being set; it returns FALSE and the signal is
  left for the next wait.
-/
def setDuringTimeout : List (Bool × Choice) :=
  [(false, .waitWithTimeout), (false, .next),
    (false, .next), (false, .next), (true, .set),
    (true, .next), (true, .next), (false, .wake true),
    (true, .next), (true, .next), (false, .next),
    (false, .next), (false, .waitForever), (false, .next),
    (false, .next), (false, .next), (false, .next)]

theorem signal_conservation_setDuringTimeout :
    ∃ c,
      Reaches false false setDuringTimeout c ∧
      c.shared.falseReturns = 1 ∧
      countOf .set (start false false) setDuringTimeout = 1 ∧
      countOf .returned (start false false)
        setDuringTimeout = 1 ∧
      (countOf .returned (start false false)
            setDuringTimeout +
          returningNow c) +
          countOf .reset (start false false)
            setDuringTimeout +
          c.shared.signaled.toNat =
        0 +
          countOf .set (start false false)
            setDuringTimeout := by
  have hRun : Reaches false false setDuringTimeout _ := rfl
  refine ⟨_, hRun, rfl, rfl, rfl, ?_⟩
  exact (signal_conservation hRun).1 rfl

end Posix

end CxPlat

------------------------------------------------------------
-- No Wake-Up Is Lost
------------------------------------------------------------

namespace CxPlat

namespace Posix

variable {Th : Type} [DecidableEq Th]
variable {e e' : Event Th} {th q : Th} {pc pc' : Pc}
variable {c d : Threads.Config (Event Th) Thread Th}
variable {manualReset initialState : Bool}
variable {moves : List (Th × Choice)}

/- The wait set grows only by a thread that starts to wait. -/
theorem Moves.enqueued
    (hMoves : Moves e th pc e' pc')
    (hAfter : q ∈ e'.cond)
    (hBefore : q ∉ e.cond) :
    ∃ timed, pc = .waitCall timed := by
  cases hMoves with
  | @sleep timed => exact ⟨timed, rfl⟩
  | broadcast => simp at hAfter
  | wake =>
      simp only [List.mem_filter] at hAfter
      exact absurd hAfter.1 hBefore
  | @waitUnlock timed satisfied =>
      cases timed <;> cases satisfied <;>
        exact absurd hAfter hBefore
  | _ => exact absurd hAfter hBefore

/- The event becomes signaled only in `Set`. -/
theorem Moves.raised
    (hMoves : Moves e th pc e' pc')
    (hBefore : e.signaled = false)
    (hAfter : e'.signaled = true) :
    pc = .setStore ∧ pc' = .setBroadcast := by
  cases hMoves with
  | setStore => exact ⟨rfl, rfl⟩
  | resetStore => contradiction
  | take => simp [Posix.take, hBefore] at hAfter
  | @waitUnlock timed satisfied =>
      cases timed <;> cases satisfied <;>
        simp [countReturn, mutexUnlock, hBefore] at hAfter
  | _ => simp [mutexUnlock, hBefore] at hAfter

/- The broadcast empties the wait set. -/
theorem Moves.notifies
    (hMoves : Moves e th pc e' pc')
    (hPc : pc = .setBroadcast) :
    e'.cond = [] ∧ pc' = .setUnlock := by
  cases hMoves with
  | broadcast => exact ⟨rfl, rfl⟩
  | lock hFree hLocked =>
      subst hPc
      contradiction
  | unlock hUnlock => simp [hPc] at hUnlock
  | _ => contradiction

omit [DecidableEq Th] in
/- The owner of the mutex, if any, is at the broadcast. -/
theorem unnotified_at_broadcast
    (hAnnotated :
      Threads.Annotated
        (Global manualReset initialState) Local c)
    (hSignaled : c.shared.signaled = true)
    (hAsleep : q ∈ c.shared.cond) :
    ∃ th, c.shared.owner = some th ∧
      (c.locals th).pc = .setBroadcast := by
  rcases hAnnotated with ⟨hGlobal, hLocal⟩
  cases hOwner : c.shared.owner with
  | none =>
      have hEmpty := (hGlobal.free hOwner).1 hSignaled
      simp [hEmpty] at hAsleep
  | some th =>
      have hInside := (hLocal th).owns.mpr hOwner
      have hCritical := (hLocal th).critical hInside
      refine ⟨th, rfl, ?_⟩
      by_contra hPc
      have hEmpty := hCritical.notified hPc hSignaled
      simp [hEmpty] at hAsleep

/-
  No thread sleeps through a signal: not while every thread
  is outside the sections of the event, and otherwise only
  if the owner of the mutex is about to broadcast.
-/
theorem no_lost_wakeup
    (hRun : Reaches manualReset initialState moves c) :
    ((∀ th, (c.locals th).pc.inside = false) →
      c.shared.signaled = true →
        ∀ q, q ∉ c.shared.cond) ∧
    (c.shared.signaled = true →
      ∀ q, q ∈ c.shared.cond →
        ∃ th, c.shared.owner = some th ∧
          (c.locals th).pc = .setBroadcast) ∧
    ∀ th choice d,
      Threads.step program c (th, choice) = some d →
        (∀ q, q ∈ d.shared.cond → q ∉ c.shared.cond →
          c.shared.signaled = false ∧
            d.shared.signaled = false) ∧
        (c.shared.signaled = false →
          d.shared.signaled = true →
            (d.locals th).pc = .setBroadcast ∧
              d.shared.owner = some th) ∧
        ((c.locals th).pc = .setBroadcast →
          d.shared.cond = [] ∧
            d.shared.owner = some th) := by
  have hAnnotated := annotated_reaches hRun
  have hLocal := hAnnotated.2
  constructor
  · intro hOutside hSignaled q hAsleep
    rcases unnotified_at_broadcast hAnnotated hSignaled
      hAsleep with ⟨th, _, hPc⟩
    have hNow := hOutside th
    rw [hPc] at hNow
    contradiction
  constructor
  · intro hSignaled q hAsleep
    exact unnotified_at_broadcast hAnnotated hSignaled hAsleep
  · intro th choice d hStep
    have hMoves := step_moves hStep
    have hOwner :=
      (outline.step hAnnotated hStep).2 th |>.owns
    constructor
    · intro q hAfter hBefore
      rcases hMoves.enqueued hAfter hBefore with ⟨timed, hPc⟩
      have hInside : (c.locals th).pc.inside = true := by
        rw [hPc]
        rfl
      have hCritical := (hLocal th).critical hInside
      have hUnsignaled := hCritical.unsignaled timed hPc
      refine ⟨hUnsignaled, ?_⟩
      by_contra hSignaled
      have hRaised := hMoves.raised hUnsignaled
        (by simpa using hSignaled)
      rw [hPc] at hRaised
      cases hRaised.1
    constructor
    · intro hBefore hAfter
      have hPc := (hMoves.raised hBefore hAfter).2
      refine ⟨hPc, hOwner.mp ?_⟩
      rw [hPc]
      rfl
    · intro hPc
      have hNotifies := hMoves.notifies hPc
      refine ⟨hNotifies.1, hOwner.mp ?_⟩
      rw [hNotifies.2]
      rfl

/-
  One thread goes to sleep, another one sets the event; in
  between nobody is left behind.
-/
def sleepThenSet : List (Bool × Choice) :=
  [(false, .waitForever), (false, .next), (false, .next),
    (false, .next), (true, .set), (true, .next),
    (true, .next)]

theorem no_lost_wakeup_sleepThenSet :
    ∃ c,
      Reaches false false sleepThenSet c ∧
      c.shared.signaled = true ∧
      false ∈ c.shared.cond ∧
      ∃ th, c.shared.owner = some th ∧
        (c.locals th).pc = .setBroadcast := by
  have hRun : Reaches false false sleepThenSet _ := rfl
  refine ⟨_, hRun, rfl, by decide, ?_⟩
  exact (no_lost_wakeup hRun).2.1 rfl false (by decide)

end Posix

end CxPlat
