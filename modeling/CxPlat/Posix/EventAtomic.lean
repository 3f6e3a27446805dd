import CxPlat.Lib.Simulation
import CxPlat.Posix.EventSafety

/-
  Events on POSIX platforms are atomic.

  The event of the other platforms is an object of the
  system: setting it, resetting it and a wait that is
  satisfied each happen at one moment.  On POSIX platforms
  they are made of statements that other threads run between.
  Still every run shows the calls and returns of a run of an
  event whose operations take effect at one moment between
  the call and the return.

  Key definitions include:
    * `Operation`, `Phase`, `Action`
    * `Atomic`, `Atomic.step`
    * `observed`

  Key theorems include:
    * `atomic_statement`
    * `simulates_atomic`
    * `event_linearisable`
-/

------------------------------------------------------------
-- Atomic Events
------------------------------------------------------------

namespace CxPlat

namespace Posix

inductive Operation where
  | set
  | reset
  | wait (timed : Bool)
deriving DecidableEq, Repr

/- What a thread is doing with the event. -/
inductive Phase where
  | idle
  | called (op : Operation)
  | done (op : Operation) (satisfied : Bool)
deriving DecidableEq, Repr

inductive Action (Th : Type) where
  | call (th : Th) (op : Operation)
  | takesEffect (th : Th)
  | timesOut (th : Th)
  | returns (th : Th) (op : Operation) (satisfied : Bool)
deriving DecidableEq, Repr

/- Calls and returns can be seen from outside. -/
def Action.visible
    {Th : Type} : Action Th → Bool
  | .call _ _ | .returns _ _ _ => true
  | .takesEffect _ | .timesOut _ => false

/- The event, and the phases of the threads that use it. -/
@[ext]
structure Atomic (Th : Type) where
  signaled : Bool
  autoReset : Bool
  phase : Th → Phase

namespace Atomic

variable {Th : Type} [DecidableEq Th]

def start
    (manualReset initialState : Bool) : Atomic Th where
  signaled := initialState
  autoReset := !manualReset
  phase := fun _ => .idle

def enter
    (s : Atomic Th)
    (th : Th)
    (phase : Phase) : Atomic Th :=
  { s with phase := Function.update s.phase th phase }

/-
  The operation a thread has called takes effect.  A wait
  has to find the event signaled, and uses the signal up if
  the event resets itself.
-/
def takeEffect
    (s : Atomic Th)
    (th : Th) : Operation → Option (Atomic Th)
  | .set =>
      some ({ s with signaled := true }.enter th
        (.done .set true))
  | .reset =>
      some ({ s with signaled := false }.enter th
        (.done .reset true))
  | .wait timed =>
      if s.signaled then
        some ({ s with signaled := !s.autoReset }.enter th
          (.done (.wait timed) true))
      else
        none

def step
    (s : Atomic Th) : Action Th → Option (Atomic Th)
  | .call th op =>
      if s.phase th = .idle then
        some (s.enter th (.called op))
      else
        none
  | .takesEffect th =>
      match s.phase th with
      | .called op => s.takeEffect th op
      | _ => none
  | .timesOut th =>
      if s.phase th = .called (.wait true) then
        some (s.enter th (.done (.wait true) false))
      else
        none
  | .returns th op satisfied =>
      if s.phase th = .done op satisfied then
        some (s.enter th .idle)
      else
        none

end Atomic

end Posix

end CxPlat

------------------------------------------------------------
-- Views of the Statements
------------------------------------------------------------

namespace CxPlat

namespace Posix

variable {Th : Type}

/-
  An operation has taken effect once its store to `Signaled`
  is done, and a wait whose time is up once it has the mutex
  again.
-/
def Pc.phase : Pc → Phase
  | .idle => .idle
  | .setLock | .setStore => .called .set
  | .setBroadcast | .setUnlock => .done .set true
  | .resetLock | .resetStore => .called .reset
  | .resetUnlock => .done .reset true
  | .waitLock timed | .waitTest timed => .called (.wait timed)
  | .waitCall timed | .waitSleep timed =>
      .called (.wait timed)
  | .waitRelock timed _ => .called (.wait timed)
  | .waitTake timed => .called (.wait timed)
  | .waitUnlock timed satisfied =>
      .done (.wait timed) satisfied

/- The calls and returns among the statements. -/
def visibleAction
    (th : Th) : Pc → Choice → List (Action Th)
  | .idle, .set => [.call th .set]
  | .idle, .reset => [.call th .reset]
  | .idle, .waitForever => [.call th (.wait false)]
  | .idle, .waitWithTimeout => [.call th (.wait true)]
  | .setUnlock, .next => [.returns th .set true]
  | .resetUnlock, .next => [.returns th .reset true]
  | .waitUnlock timed satisfied, .next =>
      [.returns th (.wait timed) satisfied]
  | _, _ => []

/- The moments in between at which something takes effect. -/
def hiddenAction
    (th : Th) : Pc → Choice → List (Action Th)
  | .setStore, .next => [.takesEffect th]
  | .resetStore, .next => [.takesEffect th]
  | .waitTake _, .next => [.takesEffect th]
  | .waitRelock _ true, .next => [.timesOut th]
  | _, _ => []

def action
    (th : Th)
    (pc : Pc)
    (choice : Choice) : List (Action Th) :=
  visibleAction th pc choice ++ hiddenAction th pc choice

def view
    (c : Threads.Config (Event Th) Thread Th) :
    Atomic Th where
  signaled := c.shared.signaled
  autoReset := c.shared.autoReset
  phase := fun th => (c.locals th).pc.phase

def label
    (c : Threads.Config (Event Th) Thread Th)
    (move : Th × Choice) : List (Action Th) :=
  action move.1 (c.locals move.1).pc move.2

/- The calls and returns of a run, as they happen. -/
def observed
    [DecidableEq Th]
    (manualReset initialState : Bool)
    (moves : List (Th × Choice)) : List (Action Th) :=
  Transition.labels (Threads.step program)
    (fun c move =>
      visibleAction move.1 (c.locals move.1).pc move.2)
    (start manualReset initialState) moves

end Posix

end CxPlat

------------------------------------------------------------
-- Every Statement Is at Most One Action
------------------------------------------------------------

namespace CxPlat

namespace Posix

variable {Th : Type} [DecidableEq Th]
variable {e e' : Event Th} {th : Th} {pc pc' : Pc}
variable {choice : Choice} {phase : Th → Phase}
variable {c d : Threads.Config (Event Th) Thread Th}
variable {manualReset initialState : Bool}

/- What the thread at a statement has to know about it. -/
structure Ready
    (e : Event Th)
    (pc : Pc) : Prop where
  taking :
    ∀ timed, pc = .waitTake timed → e.signaled = true
  expiring :
    ∀ timed, pc = .waitRelock timed true → timed = true

omit [DecidableEq Th] in
theorem Local.ready
    {l : Thread}
    (hLocal : Local e th l) :
    Ready e l.pc where
  taking := by
    intro timed hPc
    have hInside : l.pc.inside = true := by
      rw [hPc]
      rfl
    exact (hLocal.critical hInside).signaled timed hPc
  expiring := by
    intro timed hPc
    have hTimely := hLocal.timely
    rw [hPc] at hTimely
    exact hTimely rfl

/- The event as the thread's statement sees it. -/
def atomicOf
    (e : Event Th)
    (phase : Th → Phase) : Atomic Th where
  signaled := e.signaled
  autoReset := e.autoReset
  phase := phase

/- A statement that is no action changes nothing outside. -/
theorem atomicOf_quiet
    (hPhase : phase th = pc.phase)
    (hSame : pc'.phase = pc.phase)
    (hSignaled : e'.signaled = e.signaled)
    (hMode : e'.autoReset = e.autoReset) :
    atomicOf e phase =
      atomicOf e' (Function.update phase th pc'.phase) := by
  unfold atomicOf
  rw [hSame, ← hPhase, Function.update_eq_self, hSignaled,
    hMode]

theorem atomic_mutexLock
    {first : Pc}
    (hPhase : phase th = pc.phase)
    (hLock : mutexLock e th first = some (e', pc'))
    (hSame : first.phase = pc.phase) :
    atomicOf e phase =
      atomicOf e' (Function.update phase th pc'.phase) := by
  rcases mutexLock_some hLock with ⟨_, hEvent, hPc⟩
  subst hEvent hPc
  exact atomicOf_quiet hPhase hSame rfl rfl

/-
  One statement, in the order of the source.  Only the
  stores, and getting the mutex after the time is up, are
  more than a call, a return or nothing.
-/
theorem atomic_statement
    (hReady : Ready e pc)
    (hPhase : phase th = pc.phase)
    (hStatement :
      statement e th pc choice = some (e', pc')) :
    Transition.run Atomic.step (atomicOf e phase)
        (action th pc choice) =
      some (atomicOf e'
        (Function.update phase th pc'.phase)) := by
  unfold statement at hStatement
  split at hStatement
  case h_1 | h_2 | h_3 | h_4 =>
    cases hStatement
    simp [action, visibleAction, hiddenAction, hPhase,
      Transition.run, Atomic.step, atomicOf, Atomic.enter,
      Pc.phase]
  case h_5 | h_9 | h_12 =>
    have hSame := atomic_mutexLock hPhase hStatement rfl
    rw [← hSame]
    rfl
  case h_6 | h_10 =>
    cases hStatement
    simp [action, visibleAction, hiddenAction, hPhase,
      Transition.run, Atomic.step, Atomic.takeEffect,
      atomicOf, Atomic.enter, Pc.phase, storeSet, storeReset]
  case h_7 | h_14 =>
    cases hStatement
    exact congrArg some (atomicOf_quiet hPhase rfl rfl rfl)
  case h_8 | h_11 =>
    cases hStatement
    simp [action, visibleAction, hiddenAction, hPhase,
      Transition.run, Atomic.step, atomicOf, Atomic.enter,
      Pc.phase, mutexUnlock]
  case h_13 timed =>
    cases hStatement
    cases hSignaled : e.signaled <;>
      exact congrArg some (atomicOf_quiet hPhase rfl rfl rfl)
  case h_15 timed expired =>
    split at hStatement
    next => contradiction
    next =>
      cases hStatement
      exact congrArg some (atomicOf_quiet hPhase rfl rfl rfl)
  case h_16 timed expired =>
    cases expired with
    | false =>
        have hSame := atomic_mutexLock hPhase hStatement rfl
        rw [← hSame]
        rfl
    | true =>
        rcases mutexLock_some hStatement with ⟨_, hEvent, hPc⟩
        have hTimed := hReady.expiring timed rfl
        subst hEvent hPc hTimed
        simp [action, visibleAction, hiddenAction, hPhase,
          Transition.run, Atomic.step, atomicOf,
          Atomic.enter, Pc.phase]
  case h_17 timed =>
    cases hStatement
    have hSignaled := hReady.taking timed rfl
    cases hMode : e.autoReset <;>
      simp [action, visibleAction, hiddenAction, hPhase,
        Transition.run, Atomic.step, Atomic.takeEffect,
        atomicOf, Atomic.enter, Pc.phase, take, hSignaled,
        hMode]
  case h_18 timed satisfied =>
    cases hStatement
    cases timed <;> cases satisfied <;>
      simp [action, visibleAction, hiddenAction, hPhase,
        Transition.run, Atomic.step, atomicOf, Atomic.enter,
        Pc.phase, mutexUnlock, countReturn]
  case h_19 => contradiction

end Posix

end CxPlat

------------------------------------------------------------
-- Every Run Is a Run of an Atomic Event
------------------------------------------------------------

namespace CxPlat

namespace Posix

variable {Th : Type} [DecidableEq Th]
variable {c d : Threads.Config (Event Th) Thread Th}
variable {manualReset initialState : Bool}
variable {moves : List (Th × Choice)}

theorem simulates_atomic :
    Transition.Simulates
      (Threads.step
        (program :
          Threads.Program (Event Th) Thread Th Choice))
      Atomic.step
      (Threads.Annotated
        (Global manualReset initialState) Local)
      view label := by
  intro c move d hAnnotated hStep
  rcases move with ⟨th, choice⟩
  rcases Threads.step_some hStep with
    ⟨e, l, hProgram, hNext⟩
  subst hNext
  simp only [program] at hProgram
  split at hProgram
  next e' pc' hStatement =>
    cases hProgram
    have hReady := (hAnnotated.2 th).ready
    have hPhase :
        (view c).phase th = (c.locals th).pc.phase := rfl
    refine (atomic_statement hReady hPhase hStatement).trans ?_
    simp only [view, atomicOf, Option.some.injEq,
      Atomic.mk.injEq, true_and]
    funext q
    by_cases hEq : q = th
    · subst hEq
      simp
    · simp [hEq]
  next => contradiction

omit [DecidableEq Th] in
theorem filter_action
    (th : Th)
    (pc : Pc)
    (choice : Choice) :
    (action th pc choice).filter Action.visible =
      visibleAction th pc choice := by
  have hVisible :
      (visibleAction th pc choice).filter Action.visible =
        visibleAction th pc choice := by
    unfold visibleAction
    split <;> rfl
  have hHidden :
      (hiddenAction th pc choice).filter Action.visible =
        [] := by
    unfold hiddenAction
    split <;> rfl
  rw [action, List.filter_append, hVisible, hHidden,
    List.append_nil]

/-
  With any number of threads: what they see of the event is
  what they could see of an atomic one, every operation
  taking effect once, after its call and before its return.
-/
theorem event_linearisable
    (hRun : Reaches manualReset initialState moves c) :
    ∃ history,
      Transition.run Atomic.step
          (Atomic.start manualReset initialState) history =
        some (view c) ∧
      history.filter Action.visible =
        observed manualReset initialState moves := by
  refine ⟨Transition.labels (Threads.step program) label
    (start manualReset initialState) moves, ?_, ?_⟩
  · exact simulates_atomic.run
      (fun _ _ _ hNow hStep => outline.step hNow hStep)
      annotated_start hRun
  · apply Transition.filter_labels
    intro c move
    exact filter_action _ _ _

/-
  The timed wait of `setDuringTimeout` returns after the
  event was set, and the next wait takes the signal.
-/
theorem event_linearisable_setDuringTimeout :
    ∃ c history,
      Reaches false false setDuringTimeout c ∧
      Transition.run Atomic.step
          (Atomic.start false false) history =
        some (view c) ∧
      history.filter Action.visible =
        [.call false (.wait true), .call true .set,
          .returns true .set true,
          .returns false (.wait true) false,
          .call false (.wait false),
          .returns false (.wait false) true] := by
  have hRun : Reaches false false setDuringTimeout _ := rfl
  rcases event_linearisable hRun with ⟨history, hAtomic, hSeen⟩
  exact ⟨_, history, hRun, hAtomic, hSeen⟩

end Posix

end CxPlat
