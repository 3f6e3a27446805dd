import CxPlat.Lib.Transition
import Mathlib.Logic.Function.Basic

/-
  The dispatch-level reader/writer lock of kernel mode, from
  `cxplat_winkernel.h`.

  The lock is an executive spin lock and one `PrevIrql` that
  all holders share.  Acquiring is a call that raises the
  IRQL of the processor and returns the old one, followed by
  the store of that value to `PrevIrql`; releasing loads
  `PrevIrql` and passes it to the call that lowers the IRQL.
  Any number of processors take these steps in any order.

  Key definitions include:
    * `State`, `Action`, `step`
    * `SameEntry`

  Key theorems include:
    * `inv_step`
    * `release_restores_of_sameEntry`
    * `mixed_readers_reach_violation`
-/

------------------------------------------------------------
-- Processors And The Lock
------------------------------------------------------------

namespace CxPlat

namespace RwLock

/- The level to which spin locks raise. -/
def dispatchLevel : Nat := 2

inductive Mode where
  | shared
  | exclusive
deriving DecidableEq, Repr

/- Where a processor is in the macros of the lock. -/
inductive Phase where
  | outside
  | acquired (mode : Mode) (old : Nat)
  | holding (mode : Mode)
  | releasing (mode : Mode) (level : Nat)
deriving DecidableEq, Repr

/-
  `spinLock` lists the processors that hold the spin lock.
  `entry` is a record of each processor's IRQL right before
  its last acquire; no step reads it.
-/
structure State (P : Type) where
  irql : P → Nat
  phase : P → Phase
  spinLock : List (P × Mode)
  prevIrql : Nat
  entry : P → Nat

inductive Action (P : Type) where
  | changeIrql (p : P) (level : Nat)
  | acquireCall (p : P) (mode : Mode)
  | acquireStore (p : P)
  | releaseLoad (p : P) (mode : Mode)
  | releaseCall (p : P)
deriving DecidableEq, Repr

/- Readers exclude writers, writers exclude everyone. -/
def grants
    {P : Type}
    (holders : List (P × Mode)) : Mode → Bool
  | .shared => holders.all (fun h => h.2 = .shared)
  | .exclusive => holders.isEmpty

variable {P : Type} [DecidableEq P]

/-
  `ExAcquireSpinLockShared` and `ExAcquireSpinLockExclusive`:
  the call returns, with the old IRQL, once the lock can be
  granted.
-/
def exAcquireSpinLock
    (s : State P)
    (p : P)
    (mode : Mode) : Option (State P) :=
  if s.phase p = .outside ∧
      grants s.spinLock mode = true then
    some
      { s with
        irql := Function.update s.irql p dispatchLevel
        phase :=
          Function.update s.phase p
            (.acquired mode (s.irql p))
        spinLock := (p, mode) :: s.spinLock
        entry := Function.update s.entry p (s.irql p) }
  else
    none

/- `(Lock)->PrevIrql = ...`, the second half of acquiring. -/
def storePrevIrql
    (s : State P)
    (p : P) : Option (State P) :=
  match s.phase p with
  | .acquired mode old =>
      some
        { s with
          phase := Function.update s.phase p (.holding mode)
          prevIrql := old }
  | _ => none

/-
  The argument `(Lock)->PrevIrql` of the release call, in the
  mode in which the lock was acquired.
-/
def loadPrevIrql
    (s : State P)
    (p : P)
    (mode : Mode) : Option (State P) :=
  if s.phase p = .holding mode then
    some
      { s with
        phase :=
          Function.update s.phase p
            (.releasing mode s.prevIrql) }
  else
    none

/- `ExReleaseSpinLockShared`, `ExReleaseSpinLockExclusive`. -/
def exReleaseSpinLock
    (s : State P)
    (p : P) : Option (State P) :=
  match s.phase p with
  | .releasing _ level =>
      some
        { s with
          irql := Function.update s.irql p level
          phase := Function.update s.phase p .outside
          spinLock :=
            s.spinLock.filter (fun h => h.1 ≠ p) }
  | _ => none

/-
  One step of one processor.  Between its uses of the lock a
  processor runs at any IRQL up to `DISPATCH_LEVEL`.
-/
def step
    (s : State P) : Action P → Option (State P)
  | .changeIrql p level =>
      if s.phase p = .outside ∧ level ≤ dispatchLevel then
        some
          { s with
            irql := Function.update s.irql p level }
      else
        none
  | .acquireCall p mode => exAcquireSpinLock s p mode
  | .acquireStore p => storePrevIrql s p
  | .releaseLoad p mode => loadPrevIrql s p mode
  | .releaseCall p => exReleaseSpinLock s p

/-
  An initialised lock that nobody uses; `PrevIrql` is not
  initialised.
-/
def State.start
    (irql : P → Nat)
    (prevIrql : Nat) : State P where
  irql := irql
  phase := fun _ => .outside
  spinLock := []
  prevIrql := prevIrql
  entry := irql

/- The processor has still to load `PrevIrql`. -/
def Pending
    (s : State P)
    (p : P) : Bool :=
  match s.phase p with
  | .acquired _ _ => true
  | .holding _ => true
  | _ => false

/-
  The lock is granted only to a processor whose IRQL is that
  at which every holder entered that has still to load
  `PrevIrql`.
-/
def SameEntry
    (s : State P) : Action P → Prop
  | .acquireCall p _ =>
      ∀ h ∈ s.spinLock, Pending s h.1 = true →
        s.entry h.1 = s.irql p
  | _ => True

instance decidableSameEntry
    (s : State P) :
    (a : Action P) → Decidable (SameEntry s a)
  | .changeIrql _ _ => .isTrue trivial
  | .acquireCall p _ =>
      inferInstanceAs (Decidable
        (∀ h ∈ s.spinLock, Pending s h.1 = true →
          s.entry h.1 = s.irql p))
  | .acquireStore _ => .isTrue trivial
  | .releaseLoad _ _ => .isTrue trivial
  | .releaseCall _ => .isTrue trivial

end RwLock

end CxPlat

------------------------------------------------------------
-- What A Step Does
------------------------------------------------------------

namespace CxPlat

namespace RwLock

variable {P : Type} [DecidableEq P]
variable {s t : State P} {p q : P} {mode : Mode}

theorem step_changeIrql
    {level : Nat}
    (hStep : step s (.changeIrql p level) = some t) :
    s.phase p = .outside ∧
      t = { s with
        irql := Function.update s.irql p level } := by
  simp only [step] at hStep
  split at hStep
  next hGuard =>
    cases hStep
    exact ⟨hGuard.1, rfl⟩
  next => contradiction

theorem step_acquireCall
    (hStep : step s (.acquireCall p mode) = some t) :
    s.phase p = .outside ∧
      t = { s with
        irql := Function.update s.irql p dispatchLevel
        phase :=
          Function.update s.phase p
            (.acquired mode (s.irql p))
        spinLock := (p, mode) :: s.spinLock
        entry := Function.update s.entry p (s.irql p) } := by
  simp only [step, exAcquireSpinLock] at hStep
  split at hStep
  next hGuard =>
    cases hStep
    exact ⟨hGuard.1, rfl⟩
  next => contradiction

theorem step_acquireStore
    (hStep : step s (.acquireStore p) = some t) :
    ∃ mode old, s.phase p = .acquired mode old ∧
      t = { s with
        phase := Function.update s.phase p (.holding mode)
        prevIrql := old } := by
  simp only [step, storePrevIrql] at hStep
  split at hStep
  next mode old hPhase =>
    cases hStep
    exact ⟨mode, old, hPhase, rfl⟩
  next => contradiction

theorem step_releaseLoad
    (hStep : step s (.releaseLoad p mode) = some t) :
    s.phase p = .holding mode ∧
      t = { s with
        phase :=
          Function.update s.phase p
            (.releasing mode s.prevIrql) } := by
  simp only [step, loadPrevIrql] at hStep
  split at hStep
  next hPhase =>
    cases hStep
    exact ⟨hPhase, rfl⟩
  next => contradiction

theorem step_releaseCall
    (hStep : step s (.releaseCall p) = some t) :
    ∃ mode level, s.phase p = .releasing mode level ∧
      t = { s with
        irql := Function.update s.irql p level
        phase := Function.update s.phase p .outside
        spinLock :=
          s.spinLock.filter (fun h => h.1 ≠ p) } := by
  simp only [step, exReleaseSpinLock] at hStep
  split at hStep
  next mode level hPhase =>
    cases hStep
    exact ⟨mode, level, hPhase, rfl⟩
  next => contradiction

end RwLock

end CxPlat

------------------------------------------------------------
-- The Invariant
------------------------------------------------------------

namespace CxPlat

namespace RwLock

variable {P : Type} [DecidableEq P]
variable {s t : State P} {p q : P} {mode : Mode}

/-
  All processors that have still to load `PrevIrql` entered
  at one IRQL, which is also what `PrevIrql` has once one of
  them has stored to it.
-/
structure Inv
    (s : State P) : Prop where
  held :
    ∀ p, Pending s p = true →
      ∃ mode, (p, mode) ∈ s.spinLock
  acquired :
    ∀ p mode old, s.phase p = .acquired mode old →
      old = s.entry p
  releasing :
    ∀ p mode level, s.phase p = .releasing mode level →
      level = s.entry p
  common :
    ∀ p q, Pending s p = true → Pending s q = true →
      s.entry p = s.entry q
  stored :
    ∀ p mode, s.phase p = .holding mode →
      s.prevIrql = s.entry p

omit [DecidableEq P] in
theorem inv_start
    (irql : P → Nat)
    (prevIrql : Nat) :
    Inv (State.start irql prevIrql) where
  held := by
    intro p hPending
    cases hPending
  acquired := by
    intro p mode old hPhase
    cases hPhase
  releasing := by
    intro p mode level hPhase
    cases hPhase
  common := by
    intro p q hPending
    cases hPending
  stored := by
    intro p mode hPhase
    cases hPhase

omit [DecidableEq P] in
theorem pending_of_acquired
    {old : Nat}
    (hPhase : s.phase p = .acquired mode old) :
    Pending s p = true := by
  simp only [Pending, hPhase]

omit [DecidableEq P] in
theorem pending_of_holding
    (hPhase : s.phase p = .holding mode) :
    Pending s p = true := by
  simp only [Pending, hPhase]

/- A step of `p` does not change what others have to do. -/
theorem pending_of_ne
    {phase : Phase}
    (hNe : q ≠ p)
    (hPhase : t.phase = Function.update s.phase p phase) :
    Pending t q = Pending s q := by
  simp only [Pending, hPhase, Function.update_of_ne hNe]

/-
  A step of `p` keeps the invariant if it does so for `p`:
  the phases and entries of the others stay as they are.
-/
theorem Inv.update
    {phase : Phase}
    (hInv : Inv s)
    (hPhase : t.phase = Function.update s.phase p phase)
    (hEntry : ∀ q, q ≠ p → t.entry q = s.entry q)
    (hLock :
      ∀ q mode, q ≠ p → (q, mode) ∈ s.spinLock →
        (q, mode) ∈ t.spinLock)
    (hHeld :
      Pending t p = true →
        ∃ mode, (p, mode) ∈ t.spinLock)
    (hAcquired :
      ∀ mode old, phase = .acquired mode old →
        old = t.entry p)
    (hReleasing :
      ∀ mode level, phase = .releasing mode level →
        level = t.entry p)
    (hCommon :
      ∀ q, q ≠ p → Pending t p = true →
        Pending s q = true → t.entry p = s.entry q)
    (hStored :
      ∀ q mode, t.phase q = .holding mode →
        t.prevIrql = t.entry q) :
    Inv t := by
  have hOwn : t.phase p = phase := by
    rw [hPhase, Function.update_self]
  have hOther : ∀ q, q ≠ p → t.phase q = s.phase q := by
    intro q hNe
    rw [hPhase, Function.update_of_ne hNe]
  constructor
  · intro q hPending
    by_cases hEq : q = p
    · subst hEq
      exact hHeld hPending
    · rw [pending_of_ne hEq hPhase] at hPending
      rcases hInv.held q hPending with ⟨mode, hHolds⟩
      exact ⟨mode, hLock q mode hEq hHolds⟩
  · intro q mode old hIs
    by_cases hEq : q = p
    · subst hEq
      rw [hOwn] at hIs
      exact hAcquired mode old hIs
    · rw [hOther q hEq] at hIs
      rw [hEntry q hEq]
      exact hInv.acquired q mode old hIs
  · intro q mode level hIs
    by_cases hEq : q = p
    · subst hEq
      rw [hOwn] at hIs
      exact hReleasing mode level hIs
    · rw [hOther q hEq] at hIs
      rw [hEntry q hEq]
      exact hInv.releasing q mode level hIs
  · intro q q' hPending hPending'
    by_cases hEq : q = p
    · by_cases hEq' : q' = p
      · rw [hEq, hEq']
      · rw [pending_of_ne hEq' hPhase] at hPending'
        rw [hEq, hEntry q' hEq']
        exact hCommon q' hEq' (hEq ▸ hPending) hPending'
    · rw [pending_of_ne hEq hPhase] at hPending
      rw [hEntry q hEq]
      by_cases hEq' : q' = p
      · rw [hEq']
        exact (hCommon q hEq (hEq' ▸ hPending')
          hPending).symm
      · rw [pending_of_ne hEq' hPhase] at hPending'
        rw [hEntry q' hEq']
        exact hInv.common q q' hPending hPending'
  · exact hStored

/-
  What is stored stays right for the holders after a step of
  a processor that is none of them.
-/
theorem Inv.stored_update
    {phase : Phase}
    (hInv : Inv s)
    (hPhase : t.phase = Function.update s.phase p phase)
    (hEntry : ∀ q, q ≠ p → t.entry q = s.entry q)
    (hPrev : t.prevIrql = s.prevIrql)
    (hNot : ∀ mode, phase ≠ .holding mode)
    (q : P)
    (mode : Mode)
    (hIs : t.phase q = .holding mode) :
    t.prevIrql = t.entry q := by
  rw [hPhase] at hIs
  by_cases hEq : q = p
  · subst hEq
    rw [Function.update_self] at hIs
    exact absurd hIs (hNot mode)
  · rw [Function.update_of_ne hEq] at hIs
    rw [hPrev, hEntry q hEq]
    exact hInv.stored q mode hIs

/- The call: the new holder shares the IRQL of the others. -/
theorem inv_acquireCall
    (hInv : Inv s)
    (hSame : SameEntry s (.acquireCall p mode))
    (hStep : step s (.acquireCall p mode) = some t) :
    Inv t := by
  rcases step_acquireCall hStep with ⟨hOutside, hNext⟩
  subst hNext
  apply hInv.update rfl
  · intro q hNe
    simp only [Function.update_of_ne hNe]
  · intro q m _ hHolds
    exact List.mem_cons_of_mem _ hHolds
  · intro _
    exact ⟨mode, List.mem_cons_self⟩
  · intro m old hIs
    cases hIs
    simp only [Function.update_self]
  · intro m level hIs
    contradiction
  · intro q hNe _ hPending
    rcases hInv.held q hPending with ⟨m, hHolds⟩
    simp only [Function.update_self]
    exact (hSame (q, m) hHolds hPending).symm
  · apply hInv.stored_update rfl
    · intro q hNe
      simp only [Function.update_of_ne hNe]
    · rfl
    · intro m hIs
      contradiction

/- The store: all readers would store the same value. -/
theorem inv_acquireStore
    (hInv : Inv s)
    (hStep : step s (.acquireStore p) = some t) :
    Inv t := by
  rcases step_acquireStore hStep with
    ⟨mode, old, hAcquired, hNext⟩
  have hOwn := pending_of_acquired hAcquired
  have hOld := hInv.acquired p mode old hAcquired
  subst hNext
  apply hInv.update rfl
  · intro q _
    rfl
  · intro q m _ hHolds
    exact hHolds
  · intro _
    exact hInv.held p hOwn
  · intro m level hIs
    contradiction
  · intro m level hIs
    contradiction
  · intro q _ _ hPending
    exact hInv.common p q hOwn hPending
  · intro q m hIs
    simp only
    rw [hOld]
    by_cases hEq : q = p
    · rw [hEq]
    · simp only [Function.update_of_ne hEq] at hIs
      exact hInv.common p q hOwn (pending_of_holding hIs)

/- The load: the value is the processor's own. -/
theorem inv_releaseLoad
    (hInv : Inv s)
    (hStep : step s (.releaseLoad p mode) = some t) :
    Inv t := by
  rcases step_releaseLoad hStep with ⟨hHolding, hNext⟩
  subst hNext
  apply hInv.update rfl
  · intro q _
    rfl
  · intro q m _ hHolds
    exact hHolds
  · intro _
    exact hInv.held p (pending_of_holding hHolding)
  · intro m old hIs
    contradiction
  · intro m level hIs
    cases hIs
    exact hInv.stored p mode hHolding
  · intro q _ hPending
    simp [Pending] at hPending
  · apply hInv.stored_update rfl
    · intro q _
      rfl
    · rfl
    · intro m hIs
      contradiction

theorem inv_releaseCall
    (hInv : Inv s)
    (hStep : step s (.releaseCall p) = some t) :
    Inv t := by
  rcases step_releaseCall hStep with
    ⟨mode, level, hReleasing, hNext⟩
  subst hNext
  apply hInv.update rfl
  · intro q _
    rfl
  · intro q m hNe hHolds
    simp only [List.mem_filter]
    exact ⟨hHolds, by simpa using hNe⟩
  · intro hPending
    simp [Pending] at hPending
  · intro m old hIs
    contradiction
  · intro m level' hIs
    contradiction
  · intro q _ hPending
    simp [Pending] at hPending
  · apply hInv.stored_update rfl
    · intro q _
      rfl
    · rfl
    · intro m hIs
      contradiction

/- Every step under the condition keeps the invariant. -/
theorem inv_step
    {a : Action P}
    (hInv : Inv s)
    (hSame : SameEntry s a)
    (hStep : step s a = some t) :
    Inv t := by
  cases a with
  | changeIrql p level =>
      rcases step_changeIrql hStep with ⟨_, hNext⟩
      subst hNext
      exact
        { held := hInv.held
          acquired := hInv.acquired
          releasing := hInv.releasing
          common := hInv.common
          stored := hInv.stored }
  | acquireCall p mode =>
      exact inv_acquireCall hInv hSame hStep
  | acquireStore p => exact inv_acquireStore hInv hStep
  | releaseLoad p mode => exact inv_releaseLoad hInv hStep
  | releaseCall p => exact inv_releaseCall hInv hStep

end RwLock

end CxPlat

------------------------------------------------------------
-- Restoring The IRQL
------------------------------------------------------------

namespace CxPlat

namespace RwLock

open Transition

variable {P : Type} [DecidableEq P]

/- Releasing brings the processor back to its entry IRQL. -/
def Restores
    (s : State P) : Prop :=
  ∀ p t, step s (.releaseCall p) = some t →
    t.irql p = s.entry p

theorem Inv.restores
    {s : State P}
    (hInv : Inv s) :
    Restores s := by
  intro p t hStep
  rcases step_releaseCall hStep with
    ⟨mode, level, hReleasing, hNext⟩
  subst hNext
  simp only [Function.update_self]
  exact hInv.releasing p mode level hReleasing

/-
  In every run in which the lock is only ever granted to a
  processor at the entry IRQL of the pending holders, every
  release restores the IRQL.
-/
theorem release_restores_of_sameEntry
    (irql : P → Nat)
    (prevIrql : Nat)
    (actions : List (Action P))
    (s : State P)
    (hRun :
      run step (State.start irql prevIrql) actions = some s)
    (hMeets :
      Meets step SameEntry (State.start irql prevIrql)
        actions) :
    Restores s := by
  have hInv : Inv s :=
    invariant_meets
      (fun _ _ _ hInv hSame hStep =>
        inv_step hInv hSame hStep)
      (inv_start irql prevIrql) hMeets hRun
  exact hInv.restores

/- A reader and, after it, a writer at another IRQL. -/
def readThenWrite : List (Action Nat) :=
  [.acquireCall 0 .shared, .acquireStore 0,
    .releaseLoad 0 .shared, .releaseCall 0,
    .acquireCall 1 .exclusive, .acquireStore 1,
    .releaseLoad 1 .exclusive]

theorem release_restores_readThenWrite :
    ∃ s,
      run step (State.start (fun p => p) 0) readThenWrite =
          some s ∧
        Restores s := by
  refine ⟨_, rfl, ?_⟩
  exact release_restores_of_sameEntry (fun p => p) 0
    readThenWrite _ rfl (by decide)

/- Reader 0 enters at IRQL 0 and reader 1 at IRQL 2. -/
def mixedReaders : List (Action Nat) :=
  [.acquireCall 0 .shared, .acquireStore 0,
    .acquireCall 1 .shared, .acquireStore 1,
    .releaseLoad 0 .shared]

/- Reader 0 leaves at the IRQL of reader 1. -/
theorem mixedReaders_not_restored :
    ∃ s t,
      run step
          (State.start (fun p => if p = 1 then 2 else 0) 0)
          mixedReaders = some s ∧
        step s (.releaseCall 0) = some t ∧
        s.entry 0 = 0 ∧ t.irql 0 = 2 := by
  exact ⟨_, _, rfl, rfl, rfl, rfl⟩

end RwLock

end CxPlat

------------------------------------------------------------
-- Exactness
------------------------------------------------------------

namespace CxPlat

namespace RwLock

open Transition

variable {P : Type} [DecidableEq P]

/- What a processor has still to store is its entry IRQL. -/
def Recorded
    (s : State P) : Prop :=
  ∀ p mode old, s.phase p = .acquired mode old →
    old = s.entry p

theorem recorded_step
    {s t : State P}
    {a : Action P}
    (hRecorded : Recorded s)
    (hStep : step s a = some t) :
    Recorded t := by
  intro q mode old hIs
  cases a with
  | changeIrql p level =>
      rcases step_changeIrql hStep with ⟨_, hNext⟩
      subst hNext
      exact hRecorded q mode old hIs
  | acquireCall p m =>
      rcases step_acquireCall hStep with ⟨_, hNext⟩
      subst hNext
      by_cases hEq : q = p
      · subst hEq
        simp only [Function.update_self] at hIs ⊢
        cases hIs
        rfl
      · simp only [Function.update_of_ne hEq] at hIs ⊢
        exact hRecorded q mode old hIs
  | acquireStore p =>
      rcases step_acquireStore hStep with ⟨_, _, _, hNext⟩
      subst hNext
      by_cases hEq : q = p
      · subst hEq
        simp at hIs
      · simp only [Function.update_of_ne hEq] at hIs
        exact hRecorded q mode old hIs
  | releaseLoad p m =>
      rcases step_releaseLoad hStep with ⟨_, hNext⟩
      subst hNext
      by_cases hEq : q = p
      · subst hEq
        simp at hIs
      · simp only [Function.update_of_ne hEq] at hIs
        exact hRecorded q mode old hIs
  | releaseCall p =>
      rcases step_releaseCall hStep with ⟨_, _, _, hNext⟩
      subst hNext
      by_cases hEq : q = p
      · subst hEq
        simp at hIs
      · simp only [Function.update_of_ne hEq] at hIs
        exact hRecorded q mode old hIs

/- A processor that has loaded a wrong IRQL gets it. -/
theorem not_restores_of_releasing
    {s : State P}
    {p : P}
    {mode : Mode}
    {level : Nat}
    (hPhase : s.phase p = .releasing mode level)
    (hNe : level ≠ s.entry p) :
    ¬ Restores s := by
  intro hRestores
  apply hNe
  have hStep :
      step s (.releaseCall p) =
        some { s with
          irql := Function.update s.irql p level
          phase := Function.update s.phase p .outside
          spinLock :=
            s.spinLock.filter (fun h => h.1 ≠ p) } := by
    simp only [step, exReleaseSpinLock, hPhase]
  have hIrql := hRestores p _ hStep
  simp only [Function.update_self] at hIrql
  exact hIrql

/- The store is always possible after the call. -/
theorem acquireStore_enabled
    {s : State P}
    {p : P}
    {mode : Mode}
    {old : Nat}
    (hPhase : s.phase p = .acquired mode old) :
    ∃ t, step s (.acquireStore p) = some t ∧
      t.phase =
        Function.update s.phase p (.holding mode) ∧
      t.prevIrql = old ∧ t.entry = s.entry := by
  refine
    ⟨{ s with
        phase := Function.update s.phase p (.holding mode)
        prevIrql := old }, ?_, rfl, rfl, rfl⟩
  simp only [step, storePrevIrql, hPhase]

/-
  Processor `p` stores another IRQL than that of `q`, which
  then loads it.
-/
theorem store_then_load_violates
    {s : State P}
    {p q : P}
    {mode mode' : Mode}
    {old : Nat}
    (hNe : q ≠ p)
    (hAcquired : s.phase p = .acquired mode old)
    (hHolding : s.phase q = .holding mode')
    (hEntry : old ≠ s.entry q) :
    ∃ u,
      run step s [.acquireStore p, .releaseLoad q mode'] =
          some u ∧
        ¬ Restores u := by
  rcases acquireStore_enabled hAcquired with
    ⟨t, hStore, hPhase, hPrev, hKept⟩
  have hStill : t.phase q = .holding mode' := by
    rw [hPhase, Function.update_of_ne hNe]
    exact hHolding
  have hLoad :
      step t (.releaseLoad q mode') =
        some { t with
          phase :=
            Function.update t.phase q
              (.releasing mode' old) } := by
    simp only [step, loadPrevIrql, hStill, if_true, hPrev]
  refine
    ⟨{ t with
        phase :=
          Function.update t.phase q
            (.releasing mode' old) }, ?_, ?_⟩
  · rw [run_cons _ hStore, run_cons _ hLoad]
    rfl
  · apply not_restores_of_releasing
    · exact Function.update_self ..
    · simp only [hKept]
      exact hEntry

/-
  The condition leaves out no run that is safe: once a
  processor is granted the lock beside a pending holder that
  entered at another IRQL, one of the two can be made to
  leave at the IRQL of the other.
-/
theorem mixed_readers_reach_violation
    (irql : P → Nat)
    (prevIrql : Nat)
    (actions : List (Action P))
    (s t : State P)
    (p : P)
    (mode : Mode)
    (hRun :
      run step (State.start irql prevIrql) actions = some s)
    (hGranted : step s (.acquireCall p mode) = some t)
    (hMixed : ¬ SameEntry s (.acquireCall p mode)) :
    ∃ more u, run step t more = some u ∧ ¬ Restores u := by
  have hRecorded : Recorded s := by
    refine invariant_run
      (fun _ _ _ hRecorded hStep =>
        recorded_step hRecorded hStep) ?_ hRun
    intro q m old hIs
    cases hIs
  rcases step_acquireCall hGranted with ⟨hOutside, hNext⟩
  simp only [SameEntry, not_forall] at hMixed
  rcases hMixed with ⟨⟨q, m⟩, _, hPending, hNe⟩
  simp only at hPending hNe
  have hOther : q ≠ p := by
    intro hEq
    subst hEq
    simp [Pending, hOutside] at hPending
  have hOwn : t.phase p = .acquired mode (s.irql p) := by
    rw [hNext]
    exact Function.update_self ..
  have hPhase : t.phase q = s.phase q := by
    rw [hNext]
    exact Function.update_of_ne hOther ..
  have hEntry : t.entry q = s.entry q := by
    rw [hNext]
    exact Function.update_of_ne hOther ..
  have hEntryOwn : t.entry p = s.irql p := by
    rw [hNext]
    exact Function.update_self ..
  cases hIs : s.phase q with
  | outside => simp [Pending, hIs] at hPending
  | releasing m' level => simp [Pending, hIs] at hPending
  | holding m' =>
      -- `p` overwrites the value that `q` then loads.
      rw [hIs] at hPhase
      have hWrong : s.irql p ≠ t.entry q := by
        rw [hEntry]
        exact Ne.symm hNe
      exact ⟨_, store_then_load_violates hOther hOwn hPhase
        hWrong⟩
  | acquired m' old =>
      -- `q` overwrites the value that `p` then loads.
      rw [hIs] at hPhase
      have hOld := hRecorded q m' old hIs
      rcases acquireStore_enabled hOwn with
        ⟨v, hStore, hPhase', _, hKept⟩
      have hFirst : v.phase p = .holding mode := by
        rw [hPhase', Function.update_self]
      have hSecond : v.phase q = .acquired m' old := by
        rw [hPhase', Function.update_of_ne hOther]
        exact hPhase
      have hWrong : old ≠ v.entry p := by
        rw [hKept, hEntryOwn, hOld]
        exact hNe
      rcases store_then_load_violates (Ne.symm hOther)
        hSecond hFirst hWrong with ⟨u, hRest, hBad⟩
      refine
        ⟨[.acquireStore p, .acquireStore q,
          .releaseLoad p mode], u, ?_, hBad⟩
      rw [run_cons _ hStore]
      exact hRest

end RwLock

end CxPlat
