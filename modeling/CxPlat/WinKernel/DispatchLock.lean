import CxPlat.Lib.Threads
import CxPlat.WinKernel.RwLock
import Mathlib.Data.List.Nodup

/-
  The dispatch-level lock of kernel mode, from
  `cxplat_winkernel.h`.

  Each lock is a spin lock with a `PrevIrql` of its own.
  Acquiring takes the spin lock, raises the IRQL of the
  processor and then stores the old one to `PrevIrql`;
  releasing loads `PrevIrql` and passes it to the call that
  frees the spin lock and lowers the IRQL.  Any number of
  processors do so with any number of locks, which they may
  hold at the same time.

  Key definitions include:
    * `Locks`, `Processor`
    * `statement`
    * `Nested`
    * `Safe`

  Key theorems include:
    * `outline`
    * `disciplined_step`
    * `dispatchLock_restores`
-/

------------------------------------------------------------
-- Processors And Locks
------------------------------------------------------------

namespace CxPlat

namespace DispatchLock

open RwLock (dispatchLevel)

/- Who has each spin lock, and every `PrevIrql`. -/
structure Locks (P Lock : Type) where
  spinLock : Lock → Option P
  prevIrql : Lock → Nat

/- Where a processor is in the macros of the lock. -/
inductive Phase (Lock : Type) where
  | running
  | acquired (lock : Lock) (old : Nat)
  | releasing (lock : Lock) (level : Nat)
deriving DecidableEq, Repr

/-
  A lock that has been acquired, and the IRQL of the processor
  right before that, which is a record that no step reads.
-/
structure Held (Lock : Type) where
  lock : Lock
  entry : Nat
deriving DecidableEq, Repr

/- The locks held are in the order of their acquisition. -/
structure Processor (Lock : Type) where
  irql : Nat
  phase : Phase Lock
  held : List (Held Lock)
deriving DecidableEq, Repr

inductive Action (Lock : Type) where
  | changeIrql (level : Nat)
  | acquireCall (lock : Lock)
  | acquireStore
  | releaseLoad (lock : Lock)
  | releaseCall
deriving DecidableEq, Repr

variable {P Lock : Type} [DecidableEq P] [DecidableEq Lock]

/-
  `KeAcquireSpinLockRaiseToDpc`, or the first part of
  `KeAcquireSpinLock`: the lock is taken once it is free.
-/
def keAcquireSpinLock
    (s : Locks P Lock)
    (p : P)
    (l : Processor Lock)
    (lock : Lock) :
    Option (Locks P Lock × Processor Lock) :=
  if l.phase = .running ∧ s.spinLock lock = none then
    some
      ({ s with
         spinLock := Function.update s.spinLock lock (some p) },
       { irql := dispatchLevel
         phase := .acquired lock l.irql
         held := { lock := lock, entry := l.irql } :: l.held })
  else
    none

/- The store of the old IRQL to `PrevIrql`. -/
def storePrevIrql
    (s : Locks P Lock)
    (l : Processor Lock) :
    Option (Locks P Lock × Processor Lock) :=
  match l.phase with
  | .acquired lock old =>
      some
        ({ s with
           prevIrql := Function.update s.prevIrql lock old },
         { l with phase := .running })
  | _ => none

/- The argument `(Lock)->PrevIrql` of the release call. -/
def loadPrevIrql
    (s : Locks P Lock)
    (l : Processor Lock)
    (lock : Lock) :
    Option (Locks P Lock × Processor Lock) :=
  if l.phase = .running ∧ lock ∈ l.held.map Held.lock then
    some
      (s, { l with phase := .releasing lock (s.prevIrql lock) })
  else
    none

/- `KeReleaseSpinLock`. -/
def keReleaseSpinLock
    (s : Locks P Lock)
    (l : Processor Lock) :
    Option (Locks P Lock × Processor Lock) :=
  match l.phase with
  | .releasing lock level =>
      some
        ({ s with
           spinLock := Function.update s.spinLock lock none },
         { irql := level
           phase := .running
           held := l.held.filter (fun h => h.lock ≠ lock) })
  | _ => none

/-
  One step of one processor.  While it holds no lock it runs
  at any IRQL up to `DISPATCH_LEVEL`.
-/
def statement :
    Threads.Program (Locks P Lock) (Processor Lock) P
      (Action Lock)
  | s, _, l, .changeIrql level =>
      if l.phase = .running ∧ l.held = [] ∧
          level ≤ dispatchLevel then
        some (s, { l with irql := level })
      else
        none
  | s, p, l, .acquireCall lock => keAcquireSpinLock s p l lock
  | s, _, l, .acquireStore => storePrevIrql s l
  | s, _, l, .releaseLoad lock => loadPrevIrql s l lock
  | s, _, l, .releaseCall => keReleaseSpinLock s l

abbrev Config (P Lock : Type) :=
  Threads.Config (Locks P Lock) (Processor Lock) P

def step
    (c : Config P Lock)
    (move : P × Action Lock) : Option (Config P Lock) :=
  Threads.step statement c move

/-
  Initialised locks that nobody uses; `PrevIrql` is not
  initialised.
-/
def start
    (irql : P → Nat)
    (prevIrql : Lock → Nat) : Config P Lock where
  shared :=
    { spinLock := fun _ => none
      prevIrql := prevIrql }
  locals := fun p =>
    { irql := irql p, phase := .running, held := [] }

/- The lock acquired last is released first. -/
def Nested
    (c : Config P Lock)
    (move : P × Action Lock) : Prop :=
  match move.2 with
  | .releaseLoad lock =>
      (c.locals move.1).held.head?.map Held.lock = some lock
  | _ => True

instance
    (c : Config P Lock)
    (move : P × Action Lock) :
    Decidable (Nested c move) := by
  unfold Nested
  split
  · infer_instance
  · infer_instance

end DispatchLock

end CxPlat

------------------------------------------------------------
-- What A Step Does
------------------------------------------------------------

namespace CxPlat

namespace DispatchLock

open RwLock (dispatchLevel)

variable {P Lock : Type} [DecidableEq Lock]
variable {s s' : Locks P Lock} {p : P}
variable {l l' : Processor Lock}

/- All that a step can be. -/
inductive Moves
    (s : Locks P Lock)
    (p : P)
    (l : Processor Lock) :
    Action Lock → Locks P Lock → Processor Lock → Prop where
  | changeIrql
      {level : Nat}
      (hPhase : l.phase = .running)
      (hHeld : l.held = [])
      (hLevel : level ≤ dispatchLevel) :
      Moves s p l (.changeIrql level) s
        { l with irql := level }
  | acquireCall
      {lock : Lock}
      (hPhase : l.phase = .running)
      (hFree : s.spinLock lock = none) :
      Moves s p l (.acquireCall lock)
        { s with
          spinLock :=
            Function.update s.spinLock lock (some p) }
        { irql := dispatchLevel
          phase := .acquired lock l.irql
          held :=
            { lock := lock, entry := l.irql } :: l.held }
  | acquireStore
      {lock : Lock}
      {old : Nat}
      (hPhase : l.phase = .acquired lock old) :
      Moves s p l .acquireStore
        { s with
          prevIrql := Function.update s.prevIrql lock old }
        { l with phase := .running }
  | releaseLoad
      {lock : Lock}
      (hPhase : l.phase = .running)
      (hHeld : lock ∈ l.held.map Held.lock) :
      Moves s p l (.releaseLoad lock) s
        { l with phase := .releasing lock (s.prevIrql lock) }
  | releaseCall
      {lock : Lock}
      {level : Nat}
      (hPhase : l.phase = .releasing lock level) :
      Moves s p l .releaseCall
        { s with
          spinLock := Function.update s.spinLock lock none }
        { irql := level
          phase := .running
          held := l.held.filter (fun h => h.lock ≠ lock) }

theorem moves_of_statement
    {a : Action Lock}
    (hStep : statement s p l a = some (s', l')) :
    Moves s p l a s' l' := by
  cases a with
  | changeIrql level =>
      simp only [statement] at hStep
      split at hStep
      next hGuard =>
        cases hStep
        exact .changeIrql hGuard.1 hGuard.2.1 hGuard.2.2
      next => contradiction
  | acquireCall lock =>
      simp only [statement, keAcquireSpinLock] at hStep
      split at hStep
      next hGuard =>
        cases hStep
        exact .acquireCall hGuard.1 hGuard.2
      next => contradiction
  | acquireStore =>
      simp only [statement, storePrevIrql] at hStep
      split at hStep
      next hPhase =>
        cases hStep
        exact .acquireStore hPhase
      next => contradiction
  | releaseLoad lock =>
      simp only [statement, loadPrevIrql] at hStep
      split at hStep
      next hGuard =>
        cases hStep
        exact .releaseLoad hGuard.1 hGuard.2
      next => contradiction
  | releaseCall =>
      simp only [statement, keReleaseSpinLock] at hStep
      split at hStep
      next hPhase =>
        cases hStep
        exact .releaseCall hPhase
      next => contradiction

end DispatchLock

end CxPlat

------------------------------------------------------------
-- Ownership
------------------------------------------------------------

namespace CxPlat

namespace DispatchLock

open RwLock (dispatchLevel)

variable {P Lock : Type}
variable {s s' : Locks P Lock} {p q : P}
variable {l l' : Processor Lock}

/- The lock's `PrevIrql` has still to be stored. -/
def Storing
    (l : Processor Lock)
    (lock : Lock) : Prop :=
  ∃ old, l.phase = .acquired lock old

/-
  A processor has the spin locks of the locks it holds, each
  once, and their `PrevIrql` is what it was at when it
  acquired them.
-/
structure Owns
    (s : Locks P Lock)
    (p : P)
    (l : Processor Lock) : Prop where
  distinct : (l.held.map Held.lock).Nodup
  owner : ∀ h ∈ l.held, s.spinLock h.lock = some p
  stored :
    ∀ h ∈ l.held, ¬ Storing l h.lock →
      s.prevIrql h.lock = h.entry
  acquired :
    ∀ lock old, l.phase = .acquired lock old →
      { lock := lock, entry := old } ∈ l.held
  releasing :
    ∀ lock level, l.phase = .releasing lock level →
      { lock := lock, entry := level } ∈ l.held

/- A running processor has stored every `PrevIrql`. -/
theorem not_storing_of_running
    (hPhase : l.phase = .running)
    (lock : Lock) :
    ¬ Storing l lock := by
  rintro ⟨old, hAcquired⟩
  rw [hPhase] at hAcquired
  contradiction

/- Two records of one lock are the same. -/
theorem Owns.unique
    (hOwns : Owns s p l)
    {h h' : Held Lock}
    (hMem : h ∈ l.held)
    (hMem' : h' ∈ l.held)
    (hLock : h.lock = h'.lock) :
    h = h' :=
  List.inj_on_of_nodup_map hOwns.distinct hMem hMem' hLock

/- A processor that owns no free lock does not hold it. -/
theorem Owns.ne_of_free
    (hOwns : Owns s p l)
    {lock : Lock}
    (hFree : s.spinLock lock = none)
    {h : Held Lock}
    (hMem : h ∈ l.held) :
    h.lock ≠ lock := by
  intro hLock
  have hOwner := hOwns.owner h hMem
  rw [hLock, hFree] at hOwner
  contradiction

/- Locks of two processors are different. -/
theorem Owns.ne_of_ne
    {m : Processor Lock}
    (hOwns : Owns s p l)
    (hOther : Owns s q m)
    (hNe : q ≠ p)
    {h h' : Held Lock}
    (hMem : h ∈ l.held)
    (hMem' : h' ∈ m.held) :
    h'.lock ≠ h.lock := by
  intro hLock
  have hFirst := hOwns.owner h hMem
  have hSecond := hOther.owner h' hMem'
  rw [hLock, hFirst] at hSecond
  exact hNe (Option.some.inj hSecond).symm

theorem Owns.releaseLoad
    (hOwns : Owns s p l)
    {lock : Lock}
    (hPhase : l.phase = .running)
    (hHeld : lock ∈ l.held.map Held.lock) :
    Owns s p
      { l with
        phase := .releasing lock (s.prevIrql lock) } := by
  constructor
  · exact hOwns.distinct
  · exact hOwns.owner
  · intro h hMem _
    exact hOwns.stored h hMem
      (not_storing_of_running hPhase h.lock)
  · intro lock' old hAcquired
    contradiction
  · intro lock' level hReleasing
    cases hReleasing
    rcases List.mem_map.mp hHeld with ⟨h, hMem, rfl⟩
    rw [hOwns.stored h hMem
      (not_storing_of_running hPhase h.lock)]
    exact hMem

variable [DecidableEq Lock]

theorem Owns.acquireCall
    (hOwns : Owns s p l)
    {lock : Lock}
    (hPhase : l.phase = .running)
    (hFree : s.spinLock lock = none) :
    Owns
      { s with
        spinLock := Function.update s.spinLock lock (some p) }
      p
      { irql := dispatchLevel
        phase := .acquired lock l.irql
        held :=
          { lock := lock, entry := l.irql } :: l.held } := by
  constructor
  · simp only [List.map_cons, List.nodup_cons]
    refine ⟨?_, hOwns.distinct⟩
    intro hMem
    rcases List.mem_map.mp hMem with ⟨h, hHeld, hLock⟩
    exact hOwns.ne_of_free hFree hHeld hLock
  · intro h hMem
    rcases List.mem_cons.mp hMem with rfl | hMem
    · exact Function.update_self ..
    · simp only [Function.update_of_ne
        (hOwns.ne_of_free hFree hMem)]
      exact hOwns.owner h hMem
  · intro h hMem hStored
    rcases List.mem_cons.mp hMem with rfl | hMem
    · exact absurd ⟨l.irql, rfl⟩ hStored
    · exact hOwns.stored h hMem
        (not_storing_of_running hPhase h.lock)
  · intro lock' old hAcquired
    cases hAcquired
    exact List.mem_cons_self
  · intro lock' level hReleasing
    contradiction

theorem Owns.acquireStore
    (hOwns : Owns s p l)
    {lock : Lock}
    {old : Nat}
    (hPhase : l.phase = .acquired lock old) :
    Owns
      { s with
        prevIrql := Function.update s.prevIrql lock old }
      p { l with phase := .running } := by
  constructor
  · exact hOwns.distinct
  · exact hOwns.owner
  · intro h hMem _
    by_cases hLock : h.lock = lock
    · have hSame :=
        hOwns.unique hMem (hOwns.acquired lock old hPhase)
          hLock
      subst hSame
      exact Function.update_self ..
    · simp only [Function.update_of_ne hLock]
      apply hOwns.stored h hMem
      rintro ⟨old', hOther⟩
      rw [hPhase] at hOther
      cases hOther
      exact hLock rfl
  · intro lock' old' hAcquired
    contradiction
  · intro lock' level hReleasing
    contradiction

theorem Owns.releaseCall
    (hOwns : Owns s p l)
    {lock : Lock}
    {level : Nat}
    (hPhase : l.phase = .releasing lock level) :
    Owns
      { s with
        spinLock := Function.update s.spinLock lock none }
      p
      { irql := level
        phase := .running
        held := l.held.filter (fun h => h.lock ≠ lock) } := by
  have hKept :
      ∀ h ∈ l.held.filter (fun h => h.lock ≠ lock),
        h ∈ l.held ∧ h.lock ≠ lock := by
    intro h hMem
    simpa using List.mem_filter.mp hMem
  constructor
  · exact hOwns.distinct.sublist
      (List.filter_sublist.map Held.lock)
  · intro h hMem
    rcases hKept h hMem with ⟨hHeld, hLock⟩
    simp only [Function.update_of_ne hLock]
    exact hOwns.owner h hHeld
  · intro h hMem _
    rcases hKept h hMem with ⟨hHeld, _⟩
    apply hOwns.stored h hHeld
    rintro ⟨old, hAcquired⟩
    rw [hPhase] at hAcquired
    contradiction
  · intro lock' old hAcquired
    contradiction
  · intro lock' level' hReleasing
    contradiction

/-
  What one processor does to a lock that it takes or holds
  does not concern another one.
-/
theorem Owns.frame
    (hOwns : Owns s p l)
    {lock : Lock}
    (hLock : ∀ h ∈ l.held, h.lock ≠ lock)
    (spin : Option P)
    (level : Nat) :
    Owns
      { spinLock := Function.update s.spinLock lock spin
        prevIrql := Function.update s.prevIrql lock level }
      p l := by
  constructor
  · exact hOwns.distinct
  · intro h hMem
    simp only [Function.update_of_ne (hLock h hMem)]
    exact hOwns.owner h hMem
  · intro h hMem
    simp only [Function.update_of_ne (hLock h hMem)]
    exact hOwns.stored h hMem
  · exact hOwns.acquired
  · exact hOwns.releasing

/- The assertions of all processors, step by step. -/
theorem outline :
    Threads.Outline
      (statement :
        Threads.Program (Locks P Lock) (Processor Lock) P
          (Action Lock))
      (fun _ => True) Owns where
  own := by
    intro s p l a s' l' _ hOwns hStep
    refine ⟨trivial, ?_⟩
    cases moves_of_statement hStep with
    | changeIrql hPhase hHeld hLevel =>
        exact
          { distinct := hOwns.distinct
            owner := hOwns.owner
            stored := hOwns.stored
            acquired := hOwns.acquired
            releasing := hOwns.releasing }
    | acquireCall hPhase hFree =>
        exact hOwns.acquireCall hPhase hFree
    | acquireStore hPhase => exact hOwns.acquireStore hPhase
    | releaseLoad hPhase hHeld =>
        exact hOwns.releaseLoad hPhase hHeld
    | releaseCall hPhase => exact hOwns.releaseCall hPhase
  others := by
    intro s p l a s' l' q m _ hOwns hNe hOther hStep
    cases moves_of_statement hStep with
    | changeIrql hPhase hHeld hLevel => exact hOther
    | @acquireCall lock hPhase hFree =>
        have hFrame :=
          hOther.frame
            (fun h hMem => hOther.ne_of_free hFree hMem)
            (some p) (s.prevIrql lock)
        rwa [Function.update_eq_self] at hFrame
    | @acquireStore lock old hPhase =>
        have hMine := hOwns.acquired lock old hPhase
        have hFrame :=
          hOther.frame
            (fun h hMem =>
              hOwns.ne_of_ne hOther hNe hMine hMem)
            (s.spinLock lock) old
        rwa [Function.update_eq_self] at hFrame
    | releaseLoad hPhase hHeld => exact hOther
    | @releaseCall lock level hPhase =>
        have hMine := hOwns.releasing lock level hPhase
        have hFrame :=
          hOther.frame
            (fun h hMem =>
              hOwns.ne_of_ne hOther hNe hMine hMem)
            none (s.prevIrql lock)
        rwa [Function.update_eq_self] at hFrame

end DispatchLock

end CxPlat

------------------------------------------------------------
-- Nesting
------------------------------------------------------------

namespace CxPlat

namespace DispatchLock

open RwLock (dispatchLevel)

variable {P Lock : Type} [DecidableEq Lock]
variable {s s' : Locks P Lock} {p : P}
variable {l l' : Processor Lock}

/-
  A processor that releases its locks in reverse order is at
  `DISPATCH_LEVEL` while it holds any, and was there when it
  acquired all but the first of them.
-/
structure Disciplined
    (l : Processor Lock) : Prop where
  level : l.irql ≤ dispatchLevel
  raised : l.held ≠ [] → l.irql = dispatchLevel
  entries : ∀ h ∈ l.held, h.entry ≤ dispatchLevel
  inner : ∀ h ∈ l.held.dropLast, h.entry = dispatchLevel
  last :
    ∀ lock level, l.phase = .releasing lock level →
      l.held.head? = some { lock := lock, entry := level }

/- A lock acquired inside another is acquired at dispatch. -/
omit [DecidableEq Lock] in
theorem Disciplined.inner_cons
    (hDisciplined : Disciplined l)
    (lock : Lock) :
    ∀ h ∈ ({ lock := lock, entry := l.irql } ::
        l.held).dropLast,
      h.entry = dispatchLevel := by
  intro h hMem
  cases hHeld : l.held with
  | nil =>
      rw [hHeld] at hMem
      contradiction
  | cons first rest =>
      rw [hHeld, List.dropLast_cons_cons, ← hHeld] at hMem
      rcases List.mem_cons.mp hMem with rfl | hMem
      · apply hDisciplined.raised
        simp [hHeld]
      · exact hDisciplined.inner h hMem

/- Without its first lock the others stay as they are. -/
theorem Owns.filter_head
    (hOwns : Owns s p l)
    {first : Held Lock}
    {rest : List (Held Lock)}
    (hHeld : l.held = first :: rest) :
    l.held.filter (fun h => h.lock ≠ first.lock) = rest := by
  have hDistinct := hOwns.distinct
  rw [hHeld] at hDistinct ⊢
  simp only [List.map_cons, List.nodup_cons] at hDistinct
  rw [List.filter_cons_of_neg (by simp)]
  apply List.filter_eq_self.mpr
  intro h hMem
  have hNe : h.lock ≠ first.lock := by
    intro hLock
    exact hDistinct.1 (List.mem_map.mpr ⟨h, hMem, hLock⟩)
  simpa using hNe

/- Releasing the last lock acquired. -/
theorem Disciplined.releaseCall
    (hDisciplined : Disciplined l)
    (hOwns : Owns s p l)
    {lock : Lock}
    {level : Nat}
    (hPhase : l.phase = .releasing lock level) :
    Disciplined
      { irql := level
        phase := .running
        held := l.held.filter (fun h => h.lock ≠ lock) } := by
  have hFirst := hDisciplined.last lock level hPhase
  rcases List.head?_eq_some_iff.mp hFirst with ⟨rest, hHeld⟩
  have hRest := hOwns.filter_head hHeld
  simp only at hRest
  rw [hRest]
  have hMem :
      { lock := lock, entry := level } ∈ l.held := by
    simp [hHeld]
  constructor
  · exact hDisciplined.entries _ hMem
  · intro hMore
    -- The lock was acquired inside another one.
    apply hDisciplined.inner { lock := lock, entry := level }
    rw [hHeld, List.dropLast_cons_of_ne_nil hMore]
    exact List.mem_cons_self
  · intro h hOther
    apply hDisciplined.entries
    rw [hHeld]
    exact List.mem_cons_of_mem _ hOther
  · intro h hOther
    have hMore : rest ≠ [] := by
      rintro rfl
      contradiction
    apply hDisciplined.inner
    rw [hHeld, List.dropLast_cons_of_ne_nil hMore]
    exact List.mem_cons_of_mem _ hOther
  · intro lock' level' hReleasing
    contradiction

/- One step of the processor itself. -/
theorem disciplined_step
    {a : Action Lock}
    (hDisciplined : Disciplined l)
    (hOwns : Owns s p l)
    (hNested :
      ∀ lock, a = .releaseLoad lock →
        l.held.head?.map Held.lock = some lock)
    (hStep : statement s p l a = some (s', l')) :
    Disciplined l' := by
  cases moves_of_statement hStep with
  | changeIrql hPhase hHeld hLevel =>
      constructor
      · exact hLevel
      · intro hSome
        exact absurd hHeld hSome
      · exact hDisciplined.entries
      · exact hDisciplined.inner
      · exact hDisciplined.last
  | @acquireCall lock hPhase hFree =>
      constructor
      · exact Nat.le_refl _
      · intro _
        rfl
      · intro h hMem
        rcases List.mem_cons.mp hMem with rfl | hMem
        · exact hDisciplined.level
        · exact hDisciplined.entries h hMem
      · exact hDisciplined.inner_cons lock
      · intro lock' level hReleasing
        contradiction
  | acquireStore hPhase =>
      constructor
      · exact hDisciplined.level
      · exact hDisciplined.raised
      · exact hDisciplined.entries
      · exact hDisciplined.inner
      · intro lock' level hReleasing
        contradiction
  | @releaseLoad lock hPhase hHeld =>
      constructor
      · exact hDisciplined.level
      · exact hDisciplined.raised
      · exact hDisciplined.entries
      · exact hDisciplined.inner
      · intro lock' level hReleasing
        cases hReleasing
        have hFirst := hNested lock rfl
        rcases Option.map_eq_some_iff.mp hFirst with
          ⟨h, hHead, rfl⟩
        have hMem := List.mem_of_mem_head? hHead
        rw [hOwns.stored h hMem
          (not_storing_of_running hPhase h.lock)]
        exact hHead
  | releaseCall hPhase =>
      exact hDisciplined.releaseCall hOwns hPhase

end DispatchLock

end CxPlat

------------------------------------------------------------
-- Every Interleaving
------------------------------------------------------------

namespace CxPlat

namespace DispatchLock

open Transition

open RwLock (dispatchLevel)

variable {P Lock : Type} [DecidableEq P] [DecidableEq Lock]
variable {c d : Config P Lock}

/- The processor has the lock, whether or not it has stored. -/
def Holds
    (c : Config P Lock)
    (p : P)
    (lock : Lock) : Prop :=
  lock ∈ (c.locals p).held.map Held.lock

/-
  One holder for each lock; `PrevIrql` is, once stored, the
  IRQL right before the acquisition; a release brings the
  processor back to the IRQL right before the acquisition of
  the lock that it releases, which it then no longer holds;
  and locks are held at `DISPATCH_LEVEL`.
-/
structure Safe
    (c : Config P Lock) : Prop where
  exclusive :
    ∀ p q lock, Holds c p lock → Holds c q lock → p = q
  recorded :
    ∀ p, ∀ h ∈ (c.locals p).held,
      ¬ Storing (c.locals p) h.lock →
        c.shared.prevIrql h.lock = h.entry
  restores :
    ∀ p d, step c (p, .releaseCall) = some d →
      ∃ h level,
        (c.locals p).phase = .releasing h.lock level ∧
          (c.locals p).held = h :: (d.locals p).held ∧
          (d.locals p).irql = h.entry
  raised :
    ∀ p lock, Holds c p lock →
      (c.locals p).irql = dispatchLevel

/- What holds in every state of a nested run. -/
def Inv
    (c : Config P Lock) : Prop :=
  Threads.Annotated (fun _ => True) Owns c ∧
    ∀ p, Disciplined (c.locals p)

theorem inv_step
    {move : P × Action Lock}
    (hInv : Inv c)
    (hNested : Nested c move)
    (hStep : step c move = some d) :
    Inv d := by
  refine ⟨outline.step hInv.1 hStep, ?_⟩
  rcases move with ⟨p, a⟩
  rcases Threads.step_some hStep with
    ⟨s, l, hStatement, hNext⟩
  subst hNext
  intro q
  by_cases hEq : q = p
  · subst hEq
    simp only [Function.update_self]
    apply disciplined_step (hInv.2 q) (hInv.1.2 q) _
      hStatement
    rintro lock rfl
    exact hNested
  · simp only [Function.update_of_ne hEq]
    exact hInv.2 q

omit [DecidableEq P] [DecidableEq Lock] in
theorem inv_start
    {irql : P → Nat}
    (hIrql : ∀ p, irql p ≤ dispatchLevel)
    (prevIrql : Lock → Nat) :
    Inv (start irql prevIrql) := by
  constructor
  · refine ⟨trivial, fun p => ?_⟩
    constructor
    · exact List.nodup_nil
    · intro h hMem
      contradiction
    · intro h hMem
      contradiction
    · intro lock old hPhase
      contradiction
    · intro lock level hPhase
      contradiction
  · intro p
    constructor
    · exact hIrql p
    · intro hHeld
      contradiction
    · intro h hMem
      contradiction
    · intro h hMem
      contradiction
    · intro lock level hPhase
      contradiction

omit [DecidableEq P] [DecidableEq Lock] in
theorem Inv.exclusive
    (hInv : Inv c)
    {p q : P}
    {lock : Lock}
    (hFirst : Holds c p lock)
    (hSecond : Holds c q lock) :
    p = q := by
  rcases List.mem_map.mp hFirst with ⟨h, hMem, rfl⟩
  rcases List.mem_map.mp hSecond with ⟨h', hMem', hLock⟩
  have hOwner := (hInv.1.2 p).owner h hMem
  have hOwner' := (hInv.1.2 q).owner h' hMem'
  rw [hLock, hOwner] at hOwner'
  exact Option.some.inj hOwner'

theorem Inv.restores
    (hInv : Inv c)
    {p : P}
    (hStep : step c (p, .releaseCall) = some d) :
    ∃ h level,
      (c.locals p).phase = .releasing h.lock level ∧
        (c.locals p).held = h :: (d.locals p).held ∧
        (d.locals p).irql = h.entry := by
  rcases Threads.step_some hStep with
    ⟨s, l, hStatement, hNext⟩
  subst hNext
  simp only [Function.update_self]
  cases moves_of_statement hStatement with
  | @releaseCall lock level hPhase =>
      have hFirst := (hInv.2 p).last lock level hPhase
      rcases List.head?_eq_some_iff.mp hFirst with
        ⟨rest, hHeld⟩
      refine ⟨{ lock := lock, entry := level }, level, hPhase,
        ?_, rfl⟩
      have hRest := (hInv.1.2 p).filter_head hHeld
      rw [hRest]
      exact hHeld

theorem Inv.safe
    (hInv : Inv c) :
    Safe c := by
  constructor
  · intro p q lock hFirst hSecond
    exact hInv.exclusive hFirst hSecond
  · intro p h hMem hStored
    exact (hInv.1.2 p).stored h hMem hStored
  · intro p d hStep
    exact hInv.restores hStep
  · intro p lock hHolds
    apply (hInv.2 p).raised
    intro hNone
    rw [Holds, hNone] at hHolds
    contradiction

/-
  Any number of processors that enter at any IRQL, any number
  of locks, and any interleaving in which each processor
  releases its locks in reverse order.
-/
theorem dispatchLock_restores
    (irql : P → Nat)
    (hIrql : ∀ p, irql p ≤ dispatchLevel)
    (prevIrql : Lock → Nat)
    (moves : List (P × Action Lock))
    (c : Config P Lock)
    (hNested :
      Meets step Nested (start irql prevIrql) moves)
    (hRun : run step (start irql prevIrql) moves = some c) :
    Safe c := by
  have hInv : Inv c :=
    invariant_meets
      (fun _ _ _ hInv hNested hStep =>
        inv_step hInv hNested hStep)
      (inv_start hIrql prevIrql) hNested hRun
  exact hInv.safe

/-
  Processor 0 holds two locks and gives back the inner one,
  which processor 1 then acquires at another IRQL.
-/
def handOver : List (Nat × Action Bool) :=
  [(0, .acquireCall false), (0, .acquireStore),
    (0, .acquireCall true), (0, .acquireStore),
    (0, .releaseLoad true), (0, .releaseCall),
    (1, .acquireCall true), (1, .acquireStore),
    (0, .releaseLoad false)]

theorem dispatchLock_restores_handOver :
    ∃ c d,
      run step (start (fun p => p % 2) (fun _ => 7))
          handOver = some c ∧
        Safe c ∧
        step c (0, .releaseCall) = some d ∧
        (d.locals 0).irql = 0 := by
  refine ⟨_, _, rfl, ?_, rfl, rfl⟩
  apply dispatchLock_restores (fun p => p % 2) _ (fun _ => 7)
    handOver _ _ rfl
  · intro p
    simp only [dispatchLevel]
    omega
  · decide

end DispatchLock

end CxPlat
