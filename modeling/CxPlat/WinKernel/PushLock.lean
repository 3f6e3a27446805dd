import CxPlat.Lib.Threads
import CxPlat.WinKernel.RwLock
import Mathlib.Data.List.Count

/-
  The locks of kernel mode that threads may sleep on, from
  `cxplat_winkernel.h`.

  `CXPLAT_LOCK` and `CXPLAT_RW_LOCK` are both push locks.
  Each acquire macro enters a critical region and then waits
  for the lock; each release macro gives the lock back and
  then leaves the region.  A thread can only be suspended
  while it is in no critical region.  Any number of threads
  use any number of locks, may hold several at a time and
  release them in any order.

  Key definitions include:
    * `lockAcquire`, `lockRelease`
    * `rwLockAcquireShared`, `rwLockAcquireExclusive`
    * `rwLockReleaseShared`, `rwLockReleaseExclusive`
    * `Thread`, `statement`
    * `Owns`
    * `Safe`

  Key theorems include:
    * `moves_of_statement`
    * `outline`
    * `pushLocks_safe`
-/

------------------------------------------------------------
-- The Macros
------------------------------------------------------------

namespace CxPlat

namespace PushLock

open RwLock (Mode grants)

/- The calls of which the macros are made. -/
inductive Statement (Lock : Type) where
  | keEnterCriticalRegion
  | keLeaveCriticalRegion
  | exAcquirePushLock (lock : Lock) (mode : Mode)
  | exReleasePushLock (lock : Lock) (mode : Mode)
deriving DecidableEq, Repr

variable {Lock : Type}

def acquire
    (lock : Lock)
    (mode : Mode) : List (Statement Lock) :=
  [.keEnterCriticalRegion, .exAcquirePushLock lock mode]

def release
    (lock : Lock)
    (mode : Mode) : List (Statement Lock) :=
  [.exReleasePushLock lock mode, .keLeaveCriticalRegion]

/- `CxPlatLockAcquire`. -/
def lockAcquire (lock : Lock) : List (Statement Lock) :=
  acquire lock .exclusive

/- `CxPlatLockRelease`. -/
def lockRelease (lock : Lock) : List (Statement Lock) :=
  release lock .exclusive

/- `CxPlatRwLockAcquireShared`. -/
def rwLockAcquireShared
    (lock : Lock) : List (Statement Lock) :=
  acquire lock .shared

/- `CxPlatRwLockAcquireExclusive`. -/
def rwLockAcquireExclusive
    (lock : Lock) : List (Statement Lock) :=
  acquire lock .exclusive

/- `CxPlatRwLockReleaseShared`. -/
def rwLockReleaseShared
    (lock : Lock) : List (Statement Lock) :=
  release lock .shared

/- `CxPlatRwLockReleaseExclusive`. -/
def rwLockReleaseExclusive
    (lock : Lock) : List (Statement Lock) :=
  release lock .exclusive

/- The macros, as the locks of `cxplat.hpp` use them. -/
inductive Call where
  | lockAcquire
  | lockRelease
  | rwLockAcquireShared
  | rwLockAcquireExclusive
  | rwLockReleaseShared
  | rwLockReleaseExclusive
deriving DecidableEq, Repr

def Call.body
    (lock : Lock) : Call → List (Statement Lock)
  | .lockAcquire => PushLock.lockAcquire lock
  | .lockRelease => PushLock.lockRelease lock
  | .rwLockAcquireShared =>
      PushLock.rwLockAcquireShared lock
  | .rwLockAcquireExclusive =>
      PushLock.rwLockAcquireExclusive lock
  | .rwLockReleaseShared =>
      PushLock.rwLockReleaseShared lock
  | .rwLockReleaseExclusive =>
      PushLock.rwLockReleaseExclusive lock

/- Every macro acquires or releases, in one mode. -/
theorem Call.body_cases
    (call : Call)
    (lock : Lock) :
    ∃ mode,
      call.body lock = acquire lock mode ∨
        call.body lock = release lock mode := by
  cases call with
  | lockAcquire => exact ⟨.exclusive, .inl rfl⟩
  | lockRelease => exact ⟨.exclusive, .inr rfl⟩
  | rwLockAcquireShared => exact ⟨.shared, .inl rfl⟩
  | rwLockAcquireExclusive => exact ⟨.exclusive, .inl rfl⟩
  | rwLockReleaseShared => exact ⟨.shared, .inr rfl⟩
  | rwLockReleaseExclusive => exact ⟨.exclusive, .inr rfl⟩

end PushLock

end CxPlat

------------------------------------------------------------
-- Threads And Locks
------------------------------------------------------------

namespace CxPlat

namespace PushLock

open RwLock (Mode grants)

/- The threads that have each lock, and in which mode. -/
abbrev Locks (T Lock : Type) := Lock → List (T × Mode)

/-
  `regions` counts the critical regions that the thread is in,
  `todo` is what is left of the macro it is in.  `own`, the
  regions that it has entered by itself, and `held` are
  records of what it has done.
-/
structure Thread (Lock : Type) where
  regions : Nat
  own : Nat
  todo : List (Statement Lock)
  held : List (Lock × Mode)
  suspended : Bool
deriving DecidableEq, Repr

inductive Action (Lock : Type) where
  | call (call : Call) (lock : Lock)
  | next
  | enter
  | leave
  | suspend
  | resume
deriving DecidableEq, Repr

variable {T Lock : Type} [DecidableEq T] [DecidableEq Lock]

/- Callers release what they hold, in the mode they hold it. -/
def Permitted
    (held : List (Lock × Mode)) : Statement Lock → Prop
  | .exReleasePushLock lock mode => (lock, mode) ∈ held
  | _ => True

instance
    (held : List (Lock × Mode))
    (statement : Statement Lock) :
    Decidable (Permitted held statement) :=
  match statement with
  | .exReleasePushLock lock mode =>
      inferInstanceAs (Decidable ((lock, mode) ∈ held))
  | .exAcquirePushLock _ _ => inferInstanceAs (Decidable True)
  | .keEnterCriticalRegion => inferInstanceAs (Decidable True)
  | .keLeaveCriticalRegion => inferInstanceAs (Decidable True)

/-
  A lock is granted once it can be; which of the threads that
  wait for it comes first is left open.
-/
def perform
    (s : Locks T Lock)
    (th : T)
    (l : Thread Lock) :
    Statement Lock → Option (Locks T Lock × Thread Lock)
  | .keEnterCriticalRegion =>
      some (s, { l with regions := l.regions + 1 })
  | .keLeaveCriticalRegion =>
      some (s, { l with regions := l.regions - 1 })
  | .exAcquirePushLock lock mode =>
      if grants (s lock) mode = true then
        some
          (Function.update s lock ((th, mode) :: s lock),
           { l with held := (lock, mode) :: l.held })
      else
        none
  | .exReleasePushLock lock mode =>
      some
        (Function.update s lock ((s lock).erase (th, mode)),
         { l with held := l.held.erase (lock, mode) })

/-
  One step of one thread.  `enter` and `leave` are critical
  regions of its own around the uses of the locks.
-/
def statement :
    Threads.Program (Locks T Lock) (Thread Lock) T
      (Action Lock)
  | s, _, l, .call call lock =>
      if l.suspended = false ∧ l.todo = [] ∧
          ∀ st ∈ call.body lock, Permitted l.held st then
        some (s, { l with todo := call.body lock })
      else
        none
  | s, th, l, .next =>
      match l.todo with
      | first :: rest =>
          if l.suspended = false then
            perform s th { l with todo := rest } first
          else
            none
      | [] => none
  | s, _, l, .enter =>
      if l.suspended = false ∧ l.todo = [] then
        some
          (s, { l with
                regions := l.regions + 1
                own := l.own + 1 })
      else
        none
  | s, _, l, .leave =>
      if l.suspended = false ∧ l.todo = [] ∧ 0 < l.own then
        some
          (s, { l with
                regions := l.regions - 1
                own := l.own - 1 })
      else
        none
  | s, _, l, .suspend =>
      if l.suspended = false ∧ l.regions = 0 then
        some (s, { l with suspended := true })
      else
        none
  | s, _, l, .resume =>
      if l.suspended = true then
        some (s, { l with suspended := false })
      else
        none

abbrev Config (T Lock : Type) :=
  Threads.Config (Locks T Lock) (Thread Lock) T

def step
    (c : Config T Lock)
    (move : T × Action Lock) : Option (Config T Lock) :=
  Threads.step statement c move

/- Initialised locks that nobody has acquired. -/
def start
    (own : T → Nat) : Config T Lock where
  shared := fun _ => []
  locals := fun th =>
    { regions := own th
      own := own th
      todo := []
      held := []
      suspended := false }

end PushLock

end CxPlat

------------------------------------------------------------
-- What A Step Does
------------------------------------------------------------

namespace CxPlat

namespace PushLock

open RwLock (Mode grants)

variable {T Lock : Type} [DecidableEq T] [DecidableEq Lock]
variable {s s' : Locks T Lock} {th : T}
variable {l l' : Thread Lock}

/- All that a step can be. -/
inductive Moves
    (s : Locks T Lock)
    (th : T)
    (l : Thread Lock) :
    Action Lock → Locks T Lock → Thread Lock → Prop where
  | call
      {call : Call}
      {lock : Lock}
      (hRuns : l.suspended = false)
      (hTodo : l.todo = [])
      (hPermitted :
        ∀ st ∈ call.body lock, Permitted l.held st) :
      Moves s th l (.call call lock) s
        { l with todo := call.body lock }
  | enterRegion
      {rest : List (Statement Lock)}
      (hRuns : l.suspended = false)
      (hTodo : l.todo = .keEnterCriticalRegion :: rest) :
      Moves s th l .next s
        { l with regions := l.regions + 1, todo := rest }
  | leaveRegion
      {rest : List (Statement Lock)}
      (hRuns : l.suspended = false)
      (hTodo : l.todo = .keLeaveCriticalRegion :: rest) :
      Moves s th l .next s
        { l with regions := l.regions - 1, todo := rest }
  | acquire
      {lock : Lock}
      {mode : Mode}
      {rest : List (Statement Lock)}
      (hRuns : l.suspended = false)
      (hTodo : l.todo = .exAcquirePushLock lock mode :: rest)
      (hGrants : grants (s lock) mode = true) :
      Moves s th l .next
        (Function.update s lock ((th, mode) :: s lock))
        { l with
          held := (lock, mode) :: l.held
          todo := rest }
  | release
      {lock : Lock}
      {mode : Mode}
      {rest : List (Statement Lock)}
      (hRuns : l.suspended = false)
      (hTodo :
        l.todo = .exReleasePushLock lock mode :: rest) :
      Moves s th l .next
        (Function.update s lock ((s lock).erase (th, mode)))
        { l with
          held := l.held.erase (lock, mode)
          todo := rest }
  | enter
      (hRuns : l.suspended = false)
      (hTodo : l.todo = []) :
      Moves s th l .enter s
        { l with
          regions := l.regions + 1
          own := l.own + 1 }
  | leave
      (hRuns : l.suspended = false)
      (hTodo : l.todo = [])
      (hOwn : 0 < l.own) :
      Moves s th l .leave s
        { l with
          regions := l.regions - 1
          own := l.own - 1 }
  | suspend
      (hRegions : l.regions = 0) :
      Moves s th l .suspend s { l with suspended := true }
  | resume :
      Moves s th l .resume s { l with suspended := false }

theorem moves_of_statement
    {a : Action Lock}
    (hStep : statement s th l a = some (s', l')) :
    Moves s th l a s' l' := by
  cases a with
  | call call lock =>
      simp only [statement] at hStep
      split at hStep
      next hGuard =>
        cases hStep
        exact .call hGuard.1 hGuard.2.1 hGuard.2.2
      next => contradiction
  | next =>
      simp only [statement] at hStep
      split at hStep
      next first rest hTodo =>
        split at hStep
        next hRuns =>
          cases first with
          | keEnterCriticalRegion =>
              cases hStep
              exact .enterRegion hRuns hTodo
          | keLeaveCriticalRegion =>
              cases hStep
              exact .leaveRegion hRuns hTodo
          | exAcquirePushLock lock mode =>
              simp only [perform] at hStep
              split at hStep
              next hGrants =>
                cases hStep
                exact .acquire hRuns hTodo hGrants
              next => contradiction
          | exReleasePushLock lock mode =>
              cases hStep
              exact .release hRuns hTodo
        next => contradiction
      next => contradiction
  | enter =>
      simp only [statement] at hStep
      split at hStep
      next hGuard =>
        cases hStep
        exact .enter hGuard.1 hGuard.2
      next => contradiction
  | leave =>
      simp only [statement] at hStep
      split at hStep
      next hGuard =>
        cases hStep
        exact .leave hGuard.1 hGuard.2.1 hGuard.2.2
      next => contradiction
  | suspend =>
      simp only [statement] at hStep
      split at hStep
      next hGuard =>
        cases hStep
        exact .suspend hGuard.2
      next => contradiction
  | resume =>
      simp only [statement] at hStep
      split at hStep
      next =>
        cases hStep
        exact .resume
      next => contradiction

end PushLock

end CxPlat

------------------------------------------------------------
-- What A Thread Owns
------------------------------------------------------------

namespace CxPlat

namespace PushLock

open RwLock (Mode grants)

/- Where a thread is in the macros. -/
inductive Within
    {Lock : Type}
    (held : List (Lock × Mode)) :
    List (Statement Lock) → Prop where
  | outside : Within held []
  | acquiring
      (lock : Lock)
      (mode : Mode) :
      Within held (acquire lock mode)
  | waiting
      (lock : Lock)
      (mode : Mode) :
      Within held [.exAcquirePushLock lock mode]
  | releasing
      (lock : Lock)
      (mode : Mode)
      (hHeld : (lock, mode) ∈ held) :
      Within held (release lock mode)
  | leaving : Within held [.keLeaveCriticalRegion]

/- The region of the macro itself, between its two calls. -/
def pending {Lock : Type} : List (Statement Lock) → Nat
  | [_] => 1
  | _ => 0

variable {T Lock : Type} [DecidableEq T] [DecidableEq Lock]
variable {s s' : Locks T Lock} {th th' : T}
variable {l l' : Thread Lock}

/-
  A thread has the locks it holds, is in one critical region
  for each of them, and can only be suspended outside all
  regions.
-/
structure Owns
    (s : Locks T Lock)
    (th : T)
    (l : Thread Lock) : Prop where
  shares :
    ∀ lock mode,
      (s lock).count (th, mode) = l.held.count (lock, mode)
  within : Within l.held l.todo
  balance :
    l.regions = l.own + l.held.length + pending l.todo
  awake : l.suspended = true → l.regions = 0

/- A lock held exclusively is held once. -/
def Exclusive (s : Locks T Lock) : Prop :=
  ∀ lock th, (th, Mode.exclusive) ∈ s lock →
    s lock = [(th, .exclusive)]

theorem Owns.mem_iff
    (hOwns : Owns s th l)
    (lock : Lock)
    (mode : Mode) :
    (th, mode) ∈ s lock ↔ (lock, mode) ∈ l.held := by
  rw [← List.count_pos_iff, ← List.count_pos_iff,
    hOwns.shares]

/- A thread in a macro's region, or with a lock, runs. -/
theorem Owns.runs
    (hOwns : Owns s th l)
    (hRegions : 0 < l.held.length + pending l.todo) :
    l.suspended = false := by
  have hBalance := hOwns.balance
  cases hSuspended : l.suspended with
  | false => rfl
  | true =>
      have hZero := hOwns.awake hSuspended
      omega

theorem Owns.runs_of_mem
    (hOwns : Owns s th l)
    {h : Lock × Mode}
    (hHeld : h ∈ l.held) :
    l.suspended = false := by
  apply hOwns.runs
  have hPos := List.length_pos_of_mem hHeld
  omega

theorem Owns.call
    (hOwns : Owns s th l)
    {call : Call}
    {lock : Lock}
    (hTodo : l.todo = [])
    (hPermitted :
      ∀ st ∈ call.body lock, Permitted l.held st) :
    Owns s th { l with todo := call.body lock } := by
  rcases call.body_cases lock with ⟨mode, hBody | hBody⟩
  · rw [hBody]
    have hBalance := hOwns.balance
    rw [hTodo] at hBalance
    exact
      { shares := hOwns.shares
        within := .acquiring lock mode
        balance := hBalance
        awake := hOwns.awake }
  · rw [hBody] at hPermitted ⊢
    have hBalance := hOwns.balance
    rw [hTodo] at hBalance
    exact
      { shares := hOwns.shares
        within :=
          .releasing lock mode
            (hPermitted _ List.mem_cons_self)
        balance := hBalance
        awake := hOwns.awake }

theorem Owns.enterRegion
    (hOwns : Owns s th l)
    {rest : List (Statement Lock)}
    (hRuns : l.suspended = false)
    (hTodo : l.todo = .keEnterCriticalRegion :: rest) :
    Owns s th
      { l with regions := l.regions + 1, todo := rest } := by
  have hWithin := hOwns.within
  have hBalance := hOwns.balance
  rw [hTodo] at hWithin hBalance
  cases hWithin with
  | acquiring lock mode =>
      exact
        { shares := hOwns.shares
          within := .waiting lock mode
          balance := by
            simp only [pending] at hBalance ⊢
            omega
          awake := by simp [hRuns] }

theorem Owns.leaveRegion
    (hOwns : Owns s th l)
    {rest : List (Statement Lock)}
    (hRuns : l.suspended = false)
    (hTodo : l.todo = .keLeaveCriticalRegion :: rest) :
    Owns s th
      { l with regions := l.regions - 1, todo := rest } := by
  have hWithin := hOwns.within
  have hBalance := hOwns.balance
  rw [hTodo] at hWithin hBalance
  cases hWithin with
  | leaving =>
      exact
        { shares := hOwns.shares
          within := .outside
          balance := by
            simp only [pending] at hBalance ⊢
            omega
          awake := by simp [hRuns] }

theorem Owns.take
    (hOwns : Owns s th l)
    {lock : Lock}
    {mode : Mode}
    {rest : List (Statement Lock)}
    (hRuns : l.suspended = false)
    (hTodo : l.todo = .exAcquirePushLock lock mode :: rest) :
    Owns (Function.update s lock ((th, mode) :: s lock)) th
      { l with
        held := (lock, mode) :: l.held
        todo := rest } := by
  have hWithin := hOwns.within
  have hBalance := hOwns.balance
  rw [hTodo] at hWithin hBalance
  cases hWithin with
  | waiting =>
      constructor
      · intro lock' mode'
        by_cases hLock : lock' = lock
        · subst hLock
          simp only [Function.update_self, List.count_cons,
            hOwns.shares]
          simp
        · rw [Function.update_of_ne hLock, hOwns.shares,
            List.count_cons_of_ne]
          simp [Ne.symm hLock]
      · exact .outside
      · simp only [pending, List.length_cons] at hBalance ⊢
        omega
      · simp [hRuns]

theorem Owns.drop
    (hOwns : Owns s th l)
    {lock : Lock}
    {mode : Mode}
    {rest : List (Statement Lock)}
    (hRuns : l.suspended = false)
    (hTodo : l.todo = .exReleasePushLock lock mode :: rest) :
    Owns
      (Function.update s lock ((s lock).erase (th, mode))) th
      { l with
        held := l.held.erase (lock, mode)
        todo := rest } := by
  have hWithin := hOwns.within
  have hBalance := hOwns.balance
  rw [hTodo] at hWithin hBalance
  cases hWithin with
  | releasing _ _ hHeld =>
      constructor
      · intro lock' mode'
        by_cases hLock : lock' = lock
        · subst hLock
          simp only [Function.update_self, List.count_erase,
            hOwns.shares]
          simp
        · rw [Function.update_of_ne hLock, hOwns.shares,
            List.count_erase_of_ne]
          simp [hLock]
      · exact .leaving
      · have hPos := List.length_pos_of_mem hHeld
        simp only [pending, List.length_erase_of_mem hHeld]
          at hBalance ⊢
        omega
      · simp [hRuns]

omit [DecidableEq T] in
theorem Exclusive.take
    (hExclusive : Exclusive s)
    {lock : Lock}
    {mode : Mode}
    (hGrants : grants (s lock) mode = true)
    (th : T) :
    Exclusive
      (Function.update s lock ((th, mode) :: s lock)) := by
  intro lock' th' hMem
  by_cases hLock : lock' = lock
  · subst hLock
    rw [Function.update_self] at hMem ⊢
    cases mode with
    | shared =>
        simp only [grants, List.all_eq_true,
          decide_eq_true_eq] at hGrants
        rcases List.mem_cons.mp hMem with hEq | hOld
        · cases hEq
        · cases hGrants _ hOld
    | exclusive =>
        have hNone : s lock' = [] := by
          simpa [grants] using hGrants
        rw [hNone] at hMem ⊢
        rw [List.mem_singleton.mp hMem]
  · rw [Function.update_of_ne hLock] at hMem ⊢
    exact hExclusive lock' th' hMem

theorem Exclusive.drop
    (hExclusive : Exclusive s)
    (lock : Lock)
    (mode : Mode)
    (th : T) :
    Exclusive
      (Function.update s lock
        ((s lock).erase (th, mode))) := by
  intro lock' th' hMem
  by_cases hLock : lock' = lock
  · subst hLock
    rw [Function.update_self] at hMem ⊢
    have hOne :=
      hExclusive lock' th' (List.mem_of_mem_erase hMem)
    rw [hOne] at hMem ⊢
    by_cases hSame : (th', Mode.exclusive) = (th, mode)
    · rw [← hSame, List.erase_cons_head] at hMem
      contradiction
    · rw [List.erase_cons_tail (by simpa using hSame)]
      rfl
  · rw [Function.update_of_ne hLock] at hMem ⊢
    exact hExclusive lock' th' hMem

/- What a thread does to its own entries of one lock. -/
theorem Owns.frame
    (hOwns : Owns s th l)
    (lock : Lock)
    {entries : List (T × Mode)}
    (hEntries :
      ∀ mode,
        entries.count (th, mode) =
          (s lock).count (th, mode)) :
    Owns (Function.update s lock entries) th l := by
  constructor
  · intro lock' mode
    by_cases hLock : lock' = lock
    · subst hLock
      rw [Function.update_self, hEntries, hOwns.shares]
    · rw [Function.update_of_ne hLock, hOwns.shares]
  · exact hOwns.within
  · exact hOwns.balance
  · exact hOwns.awake

/- The assertions of all threads, step by step. -/
theorem outline :
    Threads.Outline
      (statement :
        Threads.Program (Locks T Lock) (Thread Lock) T
          (Action Lock))
      Exclusive Owns where
  own := by
    intro s th l a s' l' hExclusive hOwns hStep
    have hBalance := hOwns.balance
    cases moves_of_statement hStep with
    | call hRuns hTodo hPermitted =>
        exact ⟨hExclusive, hOwns.call hTodo hPermitted⟩
    | enterRegion hRuns hTodo =>
        exact ⟨hExclusive, hOwns.enterRegion hRuns hTodo⟩
    | leaveRegion hRuns hTodo =>
        exact ⟨hExclusive, hOwns.leaveRegion hRuns hTodo⟩
    | acquire hRuns hTodo hGrants =>
        exact
          ⟨hExclusive.take hGrants th,
            hOwns.take hRuns hTodo⟩
    | release hRuns hTodo =>
        exact
          ⟨hExclusive.drop _ _ th,
            hOwns.drop hRuns hTodo⟩
    | enter hRuns hTodo =>
        refine ⟨hExclusive, hOwns.shares, hOwns.within, ?_, ?_⟩
        · simp only
          omega
        · simp [hRuns]
    | leave hRuns hTodo hOwn =>
        refine ⟨hExclusive, hOwns.shares, hOwns.within, ?_, ?_⟩
        · simp only
          omega
        · simp [hRuns]
    | suspend hRegions =>
        exact
          ⟨hExclusive, hOwns.shares, hOwns.within, hBalance,
            fun _ => hRegions⟩
    | resume =>
        refine ⟨hExclusive, hOwns.shares, hOwns.within,
          hBalance, ?_⟩
        simp
  others := by
    intro s th l a s' l' th' m _ _ hNe hOther hStep
    cases moves_of_statement hStep with
    | call => exact hOther
    | enterRegion => exact hOther
    | leaveRegion => exact hOther
    | acquire =>
        apply hOther.frame
        intro mode
        rw [List.count_cons_of_ne]
        simp [Ne.symm hNe]
    | release =>
        apply hOther.frame
        intro mode
        rw [List.count_erase_of_ne]
        simp [hNe]
    | enter => exact hOther
    | leave => exact hOther
    | suspend => exact hOther
    | resume => exact hOther

end PushLock

end CxPlat

------------------------------------------------------------
-- Safety
------------------------------------------------------------

namespace CxPlat

namespace PushLock

open RwLock (Mode grants)
open Transition (run)

variable {T Lock : Type} [DecidableEq T] [DecidableEq Lock]
variable {c d : Config T Lock}

abbrev Sound (c : Config T Lock) : Prop :=
  Threads.Annotated Exclusive Owns c

theorem sound_start
    (own : T → Nat) :
    Sound (start own : Config T Lock) := by
  constructor
  · intro lock th hMem
    contradiction
  · intro th
    exact
      { shares := fun lock mode => rfl
        within := .outside
        balance := rfl
        awake := by simp [start] }

theorem sound_run
    {moves : List (T × Action Lock)}
    (hSound : Sound c)
    (hRun : run step c moves = some d) :
    Sound d :=
  outline.run hSound hRun

/-
  Writers are alone, suspended threads hold nothing and have
  done nothing of a macro yet, and a thread outside the macros
  is in its own regions and one for each lock it holds.
-/
structure Safe (c : Config T Lock) : Prop where
  exclusive :
    ∀ p q lock mode,
      (lock, .exclusive) ∈ (c.locals p).held →
        (lock, mode) ∈ (c.locals q).held →
          p = q ∧ mode = .exclusive ∧
            (c.locals p).held.count (lock, .exclusive) = 1
  suspended :
    ∀ p, (c.locals p).suspended = true →
      (c.locals p).held = [] ∧
        ((c.locals p).todo = [] ∨
          ∃ lock mode,
            (c.locals p).todo = acquire lock mode)
  balanced :
    ∀ p, (c.locals p).todo = [] →
      (c.locals p).regions =
        (c.locals p).own + (c.locals p).held.length

theorem Owns.idle_of_suspended
    {s : Locks T Lock}
    {th : T}
    {l : Thread Lock}
    (hOwns : Owns s th l)
    (hSuspended : l.suspended = true) :
    l.held = [] ∧
      (l.todo = [] ∨
        ∃ lock mode, l.todo = acquire lock mode) := by
  have hBalance := hOwns.balance
  rw [hOwns.awake hSuspended] at hBalance
  have hNone : l.held = [] :=
    List.length_eq_zero_iff.mp (by omega)
  have hPending : pending l.todo = 0 := by omega
  refine ⟨hNone, ?_⟩
  have hWithin := hOwns.within
  rw [hNone] at hWithin
  cases hTodo : l.todo with
  | nil => exact .inl rfl
  | cons first rest =>
      rw [hTodo] at hWithin hPending
      cases hWithin with
      | acquiring lock mode => exact .inr ⟨lock, mode, rfl⟩
      | waiting => contradiction
      | releasing lock mode hHeld => contradiction
      | leaving => contradiction

theorem Sound.safe
    (hSound : Sound c) :
    Safe c := by
  rcases hSound with ⟨hExclusive, hOwns⟩
  constructor
  · intro p q lock mode hWriter hOther
    have hAlone :=
      hExclusive lock p (((hOwns p).mem_iff lock _).mpr hWriter)
    have hMem := ((hOwns q).mem_iff lock mode).mpr hOther
    rw [hAlone, List.mem_singleton] at hMem
    cases hMem
    refine ⟨rfl, rfl, ?_⟩
    rw [← (hOwns p).shares, hAlone, List.count_singleton_self]
  · intro p hSuspended
    exact (hOwns p).idle_of_suspended hSuspended
  · intro p hTodo
    have hBalance := (hOwns p).balance
    rw [hTodo] at hBalance
    exact hBalance

/- Every interleaving of any number of threads and locks. -/
theorem pushLocks_safe
    (own : T → Nat)
    (moves : List (T × Action Lock))
    (c : Config T Lock)
    (hRun : run step (start own) moves = some c) :
    Safe c :=
  (sound_run (sound_start own) hRun).safe

/-
  Two readers share a lock, one of them takes another one
  exclusively, and a third thread is suspended on its way to
  that one.
-/
def twoReaders : List (Nat × Action Bool) :=
  [(0, .call .rwLockAcquireShared true), (0, .next),
    (0, .next), (1, .call .rwLockAcquireShared true),
    (1, .next), (1, .next), (1, .call .lockAcquire false),
    (2, .call .lockAcquire false), (1, .next), (1, .next),
    (2, .suspend), (0, .call .rwLockReleaseShared true),
    (0, .next), (0, .next)]

theorem pushLocks_safe_twoReaders :
    ∃ c : Config Nat Bool,
      run step (start (fun _ => 0)) twoReaders = some c ∧
        (c.locals 1).held =
          [(false, .exclusive), (true, .shared)] ∧
        (c.locals 1).regions = 2 ∧
        (c.locals 2).suspended = true ∧
        Safe c := by
  refine ⟨_, rfl, rfl, rfl, rfl, ?_⟩
  exact pushLocks_safe (fun _ => 0) twoReaders _ rfl

end PushLock

end CxPlat
