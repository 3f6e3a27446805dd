import CxPlat.Locks.Platforms
import CxPlat.WinKernel.LockOrder
import Mathlib.Data.List.Basic

/-
  The locks are the same on every platform.

  A program that keeps to the contract of the locks is done,
  or blocks at the same call, on POSIX, in user mode and in
  kernel mode; the same threads hold the same locks, and no
  assertion fails.

  Key definitions include:
    * `HeldRecursive`, `HeldReadWrite`, `HeldSlim`
    * `Represents`
    * `OnPosix`, `OnUser`, `OnKernel`

  Key theorems include:
    * `posix_honours`, `user_honours`, `kernel_honours`
    * `locks_portable`
-/

------------------------------------------------------------
-- One Lock
------------------------------------------------------------

namespace CxPlat

namespace LockPlatforms

open Contract (Result Honours)
open RwLock (Mode grants)

variable {T : Type}

/- What a recursive lock is like that is held once. -/
inductive HeldRecursive :
    List (T × Mode) → Recursive T → Prop where
  | free : HeldRecursive [] Recursive.free
  | owned
      (th : T) :
      HeldRecursive [(th, .exclusive)]
        { owner := some th, count := 1 }

/- Holders that only read. -/
def reading
    (readers : List T) : List (T × Mode) :=
  readers.map (fun th => (th, .shared))

inductive HeldReadWrite :
    List (T × Mode) → ReadWrite T → Prop where
  | readers
      (ths : List T) :
      HeldReadWrite (reading ths)
        { writer := none, readers := ths }
  | writer
      (th : T) :
      HeldReadWrite [(th, .exclusive)]
        { writer := some th, readers := [] }

inductive HeldSlim :
    List (T × Mode) → Slim → Prop where
  | readers
      (ths : List T) :
      HeldSlim (reading ths)
        { exclusive := false, shared := ths.length }
  | writer
      (th : T) :
      HeldSlim [(th, .exclusive)]
        { exclusive := true, shared := 0 }

theorem grants_shared_reading
    (ths : List T) :
    grants (reading ths) .shared = true := by
  simp [grants, reading]

theorem grants_exclusive_reading
    (ths : List T) :
    grants (reading ths) .exclusive = true ↔ ths = [] := by
  simp [grants, reading]

theorem grants_writer
    (th : T)
    (mode : Mode) :
    grants [(th, .exclusive)] mode = false := by
  cases mode with
  | shared => rfl
  | exclusive => rfl

theorem mem_reading
    {th : T}
    {ths : List T} :
    (th, .shared) ∈ reading ths ↔ th ∈ ths := by
  simp [reading]

variable [DecidableEq T]

theorem erase_reading
    (th : T)
    (ths : List T) :
    (reading ths).erase (th, .shared) =
      reading (ths.erase th) := by
  have hInjective :
      Function.Injective
        (fun th : T => (th, Mode.shared)) := by
    intro p q hEq
    exact congrArg Prod.fst hEq
  exact (List.map_erase hInjective ths).symm

/- A writer blocks everyone else. -/
theorem acquire_writer
    {th writer : T}
    (hNe : writer ≠ th)
    (mode : Mode) :
    acquire [(writer, .exclusive)] th mode = .blocked := by
  simp [acquire, grants_writer, Ne.symm hNe]

theorem acquire_own
    (th : T)
    (mode mode' : Mode) :
    acquire [(th, mode')] th mode = .broken := by
  simp [acquire]

/- A reader joins, unless it reads already. -/
theorem acquire_shared_reading
    (th : T)
    (ths : List T) :
    acquire (reading ths) th .shared =
      if th ∈ ths then .broken
      else .done (reading (th :: ths)) := by
  have hFirsts : (reading ths).map Prod.fst = ths := by
    simp [reading, Function.comp_def]
  unfold acquire
  rw [hFirsts]
  simp only [grants_shared_reading, if_true]
  rfl

/- A writer waits until there is no reader. -/
theorem acquire_exclusive_reading
    (th : T)
    (ths : List T) :
    acquire (reading ths) th .exclusive =
      if th ∈ ths then .broken
      else if ths = [] then .done [(th, .exclusive)]
      else .blocked := by
  have hFirsts : (reading ths).map Prod.fst = ths := by
    simp [reading, Function.comp_def]
  unfold acquire
  rw [hFirsts]
  simp only [grants_exclusive_reading]
  split
  · rfl
  · split
    next hNone =>
      subst hNone
      rfl
    next => rfl

theorem release_shared_reading
    (th : T)
    (ths : List T) :
    release (reading ths) th .shared =
      if th ∈ ths then .done (reading (ths.erase th))
      else .broken := by
  unfold release
  simp only [mem_reading, erase_reading]

theorem release_exclusive_reading
    (th : T)
    (ths : List T) :
    release (reading ths) th .exclusive = .broken := by
  simp [release, reading]

theorem release_writer
    (th writer : T)
    (mode : Mode) :
    release [(writer, .exclusive)] th mode =
      if th = writer ∧ mode = .exclusive then .done []
      else .broken := by
  unfold release
  by_cases hSame : th = writer ∧ mode = .exclusive
  · rcases hSame with ⟨rfl, rfl⟩
    simp
  · rw [if_neg hSame, if_neg]
    simpa using hSame

end LockPlatforms

end CxPlat

------------------------------------------------------------
-- All Locks
------------------------------------------------------------

namespace CxPlat

namespace LockPlatforms

open RwLock (Mode)

variable {T M R A B : Type}

/- Two kinds of objects that stand for the locks. -/
structure Represents
    (Held : List (T × Mode) → A → Prop)
    (HeldRw : List (T × Mode) → B → Prop)
    (all : Holders T M R)
    (objects : M → A)
    (rwObjects : R → B) : Prop where
  locks :
    ∀ lock, Held (all (.inl lock)) (objects lock)
  rwLocks :
    ∀ lock, HeldRw (all (.inr lock)) (rwObjects lock)

variable {Held : List (T × Mode) → A → Prop}
variable {HeldRw : List (T × Mode) → B → Prop}
variable {all : Holders T M R}
variable {objects : M → A} {rwObjects : R → B}
variable [DecidableEq M] [DecidableEq R]

theorem Represents.setLock
    (hOn : Represents Held HeldRw all objects rwObjects)
    (lock : M)
    {entries : List (T × Mode)}
    {new : A}
    (hHeld : Held entries new) :
    Represents Held HeldRw
      (Function.update all (.inl lock) entries)
      (Function.update objects lock new) rwObjects := by
  constructor
  · intro other
    by_cases hSame : other = lock
    · subst hSame
      rw [Function.update_self, Function.update_self]
      exact hHeld
    · rw [Function.update_of_ne hSame,
        Function.update_of_ne (by simpa using hSame)]
      exact hOn.locks other
  · intro other
    rw [Function.update_of_ne (by simp)]
    exact hOn.rwLocks other

theorem Represents.setRwLock
    (hOn : Represents Held HeldRw all objects rwObjects)
    (lock : R)
    {entries : List (T × Mode)}
    {new : B}
    (hHeld : HeldRw entries new) :
    Represents Held HeldRw
      (Function.update all (.inr lock) entries)
      objects (Function.update rwObjects lock new) := by
  constructor
  · intro other
    rw [Function.update_of_ne (by simp)]
    exact hOn.locks other
  · intro other
    by_cases hSame : other = lock
    · subst hSame
      rw [Function.update_self, Function.update_self]
      exact hHeld
    · rw [Function.update_of_ne hSame,
        Function.update_of_ne (by simpa using hSame)]
      exact hOn.rwLocks other

end LockPlatforms

end CxPlat

------------------------------------------------------------
-- Recursive Locks
------------------------------------------------------------

namespace CxPlat

namespace LockPlatforms

open Contract (Result Honours)
open RwLock (Mode grants)

variable {T : Type} [DecidableEq T]
variable {holders : List (T × Mode)}

theorem lockRecursive_honours
    {lock : Recursive T}
    (hHeld : HeldRecursive holders lock)
    (th : T) :
    Honours HeldRecursive (acquire holders th .exclusive)
      (lockRecursive lock th) := by
  cases hHeld with
  | free => exact .owned th
  | owned owner =>
      by_cases hSame : owner = th
      · rw [hSame, acquire_own]
        trivial
      · rw [acquire_writer hSame]
        simp [lockRecursive, hSame, Honours]

theorem unlockRecursive_honours
    {lock : Recursive T}
    (hHeld : HeldRecursive holders lock)
    (th : T) :
    Honours HeldRecursive (release holders th .exclusive)
      (unlockRecursive lock th) := by
  cases hHeld with
  | free => trivial
  | owned owner =>
      rw [release_writer]
      by_cases hSame : th = owner
      · subst hSame
        simp only [and_self, if_true, unlockRecursive,
          Nat.le_refl]
        exact .free
      · simp [hSame, Honours]

end LockPlatforms

end CxPlat

------------------------------------------------------------
-- POSIX
------------------------------------------------------------

namespace CxPlat

namespace LockPlatforms

open Contract (Result Honours)
open RwLock (Mode grants)

variable {T M R : Type} [DecidableEq T]
variable {holders : List (T × Mode)} {lock : ReadWrite T}

theorem pthreadRwlockRdlock_honours
    (hHeld : HeldReadWrite holders lock)
    (th : T) :
    Honours HeldReadWrite (acquire holders th .shared)
      (pthreadRwlockRdlock lock th) := by
  cases hHeld with
  | readers ths =>
      rw [acquire_shared_reading]
      split
      · trivial
      · exact .readers (th :: ths)
  | writer writer =>
      by_cases hSame : writer = th
      · rw [hSame, acquire_own]
        trivial
      · rw [acquire_writer hSame]
        simp [pthreadRwlockRdlock, hSame, Honours]

theorem pthreadRwlockWrlock_honours
    (hHeld : HeldReadWrite holders lock)
    (th : T) :
    Honours HeldReadWrite (acquire holders th .exclusive)
      (pthreadRwlockWrlock lock th) := by
  cases hHeld with
  | readers ths =>
      rw [acquire_exclusive_reading]
      split
      · trivial
      · simp only [pthreadRwlockWrlock]
        split
        next hNone =>
          subst hNone
          exact .writer th
        next => trivial
  | writer writer =>
      by_cases hSame : writer = th
      · rw [hSame, acquire_own]
        trivial
      · rw [acquire_writer hSame]
        simp [pthreadRwlockWrlock, hSame, Honours]

/- One call gives back what was acquired in either mode. -/
theorem pthreadRwlockUnlock_honours
    (hHeld : HeldReadWrite holders lock)
    (th : T)
    (mode : Mode) :
    Honours HeldReadWrite (release holders th mode)
      (pthreadRwlockUnlock lock th) := by
  cases hHeld with
  | readers ths =>
      cases mode with
      | exclusive =>
          rw [release_exclusive_reading]
          trivial
      | shared =>
          rw [release_shared_reading]
          split
          next hMem =>
            simp only [pthreadRwlockUnlock, reduceCtorEq,
              if_false, hMem, if_true]
            exact .readers (ths.erase th)
          next => trivial
  | writer writer =>
      rw [release_writer]
      split
      next hSame =>
        rw [hSame.1]
        simp only [pthreadRwlockUnlock, if_true]
        exact .readers []
      next => trivial

/- The locks of POSIX are held by the same threads. -/
def OnPosix
    (all : Holders T M R)
    (s : PosixLocks T M R) : Prop :=
  Represents HeldRecursive HeldReadWrite all s.mutex s.rwLock

variable [DecidableEq M] [DecidableEq R]
variable {all : Holders T M R} {s : PosixLocks T M R}

theorem posix_honours
    (hOn : OnPosix all s)
    (move : T × Request M R) :
    Honours OnPosix (contract all move) (posix s move) := by
  rcases move with ⟨th, request⟩
  cases request with
  | lockAcquire lock =>
      exact (lockRecursive_honours (hOn.locks lock) th).map
        (fun _ _ hHeld => hOn.setLock lock hHeld)
  | lockRelease lock =>
      exact (unlockRecursive_honours (hOn.locks lock) th).map
        (fun _ _ hHeld => hOn.setLock lock hHeld)
  | rwLockAcquireShared lock =>
      exact
        (pthreadRwlockRdlock_honours (hOn.rwLocks lock) th).map
          (fun _ _ hHeld => hOn.setRwLock lock hHeld)
  | rwLockAcquireExclusive lock =>
      exact
        (pthreadRwlockWrlock_honours (hOn.rwLocks lock) th).map
          (fun _ _ hHeld => hOn.setRwLock lock hHeld)
  | rwLockReleaseShared lock =>
      exact
        (pthreadRwlockUnlock_honours (hOn.rwLocks lock) th
          .shared).map
          (fun _ _ hHeld => hOn.setRwLock lock hHeld)
  | rwLockReleaseExclusive lock =>
      exact
        (pthreadRwlockUnlock_honours (hOn.rwLocks lock) th
          .exclusive).map
          (fun _ _ hHeld => hOn.setRwLock lock hHeld)

end LockPlatforms

end CxPlat

------------------------------------------------------------
-- User Mode
------------------------------------------------------------

namespace CxPlat

namespace LockPlatforms

open Contract (Result Honours)
open RwLock (Mode grants)

variable {T M R : Type} [DecidableEq T]
variable {holders : List (T × Mode)} {lock : Slim}

theorem acquireSRWLockShared_honours
    (hHeld : HeldSlim holders lock)
    (th : T) :
    Honours HeldSlim (acquire holders th .shared)
      (acquireSRWLockShared lock) := by
  cases hHeld with
  | readers ths =>
      rw [acquire_shared_reading]
      split
      · trivial
      · exact .readers (th :: ths)
  | writer writer =>
      by_cases hSame : writer = th
      · rw [hSame, acquire_own]
        trivial
      · rw [acquire_writer hSame]
        trivial

theorem acquireSRWLockExclusive_honours
    (hHeld : HeldSlim holders lock)
    (th : T) :
    Honours HeldSlim (acquire holders th .exclusive)
      (acquireSRWLockExclusive lock) := by
  cases hHeld with
  | readers ths =>
      rw [acquire_exclusive_reading]
      split
      · trivial
      · split
        next hNone =>
          subst hNone
          exact .writer th
        next hSome =>
          have hLength : ths.length ≠ 0 := by
            simpa using hSome
          simp [acquireSRWLockExclusive, hSome, Honours]
  | writer writer =>
      by_cases hSame : writer = th
      · rw [hSame, acquire_own]
        trivial
      · rw [acquire_writer hSame]
        simp [acquireSRWLockExclusive, Honours]

theorem releaseSRWLockShared_honours
    (hHeld : HeldSlim holders lock)
    (th : T) :
    Honours HeldSlim (release holders th .shared)
      (releaseSRWLockShared lock) := by
  cases hHeld with
  | readers ths =>
      rw [release_shared_reading]
      split
      next hMem =>
        have hPos := List.length_pos_of_mem hMem
        have hReaders := HeldSlim.readers (ths.erase th)
        rw [List.length_erase_of_mem hMem] at hReaders
        unfold releaseSRWLockShared
        rw [if_neg (Nat.ne_of_gt hPos)]
        exact hReaders
      next => trivial
  | writer writer =>
      rw [release_writer, if_neg (by simp)]
      trivial

theorem releaseSRWLockExclusive_honours
    (hHeld : HeldSlim holders lock)
    (th : T) :
    Honours HeldSlim (release holders th .exclusive)
      (releaseSRWLockExclusive lock) := by
  cases hHeld with
  | readers ths =>
      rw [release_exclusive_reading]
      trivial
  | writer writer =>
      rw [release_writer]
      split
      · exact HeldSlim.readers []
      · trivial

/- The locks of user mode are held by the same threads. -/
def OnUser
    (all : Holders T M R)
    (s : UserLocks T M R) : Prop :=
  Represents HeldRecursive HeldSlim all s.criticalSection
    s.srwLock

variable [DecidableEq M] [DecidableEq R]
variable {all : Holders T M R} {s : UserLocks T M R}

theorem user_honours
    (hOn : OnUser all s)
    (move : T × Request M R) :
    Honours OnUser (contract all move) (user s move) := by
  rcases move with ⟨th, request⟩
  cases request with
  | lockAcquire lock =>
      exact
        (lockRecursive_honours
          (hOn.locks lock) th).map
          (fun _ _ hHeld => hOn.setLock lock hHeld)
  | lockRelease lock =>
      exact
        (unlockRecursive_honours
          (hOn.locks lock) th).map
          (fun _ _ hHeld => hOn.setLock lock hHeld)
  | rwLockAcquireShared lock =>
      exact
        (acquireSRWLockShared_honours
          (hOn.rwLocks lock) th).map
          (fun _ _ hHeld => hOn.setRwLock lock hHeld)
  | rwLockAcquireExclusive lock =>
      exact
        (acquireSRWLockExclusive_honours
          (hOn.rwLocks lock) th).map
          (fun _ _ hHeld => hOn.setRwLock lock hHeld)
  | rwLockReleaseShared lock =>
      exact
        (releaseSRWLockShared_honours
          (hOn.rwLocks lock) th).map
          (fun _ _ hHeld => hOn.setRwLock lock hHeld)
  | rwLockReleaseExclusive lock =>
      exact
        (releaseSRWLockExclusive_honours
          (hOn.rwLocks lock) th).map
          (fun _ _ hHeld => hOn.setRwLock lock hHeld)

end LockPlatforms

end CxPlat

------------------------------------------------------------
-- Kernel Mode
------------------------------------------------------------

namespace CxPlat

namespace LockPlatforms

open Contract (Result Honours)
open RwLock (Mode grants)
open PushLock (alone run_releaseCall)
open Transition (run run_cons)

variable {T M R : Type}
variable [DecidableEq T] [DecidableEq M] [DecidableEq R]

/-
  The push locks are held by the same threads, and none of
  them is inside a macro or suspended.
-/
structure OnKernel
    (all : Holders T M R)
    (c : PushLock.Config T (M ⊕ R)) : Prop where
  sound : PushLock.Sound c
  shared : c.shared = all
  outside : ∀ th, (c.locals th).todo = []
  runs : ∀ th, (c.locals th).suspended = false

variable {all : Holders T M R}
variable {c d : PushLock.Config T (M ⊕ R)}
variable {lock : M ⊕ R} {mode : Mode}

/- A whole acquire, if the lock is granted. -/
theorem run_acquireCall
    {l : PushLock.Thread (M ⊕ R)}
    (s : PushLock.Locks T (M ⊕ R))
    (p : T)
    {call : PushLock.Call}
    (hBody : call.body lock = PushLock.acquire lock mode)
    (hRuns : l.suspended = false)
    (hTodo : l.todo = []) :
    run (alone p) (s, l) [.call call lock, .next, .next] =
      if grants (s lock) mode = true then
        some
          (Function.update s lock ((p, mode) :: s lock),
           { l with
             regions := l.regions + 1
             held := (lock, mode) :: l.held
             todo := [] })
      else
        none := by
  have hPermitted :
      ∀ st ∈ call.body lock, PushLock.Permitted l.held st := by
    rw [hBody]
    simp [PushLock.acquire, PushLock.Permitted]
  have hCall :
      alone p (s, l) (.call call lock) =
        some
          (s, { l with todo := PushLock.acquire lock mode }) := by
    simp only [alone, PushLock.statement]
    rw [if_pos ⟨hRuns, hTodo, hPermitted⟩, hBody]
  rw [run_cons _ hCall]
  by_cases hGrants : grants (s lock) mode = true
  · simp [run, alone, PushLock.statement, PushLock.perform,
      PushLock.acquire, hRuns, hGrants]
  · simp [run, alone, PushLock.statement, PushLock.perform,
      PushLock.acquire, hRuns, hGrants]

/- One thread has done a macro. -/
theorem OnKernel.after
    (hOn : OnKernel all c)
    {th : T}
    {actions : List (PushLock.Action (M ⊕ R))}
    {s : PushLock.Locks T (M ⊕ R)}
    {l : PushLock.Thread (M ⊕ R)}
    (hAlone :
      run (alone th) (c.shared, c.locals th) actions =
        some (s, l))
    (hTodo : l.todo = [])
    (hRuns : l.suspended = false) :
    OnKernel s
      { shared := s
        locals := Function.update c.locals th l } where
  sound :=
    PushLock.sound_run hOn.sound (Threads.run_of_alone hAlone)
  shared := rfl
  outside := by
    intro other
    by_cases hSame : other = th
    · subst hSame
      simpa using hTodo
    · simpa [hSame] using hOn.outside other
  runs := by
    intro other
    by_cases hSame : other = th
    · subst hSame
      simpa using hRuns
    · simpa [hSame] using hOn.runs other

/- A macro that its thread does alone. -/
theorem kernel_eq
    (c : PushLock.Config T (M ⊕ R))
    (th : T)
    (request : Request M R) :
    kernel c (th, request) =
      match run (alone th) (c.shared, c.locals th)
        (macroActions request) with
      | some x =>
          .done
            { shared := x.1
              locals := Function.update c.locals th x.2 }
      | none => .blocked := by
  have hRun :
      run PushLock.step c
          ((macroActions request).map (Prod.mk th)) =
        _ :=
    Threads.run_alone c th (macroActions request)
  unfold kernel
  rw [hRun]
  cases run (alone th) (c.shared, c.locals th)
    (macroActions request) with
  | none => rfl
  | some x => rfl

theorem kernel_acquire_honours
    (hOn : OnKernel all c)
    (th : T)
    (request : Request M R)
    (hBody :
      request.call.body request.pushLock =
        PushLock.acquire request.pushLock mode) :
    Honours OnKernel
      ((acquire (all request.pushLock) th mode).map
        (Function.update all request.pushLock))
      (kernel c (th, request)) := by
  obtain rfl := hOn.shared
  have hAlone :=
    run_acquireCall c.shared th hBody (hOn.runs th)
      (hOn.outside th)
  rw [kernel_eq]
  unfold macroActions acquire
  by_cases hOwn :
      th ∈ (c.shared request.pushLock).map Prod.fst
  · rw [if_pos hOwn]
    trivial
  · rw [if_neg hOwn]
    by_cases hGrants :
        grants (c.shared request.pushLock) mode = true
    · rw [if_pos hGrants] at hAlone ⊢
      rw [hAlone]
      exact hOn.after hAlone rfl (hOn.runs th)
    · rw [if_neg hGrants] at hAlone ⊢
      rw [hAlone]
      trivial

theorem kernel_release_honours
    (hOn : OnKernel all c)
    (th : T)
    (request : Request M R)
    (hBody :
      request.call.body request.pushLock =
        PushLock.release request.pushLock mode) :
    Honours OnKernel
      ((release (all request.pushLock) th mode).map
        (Function.update all request.pushLock))
      (kernel c (th, request)) := by
  obtain rfl := hOn.shared
  rw [kernel_eq]
  unfold macroActions release
  by_cases hMem : (th, mode) ∈ c.shared request.pushLock
  · have hHeld :=
      ((hOn.sound.2 th).mem_iff request.pushLock mode).mp hMem
    have hAlone :=
      run_releaseCall c.shared th hBody (hOn.runs th)
        (hOn.outside th) hHeld
    rw [if_pos hMem, hAlone]
    exact hOn.after hAlone rfl (hOn.runs th)
  · rw [if_neg hMem]
    trivial

theorem kernel_honours
    (hOn : OnKernel all c)
    (move : T × Request M R) :
    Honours OnKernel (contract all move) (kernel c move) := by
  rcases move with ⟨th, request⟩
  cases request with
  | lockAcquire lock =>
      exact
        kernel_acquire_honours hOn th (.lockAcquire lock) rfl
  | lockRelease lock =>
      exact
        kernel_release_honours hOn th (.lockRelease lock) rfl
  | rwLockAcquireShared lock =>
      exact
        kernel_acquire_honours hOn th
          (.rwLockAcquireShared lock) rfl
  | rwLockAcquireExclusive lock =>
      exact
        kernel_acquire_honours hOn th
          (.rwLockAcquireExclusive lock) rfl
  | rwLockReleaseShared lock =>
      exact
        kernel_release_honours hOn th
          (.rwLockReleaseShared lock) rfl
  | rwLockReleaseExclusive lock =>
      exact
        kernel_release_honours hOn th
          (.rwLockReleaseExclusive lock) rfl

end LockPlatforms

end CxPlat

------------------------------------------------------------
-- Every Platform
------------------------------------------------------------

namespace CxPlat

namespace LockPlatforms

open Contract (Result Honours honours_run)
open RwLock (Mode)

variable {T M R : Type}

theorem onPosix_free :
    OnPosix (fun _ => [] : Holders T M R) .free where
  locks := fun _ => .free
  rwLocks := fun _ => .readers []

theorem onUser_free :
    OnUser (fun _ => [] : Holders T M R) .free where
  locks := fun _ => .free
  rwLocks := fun _ => .readers []

variable [DecidableEq T] [DecidableEq M] [DecidableEq R]

theorem onKernel_start :
    OnKernel (fun _ => [] : Holders T M R)
      (PushLock.start (fun _ => 0)) where
  sound := PushLock.sound_start _
  shared := rfl
  outside := fun _ => rfl
  runs := fun _ => rfl

/-
  Any number of threads, locks and calls.  Where the contract
  is kept, a program gets to its end on all platforms with the
  same holders, or blocks on all of them.
-/
theorem locks_portable
    (program : List (T × Request M R)) :
    Honours OnPosix
        (Contract.run contract (fun _ => []) program)
        (Contract.run posix .free program) ∧
      Honours OnUser
        (Contract.run contract (fun _ => []) program)
        (Contract.run user .free program) ∧
      Honours OnKernel
        (Contract.run contract (fun _ => []) program)
        (Contract.run kernel (PushLock.start (fun _ => 0))
          program) := by
  refine ⟨?_, ?_, ?_⟩
  · exact honours_run (fun _ _ a hOn => posix_honours hOn a)
      onPosix_free program
  · exact honours_run (fun _ _ a hOn => user_honours hOn a)
      onUser_free program
  · exact honours_run (fun _ _ a hOn => kernel_honours hOn a)
      onKernel_start program

/-
  A thread that acquires its lock once more breaks the
  contract: it goes on on POSIX, and is stuck in kernel mode.
-/
def acquireTwice : List (Nat × Request Unit Unit) :=
  [(0, .lockAcquire ()), (0, .lockAcquire ())]

example :
    Contract.run kernel (PushLock.start (fun _ => 0))
        acquireTwice = .blocked ∧
      ∃ s,
        Contract.run posix .free acquireTwice = .done s :=
  ⟨rfl, _, rfl⟩

end LockPlatforms

end CxPlat
