import CxPlat.Lib.Contract
import CxPlat.WinKernel.PushLock

/-
  The locks of the platforms, from `cxplat_posix.h`,
  `cxplat_winuser.h` and `cxplat_winkernel.h`, behind the
  classes `CxPlatLock` and `CxPlatRwLock` of `cxplat.hpp`.

  On POSIX a lock is a recursive mutex or a read-write lock,
  and the macros assert that each call returns zero.  In user
  mode it is a critical section or a slim read-write lock,
  which does not know who has it.  In kernel mode both are
  push locks.

  The contract of the locks is stated with who holds what: a
  thread acquires what it does not hold, and releases what it
  holds in the mode in which it holds it.

  Key definitions include:
    * `Request`
    * `contract`
    * `posix`, `user`, `kernel`
-/

------------------------------------------------------------
-- Requests And Their Contract
------------------------------------------------------------

namespace CxPlat

namespace LockPlatforms

open Contract (Result)
open RwLock (Mode grants)

/- The member functions of a lock or a read-write lock. -/
inductive Request (M R : Type) where
  | lockAcquire (lock : M)
  | lockRelease (lock : M)
  | rwLockAcquireShared (lock : R)
  | rwLockAcquireExclusive (lock : R)
  | rwLockReleaseShared (lock : R)
  | rwLockReleaseExclusive (lock : R)
deriving DecidableEq, Repr

variable {T M R : Type}

/- Who holds each lock, and in which mode. -/
abbrev Holders (T M R : Type) :=
  M ⊕ R → List (T × Mode)

variable [DecidableEq T]

/- A lock is granted to a thread that does not hold it. -/
def acquire
    (holders : List (T × Mode))
    (th : T)
    (mode : Mode) : Result (List (T × Mode)) :=
  if th ∈ holders.map Prod.fst then
    .broken
  else if grants holders mode = true then
    .done ((th, mode) :: holders)
  else
    .blocked

/- A lock is released by a thread that holds it so. -/
def release
    (holders : List (T × Mode))
    (th : T)
    (mode : Mode) : Result (List (T × Mode)) :=
  if (th, mode) ∈ holders then
    .done (holders.erase (th, mode))
  else
    .broken

variable [DecidableEq M] [DecidableEq R]

def contract
    (holders : Holders T M R)
    (move : T × Request M R) : Result (Holders T M R) :=
  match move.2 with
  | .lockAcquire lock =>
      (acquire (holders (.inl lock)) move.1 .exclusive).map
        (Function.update holders (.inl lock))
  | .lockRelease lock =>
      (release (holders (.inl lock)) move.1 .exclusive).map
        (Function.update holders (.inl lock))
  | .rwLockAcquireShared lock =>
      (acquire (holders (.inr lock)) move.1 .shared).map
        (Function.update holders (.inr lock))
  | .rwLockAcquireExclusive lock =>
      (acquire (holders (.inr lock)) move.1 .exclusive).map
        (Function.update holders (.inr lock))
  | .rwLockReleaseShared lock =>
      (release (holders (.inr lock)) move.1 .shared).map
        (Function.update holders (.inr lock))
  | .rwLockReleaseExclusive lock =>
      (release (holders (.inr lock)) move.1 .exclusive).map
        (Function.update holders (.inr lock))

end LockPlatforms

end CxPlat

------------------------------------------------------------
-- POSIX
------------------------------------------------------------

namespace CxPlat

namespace LockPlatforms

open Contract (Result)

/- A recursive lock and how often its owner has it. -/
structure Recursive (T : Type) where
  owner : Option T
  count : Nat
deriving DecidableEq, Repr

def Recursive.free
    {T : Type} : Recursive T where
  owner := none
  count := 0

structure ReadWrite (T : Type) where
  writer : Option T
  readers : List T
deriving DecidableEq, Repr

def ReadWrite.free
    {T : Type} : ReadWrite T where
  writer := none
  readers := []

variable {T M R : Type} [DecidableEq T]

def lockRecursive
    (lock : Recursive T)
    (th : T) : Result (Recursive T) :=
  match lock.owner with
  | none => .done { owner := some th, count := 1 }
  | some owner =>
      if owner = th then
        .done { lock with count := lock.count + 1 }
      else
        .blocked

/- Only the owner may unlock. -/
def unlockRecursive
    (lock : Recursive T)
    (th : T) : Result (Recursive T) :=
  if lock.owner = some th then
    if lock.count ≤ 1 then
      .done Recursive.free
    else
      .done { lock with count := lock.count - 1 }
  else
    .broken

/- `CxPlatLockAcquire`; the assertion holds. -/
def pthreadMutexLock
    (lock : Recursive T)
    (th : T) : Result (Recursive T) :=
  lockRecursive lock th

/- `CxPlatLockRelease`; the assertion fails with `EPERM`. -/
def pthreadMutexUnlock
    (lock : Recursive T)
    (th : T) : Result (Recursive T) :=
  unlockRecursive lock th

/-
  `CxPlatRwLockAcquireShared`.  A writer that asks to read
  gets `EDEADLK`, and the assertion fails.
-/
def pthreadRwlockRdlock
    (lock : ReadWrite T)
    (th : T) : Result (ReadWrite T) :=
  match lock.writer with
  | none => .done { lock with readers := th :: lock.readers }
  | some writer =>
      if writer = th then
        .broken
      else
        .blocked

/- `CxPlatRwLockAcquireExclusive`, with `EDEADLK` as above. -/
def pthreadRwlockWrlock
    (lock : ReadWrite T)
    (th : T) : Result (ReadWrite T) :=
  match lock.writer with
  | none =>
      if lock.readers = [] then
        .done { lock with writer := some th }
      else
        .blocked
  | some writer =>
      if writer = th then
        .broken
      else
        .blocked

/-
  `CxPlatRwLockReleaseShared` and
  `CxPlatRwLockReleaseExclusive` are the same call, which
  finds out how the thread has the lock.
-/
def pthreadRwlockUnlock
    (lock : ReadWrite T)
    (th : T) : Result (ReadWrite T) :=
  if lock.writer = some th then
    .done { lock with writer := none }
  else if th ∈ lock.readers then
    .done { lock with readers := lock.readers.erase th }
  else
    .broken

structure PosixLocks (T M R : Type) where
  mutex : M → Recursive T
  rwLock : R → ReadWrite T

def PosixLocks.free : PosixLocks T M R where
  mutex := fun _ => Recursive.free
  rwLock := fun _ => ReadWrite.free

variable [DecidableEq M] [DecidableEq R]

def PosixLocks.setMutex
    (s : PosixLocks T M R)
    (lock : M)
    (new : Recursive T) : PosixLocks T M R :=
  { s with mutex := Function.update s.mutex lock new }

def PosixLocks.setRwLock
    (s : PosixLocks T M R)
    (lock : R)
    (new : ReadWrite T) : PosixLocks T M R :=
  { s with rwLock := Function.update s.rwLock lock new }

def posix
    (s : PosixLocks T M R)
    (move : T × Request M R) : Result (PosixLocks T M R) :=
  match move.2 with
  | .lockAcquire lock =>
      (pthreadMutexLock (s.mutex lock) move.1).map
        (s.setMutex lock)
  | .lockRelease lock =>
      (pthreadMutexUnlock (s.mutex lock) move.1).map
        (s.setMutex lock)
  | .rwLockAcquireShared lock =>
      (pthreadRwlockRdlock (s.rwLock lock) move.1).map
        (s.setRwLock lock)
  | .rwLockAcquireExclusive lock =>
      (pthreadRwlockWrlock (s.rwLock lock) move.1).map
        (s.setRwLock lock)
  | .rwLockReleaseShared lock =>
      (pthreadRwlockUnlock (s.rwLock lock) move.1).map
        (s.setRwLock lock)
  | .rwLockReleaseExclusive lock =>
      (pthreadRwlockUnlock (s.rwLock lock) move.1).map
        (s.setRwLock lock)

end LockPlatforms

end CxPlat

------------------------------------------------------------
-- Windows, User Mode
------------------------------------------------------------

namespace CxPlat

namespace LockPlatforms

open Contract (Result)

/- An `SRWLOCK` counts its readers and does not know them. -/
structure Slim where
  exclusive : Bool
  shared : Nat
deriving DecidableEq, Repr

def Slim.free : Slim where
  exclusive := false
  shared := 0

variable {T M R : Type} [DecidableEq T]

/- `CxPlatLockAcquire`. -/
def enterCriticalSection
    (lock : Recursive T)
    (th : T) : Result (Recursive T) :=
  lockRecursive lock th

/- `CxPlatLockRelease`. -/
def leaveCriticalSection
    (lock : Recursive T)
    (th : T) : Result (Recursive T) :=
  unlockRecursive lock th

/- `CxPlatRwLockAcquireShared`. -/
def acquireSRWLockShared
    (lock : Slim) : Result Slim :=
  if lock.exclusive then
    .blocked
  else
    .done { lock with shared := lock.shared + 1 }

/- `CxPlatRwLockAcquireExclusive`. -/
def acquireSRWLockExclusive
    (lock : Slim) : Result Slim :=
  if lock.exclusive = true ∨ lock.shared ≠ 0 then
    .blocked
  else
    .done { lock with exclusive := true }

/- `CxPlatRwLockReleaseShared`. -/
def releaseSRWLockShared
    (lock : Slim) : Result Slim :=
  if lock.shared = 0 then
    .broken
  else
    .done { lock with shared := lock.shared - 1 }

/- `CxPlatRwLockReleaseExclusive`. -/
def releaseSRWLockExclusive
    (lock : Slim) : Result Slim :=
  if lock.exclusive then
    .done { lock with exclusive := false }
  else
    .broken

structure UserLocks (T M R : Type) where
  criticalSection : M → Recursive T
  srwLock : R → Slim

def UserLocks.free : UserLocks T M R where
  criticalSection := fun _ => Recursive.free
  srwLock := fun _ => Slim.free

variable [DecidableEq M] [DecidableEq R]

def UserLocks.setSection
    (s : UserLocks T M R)
    (lock : M)
    (new : Recursive T) : UserLocks T M R :=
  { s with
    criticalSection :=
      Function.update s.criticalSection lock new }

def UserLocks.setSlim
    (s : UserLocks T M R)
    (lock : R)
    (new : Slim) : UserLocks T M R :=
  { s with srwLock := Function.update s.srwLock lock new }

def user
    (s : UserLocks T M R)
    (move : T × Request M R) : Result (UserLocks T M R) :=
  match move.2 with
  | .lockAcquire lock =>
      (enterCriticalSection (s.criticalSection lock)
        move.1).map (s.setSection lock)
  | .lockRelease lock =>
      (leaveCriticalSection (s.criticalSection lock)
        move.1).map (s.setSection lock)
  | .rwLockAcquireShared lock =>
      (acquireSRWLockShared (s.srwLock lock)).map
        (s.setSlim lock)
  | .rwLockAcquireExclusive lock =>
      (acquireSRWLockExclusive (s.srwLock lock)).map
        (s.setSlim lock)
  | .rwLockReleaseShared lock =>
      (releaseSRWLockShared (s.srwLock lock)).map
        (s.setSlim lock)
  | .rwLockReleaseExclusive lock =>
      (releaseSRWLockExclusive (s.srwLock lock)).map
        (s.setSlim lock)

end LockPlatforms

end CxPlat

------------------------------------------------------------
-- Windows, Kernel Mode
------------------------------------------------------------

namespace CxPlat

namespace LockPlatforms

open Contract (Result)

variable {T M R : Type} [DecidableEq T]

/- The push lock and the macro of a request. -/
def Request.pushLock : Request M R → M ⊕ R
  | .lockAcquire lock => .inl lock
  | .lockRelease lock => .inl lock
  | .rwLockAcquireShared lock => .inr lock
  | .rwLockAcquireExclusive lock => .inr lock
  | .rwLockReleaseShared lock => .inr lock
  | .rwLockReleaseExclusive lock => .inr lock

def Request.call : Request M R → PushLock.Call
  | .lockAcquire _ => .lockAcquire
  | .lockRelease _ => .lockRelease
  | .rwLockAcquireShared _ => .rwLockAcquireShared
  | .rwLockAcquireExclusive _ => .rwLockAcquireExclusive
  | .rwLockReleaseShared _ => .rwLockReleaseShared
  | .rwLockReleaseExclusive _ => .rwLockReleaseExclusive

/- All of a macro, by a thread that no other one interrupts. -/
def macroActions
    (request : Request M R) :
    List (PushLock.Action (M ⊕ R)) :=
  [.call request.call request.pushLock, .next, .next]

variable [DecidableEq M] [DecidableEq R]

def kernel
    (c : PushLock.Config T (M ⊕ R))
    (move : T × Request M R) :
    Result (PushLock.Config T (M ⊕ R)) :=
  match Transition.run PushLock.step c
    ((macroActions move.2).map (Prod.mk move.1)) with
  | some d => .done d
  | none => .blocked

end LockPlatforms

end CxPlat
