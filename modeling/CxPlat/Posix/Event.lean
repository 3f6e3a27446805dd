import CxPlat.Lib.Threads

/-
  Events on POSIX platforms, from `cxplat_posix.h`: a mutex,
  a condition variable and a flag.

  Every statement of `CxPlatInternalEventSet`, `Reset`,
  `WaitForever` and `WaitWithTimeout` is a step of its own.
  A thread that waits on the condition variable may be woken
  at any time, spuriously, after a broadcast or because its
  time is up, and then has to get the mutex again.

  Key definitions include:
    * `Event`, `Pc`, `Choice`
    * `statement`, `program`
    * `Moves`

  Key theorems include:
    * `moves_statement`
    * `program_some`
-/

------------------------------------------------------------
-- The Event
------------------------------------------------------------

namespace CxPlat

namespace Posix

/-
  A `CXPLAT_EVENT`: the owner of `Mutex`, the threads that
  are enqueued on `Cond`, `Signaled` and `AutoReset`.  The
  other fields only count what has happened.
-/
structure Event (Th : Type) where
  owner : Option Th
  cond : List Th
  signaled : Bool
  autoReset : Bool
  setsUnsignaled : Nat
  resetsSignaled : Nat
  taken : Nat
  foreverReturns : Nat
  trueReturns : Nat
  falseReturns : Nat

/- The next statement of a thread. -/
inductive Pc where
  | idle
  | setLock
  | setStore
  | setBroadcast
  | setUnlock
  | resetLock
  | resetStore
  | resetUnlock
  | waitLock (timed : Bool)
  | waitTest (timed : Bool)
  | waitCall (timed : Bool)
  | waitSleep (timed : Bool)
  | waitRelock (timed expired : Bool)
  | waitTake (timed : Bool)
  | waitUnlock (timed satisfied : Bool)
deriving DecidableEq, Repr

/- A call to make, the next statement, or a wake-up. -/
inductive Choice where
  | set
  | reset
  | waitForever
  | waitWithTimeout
  | next
  | wake (expired : Bool)
deriving DecidableEq, Repr

variable {Th : Type} [DecidableEq Th]

/- `CxPlatEventInitialize`. -/
def eventInitialize
    (manualReset initialState : Bool) : Event Th where
  owner := none
  cond := []
  signaled := initialState
  autoReset := !manualReset
  setsUnsignaled := 0
  resetsSignaled := 0
  taken := 0
  foreverReturns := 0
  trueReturns := 0
  falseReturns := 0

/- `pthread_mutex_lock`, which returns when nobody owns it. -/
def mutexLock
    (e : Event Th)
    (th : Th)
    (pc : Pc) : Option (Event Th × Pc) :=
  if e.owner = none then
    some ({ e with owner := some th }, pc)
  else
    none

/- `pthread_mutex_unlock`. -/
def mutexUnlock
    (e : Event Th) : Event Th :=
  { e with owner := none }

/- `Event->Signaled = true` in `Set`. -/
def storeSet
    (e : Event Th) : Event Th :=
  { e with
    signaled := true
    setsUnsignaled :=
      e.setsUnsignaled + (!e.signaled).toNat }

/- `Event->Signaled = false` in `Reset`. -/
def storeReset
    (e : Event Th) : Event Th :=
  { e with
    signaled := false
    resetsSignaled := e.resetsSignaled + e.signaled.toNat }

/- `if (Event->AutoReset) Event->Signaled = false`. -/
def take
    (e : Event Th) : Event Th :=
  { e with
    signaled := if e.autoReset then false else e.signaled
    taken := e.taken + 1 }

/- A wait returns. -/
def countReturn
    (e : Event Th) : Bool → Bool → Event Th
  | false, _ => { e with foreverReturns := e.foreverReturns + 1 }
  | true, true => { e with trueReturns := e.trueReturns + 1 }
  | true, false =>
      { e with falseReturns := e.falseReturns + 1 }

/-
  One statement.  `pthread_cond_wait` gives up the mutex and
  enqueues the thread in one step; the thread leaves the wait
  set when it wakes up, and the call returns once the thread
  has the mutex again.
-/
def statement
    (e : Event Th)
    (th : Th) : Pc → Choice → Option (Event Th × Pc)
  | .idle, .set => some (e, .setLock)
  | .idle, .reset => some (e, .resetLock)
  | .idle, .waitForever => some (e, .waitLock false)
  | .idle, .waitWithTimeout => some (e, .waitLock true)
  | .setLock, .next => mutexLock e th .setStore
  | .setStore, .next => some (storeSet e, .setBroadcast)
  | .setBroadcast, .next =>
      some ({ e with cond := [] }, .setUnlock)
  | .setUnlock, .next => some (mutexUnlock e, .idle)
  | .resetLock, .next => mutexLock e th .resetStore
  | .resetStore, .next => some (storeReset e, .resetUnlock)
  | .resetUnlock, .next => some (mutexUnlock e, .idle)
  | .waitLock timed, .next => mutexLock e th (.waitTest timed)
  | .waitTest timed, .next =>
      some (e,
        if e.signaled then .waitTake timed
        else .waitCall timed)
  | .waitCall timed, .next =>
      some ({ mutexUnlock e with cond := th :: e.cond },
        .waitSleep timed)
  | .waitSleep timed, .wake expired =>
      if expired && !timed then
        none
      else
        some ({ e with
            cond := e.cond.filter (fun q => q ≠ th) },
          .waitRelock timed expired)
  | .waitRelock timed expired, .next =>
      mutexLock e th
        (if expired then .waitUnlock timed false
         else .waitTest timed)
  | .waitTake timed, .next =>
      some (take e, .waitUnlock timed true)
  | .waitUnlock timed satisfied, .next =>
      some (countReturn (mutexUnlock e) timed satisfied, .idle)
  | _, _ => none

/-
  The state of a thread.  `changed` records whether a
  statement of its current call has changed `Signaled`.
-/
structure Thread where
  pc : Pc
  changed : Bool
deriving DecidableEq, Repr

def program :
    Threads.Program (Event Th) Thread Th Choice :=
  fun e th l choice =>
    match statement e th l.pc choice with
    | some (e', pc') =>
        some (e',
          { pc := pc'
            changed :=
              l.pc ≠ .idle &&
                (l.changed || e'.signaled != e.signaled) })
    | none => none

/- An initialised event and threads that have not used it. -/
def start
    (manualReset initialState : Bool) :
    Threads.Config (Event Th) Thread Th where
  shared := eventInitialize manualReset initialState
  locals := fun _ => { pc := .idle, changed := false }

end Posix

end CxPlat

------------------------------------------------------------
-- Statements, Case by Case
------------------------------------------------------------

namespace CxPlat

namespace Posix

variable {Th : Type} [DecidableEq Th]

/- The first statement of a call. -/
def Pc.entry : Pc → Bool
  | .setLock | .resetLock | .waitLock _ => true
  | _ => false

/- The statement after the mutex has been taken. -/
def Pc.locked : Pc → Option Pc
  | .setLock => some .setStore
  | .resetLock => some .resetStore
  | .waitLock timed => some (.waitTest timed)
  | .waitRelock timed expired =>
      some
        (if expired then .waitUnlock timed false
         else .waitTest timed)
  | _ => none

/- What a statement can do. -/
inductive Moves
    (e : Event Th)
    (th : Th) : Pc → Event Th → Pc → Prop where
  | call
      {pc' : Pc}
      (hEntry : pc'.entry = true) :
      Moves e th .idle e pc'
  | lock
      {pc pc' : Pc}
      (hFree : e.owner = none)
      (hLocked : pc.locked = some pc') :
      Moves e th pc { e with owner := some th } pc'
  | setStore :
      Moves e th .setStore (storeSet e) .setBroadcast
  | broadcast :
      Moves e th .setBroadcast { e with cond := [] } .setUnlock
  | resetStore :
      Moves e th .resetStore (storeReset e) .resetUnlock
  | unlock
      {pc : Pc}
      (hPc : pc = .setUnlock ∨ pc = .resetUnlock) :
      Moves e th pc (mutexUnlock e) .idle
  | found
      {timed : Bool}
      (hSignaled : e.signaled = true) :
      Moves e th (.waitTest timed) e (.waitTake timed)
  | notFound
      {timed : Bool}
      (hSignaled : e.signaled = false) :
      Moves e th (.waitTest timed) e (.waitCall timed)
  | sleep
      {timed : Bool} :
      Moves e th (.waitCall timed)
        { mutexUnlock e with cond := th :: e.cond }
        (.waitSleep timed)
  | wake
      {timed expired : Bool}
      (hTimed : expired = true → timed = true) :
      Moves e th (.waitSleep timed)
        { e with cond := e.cond.filter (fun q => q ≠ th) }
        (.waitRelock timed expired)
  | take
      {timed : Bool} :
      Moves e th (.waitTake timed) (take e)
        (.waitUnlock timed true)
  | waitUnlock
      {timed satisfied : Bool} :
      Moves e th (.waitUnlock timed satisfied)
        (countReturn (mutexUnlock e) timed satisfied) .idle

variable {e e' : Event Th} {th : Th} {pc pc' : Pc}

omit [DecidableEq Th] in
theorem mutexLock_some
    {first : Pc}
    (hLock : mutexLock e th first = some (e', pc')) :
    e.owner = none ∧
      e' = { e with owner := some th } ∧ pc' = first := by
  simp only [mutexLock] at hLock
  split at hLock
  next hFree =>
    cases hLock
    exact ⟨hFree, rfl, rfl⟩
  next => contradiction

theorem moves_mutexLock
    {first : Pc}
    (hLocked : pc.locked = some first)
    (hLock : mutexLock e th first = some (e', pc')) :
    Moves e th pc e' pc' := by
  rcases mutexLock_some hLock with ⟨hFree, hEvent, hPc⟩
  subst hEvent hPc
  exact Moves.lock hFree hLocked

theorem moves_statement
    {choice : Choice}
    (hStatement :
      statement e th pc choice = some (e', pc')) :
    Moves e th pc e' pc' := by
  unfold statement at hStatement
  split at hStatement
  next => cases hStatement; exact Moves.call rfl
  next => cases hStatement; exact Moves.call rfl
  next => cases hStatement; exact Moves.call rfl
  next => cases hStatement; exact Moves.call rfl
  next => exact moves_mutexLock rfl hStatement
  next => cases hStatement; exact Moves.setStore
  next => cases hStatement; exact Moves.broadcast
  next => cases hStatement; exact Moves.unlock (Or.inl rfl)
  next => exact moves_mutexLock rfl hStatement
  next => cases hStatement; exact Moves.resetStore
  next => cases hStatement; exact Moves.unlock (Or.inr rfl)
  next => exact moves_mutexLock rfl hStatement
  next =>
    cases hStatement
    cases hSignaled : e.signaled
    · exact Moves.notFound hSignaled
    · exact Moves.found hSignaled
  next => cases hStatement; exact Moves.sleep
  next timed expired =>
    split at hStatement
    next => contradiction
    next hTimed =>
      cases hStatement
      apply Moves.wake
      simpa using hTimed
  next => exact moves_mutexLock rfl hStatement
  next => cases hStatement; exact Moves.take
  next => cases hStatement; exact Moves.waitUnlock
  next => contradiction

/- A step of the program, with the thread's own record. -/
theorem program_some
    {l l' : Thread}
    {choice : Choice}
    (hProgram : program e th l choice = some (e', l')) :
    Moves e th l.pc e' l'.pc ∧
      l'.changed =
        (l.pc ≠ .idle &&
          (l.changed || e'.signaled != e.signaled)) := by
  simp only [program] at hProgram
  split at hProgram
  next hStatement =>
    cases hProgram
    exact ⟨moves_statement hStatement, rfl⟩
  next => contradiction

end Posix

end CxPlat
