import CxPlat.WinKernel.Thread
import Mathlib.Data.BitVec

/-
  Waiting for a time in the Windows kernel, from
  `cxplat_winkernel.h`: `CxPlatSleep` and the waits for an
  event and for a thread.

  A time is handed to the kernel in units of 100 ns, as a
  signed number: negative, it counts from now; otherwise, it
  is a date.  `CxPlatSleep` and the two waits compute it with
  different macros.

  Key definitions include:
    * `int32x32To64`, `uInt32x32To64`
    * `Kernel`, `dueDate`
    * `sleep`
    * `internalEventWaitWithTimeout`,
      `internalThreadWaitWithTimeout`
    * `Wait.Passes`

  Key theorems include:
    * `toInt_int32x32To64`, `toInt_timeout100Ns`
    * `returns_sleep`
    * `returns_waitWithTimeout`
    * `timeouts_encoded_iff`
-/

------------------------------------------------------------
-- Times for the Kernel
------------------------------------------------------------

namespace CxPlat

namespace KernelWait

/- `Int32x32To64`, whose arguments are taken as `LONG`. -/
def int32x32To64
    (a b : BitVec 32) : BitVec 64 :=
  a.signExtend 64 * b.signExtend 64

/- `UInt32x32To64`. -/
def uInt32x32To64
    (a b : BitVec 32) : BitVec 64 :=
  a.setWidth 64 * b.setWidth 64

/- `Int32x32To64(DurationMs, -10000)` in `CxPlatSleep`. -/
def timerValue
    (durationMs : BitVec 32) : BitVec 64 :=
  int32x32To64 durationMs (-10000)

/-
  `-1 * UInt32x32To64(TimeoutMs, 10000)` in the waits, where
  the product is unsigned.
-/
def timeout100Ns
    (timeoutMs : BitVec 32) : BitVec 64 :=
  -1 * uInt32x32To64 timeoutMs 10000

/- The product of two `LONG`s is a `LONGLONG`. -/
theorem toInt_int32x32To64
    (a b : BitVec 32) :
    (int32x32To64 a b).toInt = a.toInt * b.toInt := by
  have hA := BitVec.le_two_mul_toInt (x := a)
  have hA' := BitVec.two_mul_toInt_lt (x := a)
  have hB := BitVec.le_two_mul_toInt (x := b)
  have hB' := BitVec.two_mul_toInt_lt (x := b)
  have hProduct :
      (a.toInt * b.toInt).natAbs ≤ 2 ^ 31 * 2 ^ 31 := by
    rw [Int.natAbs_mul]
    exact Nat.mul_le_mul (by omega) (by omega)
  unfold int32x32To64
  rw [BitVec.toInt_mul,
    BitVec.toInt_signExtend_of_le (by decide),
    BitVec.toInt_signExtend_of_le (by decide)]
  exact Int.bmod_eq_of_le_mul_two (by omega) (by omega)

theorem toNat_uInt32x32To64
    (a b : BitVec 32) :
    (uInt32x32To64 a b).toNat = a.toNat * b.toNat := by
  have hProduct : a.toNat * b.toNat < 2 ^ 32 * 2 ^ 32 :=
    Nat.mul_lt_mul'' a.isLt b.isLt
  unfold uInt32x32To64
  rw [BitVec.toNat_mul,
    BitVec.toNat_setWidth_of_le (by decide),
    BitVec.toNat_setWidth_of_le (by decide)]
  exact Nat.mod_eq_of_lt hProduct

theorem toInt_timerValue
    (d : BitVec 32) :
    (timerValue d).toInt = -10000 * d.toInt := by
  unfold timerValue
  rw [toInt_int32x32To64, Int.mul_comm]
  rfl

/- The timer's value, by the sign bit of the duration. -/
theorem toInt_timerValue_cond
    (d : BitVec 32) :
    (timerValue d).toInt =
      if d.toNat < 2 ^ 31 then -10000 * (d.toNat : Int)
      else 10000 * (2 ^ 32 - (d.toNat : Int)) := by
  rw [toInt_timerValue, BitVec.toInt_eq_toNat_cond]
  split <;> split <;> omega

/- The unsigned negation is right for every duration. -/
theorem toInt_timeout100Ns
    (d : BitVec 32) :
    (timeout100Ns d).toInt = -10000 * (d.toNat : Int) := by
  have hD := d.isLt
  have hNat :
      (uInt32x32To64 d 10000).toNat = d.toNat * 10000 :=
    toNat_uInt32x32To64 d 10000
  have hInt :
      (uInt32x32To64 d 10000).toInt = d.toNat * 10000 := by
    rw [BitVec.toInt_eq_toNat_of_lt (by omega), hNat]
    rfl
  have hMinus : (-1 : BitVec 64).toInt = -1 := by decide
  unfold timeout100Ns
  rw [BitVec.toInt_mul, hMinus, hInt,
    Int.bmod_eq_of_le_mul_two (by omega) (by omega)]
  omega

end KernelWait

end CxPlat

------------------------------------------------------------
-- The Kernel
------------------------------------------------------------

namespace CxPlat

namespace KernelWait

open KernelThread (Status statusSuccess)

/- `STATUS_TIMEOUT`. -/
def statusTimeout : Status := 0x102

/- What is waited for. -/
inductive Object where
  | sleepTimer
  | event
  | thread
deriving DecidableEq, Repr

/-
  The system time, the dates at which the objects become
  signaled, if ever, and the times handed over so far.
-/
structure Kernel where
  now : Nat
  timer : Option Nat
  eventSet : Option Nat
  threadEnd : Option Nat
  passed : List (BitVec 64)

inductive Fault where
  | assertFailed
  | endlessWait
deriving DecidableEq, Repr

def Kernel.signaledAt
    (k : Kernel) : Object → Option Nat
  | .sleepTimer => k.timer
  | .event => k.eventSet
  | .thread => k.threadEnd

/-
  The date a time stands for.  A date in the past is due at
  once.
-/
def dueDate
    (now : Nat)
    (time : BitVec 64) : Nat :=
  if time.toInt < 0 then now + (-time.toInt).toNat
  else max now time.toInt.toNat

def Kernel.pass
    (k : Kernel)
    (time : BitVec 64) : Kernel :=
  { k with passed := k.passed ++ [time] }

/- The clock is not turned back. -/
def Kernel.advance
    (k : Kernel)
    (date : Nat) : Kernel :=
  { k with now := max k.now date }

def keInitializeTimerEx : Comp Fault Kernel Unit :=
  modify (fun k => { k with timer := none })

def keSetTimer
    (dueTime : BitVec 64) : Comp Fault Kernel Unit :=
  modify (fun k =>
    { k.pass dueTime with
      timer := some (dueDate k.now dueTime) })

/- Without a time-out only the object ends the wait. -/
def keWaitForSingleObject
    (object : Object) :
    Option (BitVec 64) → Comp Fault Kernel Status
  | none => do
      let k ← get
      match k.signaledAt object with
      | none => throw .endlessWait
      | some date => do
          set (k.advance date)
          pure statusSuccess
  | some timeout => do
      let k ← get
      let limit := dueDate k.now timeout
      match (k.signaledAt object).filter (· ≤ limit) with
      | some date => do
          set ((k.pass timeout).advance date)
          pure statusSuccess
      | none => do
          set ((k.pass timeout).advance limit)
          pure statusTimeout

end KernelWait

end CxPlat

------------------------------------------------------------
-- Sleeping and Waiting
------------------------------------------------------------

namespace CxPlat

namespace KernelWait

open KernelThread (Status statusSuccess)

/- `CXPLAT_DBG_ASSERT`, which only debug builds check. -/
def dbgAssert
    (debug exp : Bool) : Comp Fault Kernel Unit :=
  if debug && !exp then throw .assertFailed else pure ()

/- `CxPlatSleep`. -/
def sleep
    (debug : Bool)
    (durationMs : BitVec 32) : Comp Fault Kernel Unit := do
  dbgAssert debug (durationMs ≠ 0xFFFFFFFF#32)
  keInitializeTimerEx
  keSetTimer (timerValue durationMs)
  let _ ← keWaitForSingleObject .sleepTimer none

/- The body that both waits have. -/
def waitWithTimeout
    (debug : Bool)
    (object : Object)
    (timeoutMs : BitVec 32) :
    Comp Fault Kernel Status := do
  dbgAssert debug (timeoutMs ≠ 0xFFFFFFFF#32)
  keWaitForSingleObject object (some (timeout100Ns timeoutMs))

/- `CxPlatInternalEventWaitWithTimeout`. -/
def internalEventWaitWithTimeout
    (debug : Bool)
    (timeoutMs : BitVec 32) : Comp Fault Kernel Status :=
  waitWithTimeout debug .event timeoutMs

/- `CxPlatInternalThreadWaitWithTimeout`. -/
def internalThreadWaitWithTimeout
    (debug : Bool)
    (timeoutMs : BitVec 32) : Comp Fault Kernel Status :=
  waitWithTimeout debug .thread timeoutMs

/- `CxPlatEventWaitWithTimeout`. -/
def eventWaitWithTimeout
    (debug : Bool)
    (timeoutMs : BitVec 32) : Comp Fault Kernel Bool := do
  let status ← internalEventWaitWithTimeout debug timeoutMs
  pure (statusSuccess = status)

/- `CxPlatThreadWaitWithTimeout`. -/
def threadWaitWithTimeout
    (debug : Bool)
    (timeoutMs : BitVec 32) : Comp Fault Kernel Bool := do
  let status ← internalThreadWaitWithTimeout debug timeoutMs
  pure (statusSuccess = status)

end KernelWait

end CxPlat

------------------------------------------------------------
-- What They Wait For
------------------------------------------------------------

namespace CxPlat

namespace KernelWait

open Comp
open KernelThread (Status statusSuccess)

variable {debug : Bool} {k : Kernel} {d : BitVec 32}

theorem dueDate_timeout100Ns
    (now : Nat)
    (d : BitVec 32) :
    dueDate now (timeout100Ns d) =
      now + 10000 * d.toNat := by
  unfold dueDate
  rw [toInt_timeout100Ns]
  split <;> omega

/- From `2 ^ 31` ms on the timer is set to an early date. -/
theorem dueDate_timerValue
    (now : Nat)
    (d : BitVec 32) :
    dueDate now (timerValue d) =
      if d.toNat < 2 ^ 31 then now + 10000 * d.toNat
      else max now (10000 * (2 ^ 32 - d.toNat)) := by
  have hD := d.isLt
  unfold dueDate
  rw [toInt_timerValue_cond]
  split <;> split <;> omega

/- A duration that the assertions let through. -/
def Allowed
    (debug : Bool)
    (d : BitVec 32) : Prop :=
  debug = true → d ≠ 0xFFFFFFFF#32

theorem returns_dbgAssert
    {Q : Unit → Kernel → Prop}
    (hAllowed : Allowed debug d) :
    Returns (dbgAssert debug (d ≠ 0xFFFFFFFF#32)) k Q ↔
      Q () k := by
  unfold dbgAssert
  cases debug with
  | false => simp
  | true =>
      have hNe := hAllowed rfl
      simp [hNe]

theorem le_dueDate
    (now : Nat)
    (time : BitVec 64) :
    now ≤ dueDate now time := by
  unfold dueDate
  split
  · exact Nat.le_add_right _ _
  · exact Nat.le_max_left _ _

/- A sleep ends when its timer is due. -/
theorem returns_sleep
    (hAllowed : Allowed debug d) :
    Returns (sleep debug d) k (fun _ t =>
      t.now = dueDate k.now (timerValue d) ∧
        t.passed = k.passed ++ [timerValue d]) := by
  unfold sleep keInitializeTimerEx keSetTimer
  rw [returns_bind, returns_dbgAssert hAllowed]
  unfold keWaitForSingleObject
  simp only [returns_bind, returns_modify, returns_get,
    Kernel.signaledAt, returns_set, returns_pure]
  exact ⟨Nat.max_eq_right (le_dueDate _ _), rfl⟩

/-
  A wait succeeds if the object is set at most the given
  number of milliseconds from now, and lasts no longer.
-/
theorem returns_waitWithTimeout
    (object : Object)
    (hAllowed : Allowed debug d) :
    Returns (waitWithTimeout debug object d) k
      (fun status t =>
        (status = statusSuccess ↔
          ∃ date, k.signaledAt object = some date ∧
            date ≤ k.now + 10000 * d.toNat) ∧
        t.now ≤ k.now + 10000 * d.toNat ∧
        t.passed = k.passed ++ [timeout100Ns d]) := by
  have hDiffer : statusTimeout ≠ statusSuccess := by decide
  unfold waitWithTimeout keWaitForSingleObject
  rw [returns_bind, returns_dbgAssert hAllowed, returns_bind,
    returns_get, dueDate_timeout100Ns]
  cases hDate : k.signaledAt object with
  | none =>
      simp only [Option.filter_none, returns_bind,
        returns_set, returns_pure]
      refine ⟨by simp [hDiffer], ?_, rfl⟩
      exact Nat.max_le.mpr
        ⟨Nat.le_add_right _ _, Nat.le_refl _⟩
  | some date =>
      by_cases hInTime : date ≤ k.now + 10000 * d.toNat
      · simp only [Option.filter_some, hInTime, decide_true,
          if_true, returns_bind, returns_set, returns_pure]
        refine ⟨by simp [hInTime], ?_, rfl⟩
        exact Nat.max_le.mpr
          ⟨Nat.le_add_right _ _, hInTime⟩
      · simp only [Option.filter_some, hInTime, decide_false,
          Bool.false_eq_true, if_false, returns_bind,
          returns_set, returns_pure]
        refine ⟨by simp [hDiffer, hInTime], ?_, rfl⟩
        exact Nat.max_le.mpr
          ⟨Nat.le_add_right _ _, Nat.le_refl _⟩

/- Comparing the status tells whether it was in time. -/
theorem returns_waitSucceeded
    (object : Object)
    (hAllowed : Allowed debug d) :
    Returns
      (do
        let status ← waitWithTimeout debug object d
        pure (decide (statusSuccess = status))) k
      (fun ok _ =>
        ok = true ↔
          ∃ date, k.signaledAt object = some date ∧
            date ≤ k.now + 10000 * d.toNat) := by
  refine (returns_waitWithTimeout object hAllowed).bind ?_
  rintro status t ⟨hStatus, _, _⟩
  rw [returns_pure, decide_eq_true_iff, eq_comm]
  exact hStatus

theorem returns_eventWaitWithTimeout
    (hAllowed : Allowed debug d) :
    Returns (eventWaitWithTimeout debug d) k (fun ok _ =>
      ok = true ↔
        ∃ date, k.eventSet = some date ∧
          date ≤ k.now + 10000 * d.toNat) :=
  returns_waitSucceeded .event hAllowed

theorem returns_threadWaitWithTimeout
    (hAllowed : Allowed debug d) :
    Returns (threadWaitWithTimeout debug d) k (fun ok _ =>
      ok = true ↔
        ∃ date, k.threadEnd = some date ∧
          date ≤ k.now + 10000 * d.toNat) :=
  returns_waitSucceeded .thread hAllowed

end KernelWait

end CxPlat

------------------------------------------------------------
-- All Three Together
------------------------------------------------------------

namespace CxPlat

namespace KernelWait

open Comp

/- The functions that hand a relative time to the kernel. -/
inductive Wait where
  | sleep
  | event
  | thread
deriving DecidableEq, Repr

def Wait.call
    (debug : Bool)
    (d : BitVec 32) : Wait → Comp Fault Kernel Unit
  | .sleep => KernelWait.sleep debug d
  | .event => do
      let _ ← internalEventWaitWithTimeout debug d
  | .thread => do
      let _ ← internalThreadWaitWithTimeout debug d

/- The function returns and hands over one time. -/
def Wait.Passes
    (w : Wait)
    (debug : Bool)
    (d : BitVec 32)
    (k : Kernel)
    (time : BitVec 64) : Prop :=
  Returns (w.call debug d) k (fun _ t =>
    t.passed = k.passed ++ [time])

/- The time each function hands over. -/
def Wait.time
    (d : BitVec 32) : Wait → BitVec 64
  | .sleep => timerValue d
  | .event => timeout100Ns d
  | .thread => timeout100Ns d

variable {debug : Bool} {k : Kernel} {d : BitVec 32}

theorem returns_waitPasses
    (object : Object)
    (hAllowed : Allowed debug d) :
    Returns
      (do
        let _ ← waitWithTimeout debug object d) k
      (fun _ t =>
        t.passed = k.passed ++ [timeout100Ns d]) := by
  refine (returns_waitWithTimeout object hAllowed).bind ?_
  rintro status t ⟨_, _, hPassed⟩
  exact (returns_pure _ _ _).mpr hPassed

theorem Wait.passes_time
    (w : Wait)
    (hAllowed : Allowed debug d) :
    w.Passes debug d k (w.time d) := by
  cases w with
  | sleep =>
      refine (returns_sleep hAllowed).mono ?_
      intro _ t hSlept
      exact hSlept.2
  | event => exact returns_waitPasses .event hAllowed
  | thread => exact returns_waitPasses .thread hAllowed

/- And it hands over no other. -/
theorem Wait.passes_iff
    (w : Wait)
    {time : BitVec 64}
    (hAllowed : Allowed debug d) :
    w.Passes debug d k time ↔ time = w.time d := by
  have hPasses : w.Passes debug d k (w.time d) :=
    w.passes_time hAllowed
  constructor
  · intro hOther
    rcases hPasses with ⟨a, t, hExec, hTime⟩
    have hSame := hOther.post hExec
    rw [hTime] at hSame
    simpa using hSame.symm
  · intro hTime
    rw [hTime]
    exact hPasses

/- Which function gets a duration right. -/
theorem Wait.toInt_time_eq_iff
    (w : Wait)
    (d : BitVec 32) :
    (w.time d).toInt = -10000 * (d.toNat : Int) ↔
      (w = .sleep → d.toNat < 2 ^ 31) := by
  have hD := d.isLt
  cases w with
  | sleep =>
      simp only [Wait.time, forall_true_left]
      rw [toInt_timerValue_cond]
      split <;> omega
  | event => simp [Wait.time, toInt_timeout100Ns]
  | thread => simp [Wait.time, toInt_timeout100Ns]

/-
  The three functions encode relative times alike, never as
  a date, and longer ones as longer ones, exactly for the
  durations below `2 ^ 31` ms.
-/
theorem timeouts_encoded_iff
    (debug : Bool)
    (k : Kernel)
    (shorter longer : BitVec 32)
    (hLonger : shorter ≤ longer)
    (hExcluded : longer ≠ 0xFFFFFFFF#32) :
    (∀ w : Wait, ∃ time time' : BitVec 64,
      w.Passes debug shorter k time ∧
        w.Passes debug longer k time' ∧
        time.toInt = -10000 * (shorter.toNat : Int) ∧
        time'.toInt = -10000 * (longer.toNat : Int) ∧
        time.toInt ≤ 0 ∧
        time'.toInt ≤ 0 ∧
        -time.toInt ≤ -time'.toInt) ↔
      longer.toNat < 2 ^ 31 := by
  have hLe : shorter.toNat ≤ longer.toNat :=
    BitVec.le_def.mp hLonger
  have hBelow : longer.toNat < 0xFFFFFFFF := by
    bv_omega
  have hShorter : Allowed debug shorter := by
    intro _ hEq
    subst hEq
    exact absurd hLe (by simpa using hBelow)
  have hLonger : Allowed debug longer := fun _ => hExcluded
  constructor
  · intro hAll
    rcases hAll .sleep with
      ⟨_, time, _, hPasses, _, hTime, _⟩
    rw [Wait.passes_iff .sleep hLonger] at hPasses
    subst hPasses
    exact (Wait.toInt_time_eq_iff .sleep longer).mp hTime rfl
  · intro hRange w
    have hTime :=
      (w.toInt_time_eq_iff shorter).mpr (fun _ => by omega)
    have hTime' :=
      (w.toInt_time_eq_iff longer).mpr (fun _ => hRange)
    refine ⟨w.time shorter, w.time longer,
      (w.passes_iff hShorter).mpr rfl,
      (w.passes_iff hLonger).mpr rfl, hTime, hTime', ?_⟩
    omega

/- A day and the longest sleep that is encoded. -/
theorem timeouts_encoded_oneDay :
    86400000#32 ≤ 2147483647#32 ∧
      2147483647#32 ≠ 0xFFFFFFFF#32 ∧
      ∀ w : Wait, ∃ time time' : BitVec 64,
        w.Passes true 86400000#32
            ⟨0, none, none, none, []⟩ time ∧
          w.Passes true 2147483647#32
            ⟨0, none, none, none, []⟩ time' ∧
          time.toInt = -10000 * ((86400000#32).toNat : Int) ∧
          time'.toInt =
            -10000 * ((2147483647#32).toNat : Int) ∧
          time.toInt ≤ 0 ∧
          time'.toInt ≤ 0 ∧
          -time.toInt ≤ -time'.toInt := by
  refine ⟨by decide, by decide, ?_⟩
  exact (timeouts_encoded_iff true
    ⟨0, none, none, none, []⟩ 86400000#32 2147483647#32
    (by decide) (by decide)).mpr (by decide)

/-
  A sleep of `2 ^ 31` ms, which is less than 25 days.  The
  timer is set to a date in January 1601, which is shorter
  than a sleep of one millisecond, while the waits get the
  same duration right.
-/
theorem sleep24Days_expires :
    Wait.sleep.Passes true 0x80000000#32
        ⟨133000000000000000, none, none, none, []⟩
        21474836480000#64 ∧
      (21474836480000#64).toInt = 21474836480000 ∧
      (21474836480000#64).toInt ≠
        -10000 * ((0x80000000#32).toNat : Int) ∧
      ¬ (21474836480000#64).toInt ≤ 0 ∧
      ¬ -(timerValue 1#32).toInt ≤
        -(21474836480000#64).toInt ∧
      Returns (sleep true 0x80000000#32)
        ⟨133000000000000000, none, none, none, []⟩
        (fun _ t => t.now = 133000000000000000) ∧
      Wait.event.Passes true 0x80000000#32
        ⟨133000000000000000, none, none, none, []⟩
        (-21474836480000#64) := by
  have hAllowed : Allowed true 0x80000000#32 :=
    fun _ => by decide
  refine ⟨?_, by decide, by decide, by decide, by decide,
    ?_, ?_⟩
  · exact (Wait.passes_iff .sleep hAllowed).mpr (by decide)
  · refine (returns_sleep hAllowed).mono ?_
    rintro _ t ⟨hNow, _⟩
    rw [hNow]
    decide
  · exact (Wait.passes_iff .event hAllowed).mpr (by decide)

end KernelWait

end CxPlat
