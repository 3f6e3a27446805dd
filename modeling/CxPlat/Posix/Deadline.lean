import CxPlat.Lib.Comp
import CxPlat.Lib.Integers
import CxPlat.Posix.Clock

/-
  The deadline of a timed wait on POSIX platforms, from
  `cxplat_posix.c` and `cxplat_posix.h`, for `time_t` and
  `long` of 32 and of 64 bits.

  `CxPlatGetAbsoluteTime` reads the clock and adds a number
  of milliseconds, with at most one carry from the
  nanoseconds to the seconds.  All its arithmetic is done on
  the integer types of C, so that a run also tells whether a
  step has wrapped.

  Key definitions include:
    * `Build`, `Waiter`, `Run`
    * `addDelta`, `carry`, `getAbsoluteTime`
    * `eventWaitWithTimeout`
    * `sleepTime`
    * `Usable`

  Key theorems include:
    * `yields_addDelta`, `yields_carry`
    * `returns_getAbsoluteTime`
    * `returns_eventWaitWithTimeout`
    * `deadline_exact`
-/

------------------------------------------------------------
-- Types and Constants
------------------------------------------------------------

namespace CxPlat

namespace PosixDeadline

open Integers
open PosixClock (Width Types Timespec)

def integer
    (w : Width)
    (signed : Bool) : IntType where
  bits := w.bits
  signed := signed
  wide := by
    cases w with
    | bits32 => decide
    | bits64 => decide

def int : IntType :=
  integer .bits32 true

def uint32 : IntType :=
  integer .bits32 false

def timeT
    (types : Types) : IntType :=
  integer types.timeT true

def long
    (types : Types) : IntType :=
  integer types.long true

def unsignedLong
    (types : Types) : IntType :=
  integer types.long false

/- `CXPLAT_MS_PER_SECOND`. -/
def msPerSecond : Calc Number :=
  num int 1000

/- `CXPLAT_NANOSEC_PER_MS`. -/
def nanosecPerMs : Calc Number :=
  num int 1000000

/- `CXPLAT_NANOSEC_PER_SEC`. -/
def nanosecPerSec : Calc Number :=
  num int 1000000000

end PosixDeadline

end CxPlat

------------------------------------------------------------
-- The Deadline
------------------------------------------------------------

namespace CxPlat

namespace PosixDeadline

open Integers
open PosixClock (Width Types Timespec)

/- The compiler flags and the platform's types. -/
structure Build where
  debug : Bool
  linux : Bool
  types : Types

inductive Fault where
  | assertFailed
  | endlessLoop
deriving DecidableEq, Repr

/-
  Whether all arithmetic so far was exact, and the times
  `pthread_cond_timedwait` has been called with.
-/
structure Run where
  isExact : Bool := true
  waits : List Timespec := []

/- `CXPLAT_DBG_ASSERT`. -/
def dbgAssert
    (b : Build)
    (exp : Bool) : Comp Fault Run Unit :=
  if b.debug && !exp then throw .assertFailed else pure ()

/- Do a calculation and keep the record. -/
def calculate
    {α : Type}
    (c : Calc α) : Comp Fault Run α := do
  modify (fun r =>
    { r with isExact := r.isExact && c.isExact })
  pure c.value

/-
  In `CxPlatGetAbsoluteTime`: add whole seconds to the
  seconds and the rest to the nanoseconds.
-/
def addDelta
    (types : Types)
    (time : Timespec)
    (deltaMs : Nat) : Calc (Number × Number) := do
  let delta ← num (unsignedLong types) deltaMs
  let sec ← num (timeT types) time.tvSec
  let seconds ← binary Int.tdiv delta (← msPerSecond)
  let sum ← binary (· + ·) sec seconds
  let sec ← assign (timeT types) sum
  let nsec ← num (long types) time.tvNsec
  let rest ← binary Int.tmod delta (← msPerSecond)
  let nanos ← binary (· * ·) rest (← nanosecPerMs)
  let sum ← binary (· + ·) nsec nanos
  let nsec ← assign (long types) sum
  pure (sec, nsec)

/- In `CxPlatGetAbsoluteTime`: carry one second. -/
def carry
    (types : Types)
    (sec nsec : Number) : Calc (Number × Number) := do
  if ← atLeast nsec (← nanosecPerSec) then
    let sum ← binary (· + ·) sec (← num int 1)
    let sec ← assign (timeT types) sum
    let rest ← binary (· - ·) nsec (← nanosecPerSec)
    let nsec ← assign (long types) rest
    pure (sec, nsec)
  else
    pure (sec, nsec)

/-
  `CxPlatGetAbsoluteTime`, given what the clock says.  The
  time is zero before, and stays so if the clock cannot be
  read.  Only on Linux is there an error code to look at.
-/
def getAbsoluteTime
    (b : Build)
    (clock : Option Timespec)
    (deltaMs : Nat) : Comp Fault Run Timespec := do
  let time := clock.getD ⟨0, 0⟩
  dbgAssert b (!b.linux || clock.isSome)
  let (sec, nsec) ←
    calculate (addDelta b.types time deltaMs)
  let (sec, nsec) ← calculate (carry b.types sec nsec)
  dbgAssert b (sec.value ≥ 0)
  dbgAssert b (nsec.value ≥ 0)
  dbgAssert b (nsec.value < 1000000000)
  pure ⟨sec.value, nsec.value⟩

/- The `struct timespec` in `CxPlatSleep`. -/
def sleepTime
    (types : Types)
    (durationMs : BitVec 32) : Calc (Number × Number) := do
  let duration ← num uint32 durationMs.toNat
  let seconds ← binary Int.tdiv duration (← msPerSecond)
  let sec ← assign (timeT types) seconds
  let rest ← binary Int.tmod duration (← msPerSecond)
  let nanos ← binary (· * ·) (← nanosecPerMs) rest
  let nsec ← assign (long types) nanos
  pure (sec, nsec)

end PosixDeadline

end CxPlat

------------------------------------------------------------
-- The Timed Wait
------------------------------------------------------------

namespace CxPlat

namespace PosixDeadline

open PosixClock (Timespec)

/- A time that the waiting functions accept. -/
def Usable
    (time : Timespec) : Prop :=
  0 ≤ time.tvSec ∧ 0 ≤ time.tvNsec ∧
    time.tvNsec < 1000000000

instance
    (time : Timespec) :
    Decidable (Usable time) := by
  unfold Usable
  infer_instance

/-
  What a thread that waits for an event gets to see: the
  clock, `Signaled` at each test, and whether the time was up
  each time it came back from `pthread_cond_timedwait`.
-/
structure Waiter where
  clock : Option Timespec
  signaled : Nat → Bool
  expired : Nat → Bool

inductive Errno where
  | success
  | etimedout
  | einval
deriving DecidableEq, Repr

/- `pthread_cond_timedwait`, the call number `n`. -/
def condTimedwait
    (e : Waiter)
    (n : Nat)
    (ts : Timespec) : Comp Fault Run Errno := do
  modify (fun r => { r with waits := r.waits ++ [ts] })
  if ¬ Usable ts then
    pure .einval
  else if e.expired n then
    pure .etimedout
  else
    pure .success

/-
  In `CxPlatInternalEventWaitWithTimeout`: one round of the
  loop.  An invalid time is only noticed by the assertion.
-/
def waitRound
    (b : Build)
    (e : Waiter)
    (ts : Timespec)
    (n : Nat) : Comp Fault Run (Option Bool) := do
  let result ← condTimedwait e n ts
  if result = .etimedout then
    pure (some false)
  else do
    dbgAssert b (result = .success)
    pure none

/- `CxPlatInternalEventWaitWithTimeout`. -/
def eventWaitWithTimeout
    (b : Build)
    (e : Waiter)
    (timeoutMs : BitVec 32)
    (rounds : Nat) : Comp Fault Run Bool := do
  dbgAssert b (timeoutMs ≠ 0xFFFFFFFF#32)
  let ts ← getAbsoluteTime b e.clock timeoutMs.toNat
  let exit ← Comp.searchLoop .endlessLoop
    (fun n => !e.signaled n)
    (fun n => n + 1)
    (waitRound b e ts)
    rounds 0
  match exit with
  | some waitSatisfied => pure waitSatisfied
  | none => pure true

end PosixDeadline

end CxPlat

------------------------------------------------------------
-- Exactness
------------------------------------------------------------

namespace CxPlat

namespace PosixDeadline

open Integers
open PosixClock (Width Types Timespec)

variable {types : Types}

/- Small numbers are values of all types. -/
theorem yields_int
    {z : Int}
    (hLow : 0 ≤ z)
    (hHigh : z < 2 ^ 31) :
    (num int z).Yields (fun x => x.Is int z) :=
  yields_num (int.holds_of_lt hLow hHigh)

/- Whole seconds of a number of milliseconds. -/
theorem yields_seconds
    {s : IntType}
    {delta thousand : Number}
    {d : Nat}
    (hDelta : delta.Is s d)
    (hThousand : thousand.Is int 1000)
    (hSmall : d < 2 ^ 32) :
    (binary Int.tdiv delta thousand).Yields (fun r =>
      r.Is (common s int) (d / 1000 : Nat)) := by
  have hValue : Int.tdiv d 1000 = (d / 1000 : Nat) := by
    rw [Int.tdiv_eq_ediv_of_nonneg (Int.natCast_nonneg d)]
    rfl
  rw [← hValue]
  apply yields_binary hDelta hThousand (by omega) (by omega)
  rw [hValue]
  exact IntType.holds_of_lt _ (by omega) (by omega)

/- The rest, below one second. -/
theorem yields_rest
    {s : IntType}
    {delta thousand : Number}
    {d : Nat}
    (hDelta : delta.Is s d)
    (hThousand : thousand.Is int 1000) :
    (binary Int.tmod delta thousand).Yields (fun r =>
      r.Is (common s int) (d % 1000 : Nat)) := by
  have hValue : Int.tmod d 1000 = (d % 1000 : Nat) := by
    rw [Int.tmod_eq_emod_of_nonneg (Int.natCast_nonneg d)]
    rfl
  rw [← hValue]
  apply yields_binary hDelta hThousand (by omega) (by omega)
  rw [hValue]
  exact IntType.holds_of_lt _ (by omega) (by omega)

theorem yields_addDelta
    {time : Timespec}
    {d : Nat}
    (hSmall : d < 2 ^ 32)
    (hSec : 0 ≤ time.tvSec)
    (hNsec : 0 ≤ time.tvNsec ∧ time.tvNsec < 1000000000)
    (hFits :
      (timeT types).Holds
        (time.tvSec + (d / 1000 : Nat) + 1)) :
    (addDelta types time d).Yields (fun r =>
      r.1.Is (timeT types) (time.tvSec + (d / 1000 : Nat)) ∧
      r.2.Is (long types)
        (time.tvNsec + (d % 1000 : Nat) * 1000000)) := by
  have hDelta :
      (num (unsignedLong types) d).Yields
        (fun x => x.Is (unsignedLong types) d) :=
    yields_num (IntType.holds_of_lt_unsigned rfl
      (by omega) (by omega))
  have hSum := hFits.smaller
    (y := time.tvSec + (d / 1000 : Nat))
    (by omega) (by omega)
  unfold addDelta msPerSecond nanosecPerMs
  refine hDelta.bind ?_
  intro delta hDelta
  refine (yields_num (hSum.smaller hSec (by omega))).bind ?_
  intro sec hIsSec
  refine (yields_int (by decide) (by decide)).bind ?_
  intro thousand hThousand
  refine (yields_seconds hDelta hThousand hSmall).bind ?_
  intro seconds hSeconds
  refine (yields_binary hIsSec hSeconds hSec (by omega)
    (hSum.common_left (by omega) _)).bind ?_
  intro sum hIsSum
  refine (yields_assign hIsSum hSum).bind ?_
  intro sec' hSec'
  -- The nanoseconds stay below two seconds.
  refine (yields_num (IntType.holds_of_lt _ hNsec.1
    (by omega))).bind ?_
  intro nsec hIsNsec
  refine (yields_int (by decide) (by decide)).bind ?_
  intro thousand' hThousand'
  refine (yields_rest hDelta hThousand').bind ?_
  intro rest hRest
  refine (yields_int (by decide) (by decide)).bind ?_
  intro million hMillion
  refine (yields_binary hRest hMillion (by omega) (by omega)
    (IntType.holds_of_lt _ (by omega) (by omega))).bind ?_
  intro nanos hNanos
  refine (yields_binary hIsNsec hNanos hNsec.1 (by omega)
    (IntType.holds_of_lt _ (by omega) (by omega))).bind ?_
  intro total hTotal
  refine (yields_assign hTotal
    (IntType.holds_of_lt _ (by omega) (by omega))).bind ?_
  intro nsec' hNsec'
  exact Calc.yields_pure ⟨hSec', hNsec'⟩

/- One carry is enough, and nothing is lost by it. -/
theorem yields_carry
    {sec nsec : Number}
    {s n : Int}
    (hSec : sec.Is (timeT types) s)
    (hNsec : nsec.Is (long types) n)
    (hS : 0 ≤ s)
    (hFits : (timeT types).Holds (s + 1))
    (hN : 0 ≤ n ∧ n < 2000000000) :
    (carry types sec nsec).Yields (fun r =>
      Usable ⟨r.1.value, r.2.value⟩ ∧
      r.1.value * 1000000000 + r.2.value =
        s * 1000000000 + n) := by
  unfold carry nanosecPerSec
  refine (yields_int (by decide) (by decide)).bind ?_
  intro billion hBillion
  refine (yields_atLeast hNsec hBillion hN.1
    (by omega)).bind ?_
  intro carries hCarries
  subst hCarries
  split
  next hCarry =>
    rw [decide_eq_true_iff] at hCarry
    refine (yields_int (by decide) (by decide)).bind ?_
    intro one hOne
    refine (yields_binary hSec hOne hS (by omega)
      (hFits.common_left (by omega) _)).bind ?_
    intro sum hSum
    refine (yields_assign hSum hFits).bind ?_
    intro sec' hSec'
    refine (yields_int (by decide) (by decide)).bind ?_
    intro billion' hBillion'
    refine (yields_binary hNsec hBillion' hN.1 (by omega)
      (IntType.holds_of_lt _ (by omega) (by omega))).bind ?_
    intro rest hRest
    refine (yields_assign hRest
      (IntType.holds_of_lt _ (by omega) (by omega))).bind ?_
    intro nsec' hNsec'
    apply Calc.yields_pure
    dsimp only [Usable]
    rw [hSec'.value_eq, hNsec'.value_eq]
    omega
  next hNot =>
    rw [decide_eq_true_iff] at hNot
    apply Calc.yields_pure
    dsimp only [Usable]
    rw [hSec.value_eq, hNsec.value_eq]
    omega

/- `CxPlatSleep` asks for exactly the duration it is given. -/
theorem yields_sleepTime
    (types : Types)
    (d : BitVec 32) :
    (sleepTime types d).Yields (fun r =>
      Usable ⟨r.1.value, r.2.value⟩ ∧
      r.1.value * 1000000000 + r.2.value =
        1000000 * (d.toNat : Int)) := by
  have hSmall := d.isLt
  have hDuration :
      (num uint32 d.toNat).Yields
        (fun x => x.Is uint32 d.toNat) :=
    yields_num (IntType.holds_of_lt_unsigned rfl
      (by omega) (by omega))
  unfold sleepTime msPerSecond nanosecPerMs
  refine hDuration.bind ?_
  intro duration hDuration
  refine (yields_int (by decide) (by decide)).bind ?_
  intro thousand hThousand
  refine (yields_seconds hDuration hThousand hSmall).bind ?_
  intro seconds hSeconds
  refine (yields_assign hSeconds
    (IntType.holds_of_lt _ (by omega) (by omega))).bind ?_
  intro sec hSec
  refine (yields_int (by decide) (by decide)).bind ?_
  intro thousand' hThousand'
  refine (yields_rest hDuration hThousand').bind ?_
  intro rest hRest
  refine (yields_int (by decide) (by decide)).bind ?_
  intro million hMillion
  refine (yields_binary hMillion hRest (by omega) (by omega)
    (IntType.holds_of_lt _ (by omega) (by omega))).bind ?_
  intro nanos hNanos
  refine (yields_assign hNanos
    (IntType.holds_of_lt _ (by omega) (by omega))).bind ?_
  intro nsec hNsec
  apply Calc.yields_pure
  dsimp only [Usable]
  rw [hSec.value_eq, hNsec.value_eq]
  omega

end PosixDeadline

end CxPlat

------------------------------------------------------------
-- Deadlines and Waits
------------------------------------------------------------

namespace CxPlat

namespace PosixDeadline

open Comp
open Integers
open PosixClock (Width Types Timespec)

/- The nanoseconds that a time stands for. -/
def nanoseconds
    (time : Timespec) : Int :=
  time.tvSec * 1000000000 + time.tvNsec

/- The microseconds are those of the nanoseconds. -/
theorem us_eq_nanoseconds
    (time : Timespec) :
    time.us = nanoseconds time / 1000 := by
  unfold Timespec.us nanoseconds
  omega

/- The wait ends in round `n`, and not before. -/
structure Waiter.EndsAt
    (e : Waiter)
    (n : Nat) : Prop where
  before :
    ∀ m, m < n → e.signaled m = false ∧ e.expired m = false
  ends : e.signaled n = true ∨ e.expired n = true

variable {b : Build} {r : Run}

theorem returns_dbgAssert
    {exp : Bool}
    {Q : Unit → Run → Prop}
    (hHolds : exp = true) :
    Returns (dbgAssert b exp) r Q ↔ Q () r := by
  unfold dbgAssert
  simp [hHolds]

/- An exact calculation leaves the record as it is. -/
theorem returns_calculate
    {α : Type}
    {c : Calc α}
    {Q : α → Prop}
    (hYields : c.Yields Q) :
    Returns (calculate c) r (fun a r' => Q a ∧ r' = r) := by
  unfold calculate
  simp only [returns_bind, returns_modify, returns_pure,
    hYields.isExact, Bool.and_true]
  exact ⟨hYields.post, trivial⟩

theorem returns_getAbsoluteTime
    {reading : Timespec}
    {d : Nat}
    (hSmall : d < 2 ^ 32)
    (hSec : 0 ≤ reading.tvSec)
    (hNsec :
      0 ≤ reading.tvNsec ∧ reading.tvNsec < 1000000000)
    (hFits :
      (timeT b.types).Holds
        (reading.tvSec + (d / 1000 : Nat) + 1)) :
    Returns (getAbsoluteTime b (some reading) d) r
      (fun time r' =>
        r' = r ∧ Usable time ∧
        nanoseconds time =
          nanoseconds reading + 1000000 * (d : Int)) := by
  have hAdd := yields_addDelta hSmall hSec hNsec hFits
  unfold getAbsoluteTime
  rw [returns_bind, returns_dbgAssert (by simp)]
  refine (returns_calculate hAdd).bind ?_
  rintro ⟨sec, nsec⟩ r' ⟨⟨hIsSec, hIsNsec⟩, hRun⟩
  subst hRun
  have hCarry := yields_carry hIsSec hIsNsec (by omega)
    hFits (by omega)
  refine (returns_calculate hCarry).bind ?_
  rintro ⟨sec', nsec'⟩ r'' ⟨⟨hUsable, hSame⟩, hRun⟩
  subst hRun
  dsimp only at hUsable hSame ⊢
  have hAsserts := hUsable
  unfold Usable at hAsserts
  rw [returns_bind,
    returns_dbgAssert (decide_eq_true hAsserts.1),
    returns_bind,
    returns_dbgAssert (decide_eq_true hAsserts.2.1),
    returns_bind,
    returns_dbgAssert (decide_eq_true hAsserts.2.2),
    returns_pure]
  refine ⟨rfl, hUsable, ?_⟩
  dsimp only [nanoseconds]
  omega

/- All is well in a run so far. -/
structure Run.Sound
    (r : Run) : Prop where
  isExact : r.isExact = true
  usable : ∀ ts ∈ r.waits, Usable ts

theorem Run.Sound.wait
    {ts : Timespec}
    (hSound : r.Sound)
    (hUsable : Usable ts) :
    Run.Sound { r with waits := r.waits ++ [ts] } where
  isExact := hSound.isExact
  usable := by
    intro ts' hMem
    rcases List.mem_append.mp hMem with hOld | hNew
    · exact hSound.usable ts' hOld
    · rw [List.mem_singleton.mp hNew]
      exact hUsable

/- A round leaves the loop only when the time is up. -/
theorem returns_waitRound
    {e : Waiter}
    {n : Nat}
    {ts : Timespec}
    (hUsable : Usable ts)
    (hSound : r.Sound) :
    Returns (waitRound b e ts n) r (fun exit u =>
      exit = (if e.expired n then some false else none) ∧
        u.Sound) := by
  have hAfter := hSound.wait hUsable
  unfold waitRound condTimedwait
  rw [if_neg (not_not_intro hUsable), returns_bind,
    returns_bind, returns_modify]
  cases e.expired n with
  | true =>
      simp only [if_true, returns_pure]
      exact ⟨trivial, hAfter⟩
  | false =>
      simp only [Bool.false_eq_true, if_false, returns_pure,
        reduceCtorEq]
      rw [returns_bind, returns_dbgAssert (by decide),
        returns_pure]
      exact ⟨rfl, hAfter⟩

/- The loop ends in the round in which the wait does. -/
theorem returns_waitLoop
    {e : Waiter}
    {ts : Timespec}
    {n rounds : Nat}
    (hUsable : Usable ts)
    (hEnds : e.EndsAt n)
    (hRounds : n < rounds)
    (hSound : r.Sound) :
    Returns
      (searchLoop .endlessLoop (fun n => !e.signaled n)
        (fun n => n + 1) (waitRound b e ts) rounds 0) r
      (fun exit u =>
        exit = (if e.signaled n then none
          else some false) ∧ u.Sound) := by
  refine returns_searchLoop
    (fun i u => i ≤ n ∧ u.Sound)
    (fun i => n + 1 - i) ?_ ?_ (by omega)
    ⟨Nat.zero_le n, hSound⟩
  · rintro i u ⟨hLe, hSoFar⟩ hCond
    have hUnset : e.signaled i = false := by
      simpa using hCond
    refine ⟨by omega, ?_⟩
    refine (returns_waitRound hUsable hSoFar).mono ?_
    rintro exit w ⟨hExit, hAfter⟩
    by_cases hLast : i = n
    · subst hLast
      have hExpired : e.expired i = true := by
        rcases hEnds.ends with hSet | hExpired
        · rw [hUnset] at hSet
          cases hSet
        · exact hExpired
      rw [hExpired] at hExit
      rw [hUnset, hExit]
      refine ⟨?_, fun _ => ⟨rfl, hAfter⟩⟩
      intro hNone
      cases hNone
    · have hEarly := (hEnds.before i (by omega)).2
      rw [hEarly] at hExit
      refine ⟨fun _ => ⟨by omega, hAfter⟩, ?_⟩
      intro hSome
      exact absurd hExit hSome
  · rintro i u ⟨hLe, hSoFar⟩ hCond
    have hSet : e.signaled i = true := by
      simpa using hCond
    have hLast : i = n := by
      by_contra hNe
      have hEarly := (hEnds.before i (by omega)).1
      rw [hSet] at hEarly
      cases hEarly
    subst hLast
    rw [hSet]
    exact ⟨rfl, hSoFar⟩

/-
  With a reading to start from, the wait returns in the round
  in which the event is set or the time is up, and tells
  which of the two it was.
-/
theorem returns_eventWaitWithTimeout
    {e : Waiter}
    {reading : Timespec}
    {timeoutMs : BitVec 32}
    {n rounds : Nat}
    (hClock : e.clock = some reading)
    (hSec : 0 ≤ reading.tvSec)
    (hNsec :
      0 ≤ reading.tvNsec ∧ reading.tvNsec < 1000000000)
    (hFits :
      (timeT b.types).Holds
        (reading.tvSec + (timeoutMs.toNat / 1000 : Nat) + 1))
    (hAllowed : b.debug = true → timeoutMs ≠ 0xFFFFFFFF#32)
    (hEnds : e.EndsAt n)
    (hRounds : n < rounds)
    (hSound : r.Sound) :
    Returns (eventWaitWithTimeout b e timeoutMs rounds) r
      (fun waitSatisfied u =>
        waitSatisfied = e.signaled n ∧ u.Sound) := by
  have hAssert :
      Returns (dbgAssert b (timeoutMs ≠ 0xFFFFFFFF#32)) r
        (fun _ u => u = r) := by
    cases hDebug : b.debug with
    | true =>
        rw [returns_dbgAssert
          (decide_eq_true (hAllowed hDebug))]
    | false => simp [dbgAssert, hDebug]
  unfold eventWaitWithTimeout
  refine hAssert.bind ?_
  rintro _ u hRun
  subst hRun
  rw [hClock]
  refine (returns_getAbsoluteTime timeoutMs.isLt hSec hNsec
    hFits).bind ?_
  rintro ts u ⟨hRun, hUsable, _⟩
  subst hRun
  refine (returns_waitLoop hUsable hEnds hRounds
    hSound).bind ?_
  rintro exit w ⟨hExit, hAfter⟩
  subst hExit
  cases e.signaled n with
  | true => exact (returns_pure _ _ _).mpr ⟨rfl, hAfter⟩
  | false => exact (returns_pure _ _ _).mpr ⟨rfl, hAfter⟩

/-
  The deadline is computed without a step that wraps, is a
  time that can be waited for, and lies exactly the given
  number of milliseconds after the reading.
-/
theorem deadline_exact
    (b : Build)
    (reading : Timespec)
    (deltaMs : BitVec 32)
    (hSec : 0 ≤ reading.tvSec)
    (hNsec :
      0 ≤ reading.tvNsec ∧ reading.tvNsec < 1000000000)
    (hFits :
      (timeT b.types).Holds
        (reading.tvSec + (deltaMs.toNat / 1000 : Nat) + 1)) :
    Returns
        (getAbsoluteTime b (some reading) deltaMs.toNat) {}
        (fun time r =>
          r.isExact = true ∧
          0 ≤ time.tvNsec ∧
          time.tvNsec < 1000000000 ∧
          0 ≤ time.tvSec ∧
          nanoseconds time =
            nanoseconds reading +
              1000000 * (deltaMs.toNat : Int) ∧
          time.us =
            reading.us + 1000 * (deltaMs.toNat : Int)) ∧
      ∀ (e : Waiter) (n rounds : Nat),
        e.clock = some reading →
        (b.debug = true → deltaMs ≠ 0xFFFFFFFF#32) →
        e.EndsAt n →
        n < rounds →
        Returns (eventWaitWithTimeout b e deltaMs rounds) {}
          (fun waitSatisfied r =>
            waitSatisfied = e.signaled n ∧
            r.isExact = true ∧
            ∀ ts ∈ r.waits, Usable ts) := by
  constructor
  · refine (returns_getAbsoluteTime deltaMs.isLt hSec hNsec
      hFits).mono ?_
    rintro time r ⟨hRun, hUsable, hLater⟩
    subst hRun
    refine ⟨rfl, hUsable.2.1, hUsable.2.2, hUsable.1,
      hLater, ?_⟩
    rw [us_eq_nanoseconds, us_eq_nanoseconds, hLater]
    omega
  · intro e n rounds hClock hAllowed hEnds hRounds
    have hStart : Run.Sound {} :=
      { isExact := rfl
        usable := by
          intro ts hMem
          cases hMem }
    refine (returns_eventWaitWithTimeout hClock hSec hNsec
      hFits hAllowed hEnds hRounds hStart).mono ?_
    rintro waitSatisfied r ⟨hResult, hSound⟩
    exact ⟨hResult, hSound.isExact, hSound.usable⟩

/-
  A time-out of 49 days, up to the last second that a 32-bit
  `time_t` has, for an event that is set after one wake-up.
-/
theorem deadline_exact_lastSecond :
    (timeT PosixClock.ilp32).Holds
        (2143188679 + (4294967294 / 1000 : Nat) + 1) ∧
      Returns
        (getAbsoluteTime ⟨true, true, PosixClock.ilp32⟩
          (some ⟨2143188679, 999999999⟩) 4294967294) {}
        (fun time r =>
          r.isExact = true ∧
          0 ≤ time.tvNsec ∧
          time.tvNsec < 1000000000 ∧
          0 ≤ time.tvSec ∧
          nanoseconds time =
            nanoseconds ⟨2143188679, 999999999⟩ +
              1000000 * (4294967294 : Int) ∧
          time.us =
            Timespec.us ⟨2143188679, 999999999⟩ +
              1000 * (4294967294 : Int)) ∧
      Returns
        (eventWaitWithTimeout ⟨true, true, PosixClock.ilp32⟩
          { clock := some ⟨2143188679, 999999999⟩
            signaled := fun n => n = 1
            expired := fun _ => false } 4294967294#32 2) {}
        (fun waitSatisfied r =>
          waitSatisfied = true ∧
          r.isExact = true ∧
          ∀ ts ∈ r.waits, Usable ts) := by
  have hFits :
      (timeT PosixClock.ilp32).Holds
        (2143188679 + (4294967294 / 1000 : Nat) + 1) := by
    decide
  have hBoth := deadline_exact
    ⟨true, true, PosixClock.ilp32⟩ ⟨2143188679, 999999999⟩
    4294967294#32 (by decide) (by decide) hFits
  refine ⟨hFits, hBoth.1, ?_⟩
  refine hBoth.2 _ 1 2 rfl (fun _ => by decide) ?_
    (by decide)
  exact
    { before := by
        intro m hLt
        have hZero : m = 0 := by omega
        subst hZero
        exact ⟨rfl, rfl⟩
      ends := Or.inl rfl }

end PosixDeadline

end CxPlat
