import CxPlat.Lib.Threads
import Mathlib.Data.BitVec

/-
  The compare-and-exchange functions that
  `cxplat_posix_shim.h` provides on POSIX platforms.

  All three pass on what `__sync_val_compare_and_swap`
  returns, but in their own return type, and that of
  `InterlockedCompareExchange` is `short` for operands of
  type `long`.  The caller's `result == Comperand` promotes
  the result again, with its sign.

  Key definitions include:
    * `interlockedCompareExchange16`
    * `interlockedCompareExchange`
    * `interlockedCompareExchange64`
    * `Reports`
    * `increment`

  Key theorems include:
    * `reports_iff_fitsShort`
    * `counted_run`
    * `compareExchange_reports`
-/

------------------------------------------------------------
-- Compare and Exchange
------------------------------------------------------------

namespace CxPlat

namespace Interlocked

/-
  The destination after a call, the value returned, and
  whether the exchange was performed.
-/
structure Exchanged (w r : Nat) where
  destination : BitVec w
  result : BitVec r
  swapped : Bool
deriving DecidableEq, Repr

/-
  `__sync_val_compare_and_swap` on operands of `w` bits in a
  function that returns `r` bits.
-/
def compareExchange
    {w : Nat}
    (r : Nat)
    (destination exChange comperand : BitVec w) :
    Exchanged w r where
  destination :=
    if destination = comperand then exChange else destination
  result := destination.setWidth r
  swapped := destination = comperand

def interlockedCompareExchange16
    (destination exChange comperand : BitVec 16) :
    Exchanged 16 16 :=
  compareExchange 16 destination exChange comperand

/- `long` has 32 or 64 bits, the result is a `short`. -/
def interlockedCompareExchange
    {long : Nat}
    (destination exChange comperand : BitVec long) :
    Exchanged long 16 :=
  compareExchange 16 destination exChange comperand

def interlockedCompareExchange64
    (destination exChange comperand : BitVec 64) :
    Exchanged 64 64 :=
  compareExchange 64 destination exChange comperand

/-
  The result, converted back, is the value before the call,
  and comparing it with `comperand` tells what happened.
-/
structure Reports
    {w r : Nat}
    (x : Exchanged w r)
    (before comperand : BitVec w) : Prop where
  value : x.result.signExtend w = before
  success :
    x.result.signExtend w = comperand ↔ x.swapped = true

/- The values of a `short`. -/
def FitsShort
    {w : Nat}
    (v : BitVec w) : Prop :=
  -2 ^ 15 ≤ v.toInt ∧ v.toInt < 2 ^ 15

instance
    {w : Nat}
    (v : BitVec w) :
    Decidable (FitsShort v) :=
  inferInstanceAs (Decidable (_ ∧ _))

variable {w r : Nat}

/- Success is reported exactly if the value is. -/
theorem reports_iff
    (before exChange comperand : BitVec w) :
    Reports (compareExchange r before exChange comperand)
        before comperand ↔
      (before.setWidth r).signExtend w = before := by
  constructor
  · intro hReports
    exact hReports.value
  · intro hValue
    constructor
    · exact hValue
    · simp [compareExchange, hValue]

/- Nothing is lost if the return type is the operand type. -/
theorem reports_same
    (before exChange comperand : BitVec w) :
    Reports (compareExchange w before exChange comperand)
      before comperand := by
  apply (reports_iff before exChange comperand).mpr
  simp

/- A conversion to `short` and back. -/
theorem signExtend_setWidth_short
    (hWidth : 16 ≤ w)
    (v : BitVec w) :
    (v.setWidth 16).signExtend w = v ↔ FitsShort v := by
  have hShort :
      (v.setWidth 16).toInt = v.toInt.bmod (2 ^ 16) := by
    rw [BitVec.toInt_setWidth, BitVec.toInt_eq_toNat_bmod,
      Int.bmod_bmod_of_dvd (Nat.pow_dvd_pow 2 hWidth)]
  have hBack :
      ((v.setWidth 16).signExtend w).toInt =
        v.toInt.bmod (2 ^ 16) := by
    rw [BitVec.toInt_signExtend, Nat.min_eq_right hWidth,
      hShort, Int.bmod_bmod_of_dvd (Nat.dvd_refl _)]
  rw [← BitVec.toInt_inj, hBack,
    Int.bmod_eq_iff (by decide)]
  simp [FitsShort]

theorem reports_iff_fitsShort
    (hWidth : 16 ≤ w)
    (before exChange comperand : BitVec w) :
    Reports (compareExchange 16 before exChange comperand)
        before comperand ↔
      FitsShort before := by
  rw [reports_iff, signExtend_setWidth_short hWidth]

end Interlocked

end CxPlat

------------------------------------------------------------
-- Retry Loops
------------------------------------------------------------

namespace CxPlat

namespace Interlocked

/- The shared cell, and the loops completed on it. -/
structure Counter (w : Nat) where
  cell : BitVec w
  completed : Nat
deriving DecidableEq, Repr

/- About to read the cell, or about to exchange it. -/
inductive Loop (w : Nat) where
  | reading
  | swapping (expected : BitVec w)
deriving DecidableEq, Repr

inductive Statement where
  | read
  | swap
deriving DecidableEq, Repr

variable {w r : Nat} {Th : Type}

/-
  Read the cell, try to exchange it for the value plus one,
  and start over unless the result is the expected value.
-/
def increment
    (exchange :
      BitVec w → BitVec w → BitVec w → Exchanged w r) :
    Threads.Program (Counter w) (Loop w) Th Statement
  | s, _, .reading, .read => some (s, .swapping s.cell)
  | s, _, .swapping expected, .swap =>
      let x := exchange s.cell (expected + 1) expected
      if x.result.signExtend w = expected then
        some
          ({ cell := x.destination
             completed := s.completed + 1 }, .reading)
      else
        some ({ s with cell := x.destination }, .reading)
  | _, _, _, _ => none

def begin
    (initial : BitVec w) :
    Threads.Config (Counter w) (Loop w) Th where
  shared := { cell := initial, completed := 0 }
  locals := fun _ => .reading

/- Every completed loop has added one, and nothing else has. -/
def Counted
    (initial : BitVec w)
    (s : Counter w) : Prop :=
  s.cell = initial + BitVec.ofNat w s.completed

/- An exchange finds the cell with `P`. -/
def Finds
    (P : BitVec w → Prop)
    (c : Threads.Config (Counter w) (Loop w) Th)
    (move : Th × Statement) : Prop :=
  move.2 = .swap → P c.shared.cell

instance
    (P : BitVec w → Prop)
    [DecidablePred P]
    (c : Threads.Config (Counter w) (Loop w) Th)
    (move : Th × Statement) :
    Decidable (Finds P c move) :=
  inferInstanceAs (Decidable (_ → _))

variable {initial : BitVec w} {s s' : Counter w}
variable {l l' : Loop w} {th : Th}

/- An exchange that reports what it did keeps the count. -/
theorem counted_swap
    {expected : BitVec w}
    (hReports :
      Reports
        (compareExchange r s.cell (expected + 1) expected)
        s.cell expected)
    (hCounted : Counted initial s)
    (hSwap :
      increment (compareExchange r) s th
        (.swapping expected) .swap = some (s', l')) :
    Counted initial s' := by
  have hSuccess := hReports.success
  simp only [increment] at hSwap
  split at hSwap
  next hEqual =>
    cases hSwap
    have hCell : s.cell = expected := by
      simpa [compareExchange] using hSuccess.mp hEqual
    simp only [Counted] at hCounted ⊢
    rw [BitVec.ofNat_add, ← BitVec.add_assoc, ← hCounted]
    simp [compareExchange, hCell]
  next hUnequal =>
    cases hSwap
    have hCell : ¬ s.cell = expected := by
      intro hCell
      apply hUnequal (hSuccess.mpr _)
      simp [compareExchange, hCell]
    simpa [Counted, compareExchange, hCell] using hCounted

theorem counted_increment
    {statement : Statement}
    (hReports :
      statement = .swap → ∀ exChange comperand,
        Reports
          (compareExchange r s.cell exChange comperand)
          s.cell comperand)
    (hCounted : Counted initial s)
    (hStep :
      increment (compareExchange r) s th l statement =
        some (s', l')) :
    Counted initial s' := by
  cases l with
  | reading =>
      cases statement with
      | read =>
          cases hStep
          exact hCounted
      | swap => contradiction
  | swapping expected =>
      cases statement with
      | read => contradiction
      | swap =>
          exact counted_swap (hReports rfl _ _) hCounted hStep

variable [DecidableEq Th]

/- Any number of threads, in any interleaving. -/
theorem counted_run
    {P : BitVec w → Prop}
    (hReports :
      ∀ cell, P cell → ∀ exChange comperand,
        Reports
          (compareExchange r cell exChange comperand)
          cell comperand)
    {moves : List (Th × Statement)}
    {c : Threads.Config (Counter w) (Loop w) Th}
    (hMeets :
      Transition.Meets
        (Threads.step (increment (compareExchange r)))
        (Finds P) (begin initial) moves)
    (hRun :
      Transition.run
        (Threads.step (increment (compareExchange r)))
        (begin initial) moves = some c) :
    Counted initial c.shared := by
  have hKept :
      ∀ (c : Threads.Config (Counter w) (Loop w) Th) move d,
        Counted initial c.shared → Finds P c move →
          Threads.step (increment (compareExchange r))
            c move = some d →
            Counted initial d.shared := by
    intro c move d hCounted hFinds hStep
    rcases Threads.step_some hStep with
      ⟨s, l, hProgram, hNext⟩
    subst hNext
    apply counted_increment _ hCounted hProgram
    intro hSwap
    exact hReports _ (hFinds hSwap)
  have hBegin :
      Counted initial
        (begin initial :
          Threads.Config (Counter w) (Loop w) Th).shared := by
    simp [Counted, begin]
  have hEnd :=
    Transition.invariant_meets hKept hBegin hMeets hRun
  exact hEnd

/- The result has the type of the operands. -/
theorem counted_run_same
    {moves : List (Th × Statement)}
    {c : Threads.Config (Counter w) (Loop w) Th}
    (hRun :
      Transition.run
        (Threads.step (increment (compareExchange w)))
        (begin initial) moves = some c) :
    Counted initial c.shared := by
  have hMeets :
      Transition.Meets
        (Threads.step (increment (compareExchange w)))
        (Finds (fun _ => True)) (begin initial) moves := by
    apply Transition.meets_of_forall
    intro _ _ _
    trivial
  exact counted_run (fun cell _ => reports_same cell)
    hMeets hRun

end Interlocked

end CxPlat

------------------------------------------------------------
-- Reported Results
------------------------------------------------------------

namespace CxPlat

namespace Interlocked

/-
  The 16-bit and 64-bit functions report every exchange, the
  one on `long` exactly those that find a `short` value.  A
  retry loop on them then loses no update.
-/
theorem compareExchange_reports
    (Th : Type)
    [DecidableEq Th]
    (long : Nat)
    (hLong : long = 32 ∨ long = 64) :
    (∀ before exChange comperand,
      Reports
        (interlockedCompareExchange16
          before exChange comperand)
        before comperand) ∧
    (∀ before exChange comperand : BitVec long,
      Reports
          (interlockedCompareExchange
            before exChange comperand)
          before comperand ↔
        FitsShort before) ∧
    (∀ before exChange comperand,
      Reports
        (interlockedCompareExchange64
          before exChange comperand)
        before comperand) ∧
    (∀ initial (moves : List (Th × Statement)) c,
      Transition.run
          (Threads.step
            (increment interlockedCompareExchange16))
          (begin initial) moves = some c →
        Counted initial c.shared) ∧
    (∀ (initial : BitVec long)
      (moves : List (Th × Statement)) c,
      Transition.Meets
          (Threads.step
            (increment interlockedCompareExchange))
          (Finds FitsShort) (begin initial) moves →
        Transition.run
            (Threads.step
              (increment interlockedCompareExchange))
            (begin initial) moves = some c →
          Counted initial c.shared) ∧
    (∀ initial (moves : List (Th × Statement)) c,
      Transition.run
          (Threads.step
            (increment interlockedCompareExchange64))
          (begin initial) moves = some c →
        Counted initial c.shared) := by
  have hWidth : 16 ≤ long := by
    rcases hLong with h | h
    all_goals
      subst h
      decide
  refine ⟨?_, ?_, ?_, ?_, ?_, ?_⟩
  · exact reports_same
  · exact reports_iff_fitsShort hWidth
  · exact reports_same
  · intro initial moves c hRun
    exact counted_run_same hRun
  · intro initial moves c hMeets hRun
    apply counted_run _ hMeets hRun
    intro cell hFits exChange comperand
    exact (reports_iff_fitsShort hWidth _ _ _).mpr hFits
  · intro initial moves c hRun
    exact counted_run_same hRun

/- Two threads read the same value; one of them retries. -/
def contended : List (Bool × Statement) :=
  [(false, .read), (true, .read), (false, .swap),
    (true, .swap), (true, .read), (true, .swap)]

theorem compareExchange_reports_contended :
    ∃ c : Threads.Config (Counter 32) (Loop 32) Bool,
      Transition.run
          (Threads.step
            (increment interlockedCompareExchange))
          (begin 40) contended = some c ∧
        c.shared.completed = 2 ∧
        Counted 40 c.shared := by
  refine ⟨_, rfl, rfl, ?_⟩
  have hReports :=
    compareExchange_reports Bool 32 (Or.inl rfl)
  apply hReports.2.2.2.2.1 40 contended _ _ rfl
  decide

/-
  A `long` that is no `short`: the exchange is performed and
  not reported, and the loop goes round again although it
  has added its one.
-/
theorem wideLong_not_reported :
    (interlockedCompareExchange
      32768#32 32769#32 32768#32).swapped = true ∧
    ¬ Reports
      (interlockedCompareExchange
        32768#32 32769#32 32768#32) 32768#32 32768#32 ∧
    ¬ Reports
      (interlockedCompareExchange
        32768#64 32769#64 32768#64) 32768#64 32768#64 ∧
    ∃ c : Threads.Config (Counter 32) (Loop 32) Unit,
      Transition.run
          (Threads.step
            (increment interlockedCompareExchange))
          (begin 32768#32) [((), .read), ((), .swap)] =
        some c ∧
      c.shared = { cell := 32769#32, completed := 0 } ∧
      ¬ Counted 32768#32 c.shared := by
  refine ⟨by decide, ?_, ?_, _, rfl, by decide, ?_⟩
  · intro hReports
    exact absurd hReports.value (by decide)
  · intro hReports
    exact absurd hReports.value (by decide)
  · unfold Counted
    decide

end Interlocked

end CxPlat
