import CxPlat.Lib.Transition
import Mathlib.Data.BitVec

/-
  The interlocked read-modify-write functions that
  `cxplat_posix_shim.h` defines over the builtins of the
  compiler, against the Windows functions of the same names.

  Every call is atomic, so that the calls of any number of
  threads on a cell are a list in the order in which they
  take effect.  A history has what each of them does to the
  cell and what it returns.

  Key definitions include:
    * `syncOpAndFetch`, `syncFetchAndOp`
    * `Call`, `posix`, `windows`
    * `history`
    * `Idle`

  Key theorems include:
    * `posix_eq_windows_iff`
    * `sawClear_windows`, `sawClear_posix`
    * `shims_match_iff`
-/

------------------------------------------------------------
-- Builtins And Shims
------------------------------------------------------------

namespace CxPlat

namespace Interlocked

/- The cell after a call, and the value returned. -/
structure Effect (w : Nat) where
  cell : BitVec w
  result : BitVec w
deriving DecidableEq, Repr

variable {w : Nat}

/- `__sync_add_and_fetch` and the like return the new value. -/
def syncOpAndFetch
    (op : BitVec w → BitVec w → BitVec w)
    (cell value : BitVec w) : Effect w where
  cell := op cell value
  result := op cell value

/- `__sync_fetch_and_add` and the like return the old one. -/
def syncFetchAndOp
    (op : BitVec w → BitVec w → BitVec w)
    (cell value : BitVec w) : Effect w where
  cell := op cell value
  result := cell

/- `__sync_lock_test_and_set`. -/
def syncLockTestAndSet
    (cell value : BitVec w) : Effect w where
  cell := value
  result := cell

def interlockedIncrement16
    (addend : BitVec 16) : Effect 16 :=
  syncOpAndFetch (· + ·) addend 1

def interlockedDecrement16
    (addend : BitVec 16) : Effect 16 :=
  syncOpAndFetch (· - ·) addend 1

def interlockedIncrement
    (addend : BitVec w) : Effect w :=
  syncOpAndFetch (· + ·) addend 1

def interlockedDecrement
    (addend : BitVec w) : Effect w :=
  syncOpAndFetch (· - ·) addend 1

def interlockedIncrement64
    (addend : BitVec 64) : Effect 64 :=
  syncOpAndFetch (· + ·) addend 1

def interlockedDecrement64
    (addend : BitVec 64) : Effect 64 :=
  syncOpAndFetch (· - ·) addend 1

def interlockedAnd
    (destination value : BitVec w) : Effect w :=
  syncOpAndFetch (· &&& ·) destination value

def interlockedOr
    (destination value : BitVec w) : Effect w :=
  syncOpAndFetch (· ||| ·) destination value

def interlockedExchangeAdd64
    (addend value : BitVec 64) : Effect 64 :=
  syncFetchAndOp (· + ·) addend value

def interlockedExchangePointer
    (target value : BitVec w) : Effect w :=
  syncLockTestAndSet target value

end Interlocked

end CxPlat

------------------------------------------------------------
-- Calls And Histories
------------------------------------------------------------

namespace CxPlat

namespace Interlocked

/- The data models of the platforms. -/
inductive DataModel where
  | ilp32
  | lp64
deriving DecidableEq, Repr

/- The bits of a `long` and of a pointer. -/
def DataModel.bits : DataModel → Nat
  | .ilp32 => 32
  | .lp64 => 64

/- The types of the cells. -/
inductive CellType where
  | short
  | long
  | int64
  | pointer
deriving DecidableEq, Repr

def CellType.width
    (model : DataModel) : CellType → Nat
  | .short => 16
  | .long => model.bits
  | .int64 => 64
  | .pointer => model.bits

/- The calls on a cell of each type. -/
inductive Call (model : DataModel) : CellType → Type where
  | increment16 : Call model .short
  | decrement16 : Call model .short
  | increment : Call model .long
  | decrement : Call model .long
  | and (value : BitVec (CellType.long.width model)) :
      Call model .long
  | or (value : BitVec (CellType.long.width model)) :
      Call model .long
  | increment64 : Call model .int64
  | decrement64 : Call model .int64
  | exchangeAdd64
      (value : BitVec (CellType.int64.width model)) :
      Call model .int64
  | exchangePointer
      (value : BitVec (CellType.pointer.width model)) :
      Call model .pointer
deriving DecidableEq, Repr

variable {model : DataModel} {type : CellType}

/- What the shim does. -/
def posix :
    {type : CellType} → Call model type →
      BitVec (type.width model) → Effect (type.width model)
  | _, .increment16, cell => interlockedIncrement16 cell
  | _, .decrement16, cell => interlockedDecrement16 cell
  | _, .increment, cell => interlockedIncrement cell
  | _, .decrement, cell => interlockedDecrement cell
  | _, .and value, cell => interlockedAnd cell value
  | _, .or value, cell => interlockedOr cell value
  | _, .increment64, cell => interlockedIncrement64 cell
  | _, .decrement64, cell => interlockedDecrement64 cell
  | _, .exchangeAdd64 value, cell =>
      interlockedExchangeAdd64 cell value
  | _, .exchangePointer value, cell =>
      interlockedExchangePointer cell value

/-
  What the Windows function does.  Incrementing and
  decrementing return the new value, all others the old one.
-/
def windows :
    {type : CellType} → Call model type →
      BitVec (type.width model) → Effect (type.width model)
  | _, .increment16, cell =>
      { cell := cell + 1, result := cell + 1 }
  | _, .decrement16, cell =>
      { cell := cell - 1, result := cell - 1 }
  | _, .increment, cell =>
      { cell := cell + 1, result := cell + 1 }
  | _, .decrement, cell =>
      { cell := cell - 1, result := cell - 1 }
  | _, .and value, cell =>
      { cell := cell &&& value, result := cell }
  | _, .or value, cell =>
      { cell := cell ||| value, result := cell }
  | _, .increment64, cell =>
      { cell := cell + 1, result := cell + 1 }
  | _, .decrement64, cell =>
      { cell := cell - 1, result := cell - 1 }
  | _, .exchangeAdd64 value, cell =>
      { cell := cell + value, result := cell }
  | _, .exchangePointer value, cell =>
      { cell := value, result := cell }

/- Functions for all calls on cells of a type. -/
abbrev Implementation
    (model : DataModel)
    (type : CellType) :=
  Call model type →
    BitVec (type.width model) → Effect (type.width model)

variable {Th : Type}

/- A thread's call and what comes of it. -/
structure Entry
    (Th : Type)
    (model : DataModel)
    (type : CellType) where
  thread : Th
  call : Call model type
  effect : Effect (type.width model)
deriving DecidableEq, Repr

/- The calls of all threads, in the order of their effects. -/
def history
    (functions : Implementation model type)
    (cell : BitVec (type.width model)) :
    List (Th × Call model type) → List (Entry Th model type)
  | [] => []
  | (th, call) :: calls =>
      { thread := th
        call := call
        effect := functions call cell } ::
        history functions (functions call cell).cell calls

/- The cell from call to call. -/
def cellStep
    (functions : Implementation model type)
    (cell : BitVec (type.width model))
    (move : Th × Call model type) :
    Option (BitVec (type.width model)) :=
  some (functions move.2 cell).cell

/- An `And` clears no bit of the cell, an `Or` sets none. -/
def Idle :
    {type : CellType} → BitVec (type.width model) →
      Call model type → Prop
  | _, cell, .and value => cell &&& value = cell
  | _, cell, .or value => cell ||| value = cell
  | _, _, _ => True

end Interlocked

end CxPlat

------------------------------------------------------------
-- Shims Against Windows
------------------------------------------------------------

namespace CxPlat

namespace Interlocked

variable {Th : Type} {model : DataModel} {type : CellType}

/- The cell is always left as it should be. -/
theorem posix_cell
    (call : Call model type)
    (cell : BitVec (type.width model)) :
    (posix call cell).cell = (windows call cell).cell := by
  cases call with
  | increment16 => rfl
  | decrement16 => rfl
  | increment => rfl
  | decrement => rfl
  | and value => rfl
  | or value => rfl
  | increment64 => rfl
  | decrement64 => rfl
  | exchangeAdd64 value => rfl
  | exchangePointer value => rfl

/- Only `And` and `Or` can return something else. -/
theorem posix_eq_windows_iff
    (call : Call model type)
    (cell : BitVec (type.width model)) :
    posix call cell = windows call cell ↔ Idle cell call := by
  cases call with
  | increment16 => exact iff_of_true rfl trivial
  | decrement16 => exact iff_of_true rfl trivial
  | increment => exact iff_of_true rfl trivial
  | decrement => exact iff_of_true rfl trivial
  | and value =>
      simp [posix, windows, interlockedAnd, syncOpAndFetch,
        Idle]
  | or value =>
      simp [posix, windows, interlockedOr, syncOpAndFetch,
        Idle]
  | increment64 => exact iff_of_true rfl trivial
  | decrement64 => exact iff_of_true rfl trivial
  | exchangeAdd64 value => exact iff_of_true rfl trivial
  | exchangePointer value => exact iff_of_true rfl trivial

/- Whole histories, by induction on the calls. -/
theorem history_posix_iff
    (cell : BitVec (type.width model))
    (calls : List (Th × Call model type)) :
    history posix cell calls = history windows cell calls ↔
      Transition.Meets (cellStep posix)
        (fun cell move => Idle cell move.2) cell calls := by
  induction calls generalizing cell with
  | nil => exact iff_of_true rfl trivial
  | cons move calls ih =>
      rcases move with ⟨th, call⟩
      rw [Transition.meets_cons calls rfl, ← ih,
        ← posix_eq_windows_iff]
      simp only [history, List.cons.injEq, Entry.mk.injEq,
        true_and, posix_cell]

end Interlocked

end CxPlat

------------------------------------------------------------
-- Setting A Bit
------------------------------------------------------------

namespace CxPlat

namespace Interlocked

variable {Th : Type} {model : DataModel}

/- An `Or` of one bit. -/
def setsBit
    (bit : Nat) : Call model .long → Bool
  | .or value => value = BitVec.twoPow _ bit
  | _ => false

/- An `Or` of the bit that finds it clear in its result. -/
def sawClear
    (bit : Nat)
    (entry : Entry Th model .long) : Bool :=
  setsBit bit entry.call && !entry.effect.result.getLsbD bit

/- A call sets the bit with an `Or`, or leaves it alone. -/
def SetsOrKeeps
    (bit : Nat)
    (cell : BitVec (CellType.long.width model))
    (move : Th × Call model .long) : Prop :=
  setsBit bit move.2 = true ∨
    (windows move.2 cell).cell.getLsbD bit =
      cell.getLsbD bit

theorem eq_or_of_setsBit
    {bit : Nat}
    {call : Call model .long}
    (hSets : setsBit bit call = true) :
    call = .or (BitVec.twoPow _ bit) := by
  cases call with
  | or value =>
      simp only [setsBit, decide_eq_true_eq] at hSets
      rw [hSets]
  | increment => contradiction
  | decrement => contradiction
  | and value => contradiction

theorem getLsbD_or_twoPow
    {bit : Nat}
    (hBit : bit < model.bits)
    (cell : BitVec (CellType.long.width model)) :
    (cell ||| BitVec.twoPow _ bit).getLsbD bit = true := by
  have hWidth : bit < CellType.long.width model := hBit
  simp [hWidth]

/- Once the bit is set it stays set. -/
theorem getLsbD_windows
    {bit : Nat}
    (hBit : bit < model.bits)
    {cell : BitVec (CellType.long.width model)}
    {move : Th × Call model .long}
    (hMove : SetsOrKeeps bit cell move)
    (hSet : setsBit bit move.2 = true ∨
      cell.getLsbD bit = true) :
    (windows move.2 cell).cell.getLsbD bit = true := by
  cases hSets : setsBit bit move.2 with
  | true =>
      rw [eq_or_of_setsBit hSets]
      exact getLsbD_or_twoPow hBit cell
  | false =>
      rw [hSets] at hSet
      rcases hMove with hTrue | hKeeps
      · exact absurd (hSets.symm.trans hTrue) (by decide)
      · rw [hKeeps]
        exact hSet.resolve_left (by decide)

/- With the shim no thread ever sees the bit clear. -/
theorem sawClear_posix
    {bit : Nat}
    (hBit : bit < model.bits)
    (cell : BitVec (CellType.long.width model))
    (calls : List (Th × Call model .long)) :
    (history posix cell calls).countP (sawClear bit) =
      0 := by
  induction calls generalizing cell with
  | nil => rfl
  | cons move calls ih =>
      rcases move with ⟨th, call⟩
      have hHead :
          sawClear bit
            (⟨th, call, posix call cell⟩ :
              Entry Th model .long) = false := by
        cases hSets : setsBit bit call with
        | false => simp [sawClear, hSets]
        | true =>
            -- The value returned is the one stored.
            have hResult :
                (posix call cell).result.getLsbD bit =
                  true := by
              rw [eq_or_of_setsBit hSets]
              exact getLsbD_or_twoPow hBit cell
            simp [sawClear, hResult]
      rw [history, List.countP_cons, hHead, ih]
      rfl

/- On Windows none sees it clear once it is set, ... -/
theorem sawClear_windows_of_set
    {bit : Nat}
    (hBit : bit < model.bits)
    {cell : BitVec (CellType.long.width model)}
    (hSet : cell.getLsbD bit = true)
    {calls : List (Th × Call model .long)}
    (hCalls : Transition.Meets (cellStep windows)
      (SetsOrKeeps bit) cell calls) :
    (history windows cell calls).countP (sawClear bit) =
      0 := by
  induction calls generalizing cell with
  | nil => rfl
  | cons move calls ih =>
      rcases move with ⟨th, call⟩
      rw [Transition.meets_cons calls rfl] at hCalls
      obtain ⟨hMove, hCalls⟩ := hCalls
      have hHead :
          sawClear bit
            (⟨th, call, windows call cell⟩ :
              Entry Th model .long) = false := by
        cases hSets : setsBit bit call with
        | false => simp [sawClear, hSets]
        | true =>
            rw [eq_or_of_setsBit hSets]
            simp [sawClear, windows, hSet]
      rw [history, List.countP_cons, hHead,
        ih (getLsbD_windows hBit hMove (Or.inr hSet)) hCalls]
      rfl

/- ... and exactly one, the first that sets it, does. -/
theorem sawClear_windows
    {bit : Nat}
    (hBit : bit < model.bits)
    {cell : BitVec (CellType.long.width model)}
    (hClear : cell.getLsbD bit = false)
    {calls : List (Th × Call model .long)}
    (hCalls : Transition.Meets (cellStep windows)
      (SetsOrKeeps bit) cell calls)
    (hSome : ∃ move ∈ calls, setsBit bit move.2 = true) :
    (history windows cell calls).countP (sawClear bit) =
      1 := by
  induction calls generalizing cell with
  | nil =>
      obtain ⟨move, hMem, _⟩ := hSome
      exact absurd hMem List.not_mem_nil
  | cons move calls ih =>
      rcases move with ⟨th, call⟩
      rw [Transition.meets_cons calls rfl] at hCalls
      obtain ⟨hMove, hCalls⟩ := hCalls
      rw [history, List.countP_cons]
      cases hSets : setsBit bit call with
      | true =>
          rw [sawClear_windows_of_set hBit
            (getLsbD_windows hBit hMove (Or.inl hSets))
            hCalls]
          rw [eq_or_of_setsBit hSets]
          simp [sawClear, setsBit, windows, hClear]
      | false =>
          have hKeeps := hMove.resolve_left (by simp [hSets])
          have hRest :
              ∃ move ∈ calls, setsBit bit move.2 = true := by
            obtain ⟨other, hMem, hOther⟩ := hSome
            rcases List.mem_cons.mp hMem with rfl | hMem
            · exact absurd (hSets.symm.trans hOther)
                (by decide)
            · exact ⟨other, hMem, hOther⟩
          rw [ih (hKeeps.trans hClear) hCalls hRest]
          simp [sawClear, hSets]

/-
  The shims have the effects and the results of the Windows
  functions just as long as every `And` and every `Or` finds
  nothing to change.  Among threads that set a bit that is
  clear, one sees it clear on Windows, and none with the
  shim.
-/
theorem shims_match_iff
    (Th : Type)
    (model : DataModel) :
    (∀ (type : CellType)
      (cell : BitVec (type.width model))
      (calls : List (Th × Call model type)),
      history posix cell calls = history windows cell calls ↔
        Transition.Meets (cellStep posix)
          (fun cell move => Idle cell move.2) cell calls) ∧
      ∀ (bit : Nat)
        (cell : BitVec (CellType.long.width model))
        (calls : List (Th × Call model .long)),
        bit < model.bits →
        cell.getLsbD bit = false →
        Transition.Meets (cellStep windows)
          (SetsOrKeeps bit) cell calls →
        (∃ move ∈ calls, setsBit bit move.2 = true) →
          (history windows cell calls).countP
              (sawClear bit) = 1 ∧
            (history posix cell calls).countP
              (sawClear bit) = 0 := by
  constructor
  · intro type cell calls
    exact history_posix_iff cell calls
  · intro bit cell calls hBit hClear hCalls hSome
    exact ⟨sawClear_windows hBit hClear hCalls hSome,
      sawClear_posix hBit cell calls⟩

/- Two threads set bit 0 of a zero cell, ... -/
def twoSetters : List (Bool × Call .lp64 .long) :=
  [(false, .or 1#64), (true, .or 1#64)]

def zeroCell : BitVec (CellType.long.width .lp64) :=
  0#64

theorem shims_match_iff_twoSetters :
    (history windows zeroCell twoSetters).countP
        (sawClear 0) = 1 ∧
      (history posix zeroCell twoSetters).countP
        (sawClear 0) = 0 := by
  refine (shims_match_iff Bool .lp64).2 0 zeroCell twoSetters
    (by decide) (by decide) ?_ (by decide)
  refine ⟨Or.inl (by decide), ?_⟩
  exact ⟨Or.inl (by decide), trivial⟩

/-
  ... and the first of them is told that the bit was set
  already.
-/
theorem firstSetter_sees_set :
    (history posix zeroCell twoSetters).map
        (·.effect.result) = [1#64, 1#64] ∧
      (history windows zeroCell twoSetters).map
        (·.effect.result) = [0#64, 1#64] ∧
      (history posix zeroCell twoSetters).countP
        (sawClear 0) ≠ 1 := by
  exact ⟨rfl, rfl, by decide⟩

end Interlocked

end CxPlat
