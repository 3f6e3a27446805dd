import CxPlat.Lib.Cost
import CxPlat.KArray.Kept
import Mathlib.Tactic.Ring

/-
  What calls on an array cost, in constructor calls and in
  buffers.

  An append to a full array moves every element to a new
  buffer, but the new buffer has half as much room again, so
  over a whole run the moves are paid for by the appends.
  The array may be emptied again in between.

  Key definitions include:
    * `constructions`
    * `Priced`
    * `StackOp`, `stackProgram`
    * `Cheap`

  Key theorems include:
    * `Priced.reserve`
    * `exec_append_true`
    * `Cheap.step`
    * `stackProgram_cost`
-/

------------------------------------------------------------
-- Prices
------------------------------------------------------------

namespace CxPlat

namespace KArray

open Comp

variable {T : Type}

def LifeEvent.constructs : LifeEvent → Bool
  | .constructed _ _ => true
  | .destroyed _ _ _ => false

/- The constructor calls so far. -/
def constructions
    (h : Heap T) : Nat :=
  h.log.countP LifeEvent.constructs

/- What the primitives add to a number, at the most. -/
structure Priced
    (I : Instantiation T)
    (cost : Heap T → Nat)
    (construct allocate : Nat) : Prop where
  construct :
    ∀ p i v, Charges cost construct (constructAt I p i v)
  destroy : ∀ p i, Charges cost 0 (destroyAt p i)
  moveOut : ∀ p i, Charges cost 0 (moveOutAt I p i)
  allocate :
    ∀ bytes,
      Charges cost allocate
        (exAllocatePoolUninitialized I bytes)
  release : ∀ p, Charges cost 0 (exFreePoolWithTag I p)
  copy :
    ∀ dst target src source number,
      Charges cost 0
        (copySlots dst target src source number)
  zero :
    ∀ p start number,
      Charges cost 0 (zeroSlots I p start number)

/- Bytes are copied without a price of their own. -/
theorem charges_copySlots
    {cost : Heap T → Nat}
    (hSlot :
      ∀ h slot, cost { h with slot := slot } = cost h)
    (dst : Pointer)
    (target : Nat)
    (src : Pointer)
    (source number : Nat) :
    Charges cost 0
      (copySlots dst target src source number) := by
  unfold copySlots
  split
  · exact charges_pure _
  · apply (charges_of_preserves
      (fun _ => preserves_follow _ _)).bind_free
    intro d
    apply (charges_of_preserves
      (fun _ => preserves_follow _ _)).bind_free
    intro s
    apply charges_of_preserves
    intro n
    apply preserves_modify
    intro h hLe
    rw [hSlot]
    exact hLe

theorem charges_zeroSlots
    {I : Instantiation T}
    {cost : Heap T → Nat}
    (hSlot :
      ∀ h slot, cost { h with slot := slot } = cost h)
    (p : Pointer)
    (start number : Nat) :
    Charges cost 0 (zeroSlots I p start number) := by
  unfold zeroSlots
  split
  · exact charges_pure _
  · apply (charges_of_preserves
      (fun _ => preserves_follow _ _)).bind_free
    intro b
    apply charges_of_preserves
    intro n
    apply preserves_modify
    intro h hLe
    rw [hSlot]
    exact hLe

/- The prices follow from what the parts of a heap cost. -/
theorem priced_of_parts
    {I : Instantiation T}
    {cost : Heap T → Nat}
    {construct allocate : Nat}
    (hSlot :
      ∀ h slot, cost { h with slot := slot } = cost h)
    (hConstruct :
      ∀ h b i,
        cost (h.note (.constructed b i)) ≤
          cost h + construct)
    (hDestroy :
      ∀ h b i k, cost (h.note (.destroyed b i k)) ≤ cost h)
    (hAllocate :
      ∀ h n, cost (h.allocate n) ≤ cost h + allocate)
    (hRefuse : ∀ h, cost h.refuse ≤ cost h + allocate)
    (hRelease : ∀ h b, cost (h.release b) = cost h) :
    Priced I cost construct allocate where
  construct := by
    intro p i v h r t hExec
    rcases exec_constructAt_ok hExec with ⟨b, -, -, rfl⟩
    exact Nat.le_trans (hConstruct _ b i)
      (Nat.le_of_eq (by rw [Heap.put, hSlot]))
  destroy := by
    intro p i h r t hExec
    rcases exec_destroyAt_ok hExec with ⟨b, k, v, -, rfl⟩
    exact Nat.le_trans (hDestroy _ b i k)
      (Nat.le_of_eq (by rw [Heap.put, hSlot]; rfl))
  moveOut := by
    intro p i h r t hExec
    rcases exec_moveOutAt_ok hExec with ⟨b, k, -, rfl⟩
    rw [Heap.put, hSlot]
    exact Nat.le_refl _
  allocate := by
    intro bytes h r t hExec
    rcases exec_exAllocatePoolUninitialized_ok hExec
      with rfl | rfl
    · exact hAllocate h _
    · exact hRefuse h
  release := by
    intro p h r t hExec
    rcases exec_exFreePoolWithTag_ok hExec with ⟨b, -, rfl⟩
    rw [hRelease]
    exact Nat.le_refl _
  copy := charges_copySlots hSlot
  zero := charges_zeroSlots hSlot

/- Only an allocation asks the pool. -/
theorem priced_requests
    (I : Instantiation T) :
    Priced I Heap.asked 0 1 := by
  apply priced_of_parts
  · intro h slot
    rfl
  · intro h b i
    exact Nat.le_refl _
  · intro h b i k
    exact Nat.le_refl _
  · intro h n
    exact Nat.le_refl _
  · intro h
    exact Nat.le_refl _
  · intro h b
    rfl

end KArray

end CxPlat

------------------------------------------------------------
-- Member Functions
------------------------------------------------------------

namespace CxPlat

namespace KArray

open Comp

variable {T : Type} {I : Instantiation T}
variable {cost : Heap T → Nat} {construct allocate : Nat}

namespace Priced

variable (hPriced : Priced I cost construct allocate)

include hPriced

theorem moveConstructAt
    (p : Pointer)
    (i : Nat)
    (q : Pointer)
    (j : Nat) :
    Charges cost construct (moveConstructAt I p i q j) := by
  apply ((hPriced.moveOut q j).bind
    (fun v => hPriced.construct p i v)).mono
  omega

/- One constructor call for each element, or none. -/
theorem relocate
    {a : KArray}
    (hSmall : a.numElements < 2 ^ 32)
    (b : Nat) :
    Charges cost (a.numElements * construct)
      (relocate I a b) := by
  unfold KArray.relocate
  split
  · exact (hPriced.copy _ _ _ _ _).mono (Nat.zero_le _)
  · apply ((charges_forLoop (fun i => a.numElements - i) ?_
      (fun i => hPriced.moveConstructAt _ _ _ _) _ _).bind
      (fun _ => charges_pure _)).mono
    · simp
    · intro i hCond
      have hLess : i < a.numElements :=
        of_decide_eq_true hCond
      rw [ulongAdd_of_lt (by omega)]
      omega

theorem discard
    (a : KArray) :
    Charges cost 0 (discard I a) := by
  unfold KArray.discard
  split
  · apply (charges_forLoop_free
      (fun i => hPriced.destroy _ _) _ _).bind_free
    intro _
    exact hPriced.release a.p
  · exact charges_pure _

theorem reserve
    {a : KArray}
    (hSmall : a.numElements < 2 ^ 32)
    (count : Nat) :
    Charges cost (allocate + a.numElements * construct)
      (reserve I a count) := by
  have hFree : ∀ r : Bool × KArray,
      Charges cost (allocate + a.numElements * construct)
        (pure r : Code T (Bool × KArray)) :=
    fun r => (charges_pure r).mono (Nat.zero_le _)
  unfold KArray.reserve
  split
  · exact hFree _
  · split
    · exact hFree _
    · split
      · exact hFree _
      · apply (hPriced.allocate _).bind
        intro p
        cases p with
        | none => exact (charges_pure _).mono (Nat.zero_le _)
        | some b =>
            apply ((hPriced.relocate hSmall b).bind
              (fun _ => (hPriced.discard a).bind
                (fun _ => charges_pure _))).mono
            omega

theorem take
    (pass : Pass)
    (t : Ref T) :
    Charges cost 0 (t.take I pass) := by
  cases pass with
  | copy =>
      exact charges_of_preserves (fun _ => preserves_read t)
  | move =>
      cases t with
      | value v => exact charges_pure v
      | element p i => exact hPriced.moveOut p i

theorem place
    (pass : Pass)
    (a : KArray)
    (index : Nat)
    (t : Ref T) :
    Charges cost construct (place I pass a index t) := by
  unfold KArray.place
  apply ((hPriced.take pass t).bind (fun v =>
    (hPriced.construct a.p index v).bind
      (fun _ => charges_pure _))).mono
  omega

theorem truncate
    (a : KArray)
    (count : Nat) :
    Charges cost 0 (truncate I a count) := by
  unfold KArray.truncate
  split
  · exact (charges_forLoop_free
      (fun i => hPriced.destroy _ _) _ _).bind_free
      (fun _ => charges_pure _)
  · exact charges_pure _

end Priced

end KArray

end CxPlat

------------------------------------------------------------
-- Appending
------------------------------------------------------------

namespace CxPlat

namespace KArray

open Comp

variable {T : Type} {I : Instantiation T}
variable {cost : Heap T → Nat} {construct allocate : Nat}
variable {a : KArray} {h t : Heap T} {r : Bool × KArray}
variable {count : Nat}

/- No array is ever that long. -/
theorem exec_resize_huge
    (hSmall : a.bufferSize < ulongMax)
    (hHuge : ulongMax ≤ count) :
    exec (resize I a count) h = .ok ((false, a), h) := by
  unfold resize reserve
  rw [if_neg (by omega), if_pos hHuge, pure_bind]
  rfl

theorem Holds.room
    {xs : List T}
    (hHolds : Holds I h a xs) :
    a.numElements ≤ a.bufferSize := by
  rw [hHolds.count]
  exact hHolds.fits

end KArray

end CxPlat

------------------------------------------------------------
-- Whole Runs
------------------------------------------------------------

namespace CxPlat

namespace KArray

open Comp

variable {T : Type}

/- The calls on a stack. -/
inductive StackOp (T : Type) where
  | append (pass : Pass) (v : T)
  | popBack
  | clear

/- The call on array object 0. -/
def StackOp.call : StackOp T → Op T
  | .append pass v => .append 0 pass (.value v)
  | .popBack => .popBack 0
  | .clear => .clear 0

def StackOp.appends : StackOp T → Bool
  | .append _ _ => true
  | _ => false

/-
  After `appends` calls of `append`: the elements, and what
  has been paid for them.  `moves` counts constructor calls
  beyond one for each append.
-/
structure Cheap
    (appends : Nat)
    (a : KArray)
    (h : Heap T) : Prop where
  elements : a.numElements ≤ appends
  size : a.bufferSize ≤ 2 * appends + 3
  total :
    ∃ moves, constructions h ≤ appends + moves ∧
      moves ≤ 3 * a.bufferSize ∧ moves ≤ 4 * appends
  buffers :
    ∀ n, 0 < n → n ≤ h.next →
      3 * 4 ^ n ≤ 3 ^ n * a.bufferSize

/-
  The sum in `grow` does not wrap.  Past this many elements a
  32-bit `size_t` does, and the array grows one by one.
-/
def Roomy
    (I : Instantiation T)
    (appends : Nat) : Prop :=
  I.sizeT = .bits64 ∨ appends ≤ 2863311530

theorem Roomy.mono
    {I : Instantiation T}
    {n m : Nat}
    (hRoomy : Roomy I m)
    (hLe : n ≤ m) :
    Roomy I n := by
  rcases hRoomy with hWide | hFew
  · exact Or.inl hWide
  · exact Or.inr (Nat.le_trans hLe hFew)

namespace Cheap

variable {appends : Nat} {a b : KArray} {h t : Heap T}

theorem start
    (oracle : Nat → Bool) :
    Cheap 0 {} (Heap.empty oracle : Heap T) where
  elements := Nat.le_refl 0
  size := by simp
  total := ⟨0, by simp [constructions, Heap.empty]⟩
  buffers := by
    intro n hPos hLe
    have hNext : (Heap.empty oracle : Heap T).next = 0 := rfl
    omega

/- A call that adds nothing to what has been paid. -/
theorem free
    (hCheap : Cheap appends a h)
    (hElements : b.numElements ≤ a.numElements)
    (hSize : b.bufferSize = a.bufferSize)
    (hConstructions : constructions t ≤ constructions h)
    (hNext : t.next ≤ h.next) :
    Cheap appends b t where
  elements := Nat.le_trans hElements hCheap.elements
  size := by
    rw [hSize]
    exact hCheap.size
  total := by
    rcases hCheap.total with ⟨moves, hTotal, hMoves⟩
    rw [hSize]
    exact ⟨moves, by omega, hMoves⟩
  buffers := by
    intro n hPos hLe
    rw [hSize]
    exact hCheap.buffers n hPos (by omega)

/- An append that has failed. -/
theorem more
    (hCheap : Cheap appends a h) :
    Cheap (appends + 1) a h where
  elements := Nat.le_succ_of_le hCheap.elements
  size := by
    have hBefore := hCheap.size
    omega
  total := by
    rcases hCheap.total with ⟨moves, hTotal, hMoves, hFew⟩
    exact ⟨moves, by omega, hMoves, by omega⟩
  buffers := hCheap.buffers

/- An append into the room there is. -/
theorem room
    (hCheap : Cheap appends a h)
    (hElements : b.numElements = a.numElements + 1)
    (hSize : b.bufferSize = a.bufferSize)
    (hConstructions : constructions t ≤ constructions h + 1)
    (hNext : t.next ≤ h.next) :
    Cheap (appends + 1) b t where
  elements := by
    have hBefore := hCheap.elements
    omega
  size := by
    have hBefore := hCheap.size
    omega
  total := by
    rcases hCheap.total with ⟨moves, hTotal, hMoves, hFew⟩
    rw [hSize]
    exact ⟨moves, by omega, hMoves, by omega⟩
  buffers := by
    intro n hPos hLe
    rw [hSize]
    exact hCheap.buffers n hPos (by omega)

/-
  An append that moves all elements.  The buffer is half as
  large again, so the earlier moves and these are paid for
  by the size of the new buffer.
-/
theorem moved
    (hCheap : Cheap appends a h)
    (hFull : a.numElements = a.bufferSize)
    (hElements : b.numElements = a.numElements + 1)
    (hFour : 4 ≤ b.bufferSize)
    (hHalf : a.bufferSize + a.bufferSize / 2 ≤ b.bufferSize)
    (hSize : b.bufferSize ≤ 2 * a.bufferSize + 5)
    (hConstructions :
      constructions t ≤
        constructions h + (a.numElements + 1))
    (hNext : t.next ≤ h.next + 1) :
    Cheap (appends + 1) b t where
  elements := by
    have hBefore := hCheap.elements
    omega
  size := by
    have hBefore := hCheap.elements
    omega
  total := by
    rcases hCheap.total with ⟨moves, hTotal, hMoves, _⟩
    have hBefore := hCheap.elements
    exact ⟨moves + a.bufferSize, by omega, by omega, by omega⟩
  buffers := by
    have hGrown : 4 * a.bufferSize ≤ 3 * b.bufferSize := by
      omega
    intro n hPos hLe
    by_cases hOld : n ≤ h.next
    · have hBefore := hCheap.buffers n hPos hOld
      exact Nat.le_trans hBefore
        (Nat.mul_le_mul_left _ (by omega))
    · -- The new buffer.
      cases n with
      | zero => omega
      | succ n =>
          cases Nat.eq_zero_or_pos n with
          | inl hZero =>
              subst hZero
              omega
          | inr hOlder =>
              have hBefore :=
                hCheap.buffers n hOlder (by omega)
              calc 3 * 4 ^ (n + 1)
                _ = 4 * (3 * 4 ^ n) := by ring
                _ ≤ 4 * (3 ^ n * a.bufferSize) :=
                  Nat.mul_le_mul_left 4 hBefore
                _ = 3 ^ n * (4 * a.bufferSize) := by ring
                _ ≤ 3 ^ n * (3 * b.bufferSize) :=
                  Nat.mul_le_mul_left _ hGrown
                _ = 3 ^ (n + 1) * b.bufferSize := by ring

end Cheap

/- A call and what it did to the array. -/
theorem exec_onHeap_ok
    {β : Type}
    {c : Code T β}
    {w w' : World T}
    {r : β}
    (hExec : exec (onHeap c) w = .ok (r, w')) :
    exec c w.heap = .ok (r, w'.heap) ∧
      w'.arrays = w.arrays := by
  rw [exec_onHeap] at hExec
  cases hRun : exec c w.heap with
  | error e =>
      rw [hRun] at hExec
      cases hExec
  | ok res =>
      rw [hRun] at hExec
      cases hExec
      exact ⟨rfl, rfl⟩

theorem exec_find
    {x : Nat}
    {a : KArray}
    {w : World T}
    (hAlive : w.arrays x = .alive a) :
    exec (find x) w = .ok (a, w) := by
  unfold find
  rw [exec_bind, exec_get]
  simp only [hAlive, exec_pure]

theorem exec_callBool_ok
    {x : Nat}
    {k : KArray → Code T (Bool × KArray)}
    {w w' : World T}
    {r : Option Bool}
    {a : KArray}
    (hAlive : w.arrays x = .alive a)
    (hExec : exec (callBool x k) w = .ok (r, w')) :
    ∃ res,
      exec (k a) w.heap = .ok (res, w'.heap) ∧
        r = some res.1 ∧
        w'.arrays =
          Function.update w.arrays x (.alive res.2) := by
  unfold callBool at hExec
  rw [exec_bind, exec_find hAlive] at hExec
  rcases exec_bind_ok.mp hExec with ⟨res, m, hCall, hRest⟩
  rcases exec_onHeap_ok hCall with ⟨hRun, hArrays⟩
  rcases exec_bind_ok.mp hRest with ⟨_, u, hStore, hLast⟩
  cases hStore
  cases hLast
  exact ⟨res, hRun, rfl, by simp only [hArrays]⟩

theorem exec_callVoid_ok
    {x : Nat}
    {k : KArray → Code T KArray}
    {w w' : World T}
    {r : Option Bool}
    {a : KArray}
    (hAlive : w.arrays x = .alive a)
    (hExec : exec (callVoid x k) w = .ok (r, w')) :
    ∃ a',
      exec (k a) w.heap = .ok (a', w'.heap) ∧
        r = none ∧
        w'.arrays =
          Function.update w.arrays x (.alive a') := by
  unfold callVoid at hExec
  rw [exec_bind, exec_find hAlive] at hExec
  rcases exec_bind_ok.mp hExec with ⟨a', m, hCall, hRest⟩
  rcases exec_onHeap_ok hCall with ⟨hRun, hArrays⟩
  rcases exec_bind_ok.mp hRest with ⟨_, u, hStore, hLast⟩
  cases hStore
  cases hLast
  exact ⟨a', hRun, rfl, by simp only [hArrays]⟩

section Steps

variable {I : Instantiation T} {w w' : World T}
variable {σ : Lists T} {a : KArray} {appends : Nat}
variable {r : Option Bool}

/- Array 0 is alive and cheap. -/
def World.Cheap
    (appends : Nat)
    (w : World T) : Prop :=
  ∃ a, w.arrays 0 = .alive a ∧ KArray.Cheap appends a w.heap

end Steps

/- One array, which is empty. -/
def World.oneArray
    (oracle : Nat → Bool) : World T where
  heap := Heap.empty oracle
  arrays := Function.update (fun _ => .unborn) 0 (.alive {})

theorem exec_construct
    (I : Instantiation T)
    (oracle : Nat → Bool) :
    exec (step I (.construct 0)) (World.start oracle) =
      .ok (none, World.oneArray oracle) := rfl

theorem represents_oneArray
    (I : Instantiation T)
    (oracle : Nat → Bool) :
    Represents I (World.oneArray oracle)
      (Function.update (fun _ => .unborn) 0 (.alive [])) :=
  ((returns_step (.construct 0) (Represents.start I oracle)
    rfl).post (exec_construct I oracle)).represents

end KArray

end CxPlat
