import CxPlat.KArray.Basic

/-
  What the object operations do to the values in one buffer.

  `Rewrites b f h t` says that `t` is `h` with the slots of
  buffer `b` holding the values `f`, and nothing else of the
  memory changed.  Every object operation is specified by
  such an equation, and so are the loops that destroy or
  construct a range of slots.

  Key definitions include:
    * `Rewrites`
    * `SameMemory`

  Key theorems include:
    * `returns_constructAt`, `returns_destroyAt`
    * `returns_moveConstructAt`
    * `returns_destroyUp`, `returns_destroyDown`
    * `returns_copySlots`, `returns_zeroSlots`
-/

------------------------------------------------------------
-- Rewriting One Buffer
------------------------------------------------------------

namespace CxPlat

namespace KArray

variable {T : Type}

/-
  `t` is `h` with the values of buffer `b` replaced by `f`.
  Only the log may have grown.
-/
structure Rewrites
    (b : Nat)
    (f : Nat → Option T)
    (h t : Heap T) : Prop where
  oracle : t.oracle = h.oracle
  asked : t.asked = h.asked
  next : t.next = h.next
  capacity : t.capacity = h.capacity
  others : ∀ c, c ≠ b → t.slot c = h.slot c
  values : ∀ j, t.val b j = f j

/- The two heaps hold the same objects in the same places. -/
structure SameMemory
    (h t : Heap T) : Prop where
  oracle : t.oracle = h.oracle
  next : t.next = h.next
  capacity : t.capacity = h.capacity
  slot : t.slot = h.slot
  log : t.log = h.log

theorem SameMemory.val
    {h t : Heap T}
    (hSame : SameMemory h t) :
    t.val = h.val := by
  funext b i
  unfold Heap.val
  rw [hSame.slot]

namespace Rewrites

variable {b : Nat} {f g : Nat → Option T}
variable {h t u : Heap T}

theorem refl
    (b : Nat)
    (h : Heap T) :
    Rewrites b (h.val b) h h where
  oracle := rfl
  asked := rfl
  next := rfl
  capacity := rfl
  others := fun _ _ => rfl
  values := fun _ => rfl

theorem trans
    (hFirst : Rewrites b f h t)
    (hSecond : Rewrites b g t u) :
    Rewrites b g h u where
  oracle := hSecond.oracle.trans hFirst.oracle
  asked := hSecond.asked.trans hFirst.asked
  next := hSecond.next.trans hFirst.next
  capacity := hSecond.capacity.trans hFirst.capacity
  others := fun c hNe =>
    (hSecond.others c hNe).trans (hFirst.others c hNe)
  values := hSecond.values

/- The values may be given by any equal function. -/
theorem congr
    (hRewrites : Rewrites b f h t)
    (hEq : ∀ j, f j = g j) :
    Rewrites b g h t where
  oracle := hRewrites.oracle
  asked := hRewrites.asked
  next := hRewrites.next
  capacity := hRewrites.capacity
  others := hRewrites.others
  values := fun j => (hRewrites.values j).trans (hEq j)

/- Other buffers keep their values. -/
theorem val_other
    (hRewrites : Rewrites b f h t)
    {c : Nat}
    (hNe : c ≠ b) :
    t.val c = h.val c := by
  funext j
  unfold Heap.val
  rw [hRewrites.others c hNe]

/- Putting one slot in place rewrites one value. -/
theorem put
    (hRewrites : Rewrites b f h t)
    (i : Nat)
    (s : Slot T) :
    Rewrites b (Function.update f i s.value?) h
      (t.put b i s) where
  oracle := hRewrites.oracle
  asked := hRewrites.asked
  next := hRewrites.next
  capacity := hRewrites.capacity
  others := by
    intro c hNe
    rw [← hRewrites.others c hNe]
    funext j
    exact t.put_slot_of_ne s (Or.inl hNe)
  values := by
    intro j
    unfold Heap.val
    by_cases hIndex : j = i
    · subst hIndex
      simp
    · rw [t.put_slot_of_ne s (Or.inr hIndex)]
      rw [Function.update_of_ne hIndex]
      exact hRewrites.values j

/- The log is not part of the rewritten values. -/
theorem note
    (hRewrites : Rewrites b f h t)
    (e : LifeEvent) :
    Rewrites b f h (t.note e) where
  oracle := hRewrites.oracle
  asked := hRewrites.asked
  next := hRewrites.next
  capacity := hRewrites.capacity
  others := hRewrites.others
  values := hRewrites.values

/- All slots of a buffer are replaced at once. -/
theorem replace
    (h : Heap T)
    (b : Nat)
    (slots : Nat → Slot T) :
    Rewrites b (fun j => (slots j).value?) h
      { h with
        slot := Function.update h.slot b slots } where
  oracle := rfl
  asked := rfl
  next := rfl
  capacity := rfl
  others := fun _ hNe => Function.update_of_ne hNe _ _
  values := by
    intro j
    simp only [Heap.val, Function.update_self]

theorem fresh
    (hRewrites : Rewrites b f h t)
    (hFresh : h.Fresh) :
    t.Fresh := by
  intro c hNext
  rw [hRewrites.capacity]
  exact hFresh c (hRewrites.next ▸ hNext)

end Rewrites

/- Live slots are those with a value. -/
theorem isLive_of_val
    {h : Heap T}
    {b i : Nat}
    {v : T}
    (hValue : h.val b i = some v) :
    (h.slot b i).isLive = true := by
  rcases Slot.eq_live_of_value? hValue with ⟨k, hSlot⟩
  simp [hSlot]

theorem isLive_eq_false_of_val
    {h : Heap T}
    {b i : Nat}
    (hValue : h.val b i = none) :
    (h.slot b i).isLive = false := by
  unfold Heap.val at hValue
  cases hSlot : h.slot b i with
  | raw => rfl
  | live k v =>
      rw [hSlot] at hValue
      cases hValue

end KArray

end CxPlat

------------------------------------------------------------
-- Object Operations
------------------------------------------------------------

namespace CxPlat

namespace KArray

open Comp

variable {T : Type}

theorem returns_locate
    {h : Heap T}
    {b i : Nat}
    {Q : Nat → Heap T → Prop}
    (hBound : i < h.capacity b) :
    Returns (locate (some b) i) h Q ↔ Q b h := by
  unfold locate
  simp [hBound]

theorem returns_constructAt
    (I : Instantiation T)
    {h : Heap T}
    {b i : Nat}
    (v : T)
    (hBound : i < h.capacity b)
    (hRaw :
      I.triviallyDestructible = false → h.val b i = none) :
    Returns (constructAt I (some b) i v) h
      (fun _ t =>
        Rewrites b (Function.update (h.val b) i (some v))
          h t) := by
  unfold constructAt
  rw [returns_bind, returns_locate hBound, returns_bind,
    returns_get]
  have hClear :
      ((h.slot b i).isLive &&
        !I.triviallyDestructible) = false := by
    cases hTrivial : I.triviallyDestructible with
    | true => simp
    | false =>
        simp [isLive_eq_false_of_val (hRaw hTrivial)]
  rw [hClear]
  simp only [Bool.false_eq_true, if_false, returns_set]
  exact ((Rewrites.refl b h).put i (.live _ v)).note _

theorem returns_destroyAt
    {h : Heap T}
    {b i : Nat}
    {v : T}
    (hBound : i < h.capacity b)
    (hLive : h.val b i = some v) :
    Returns (destroyAt (some b) i) h
      (fun _ t =>
        Rewrites b (Function.update (h.val b) i none)
          h t) := by
  unfold destroyAt
  rw [returns_bind, returns_locate hBound, returns_bind,
    returns_get]
  rcases Slot.eq_live_of_value? hLive with ⟨k, hSlot⟩
  rw [hSlot]
  simp only [returns_set]
  exact ((Rewrites.refl b h).put i .raw).note _

theorem returns_readAt
    {h : Heap T}
    {b i : Nat}
    {v : T}
    {Q : T → Heap T → Prop}
    (hBound : i < h.capacity b)
    (hLive : h.val b i = some v) :
    Returns (readAt (some b) i) h Q ↔ Q v h := by
  unfold readAt
  rw [returns_bind, returns_locate hBound, returns_bind,
    returns_get]
  rcases Slot.eq_live_of_value? hLive with ⟨k, hSlot⟩
  rw [hSlot]
  simp

theorem returns_moveOutAt
    (I : Instantiation T)
    {h : Heap T}
    {b i : Nat}
    {v : T}
    (hBound : i < h.capacity b)
    (hLive : h.val b i = some v) :
    Returns (moveOutAt I (some b) i) h
      (fun r t =>
        r = v ∧
          Rewrites b
            (Function.update (h.val b) i (some (I.moved v)))
            h t) := by
  unfold moveOutAt
  rw [returns_bind, returns_locate hBound, returns_bind,
    returns_get]
  rcases Slot.eq_live_of_value? hLive with ⟨k, hSlot⟩
  rw [hSlot]
  simp only [returns_bind, returns_set, returns_pure]
  exact ⟨trivial,
    (Rewrites.refl b h).put i (.live k (I.moved v))⟩

/- The pool hands out a fresh buffer or turns us down. -/
theorem returns_exAllocatePoolUninitialized
    (I : Instantiation T)
    {h : Heap T}
    {bytes : Nat}
    {Q : Pointer → Heap T → Prop}
    (hSome :
      h.oracle h.asked = true →
        Q (some h.next) (h.allocate (bytes / I.sizeOf)))
    (hNone : h.oracle h.asked = false → Q none h.refuse) :
    Returns (exAllocatePoolUninitialized I bytes) h Q := by
  unfold exAllocatePoolUninitialized
  rw [returns_bind, returns_get]
  cases hOutcome : h.oracle h.asked with
  | true =>
      simp only [if_true, returns_bind, returns_set,
        returns_pure]
      exact hSome hOutcome
  | false =>
      simp only [Bool.false_eq_true, if_false, returns_bind,
        returns_set, returns_pure]
      exact hNone hOutcome

/- Freeing a buffer in which no object is left. -/
theorem returns_exFreePoolWithTag
    (I : Instantiation T)
    {h : Heap T}
    {b : Nat}
    {Q : Unit → Heap T → Prop}
    (hAllocated : h.capacity b ≠ 0)
    (hRaw :
      I.triviallyDestructible = false →
        ∀ i, i < h.capacity b → h.val b i = none)
    (hPost : Q () (h.release b)) :
    Returns (exFreePoolWithTag I (some b)) h Q := by
  unfold exFreePoolWithTag
  rw [returns_bind, returns_get, if_neg hAllocated]
  have hClear :
      (!I.triviallyDestructible &&
        (List.range (h.capacity b)).any
          (fun i => (h.slot b i).isLive)) = false := by
    cases hTrivial : I.triviallyDestructible with
    | true => simp
    | false =>
        simp only [Bool.not_false, Bool.true_and,
          List.any_eq_false, List.mem_range]
        intro i hLt
        simp [isLive_eq_false_of_val (hRaw hTrivial i hLt)]
  rw [hClear]
  simpa using hPost

/-
  Moving an object to another slot of the same buffer: the
  slot gets the value and the source keeps a moved-from
  object.
-/
theorem returns_moveConstructAt
    (I : Instantiation T)
    {h : Heap T}
    {b i j : Nat}
    {v : T}
    (hNe : i ≠ j)
    (hBound : i < h.capacity b)
    (hRaw :
      I.triviallyDestructible = false → h.val b i = none)
    (hSource : j < h.capacity b)
    (hLive : h.val b j = some v) :
    Returns (moveConstructAt I (some b) i (some b) j) h
      (fun _ t =>
        Rewrites b
          (Function.update
            (Function.update (h.val b) j (some (I.moved v)))
            i (some v))
          h t) := by
  unfold moveConstructAt
  refine (returns_moveOutAt I hSource hLive).bind ?_
  rintro r t ⟨hValue, hMoved⟩
  subst hValue
  have hTarget :
      I.triviallyDestructible = false →
        t.val b i = none := by
    intro hTrivial
    rw [hMoved.values, Function.update_of_ne hNe]
    exact hRaw hTrivial
  refine (returns_constructAt I r
    (by rw [hMoved.capacity]; exact hBound) hTarget).mono ?_
  intro _ u hBuilt
  refine (hMoved.trans hBuilt).congr ?_
  intro k
  have hValues : t.val b = _ := funext hMoved.values
  rw [hValues]

/- The same after the values have become `f`. -/
theorem Rewrites.returns_moveConstructAt
    (I : Instantiation T)
    {f : Nat → Option T}
    {h t : Heap T}
    {b i j : Nat}
    {v : T}
    (hSoFar : Rewrites b f h t)
    (hNe : i ≠ j)
    (hBound : i < h.capacity b)
    (hRaw : I.triviallyDestructible = false → f i = none)
    (hSource : j < h.capacity b)
    (hLive : f j = some v) :
    Returns (moveConstructAt I (some b) i (some b) j) t
      (fun _ u =>
        Rewrites b
          (Function.update
            (Function.update f j (some (I.moved v)))
            i (some v))
          h u) := by
  have hValues : t.val b = f := funext hSoFar.values
  rw [← hSoFar.capacity] at hBound hSource
  rw [← hValues] at hRaw hLive
  refine (KArray.returns_moveConstructAt I hNe hBound hRaw
    hSource hLive).mono ?_
  intro _ u hStep
  rw [← hValues]
  exact hSoFar.trans hStep

end KArray

end CxPlat

------------------------------------------------------------
-- Ranges Of Slots
------------------------------------------------------------

namespace CxPlat

namespace KArray

open Comp

variable {T : Type}

/- `f` with no values at the indices from `lo` below `hi`. -/
def eraseRange
    (f : Nat → Option T)
    (lo hi : Nat) : Nat → Option T :=
  fun j => if lo ≤ j ∧ j < hi then none else f j

/- `f` with the value `v` from `lo` below `hi`. -/
def fillRange
    (f : Nat → Option T)
    (lo hi : Nat)
    (v : T) : Nat → Option T :=
  fun j => if lo ≤ j ∧ j < hi then some v else f j

theorem eraseRange_self
    (f : Nat → Option T)
    (lo : Nat) :
    eraseRange f lo lo = f := by
  funext j
  unfold eraseRange
  rw [if_neg (by omega)]

theorem fillRange_of_le
    (f : Nat → Option T)
    {lo hi : Nat}
    (v : T)
    (hLe : hi ≤ lo) :
    fillRange f lo hi v = f := by
  funext j
  unfold fillRange
  rw [if_neg (by omega)]

theorem fillRange_self
    (f : Nat → Option T)
    (lo : Nat)
    (v : T) :
    fillRange f lo lo v = f :=
  fillRange_of_le f v (Nat.le_refl lo)

/- One more index gets the value of a range. -/
theorem update_range_up
    {α : Type}
    (f : Nat → α)
    (x : α)
    {lo i : Nat}
    (hLe : lo ≤ i) :
    Function.update
        (fun j => if lo ≤ j ∧ j < i then x else f j) i x =
      fun j => if lo ≤ j ∧ j < i + 1 then x else f j := by
  funext j
  by_cases hEq : j = i
  · subst hEq
    simp [hLe]
  · rw [Function.update_of_ne hEq]
    have hIff :
        (lo ≤ j ∧ j < i) ↔ (lo ≤ j ∧ j < i + 1) := by
      omega
    simp only [hIff]

theorem update_eraseRange_up
    (f : Nat → Option T)
    {lo i : Nat}
    (hLe : lo ≤ i) :
    Function.update (eraseRange f lo i) i none =
      eraseRange f lo (i + 1) :=
  update_range_up f none hLe

theorem update_eraseRange_down
    (f : Nat → Option T)
    {hi i : Nat}
    (hPos : 0 < i)
    (hLe : i ≤ hi) :
    Function.update (eraseRange f i hi) (i - 1) none =
      eraseRange f (i - 1) hi := by
  funext j
  unfold eraseRange
  by_cases hEq : j = i - 1
  · subst hEq
    rw [Function.update_self, if_pos (by omega)]
  · rw [Function.update_of_ne hEq]
    have hIff :
        (i ≤ j ∧ j < hi) ↔ (i - 1 ≤ j ∧ j < hi) := by
      omega
    simp only [hIff]

theorem update_fillRange
    (f : Nat → Option T)
    {lo i : Nat}
    (v : T)
    (hLe : lo ≤ i) :
    Function.update (fillRange f lo i v) i (some v) =
      fillRange f lo (i + 1) v :=
  update_range_up f (some v) hLe

/-
  Destroying the live slots from `lo` below `hi`, in rising
  order.  The counter may be of any type that reaches `hi`.
-/
theorem returns_destroyUp
    {h : Heap T}
    {b lo hi fuel : Nat}
    {stuck : Fault}
    {next : Nat → Nat}
    (hLe : lo ≤ hi)
    (hBound : hi ≤ h.capacity b)
    (hNext : ∀ i, lo ≤ i → i < hi → next i = i + 1)
    (hFuel : hi - lo ≤ fuel)
    (hLive :
      ∀ j, lo ≤ j → j < hi → ∃ v, h.val b j = some v) :
    Returns
      (forLoop stuck (fun i => decide (i < hi)) next
        (fun i => destroyAt (some b) i) fuel lo) h
      (fun j t =>
        j = hi ∧
          Rewrites b (eraseRange (h.val b) lo hi) h t) := by
  refine returns_forLoop_up
    (fun i t =>
      Rewrites b (eraseRange (h.val b) lo i) h t)
    hLe (by simp) hNext ?_ hFuel ?_
  · intro i t hLo hHi hSoFar
    rcases hLive i hLo hHi with ⟨v, hValue⟩
    have hHere : t.val b i = some v := by
      rw [hSoFar.values]
      unfold eraseRange
      rw [if_neg (by omega)]
      exact hValue
    have hIn : i < t.capacity b := by
      rw [hSoFar.capacity]
      omega
    refine (returns_destroyAt hIn hHere).mono ?_
    intro _ u hStep
    refine (hSoFar.trans hStep).congr ?_
    intro j
    rw [funext hSoFar.values, update_eraseRange_up _ hLo]
  · rw [eraseRange_self]
    exact Rewrites.refl b h

/- The same in falling order, over a `ULONG` counter. -/
theorem returns_destroyDown
    {h : Heap T}
    {b lo hi : Nat}
    (hLe : lo ≤ hi)
    (hLt : hi < 2 ^ 32)
    (hBound : hi ≤ h.capacity b)
    (hLive :
      ∀ j, lo ≤ j → j < hi → ∃ v, h.val b j = some v) :
    Returns
      (ulongLoop (fun i => decide (i > lo))
        (fun i => ulongSub i 1)
        (fun i => destroyAt (some b) (ulongSub i 1)) hi) h
      (fun j t =>
        j = lo ∧
          Rewrites b (eraseRange (h.val b) lo hi) h t) := by
  refine returns_forLoop_down
    (fun i t =>
      Rewrites b (eraseRange (h.val b) i hi) h t)
    hLe (by simp) ?_ ?_ (by omega) ?_
  · intro i hLo hHi
    exact ulongSub_of_le (by omega) (by omega)
  · intro i t hLo hHi hSoFar
    have hIndex : ulongSub i 1 = i - 1 :=
      ulongSub_of_le (by omega) (by omega)
    rcases hLive (i - 1) (by omega) (by omega) with
      ⟨v, hValue⟩
    have hHere : t.val b (i - 1) = some v := by
      rw [hSoFar.values]
      unfold eraseRange
      rw [if_neg (by omega)]
      exact hValue
    have hIn : i - 1 < t.capacity b := by
      rw [hSoFar.capacity]
      omega
    rw [hIndex]
    refine (returns_destroyAt hIn hHere).mono ?_
    intro _ u hStep
    refine (hSoFar.trans hStep).congr ?_
    intro j
    rw [funext hSoFar.values,
      update_eraseRange_down _ (by omega) hHi]
  · rw [eraseRange_self]
    exact Rewrites.refl b h

/- Constructing copies of `v` from `lo` below `hi`. -/
theorem returns_constructUp
    (I : Instantiation T)
    {h : Heap T}
    {b lo hi fuel : Nat}
    {stuck : Fault}
    {next : Nat → Nat}
    (v : T)
    (hLe : lo ≤ hi)
    (hBound : hi ≤ h.capacity b)
    (hNext : ∀ i, lo ≤ i → i < hi → next i = i + 1)
    (hFuel : hi - lo ≤ fuel)
    (hRaw :
      I.triviallyDestructible = false →
        ∀ j, lo ≤ j → j < hi → h.val b j = none) :
    Returns
      (forLoop stuck (fun i => decide (i < hi)) next
        (fun i => constructAt I (some b) i v) fuel lo) h
      (fun j t =>
        j = hi ∧
          Rewrites b (fillRange (h.val b) lo hi v) h t) := by
  refine returns_forLoop_up
    (fun i t =>
      Rewrites b (fillRange (h.val b) lo i v) h t)
    hLe (by simp) hNext ?_ hFuel ?_
  · intro i t hLo hHi hSoFar
    have hHere :
        I.triviallyDestructible = false →
          t.val b i = none := by
      intro hTrivial
      rw [hSoFar.values]
      unfold fillRange
      rw [if_neg (by omega)]
      exact hRaw hTrivial i hLo hHi
    have hIn : i < t.capacity b := by
      rw [hSoFar.capacity]
      omega
    refine (returns_constructAt I v hIn hHere).mono ?_
    intro _ u hStep
    refine (hSoFar.trans hStep).congr ?_
    intro j
    rw [funext hSoFar.values, update_fillRange _ v hLo]
  · rw [fillRange_self]
    exact Rewrites.refl b h

/- `memset` writes zero values over a range. -/
theorem returns_zeroSlots
    (I : Instantiation T)
    {h : Heap T}
    {b start number : Nat}
    (hBound : start + number ≤ h.capacity b) :
    Returns (zeroSlots I (some b) start number) h
      (fun _ t =>
        Rewrites b
          (fillRange (h.val b) start (start + number)
            I.zeroBytes) h t) := by
  unfold zeroSlots
  by_cases hZero : number = 0
  · subst hZero
    simp only [if_true, returns_pure, Nat.add_zero,
      fillRange_self]
    exact Rewrites.refl b h
  · rw [if_neg hZero, returns_bind,
      returns_locate (by omega), returns_modify]
    refine (Rewrites.replace h b _).congr ?_
    intro j
    unfold fillRange
    split
    next => rfl
    next => rfl

/- `memcpy` and `memmove` copy a range into a buffer. -/
theorem returns_copySlots
    {h : Heap T}
    {d target source number : Nat}
    {src : Pointer}
    (hTarget : target + number ≤ h.capacity d)
    (hSource :
      0 < number →
        ∃ s, src = some s ∧
          source + number ≤ h.capacity s) :
    Returns (copySlots (some d) target src source number) h
      (fun _ t =>
        Rewrites d
          (fun j =>
            if target ≤ j ∧ j < target + number then
              src.bind (fun s =>
                h.val s (source + (j - target)))
            else
              h.val d j) h t) := by
  unfold copySlots
  by_cases hZero : number = 0
  · subst hZero
    simp only [if_true, returns_pure]
    refine (Rewrites.refl d h).congr ?_
    intro j
    rw [if_neg (by omega)]
  · rcases hSource (by omega) with ⟨s, hSrc, hFits⟩
    subst hSrc
    rw [if_neg hZero, returns_bind,
      returns_locate (by omega), returns_bind,
      returns_locate (by omega), returns_modify]
    refine (Rewrites.replace h d _).congr ?_
    intro j
    split
    next => rfl
    next => rfl

end KArray

end CxPlat
