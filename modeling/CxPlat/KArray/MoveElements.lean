import CxPlat.KArray.Slots

/-
  `KArray::moveElements`: the element-wise shift and
  `memmove` place the same values.

  The three loops of a shift share one counter.  The values
  of the buffer at counter `i` are written down in closed
  form, `shiftRight` and `shiftLeft`, and one step lemma per
  direction says how a round changes them; the loops then
  follow by the counting rules.

  Key definitions include:
    * `shiftRight`, `shiftLeft`
    * `Moved`

  Key theorems include:
    * `returns_shiftRightMove`, `returns_shiftLeftMove`
    * `returns_moveElements`
-/

------------------------------------------------------------
-- Shifting Right
------------------------------------------------------------

namespace CxPlat

namespace KArray

open Comp

variable {T : Type}

/-
  The values of a buffer while `number` elements move up from
  `source` to `target`, when the counter is `i`.  Slots from
  `i` on have their new value; the `target - source` slots
  below have been moved from.
-/
def shiftRight
    (I : Instantiation T)
    (g : Nat → Option T)
    (source target number i j : Nat) : Option T :=
  if i ≤ j ∧ j < target + number then
    g (j - (target - source))
  else if
      i ≤ j + (target - source) ∧ j < i ∧
        j < source + number then
    (g j).map I.moved
  else
    g j

/- Before the first round nothing has changed. -/
theorem shiftRight_start
    (I : Instantiation T)
    (g : Nat → Option T)
    {source target number : Nat}
    (hLt : source < target) :
    shiftRight I g source target number
      (target + number) = g := by
  funext j
  unfold shiftRight
  rw [if_neg (by omega), if_neg (by omega)]

/- A slot behind the counter holds a moved-from object. -/
theorem shiftRight_behind
    (I : Instantiation T)
    {g : Nat → Option T}
    {source target number i j : Nat}
    {v : T}
    (hLo : i ≤ j + (target - source))
    (hHi : j < i)
    (hEnd : j < source + number)
    (hValue : g j = some v) :
    shiftRight I g source target number i j =
      some (I.moved v) := by
  unfold shiftRight
  rw [if_neg (by omega), if_pos (by omega), hValue]
  rfl

/-
  One round at counter `i` takes the values to those at
  counter `i - 1`, whatever slot `i - 1` held before.
-/
theorem update_shiftRight
    (I : Instantiation T)
    (g f : Nat → Option T)
    {source target number i : Nat}
    {v : T}
    (hLt : source < target)
    (hLo : target < i)
    (hHi : i ≤ target + number)
    (hValue : g (i - 1 - (target - source)) = some v)
    (hAgree :
      ∀ j, j ≠ i - 1 →
        f j = shiftRight I g source target number i j) :
    Function.update
        (Function.update f (i - 1 - (target - source))
          (some (I.moved v)))
        (i - 1) (some v) =
      shiftRight I g source target number (i - 1) := by
  funext j
  by_cases hTop : j = i - 1
  · subst hTop
    rw [Function.update_self]
    unfold shiftRight
    rw [if_pos (by omega), hValue]
  · rw [Function.update_of_ne hTop]
    by_cases hFrom : j = i - 1 - (target - source)
    · subst hFrom
      rw [Function.update_self]
      unfold shiftRight
      rw [if_neg (by omega), if_pos (by omega), hValue]
      rfl
    · rw [Function.update_of_ne hFrom, hAgree j hTop]
      have hDone :
          (i ≤ j ∧ j < target + number) ↔
            (i - 1 ≤ j ∧ j < target + number) := by
        omega
      have hMoved :
          (i ≤ j + (target - source) ∧ j < i ∧
              j < source + number) ↔
            (i - 1 ≤ j + (target - source) ∧ j < i - 1 ∧
              j < source + number) := by
        omega
      unfold shiftRight
      simp only [hDone, hMoved]

/-
  The move of one round.  Slot `i - 1` is raw or, in the
  second loop, has just been destroyed.
-/
theorem returns_shiftRightMove
    (I : Instantiation T)
    {g f : Nat → Option T}
    {h t : Heap T}
    {b source target number i : Nat}
    (hLt : source < target)
    (hBound : target + number ≤ h.capacity b)
    (hLo : target < i)
    (hHi : i ≤ target + number)
    (hLive :
      ∀ j, source ≤ j → j < source + number →
        ∃ v, g j = some v)
    (hSoFar : Rewrites b f h t)
    (hRaw :
      I.triviallyDestructible = false → f (i - 1) = none)
    (hAgree :
      ∀ j, j ≠ i - 1 →
        f j = shiftRight I g source target number i j) :
    Returns
      (moveConstructAt I (some b) (i - 1) (some b)
        (i - 1 - (target - source))) t
      (fun _ u =>
        Rewrites b
          (shiftRight I g source target number (i - 1))
          h u) := by
  rcases hLive (i - 1 - (target - source))
      (by omega) (by omega) with ⟨v, hValue⟩
  have hHere : f (i - 1 - (target - source)) = some v := by
    rw [hAgree _ (by omega)]
    unfold shiftRight
    rw [if_neg (by omega), if_neg (by omega), hValue]
  rw [← update_shiftRight I g f hLt hLo hHi hValue hAgree]
  exact hSoFar.returns_moveConstructAt I (by omega)
    (by omega) hRaw (by omega) hHere

/- The indices of a round do not wrap. -/
theorem shiftRight_indices
    {source target number i : Nat}
    (hLt : source < target)
    (hEnd : target + number < 2 ^ 32)
    (hLo : target < i)
    (hHi : i ≤ target + number) :
    ulongSub i 1 = i - 1 ∧
      ulongSub (ulongSub i (ulongSub target source)) 1 =
        i - 1 - (target - source) := by
  have hDelta : ulongSub target source = target - source :=
    ulongSub_of_le (by omega) (by omega)
  have hInner :
      ulongSub i (target - source) =
        i - (target - source) :=
    ulongSub_of_le (by omega) (by omega)
  refine ⟨ulongSub_of_le (by omega) (by omega), ?_⟩
  rw [hDelta, hInner, ulongSub_of_le (by omega) (by omega)]
  omega

/- The first loop constructs above the old end. -/
theorem returns_shiftRightConstruct
    (I : Instantiation T)
    {g : Nat → Option T}
    {h t : Heap T}
    {b source target number : Nat}
    (hLt : source < target)
    (hNumber : 0 < number)
    (hEnd : target + number < 2 ^ 32)
    (hBound : target + number ≤ h.capacity b)
    (hLive :
      ∀ j, source ≤ j → j < source + number →
        ∃ v, g j = some v)
    (hRaw :
      I.triviallyDestructible = false →
        ∀ j, source + number ≤ j → j < target + number →
          g j = none)
    (hDelta : target - source ≤ number)
    (hStart : Rewrites b g h t) :
    Returns
      (ulongLoop
        (fun i =>
          decide (ulongSub i 1 ≥ source + number))
        (fun i => ulongSub i 1)
        (fun i =>
          moveConstructAt I (some b) (ulongSub i 1) (some b)
            (ulongSub
              (ulongSub i (ulongSub target source)) 1))
        (target + number)) t
      (fun i u =>
        i = source + number ∧
          Rewrites b
            (shiftRight I g source target number
              (source + number)) h u) := by
  refine returns_forLoop_down
    (fun i u =>
      Rewrites b (shiftRight I g source target number i)
        h u)
    (by omega) ?_ ?_ ?_ (by omega) ?_
  · intro i hLo hHi
    rw [decide_eq_true_iff,
      ulongSub_of_le (by omega) (by omega)]
    omega
  · intro i hLo hHi
    exact ulongSub_of_le (by omega) (by omega)
  · intro i u hLo hHi hSoFar
    rcases shiftRight_indices hLt hEnd (by omega) hHi with
      ⟨hIndex, hFrom⟩
    rw [hIndex, hFrom]
    refine returns_shiftRightMove I hLt hBound
      (by omega) hHi hLive hSoFar ?_ (fun _ _ => rfl)
    intro hTrivial
    unfold shiftRight
    rw [if_neg (by omega), if_neg (by omega)]
    exact hRaw hTrivial _ (by omega) (by omega)
  · rw [shiftRight_start I g hLt]
    exact hStart

/- The second loop replaces one object after another. -/
theorem returns_shiftRightReplace
    (I : Instantiation T)
    {g : Nat → Option T}
    {h t : Heap T}
    {b source target number : Nat}
    (hLt : source < target)
    (hEnd : target + number < 2 ^ 32)
    (hBound : target + number ≤ h.capacity b)
    (hLive :
      ∀ j, source ≤ j → j < source + number →
        ∃ v, g j = some v)
    (hDelta : target - source ≤ number)
    (hStart :
      Rewrites b
        (shiftRight I g source target number
          (source + number)) h t) :
    Returns
      (ulongLoop (fun i => decide (i > target))
        (fun i => ulongSub i 1)
        (fun i => do
          destroyAt (some b) (ulongSub i 1)
          moveConstructAt I (some b) (ulongSub i 1) (some b)
            (ulongSub
              (ulongSub i (ulongSub target source)) 1))
        (source + number)) t
      (fun i u =>
        i = target ∧
          Rewrites b
            (shiftRight I g source target number target)
            h u) := by
  refine returns_forLoop_down
    (fun i u =>
      Rewrites b (shiftRight I g source target number i)
        h u)
    (by omega) (by simp) ?_ ?_ (by omega) hStart
  · intro i hLo hHi
    exact ulongSub_of_le (by omega) (by omega)
  · intro i u hLo hHi hSoFar
    rcases shiftRight_indices hLt hEnd hLo (by omega) with
      ⟨hIndex, hFrom⟩
    -- Slot `i - 1` holds an object that was moved from.
    have hTop :
        ∃ v, u.val b (i - 1) = some v := by
      rcases hLive (i - 1) (by omega) (by omega) with
        ⟨v, hValue⟩
      refine ⟨I.moved v, ?_⟩
      rw [hSoFar.values]
      exact shiftRight_behind I (by omega) (by omega)
        (by omega) hValue
    rcases hTop with ⟨v, hTop⟩
    have hIn : i - 1 < u.capacity b := by
      rw [hSoFar.capacity]
      omega
    rw [hIndex, hFrom]
    refine (returns_destroyAt hIn hTop).bind ?_
    intro _ w hCleared
    rw [funext hSoFar.values] at hCleared
    refine returns_shiftRightMove I hLt hBound
      hLo (by omega) hLive (hSoFar.trans hCleared) ?_ ?_
    · intro _
      rw [Function.update_self]
    · intro j hNe
      rw [Function.update_of_ne hNe]

end KArray

end CxPlat

------------------------------------------------------------
-- Shifting Left
------------------------------------------------------------

namespace CxPlat

namespace KArray

open Comp

variable {T : Type}

/-
  The values while `number` elements move down from `source`
  to `target`, when the counter is `i`.
-/
def shiftLeft
    (I : Instantiation T)
    (g : Nat → Option T)
    (source target i j : Nat) : Option T :=
  if target ≤ j ∧ j < i then
    g (j + (source - target))
  else if source ≤ j ∧ j < i + (source - target) then
    (g j).map I.moved
  else
    g j

theorem shiftLeft_start
    (I : Instantiation T)
    (g : Nat → Option T)
    {source target : Nat}
    (hLt : target < source) :
    shiftLeft I g source target target = g := by
  funext j
  unfold shiftLeft
  rw [if_neg (by omega), if_neg (by omega)]

theorem shiftLeft_behind
    (I : Instantiation T)
    {g : Nat → Option T}
    {source target i j : Nat}
    {v : T}
    (hLo : i ≤ j)
    (hHi : j < i + (source - target))
    (hStart : source ≤ j)
    (hValue : g j = some v) :
    shiftLeft I g source target i j = some (I.moved v) := by
  unfold shiftLeft
  rw [if_neg (by omega), if_pos (by omega), hValue]
  rfl

/- One round at counter `i`, as in `update_shiftRight`. -/
theorem update_shiftLeft
    (I : Instantiation T)
    (g f : Nat → Option T)
    {source target i : Nat}
    {v : T}
    (hLt : target < source)
    (hLo : target ≤ i)
    (hValue : g (i + (source - target)) = some v)
    (hAgree :
      ∀ j, j ≠ i → f j = shiftLeft I g source target i j) :
    Function.update
        (Function.update f (i + (source - target))
          (some (I.moved v)))
        i (some v) =
      shiftLeft I g source target (i + 1) := by
  funext j
  by_cases hTop : j = i
  · subst hTop
    rw [Function.update_self]
    unfold shiftLeft
    rw [if_pos (by omega), hValue]
  · rw [Function.update_of_ne hTop]
    by_cases hFrom : j = i + (source - target)
    · subst hFrom
      rw [Function.update_self]
      unfold shiftLeft
      rw [if_neg (by omega), if_pos (by omega), hValue]
      rfl
    · rw [Function.update_of_ne hFrom, hAgree j hTop]
      have hDone :
          (target ≤ j ∧ j < i) ↔
            (target ≤ j ∧ j < i + 1) := by
        omega
      have hMoved :
          (source ≤ j ∧ j < i + (source - target)) ↔
            (source ≤ j ∧ j < i + 1 + (source - target)) := by
        omega
      unfold shiftLeft
      simp only [hDone, hMoved]

theorem returns_shiftLeftMove
    (I : Instantiation T)
    {g f : Nat → Option T}
    {h t : Heap T}
    {b source target number i : Nat}
    (hLt : target < source)
    (hBound : source + number ≤ h.capacity b)
    (hLo : target ≤ i)
    (hHi : i < target + number)
    (hLive :
      ∀ j, source ≤ j → j < source + number →
        ∃ v, g j = some v)
    (hSoFar : Rewrites b f h t)
    (hRaw :
      I.triviallyDestructible = false → f i = none)
    (hAgree :
      ∀ j, j ≠ i → f j = shiftLeft I g source target i j) :
    Returns
      (moveConstructAt I (some b) i (some b)
        (i + (source - target))) t
      (fun _ u =>
        Rewrites b (shiftLeft I g source target (i + 1))
          h u) := by
  rcases hLive (i + (source - target))
      (by omega) (by omega) with ⟨v, hValue⟩
  have hHere : f (i + (source - target)) = some v := by
    rw [hAgree _ (by omega)]
    unfold shiftLeft
    rw [if_neg (by omega), if_neg (by omega), hValue]
  rw [← update_shiftLeft I g f hLt hLo hValue hAgree]
  exact hSoFar.returns_moveConstructAt I (by omega)
    (by omega) hRaw (by omega) hHere

theorem shiftLeft_index
    {source target number i : Nat}
    (hLt : target < source)
    (hEnd : source + number < 2 ^ 32)
    (hHi : i < target + number) :
    ulongAdd i (ulongSub source target) =
      i + (source - target) := by
  have hDelta : ulongSub source target = source - target :=
    ulongSub_of_le (by omega) (by omega)
  rw [hDelta]
  exact ulongAdd_of_lt (by omega)

/- The first loop constructs in the gap below `source`. -/
theorem returns_shiftLeftConstruct
    (I : Instantiation T)
    {g : Nat → Option T}
    {h t : Heap T}
    {b source target number : Nat}
    (hLt : target < source)
    (hEnd : source + number < 2 ^ 32)
    (hBound : source + number ≤ h.capacity b)
    (hLive :
      ∀ j, source ≤ j → j < source + number →
        ∃ v, g j = some v)
    (hRaw :
      I.triviallyDestructible = false →
        ∀ j, target ≤ j → j < source → g j = none)
    (hDelta : source - target ≤ number)
    (hStart : Rewrites b g h t) :
    Returns
      (ulongLoop (fun i => decide (i < source))
        (fun i => ulongAdd i 1)
        (fun i =>
          moveConstructAt I (some b) i (some b)
            (ulongAdd i (ulongSub source target)))
        target) t
      (fun i u =>
        i = source ∧
          Rewrites b (shiftLeft I g source target source)
            h u) := by
  refine returns_forLoop_up
    (fun i u =>
      Rewrites b (shiftLeft I g source target i) h u)
    (by omega) (by simp) ?_ ?_ (by omega) ?_
  · intro i hLo hHi
    exact ulongAdd_of_lt (by omega)
  · intro i u hLo hHi hSoFar
    rw [shiftLeft_index hLt hEnd (by omega)]
    refine returns_shiftLeftMove I hLt hBound
      hLo (by omega) hLive hSoFar ?_ (fun _ _ => rfl)
    intro hTrivial
    unfold shiftLeft
    rw [if_neg (by omega), if_neg (by omega)]
    exact hRaw hTrivial _ (by omega) (by omega)
  · rw [shiftLeft_start I g hLt]
    exact hStart

/- The second loop replaces one object after another. -/
theorem returns_shiftLeftReplace
    (I : Instantiation T)
    {g : Nat → Option T}
    {h t : Heap T}
    {b source target number : Nat}
    (hLt : target < source)
    (hEnd : source + number < 2 ^ 32)
    (hBound : source + number ≤ h.capacity b)
    (hLive :
      ∀ j, source ≤ j → j < source + number →
        ∃ v, g j = some v)
    (hDelta : source - target ≤ number)
    (hStart :
      Rewrites b (shiftLeft I g source target source) h t) :
    Returns
      (ulongLoop (fun i => decide (i < target + number))
        (fun i => ulongAdd i 1)
        (fun i => do
          destroyAt (some b) i
          moveConstructAt I (some b) i (some b)
            (ulongAdd i (ulongSub source target)))
        source) t
      (fun i u =>
        i = target + number ∧
          Rewrites b
            (shiftLeft I g source target (target + number))
            h u) := by
  refine returns_forLoop_up
    (fun i u =>
      Rewrites b (shiftLeft I g source target i) h u)
    (by omega) (by simp) ?_ ?_ (by omega) hStart
  · intro i hLo hHi
    exact ulongAdd_of_lt (by omega)
  · intro i u hLo hHi hSoFar
    -- Slot `i` holds an object that was moved from.
    have hTop : ∃ v, u.val b i = some v := by
      rcases hLive i (by omega) (by omega) with
        ⟨v, hValue⟩
      refine ⟨I.moved v, ?_⟩
      rw [hSoFar.values]
      exact shiftLeft_behind I (Nat.le_refl i) (by omega)
        (by omega) hValue
    rcases hTop with ⟨v, hTop⟩
    have hIn : i < u.capacity b := by
      rw [hSoFar.capacity]
      omega
    rw [shiftLeft_index hLt hEnd hHi]
    refine (returns_destroyAt hIn hTop).bind ?_
    intro _ w hCleared
    rw [funext hSoFar.values] at hCleared
    refine returns_shiftLeftMove I hLt hBound
      (by omega) hHi hLive (hSoFar.trans hCleared) ?_ ?_
    · intro _
      rw [Function.update_self]
    · intro j hNe
      rw [Function.update_of_ne hNe]

end KArray

end CxPlat

------------------------------------------------------------
-- All Cases
------------------------------------------------------------

namespace CxPlat

namespace KArray

open Comp

variable {T : Type}

/-
  The values `f` are the values `g` after the elements from
  `source` on have been moved to `target`.  When objects have
  destructors the vacated slots are raw.
-/
structure Moved
    (I : Instantiation T)
    (g f : Nat → Option T)
    (source target number : Nat) : Prop where
  placed :
    ∀ j, j < number → f (target + j) = g (source + j)
  below : ∀ j, j < source → j < target → f j = g j
  above :
    ∀ j, source + number ≤ j → target + number ≤ j →
      f j = g j
  vacatedRight :
    I.triviallyDestructible = false →
      ∀ j, source ≤ j → j < target → f j = none
  vacatedLeft :
    I.triviallyDestructible = false →
      ∀ j, target + number ≤ j → j < source + number →
        f j = none

/- Nothing moves. -/
theorem moved_none
    (I : Instantiation T)
    {g : Nat → Option T}
    {source target : Nat}
    (hRawAbove :
      I.triviallyDestructible = false →
        ∀ j, source ≤ j → j < target → g j = none)
    (hRawBelow :
      I.triviallyDestructible = false →
        ∀ j, target ≤ j → j < source → g j = none) :
    Moved I g g source target 0 where
  placed := by
    intro j hLt
    contradiction
  below := fun _ _ _ => rfl
  above := fun _ _ _ => rfl
  vacatedRight := hRawAbove
  vacatedLeft := hRawBelow

/- What `memmove` leaves. -/
theorem moved_copied
    (I : Instantiation T)
    (g : Nat → Option T)
    (source target number : Nat)
    (hTrivial : I.triviallyDestructible = true) :
    Moved I g
      (fun j =>
        if target ≤ j ∧ j < target + number then
          g (source + (j - target))
        else
          g j)
      source target number where
  placed := by
    intro j hLt
    have hShift : target + j - target = j := by omega
    simp [hLt, hShift]
  below := by
    intro j hSource hTarget
    rw [if_neg (by omega)]
  above := by
    intro j hSource hTarget
    rw [if_neg (by omega)]
  vacatedRight := by
    rw [hTrivial]
    intro hFalse
    contradiction
  vacatedLeft := by
    rw [hTrivial]
    intro hFalse
    contradiction

/- What the three loops upwards leave. -/
theorem moved_shiftRight
    (I : Instantiation T)
    (g : Nat → Option T)
    {source target number : Nat}
    (hLt : source < target) :
    Moved I g
      (eraseRange
        (shiftRight I g source target number target)
        source target)
      source target number where
  placed := by
    intro j hNumber
    unfold eraseRange shiftRight
    rw [if_neg (by omega), if_pos (by omega)]
    congr 1
    omega
  below := by
    intro j hSource hTarget
    unfold eraseRange shiftRight
    rw [if_neg (by omega), if_neg (by omega),
      if_neg (by omega)]
  above := by
    intro j hSource hTarget
    unfold eraseRange shiftRight
    rw [if_neg (by omega), if_neg (by omega),
      if_neg (by omega)]
  vacatedRight := by
    intro _ j hLo hHi
    unfold eraseRange
    rw [if_pos (by omega)]
  vacatedLeft := by
    intro _ j hLo hHi
    omega

/- What the three loops downwards leave. -/
theorem moved_shiftLeft
    (I : Instantiation T)
    (g : Nat → Option T)
    {source target number : Nat}
    (hLt : target < source) :
    Moved I g
      (eraseRange
        (shiftLeft I g source target (target + number))
        (target + number) (source + number))
      source target number where
  placed := by
    intro j hNumber
    unfold eraseRange shiftLeft
    rw [if_neg (by omega), if_pos (by omega)]
    congr 1
    omega
  below := by
    intro j hSource hTarget
    unfold eraseRange shiftLeft
    rw [if_neg (by omega), if_neg (by omega),
      if_neg (by omega)]
  above := by
    intro j hSource hTarget
    unfold eraseRange shiftLeft
    rw [if_neg (by omega), if_neg (by omega),
      if_neg (by omega)]
  vacatedRight := by
    intro _ j hLo hHi
    omega
  vacatedLeft := by
    intro _ j hLo hHi
    unfold eraseRange
    rw [if_pos (by omega)]

/- `memmove` copies the values. -/
theorem returns_moveElements_copied
    (I : Instantiation T)
    {h : Heap T}
    {a : KArray}
    {b source target number : Nat}
    (hPointer : a.p = some b)
    (hBytes : I.sizeOf * a.bufferSize < I.sizeT.modulus)
    (hSize : h.capacity b = a.bufferSize)
    (hEnd : source + number ≤ a.bufferSize)
    (hFits : target + number ≤ a.bufferSize)
    (hNe : source ≠ target)
    (hNumber : 0 < number)
    (hCopy : I.triviallyCopyable = true) :
    Returns (moveElements I a source target number) h
      (fun _ t =>
        Rewrites b
          (fun j =>
            if target ≤ j ∧ j < target + number then
              h.val b (source + (j - target))
            else
              h.val b j) h t) := by
  unfold moveElements
  rw [hPointer, if_neg (by omega), if_pos hCopy,
    slotsOf_of_le I hBytes (by omega)]
  exact returns_copySlots (by omega)
    (fun _ => ⟨b, rfl, by omega⟩)

/- Upwards, the loops leave raw slots behind. -/
theorem returns_moveElements_right
    (I : Instantiation T)
    {h : Heap T}
    {a : KArray}
    {b source target number : Nat}
    (hPointer : a.p = some b)
    (hCount : a.numElements = source + number)
    (hSize : h.capacity b = a.bufferSize)
    (hMax : a.bufferSize < 2 ^ 32)
    (hFits : target + number ≤ a.bufferSize)
    (hRight : source < target)
    (hNumber : 0 < number)
    (hDelta : target - source ≤ number)
    (hCopy : I.triviallyCopyable = false)
    (hLive :
      ∀ j, source ≤ j → j < source + number →
        ∃ v, h.val b j = some v)
    (hRawAbove :
      I.triviallyDestructible = false →
        ∀ j, source + number ≤ j → j < target + number →
          h.val b j = none) :
    Returns (moveElements I a source target number) h
      (fun _ t =>
        Rewrites b
          (eraseRange
            (shiftRight I (h.val b) source target number
              target)
            source target) h t) := by
  have hAdd : ulongAdd source number = source + number :=
    ulongAdd_of_lt (by omega)
  have hAddTo : ulongAdd target number = target + number :=
    ulongAdd_of_lt (by omega)
  unfold moveElements
  rw [hPointer, if_neg (by omega), if_neg (by simp [hCopy]),
    if_pos hRight, if_neg (by omega)]
  dsimp only
  rw [hAddTo, hCount]
  refine (returns_shiftRightConstruct I hRight hNumber
    (by omega) (by omega) hLive hRawAbove (by omega)
    (Rewrites.refl b h)).bind ?_
  rintro i t ⟨hCounter, hFirst⟩
  subst hCounter
  refine (returns_shiftRightReplace I hRight
    (by omega) (by omega) hLive (by omega)
    hFirst).bind ?_
  rintro i u ⟨hCounter, hSecond⟩
  subst hCounter
  have hVacated :
      ∀ j, source ≤ j → j < i →
        ∃ v, u.val b j = some v := by
    intro j hLo hHi
    rcases hLive j hLo (by omega) with ⟨v, hValue⟩
    refine ⟨I.moved v, ?_⟩
    rw [hSecond.values]
    exact shiftRight_behind I (by omega) hHi (by omega)
      hValue
  refine (returns_destroyDown (by omega) (by omega)
    (by rw [hSecond.capacity]; omega) hVacated).bind ?_
  rintro k w ⟨_, hThird⟩
  rw [returns_pure, ← funext hSecond.values]
  exact hSecond.trans hThird

/- And so they do downwards. -/
theorem returns_moveElements_left
    (I : Instantiation T)
    {h : Heap T}
    {a : KArray}
    {b source target number : Nat}
    (hPointer : a.p = some b)
    (hCount : a.numElements = source + number)
    (hSize : h.capacity b = a.bufferSize)
    (hMax : a.bufferSize < 2 ^ 32)
    (hEnd : source + number ≤ a.bufferSize)
    (hLeft : target < source)
    (hNumber : 0 < number)
    (hDelta : source - target ≤ number)
    (hCopy : I.triviallyCopyable = false)
    (hLive :
      ∀ j, source ≤ j → j < source + number →
        ∃ v, h.val b j = some v)
    (hRawBelow :
      I.triviallyDestructible = false →
        ∀ j, target ≤ j → j < source → h.val b j = none) :
    Returns (moveElements I a source target number) h
      (fun _ t =>
        Rewrites b
          (eraseRange
            (shiftLeft I (h.val b) source target
              (target + number))
            (target + number) (source + number)) h t) := by
  have hAdd : ulongAdd source number = source + number :=
    ulongAdd_of_lt (by omega)
  have hAddTo : ulongAdd target number = target + number :=
    ulongAdd_of_lt (by omega)
  unfold moveElements
  rw [hPointer, if_neg (by omega), if_neg (by simp [hCopy]),
    if_neg (by omega), if_neg (by omega)]
  dsimp only
  rw [hAddTo, hAdd]
  refine (returns_shiftLeftConstruct I hLeft
    (by omega) (by omega) hLive hRawBelow (by omega)
    (Rewrites.refl b h)).bind ?_
  rintro i t ⟨hCounter, hFirst⟩
  subst hCounter
  refine (returns_shiftLeftReplace I hLeft
    (by omega) (by omega) hLive (by omega)
    hFirst).bind ?_
  rintro k u ⟨hCounter, hSecond⟩
  subst hCounter
  have hVacated :
      ∀ j, target + number ≤ j → j < i + number →
        ∃ v, u.val b j = some v := by
    intro j hLo hHi
    rcases hLive j (by omega) hHi with ⟨v, hValue⟩
    refine ⟨I.moved v, ?_⟩
    rw [hSecond.values]
    exact shiftLeft_behind I hLo (by omega) (by omega)
      hValue
  refine Returns.bind
    (returns_destroyUp (by omega)
      (by rw [hSecond.capacity]; omega)
      (fun j hLo hHi => ulongAdd_of_lt (by omega))
      (by omega) hVacated) ?_
  rintro k w ⟨_, hThird⟩
  rw [returns_pure, ← funext hSecond.values]
  exact hSecond.trans hThird

/-
  `moveElements` places the values as `memmove` does, for any
  shift by at most `number` slots, and no loop wraps.
-/
theorem returns_moveElements
    (I : Instantiation T)
    {h : Heap T}
    {a : KArray}
    {b source target number : Nat}
    (hPointer : a.p = some b)
    (hCount : a.numElements = source + number)
    (hBytes : I.sizeOf * a.bufferSize < I.sizeT.modulus)
    (hSize : h.capacity b = a.bufferSize)
    (hMax : a.bufferSize < 2 ^ 32)
    (hEnd : source + number ≤ a.bufferSize)
    (hFits : target + number ≤ a.bufferSize)
    (hNe : source ≠ target)
    (hDelta :
      number = 0 ∨
        target - source ≤ number ∧
          source - target ≤ number)
    (hLive :
      ∀ j, source ≤ j → j < source + number →
        ∃ v, h.val b j = some v)
    (hRawAbove :
      I.triviallyDestructible = false →
        ∀ j, source + number ≤ j → j < target + number →
          h.val b j = none)
    (hRawBelow :
      I.triviallyDestructible = false →
        ∀ j, target ≤ j → j < source → h.val b j = none) :
    Returns (moveElements I a source target number) h
      (fun _ t =>
        ∃ f, Rewrites b f h t ∧
          Moved I (h.val b) f source target number) := by
  by_cases hNothing : number = 0
  · subst hNothing
    unfold moveElements
    rw [if_pos (Or.inr rfl), returns_pure]
    refine ⟨h.val b, Rewrites.refl b h, ?_⟩
    exact moved_none I hRawAbove hRawBelow
  have hNumber : 0 < number := by omega
  cases hCopy : I.triviallyCopyable with
  | true =>
      apply (returns_moveElements_copied I hPointer hBytes
        hSize hEnd hFits hNe hNumber hCopy).mono
      intro _ t hCopied
      refine ⟨_, hCopied, ?_⟩
      apply moved_copied
      exact I.destructible_of_copyable hCopy
  | false =>
      by_cases hRight : source < target
      · apply (returns_moveElements_right I hPointer hCount
          hSize hMax hFits hRight hNumber (by omega) hCopy
          hLive hRawAbove).mono
        intro _ t hRewrites
        exact ⟨_, hRewrites, moved_shiftRight I _ hRight⟩
      · have hLeft : target < source := by omega
        apply (returns_moveElements_left I hPointer hCount
          hSize hMax hEnd hLeft hNumber (by omega) hCopy
          hLive hRawBelow).mono
        intro _ t hRewrites
        exact ⟨_, hRewrites, moved_shiftLeft I _ hLeft⟩

end KArray

end CxPlat
