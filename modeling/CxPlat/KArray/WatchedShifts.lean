import CxPlat.KArray.Watched

/-
  Element-wise moves agree with `memmove`.

  The last elements of an array are shifted by no more than
  their number, upwards to make room or downwards to close a
  gap.  The watched code then raises no alarm: at every
  counter the slots that have been touched are those above,
  or below, the next one to be read.

  Key definitions include:
    * `Shift`
    * `RightProgress`, `LeftProgress`

  Key theorems include:
    * `Shift.returns_rightRound`, `Shift.returns_leftRound`
    * `Shift.returns_watchedRight`,
      `Shift.returns_watchedLeft`
    * `Shift.returns_watchedMoveElements`
    * `moveElements_agrees`
-/

------------------------------------------------------------
-- Shifts
------------------------------------------------------------

namespace CxPlat

namespace KArray

open Comp

variable {T : Type}

/-
  What `moveElements` is called for: shifting the last
  elements of an array by no more than their number, with
  raw slots to go to.
-/
structure Shift
    (h : Heap T)
    (a : KArray)
    (b source target number : Nat) : Prop where
  pointer : a.p = some b
  capacity : h.capacity b = a.bufferSize
  positive : 0 < number
  apart : source ≠ target
  near :
    target - source ≤ number ∧ source - target ≤ number
  count : source + number = a.numElements
  fits : target + number ≤ a.bufferSize
  small : a.bufferSize < 2 ^ 32 - 1
  live :
    ∀ j, source ≤ j → j < source + number →
      j < h.capacity b ∧ (h.slot b j).isLive = true
  rawAbove :
    ∀ j, a.numElements ≤ j → j < a.bufferSize →
      h.slot b j = .raw
  rawBelow :
    ∀ j, target ≤ j → j < source → h.slot b j = .raw

namespace Shift

variable {h : Heap T} {a : KArray}
variable {b source target number : Nat}

theorem end_le
    (hShift : Shift h a b source target number) :
    source + number ≤ a.bufferSize := by
  have hPositive := hShift.positive
  have hLast := (hShift.live (source + number - 1)
    (by omega) (by omega)).1
  rw [hShift.capacity] at hLast
  omega

theorem value
    (hShift : Shift h a b source target number) :
    ∀ j, source ≤ j → j < source + number →
      ∃ v, h.val b j = some v := by
  intro j hLo hHi
  have hLive := (hShift.live j hLo hHi).2
  unfold Heap.val
  cases hSlot : h.slot b j with
  | raw =>
      rw [hSlot] at hLive
      cases hLive
  | live born v => exact ⟨v, rfl⟩

theorem none_above
    (hShift : Shift h a b source target number)
    {j : Nat}
    (hLo : source + number ≤ j)
    (hHi : j < target + number) :
    h.val b j = none := by
  have hCount := hShift.count
  have hFits := hShift.fits
  unfold Heap.val
  rw [hShift.rawAbove j (by omega) (by omega)]
  rfl

theorem none_below
    (hShift : Shift h a b source target number)
    {j : Nat}
    (hLo : target ≤ j)
    (hHi : j < source) :
    h.val b j = none := by
  unfold Heap.val
  rw [hShift.rawBelow j hLo hHi]
  rfl

end Shift

end KArray

end CxPlat

------------------------------------------------------------
-- Upwards
------------------------------------------------------------

namespace CxPlat

namespace KArray

open Comp

variable {T : Type} {I : Instantiation T}
variable {h : Heap T} {a : KArray} {w : Watch T}
variable {b source target number : Nat}

/- Where the loops stand at counter `i`. -/
def RightProgress
    (I : Instantiation T)
    (h : Heap T)
    (b source target number i : Nat)
    (w : Watch T) : Prop :=
  Progress b h
    (shiftRight I (h.val b) source target number i)
    (fun j => i ≤ j + (target - source)) w

/-
  One round.  The slot to be read is the last one that has
  not been touched.
-/
theorem Shift.returns_rightRound
    (hShift : Shift h a b source target number)
    (hRight : source < target)
    {f : Nat → Option T}
    {i : Nat}
    (hLo : target < i)
    (hHi : i ≤ target + number)
    (hProgress :
      Progress b h f
        (fun j => i ≤ j + (target - source)) w)
    (hRaw : f (i - 1) = none)
    (hAgree :
      ∀ j, j ≠ i - 1 →
        f j =
          shiftRight I (h.val b) source target number i j) :
    Returns
      (do
        let k ← watchedSub i 1
        let j ← watchedSub i (target - source)
        let j ← watchedSub j 1
        watchedMove I (some b) k j) w
      (fun _ u =>
        RightProgress I h b source target number (i - 1)
          u) := by
  have hFits := hShift.fits
  have hSmall := hShift.small
  have hCapacity := hShift.capacity
  have hFrom :
      i - (target - source) - 1 =
        i - 1 - (target - source) := by
    omega
  rw [returns_bind,
    (finds_watchedSub (by omega) (by omega)).returns,
    returns_bind,
    (finds_watchedSub (by omega) (by omega)).returns,
    returns_bind,
    (finds_watchedSub (by omega) (by omega)).returns, hFrom]
  refine hProgress.returns_watchedMove
    (returns_shiftRightMove I hRight (by omega) hLo hHi
      hShift.value hProgress.rewrites (fun _ => hRaw) hAgree)
    hRaw (by omega) ?_
  intro k hTouched
  omega

/- The first loop constructs on raw slots. -/
theorem Shift.returns_rightConstruct
    (hShift : Shift h a b source target number)
    (hRight : source < target)
    (hStart :
      RightProgress I h b source target number
        (target + number) w) :
    Returns
      (watchedLoop
        (fun i => do
          let k ← watchedSub i 1
          pure (k ≥ a.numElements))
        (fun i => watchedSub i 1)
        (fun i => do
          let k ← watchedSub i 1
          let j ← watchedSub i (target - source)
          let j ← watchedSub j 1
          watchedMove I (some b) k j)
        (target + number)) w
      (fun i u =>
        i = source + number ∧
          RightProgress I h b source target number
            (source + number) u) := by
  have hFits := hShift.fits
  have hSmall := hShift.small
  have hCount := hShift.count
  have hNear := hShift.near
  have hPositive := hShift.positive
  refine returns_whileLoop_down
    (RightProgress I h b source target number)
    (by omega) ?_ ?_ ?_ (by omega) hStart
  · intro i hLo hHi
    have hTest :
        decide (source + number < i) =
          decide (i - 1 ≥ a.numElements) :=
      decide_eq_decide.mpr (by omega)
    rw [hTest]
    exact (finds_watchedSub (by omega) (by omega)).bind
      (finds_pure _)
  · intro i hLo hHi
    exact finds_watchedSub (by omega) (by omega)
  · intro i u hLo hHi hProgress
    refine hShift.returns_rightRound hRight (by omega) hHi
      hProgress ?_ (fun _ _ => rfl)
    unfold shiftRight
    rw [if_neg (by omega), if_neg (by omega)]
    exact hShift.none_above (by omega) (by omega)

/- The second loop destroys before it constructs. -/
theorem Shift.returns_rightReplace
    (hShift : Shift h a b source target number)
    (hRight : source < target)
    (hStart :
      RightProgress I h b source target number
        (source + number) w) :
    Returns
      (watchedLoop
        (fun i => pure (i > target))
        (fun i => watchedSub i 1)
        (fun i => do
          let k ← watchedSub i 1
          watchedDestroy (some b) k
          let k ← watchedSub i 1
          let j ← watchedSub i (target - source)
          let j ← watchedSub j 1
          watchedMove I (some b) k j)
        (source + number)) w
      (fun i u =>
        i = target ∧
          RightProgress I h b source target number target
            u) := by
  have hEnd := hShift.end_le
  have hSmall := hShift.small
  have hNear := hShift.near
  have hCapacity := hShift.capacity
  refine returns_whileLoop_down
    (RightProgress I h b source target number)
    (by omega) (fun _ _ _ => finds_pure _) ?_ ?_ (by omega)
    hStart
  · intro i hLo hHi
    exact finds_watchedSub (by omega) (by omega)
  · intro i u hLo hHi hProgress
    rcases hShift.value (i - 1) (by omega) (by omega) with
      ⟨v, hValue⟩
    rw [returns_bind,
      (finds_watchedSub (by omega) (by omega)).returns]
    refine (hProgress.returns_watchedDestroy (by omega)
      (shiftRight_behind I (by omega) (by omega) (by omega)
        hValue) (R := fun j => i ≤ j + (target - source))
      ?_).bind ?_
    · intro k hTouched
      omega
    · intro _ t hDestroyed
      refine hShift.returns_rightRound hRight hLo (by omega)
        hDestroyed ?_ ?_
      · rw [Function.update_self]
      · intro j hNe
        rw [Function.update_of_ne hNe]

/- The third loop destroys what is left behind. -/
theorem Shift.returns_rightDestroy
    (hShift : Shift h a b source target number)
    (hRight : source < target)
    (hStart :
      RightProgress I h b source target number target w) :
    Returns
      (watchedLoop
        (fun i => pure (i > source))
        (fun i => watchedSub i 1)
        (fun i => do
          let k ← watchedSub i 1
          watchedDestroy (some b) k)
        target) w
      (fun i u =>
        i = source ∧
          Progress b h
            (eraseRange
              (shiftRight I (h.val b) source target number
                target) source target)
            (fun j => source ≤ j) u) := by
  have hEnd := hShift.end_le
  have hFits := hShift.fits
  have hSmall := hShift.small
  have hNear := hShift.near
  have hCapacity := hShift.capacity
  refine returns_whileLoop_down
    (fun i u =>
      Progress b h
        (eraseRange
          (shiftRight I (h.val b) source target number
            target) i target)
        (fun j => source ≤ j) u)
    (by omega) (fun _ _ _ => finds_pure _) ?_ ?_ (by omega) ?_
  · intro i hLo hHi
    exact finds_watchedSub (by omega) (by omega)
  · intro i u hLo hHi hProgress
    rcases hShift.value (i - 1) (by omega) (by omega) with
      ⟨v, hValue⟩
    have hMoved :
        eraseRange
            (shiftRight I (h.val b) source target number
              target) i target (i - 1) =
          some (I.moved v) := by
      unfold eraseRange
      rw [if_neg (by omega)]
      exact shiftRight_behind I (by omega) (by omega)
        (by omega) hValue
    rw [returns_bind,
      (finds_watchedSub (by omega) (by omega)).returns,
      ← update_eraseRange_down _ (by omega) hHi]
    refine hProgress.returns_watchedDestroy (by omega)
      hMoved ?_
    intro k hTouched
    omega
  · rw [eraseRange_self]
    refine Progress.mono hStart ?_
    intro j hTouched
    omega

theorem Shift.returns_watchedRight
    (hShift : Shift h a b source target number)
    (hRight : source < target) :
    Returns (watchedRight I a source target number)
      { heap := h, touched := [] }
      (fun _ u =>
        Progress b h
          (eraseRange
            (shiftRight I (h.val b) source target number
              target) source target)
          (fun j => source ≤ j) u) := by
  have hEnd := hShift.end_le
  have hFits := hShift.fits
  have hSmall := hShift.small
  have hStart :
      RightProgress I h b source target number
        (target + number)
        { heap := h, touched := [] } := by
    unfold RightProgress
    rw [shiftRight_start I _ hRight]
    exact Progress.begin b h _
  unfold watchedRight
  rw [hShift.pointer, returns_bind,
    (finds_watchedAdd (by omega)).returns,
    if_neg (not_not_intro hShift.count.symm), returns_bind,
    (finds_watchedSub (by omega) (by omega)).returns,
    returns_bind, (finds_watchedAdd (by omega)).returns]
  refine (hShift.returns_rightConstruct hRight
    hStart).bind ?_
  rintro i t ⟨hCounter, hFirst⟩
  subst hCounter
  refine (hShift.returns_rightReplace hRight hFirst).bind ?_
  rintro i u ⟨hCounter, hSecond⟩
  subst hCounter
  refine (hShift.returns_rightDestroy hRight
    hSecond).bind ?_
  rintro k u ⟨_, hThird⟩
  exact (returns_pure _ _ _).mpr hThird

end KArray

end CxPlat

------------------------------------------------------------
-- Downwards
------------------------------------------------------------

namespace CxPlat

namespace KArray

open Comp

variable {T : Type} {I : Instantiation T}
variable {h : Heap T} {a : KArray} {w : Watch T}
variable {b source target number : Nat}

def LeftProgress
    (I : Instantiation T)
    (h : Heap T)
    (b source target i : Nat)
    (w : Watch T) : Prop :=
  Progress b h (shiftLeft I (h.val b) source target i)
    (fun j => target ≤ j ∧ j < i + (source - target)) w

theorem Shift.returns_leftRound
    (hShift : Shift h a b source target number)
    (hLeft : target < source)
    {f : Nat → Option T}
    {i : Nat}
    (hLo : target ≤ i)
    (hHi : i < target + number)
    (hProgress :
      Progress b h f
        (fun j => target ≤ j ∧ j < i + (source - target)) w)
    (hRaw : f i = none)
    (hAgree :
      ∀ j, j ≠ i →
        f j = shiftLeft I (h.val b) source target i j) :
    Returns
      (do
        let j ← watchedAdd i (source - target)
        watchedMove I (some b) i j) w
      (fun _ u =>
        LeftProgress I h b source target (i + 1) u) := by
  have hEnd := hShift.end_le
  have hSmall := hShift.small
  have hCapacity := hShift.capacity
  rw [returns_bind, (finds_watchedAdd (by omega)).returns]
  refine hProgress.returns_watchedMove
    (returns_shiftLeftMove I hLeft (by omega) hLo hHi
      hShift.value hProgress.rewrites (fun _ => hRaw) hAgree)
    hRaw (by omega) ?_
  intro k hTouched
  omega

theorem Shift.returns_leftConstruct
    (hShift : Shift h a b source target number)
    (hLeft : target < source)
    (hStart : LeftProgress I h b source target target w) :
    Returns
      (watchedLoop
        (fun i => pure (i < source))
        (fun i => watchedAdd i 1)
        (fun i => do
          let j ← watchedAdd i (source - target)
          watchedMove I (some b) i j)
        target) w
      (fun i u =>
        i = source ∧
          LeftProgress I h b source target source u) := by
  have hEnd := hShift.end_le
  have hSmall := hShift.small
  have hNear := hShift.near
  refine returns_whileLoop_up
    (LeftProgress I h b source target)
    (by omega) (fun _ _ _ => finds_pure _) ?_ ?_ (by omega)
    hStart
  · intro i hLo hHi
    exact finds_watchedAdd (by omega)
  · intro i u hLo hHi hProgress
    refine hShift.returns_leftRound hLeft hLo (by omega)
      hProgress ?_ (fun _ _ => rfl)
    unfold shiftLeft
    rw [if_neg (by omega), if_neg (by omega)]
    exact hShift.none_below hLo hHi

theorem Shift.returns_leftReplace
    (hShift : Shift h a b source target number)
    (hLeft : target < source)
    (hStart : LeftProgress I h b source target source w) :
    Returns
      (watchedLoop
        (fun i => do
          let stop ← watchedAdd target number
          pure (i < stop))
        (fun i => watchedAdd i 1)
        (fun i => do
          watchedDestroy (some b) i
          let j ← watchedAdd i (source - target)
          watchedMove I (some b) i j)
        source) w
      (fun i u =>
        i = target + number ∧
          LeftProgress I h b source target
            (target + number) u) := by
  have hEnd := hShift.end_le
  have hSmall := hShift.small
  have hNear := hShift.near
  have hCapacity := hShift.capacity
  refine returns_whileLoop_up
    (LeftProgress I h b source target)
    (by omega) ?_ ?_ ?_ (by omega) hStart
  · intro i hLo hHi
    exact (finds_watchedAdd (by omega)).bind (finds_pure _)
  · intro i hLo hHi
    exact finds_watchedAdd (by omega)
  · intro i u hLo hHi hProgress
    rcases hShift.value i (by omega) (by omega) with
      ⟨v, hValue⟩
    refine (hProgress.returns_watchedDestroy (by omega)
      (shiftLeft_behind I (Nat.le_refl i) (by omega)
        (by omega) hValue)
      (R := fun j => target ≤ j ∧ j < i + (source - target))
      ?_).bind ?_
    · intro k hTouched
      omega
    · intro _ t hDestroyed
      refine hShift.returns_leftRound hLeft (by omega) hHi
        hDestroyed ?_ ?_
      · rw [Function.update_self]
      · intro j hNe
        rw [Function.update_of_ne hNe]

theorem Shift.returns_leftDestroy
    (hShift : Shift h a b source target number)
    (hLeft : target < source)
    (hStart :
      LeftProgress I h b source target
        (target + number) w) :
    Returns
      (watchedLoop
        (fun i => do
          let stop ← watchedAdd source number
          pure (i < stop))
        (fun i => watchedAdd i 1)
        (fun i => watchedDestroy (some b) i)
        (target + number)) w
      (fun i u =>
        i = source + number ∧
          Progress b h
            (eraseRange
              (shiftLeft I (h.val b) source target
                (target + number))
              (target + number) (source + number))
            (fun j => target ≤ j) u) := by
  have hEnd := hShift.end_le
  have hSmall := hShift.small
  have hNear := hShift.near
  have hCapacity := hShift.capacity
  refine returns_whileLoop_up
    (fun i u =>
      Progress b h
        (eraseRange
          (shiftLeft I (h.val b) source target
            (target + number))
          (target + number) i)
        (fun j => target ≤ j) u)
    (by omega) ?_ ?_ ?_ (by omega) ?_
  · intro i hLo hHi
    exact (finds_watchedAdd (by omega)).bind (finds_pure _)
  · intro i hLo hHi
    exact finds_watchedAdd (by omega)
  · intro i u hLo hHi hProgress
    rcases hShift.value i (by omega) (by omega) with
      ⟨v, hValue⟩
    have hMoved :
        eraseRange
            (shiftLeft I (h.val b) source target
              (target + number))
            (target + number) i i =
          some (I.moved v) := by
      unfold eraseRange
      rw [if_neg (by omega)]
      exact shiftLeft_behind I hLo (by omega) (by omega)
        hValue
    rw [← update_eraseRange_up _ hLo]
    refine hProgress.returns_watchedDestroy (by omega)
      hMoved ?_
    intro k hTouched
    omega
  · rw [eraseRange_self]
    exact Progress.mono hStart (fun _ hTouched => hTouched.1)

theorem Shift.returns_watchedLeft
    (hShift : Shift h a b source target number)
    (hLeft : target < source) :
    Returns (watchedLeft I a source target number)
      { heap := h, touched := [] }
      (fun _ u =>
        Progress b h
          (eraseRange
            (shiftLeft I (h.val b) source target
              (target + number))
            (target + number) (source + number))
          (fun j => target ≤ j) u) := by
  have hEnd := hShift.end_le
  have hSmall := hShift.small
  have hStart :
      LeftProgress I h b source target target
        { heap := h, touched := [] } := by
    unfold LeftProgress
    rw [shiftLeft_start I _ hLeft]
    exact Progress.begin b h _
  unfold watchedLeft
  rw [hShift.pointer, returns_bind,
    (finds_watchedAdd (by omega)).returns,
    if_neg (not_not_intro hShift.count.symm), returns_bind,
    (finds_watchedSub (by omega) (by omega)).returns]
  refine (hShift.returns_leftConstruct hLeft hStart).bind ?_
  rintro i t ⟨hCounter, hFirst⟩
  subst hCounter
  refine (hShift.returns_leftReplace hLeft hFirst).bind ?_
  rintro k u ⟨hCounter, hSecond⟩
  subst hCounter
  refine (hShift.returns_leftDestroy hLeft hSecond).bind ?_
  rintro k u ⟨_, hThird⟩
  exact (returns_pure _ _ _).mpr hThird

end KArray

end CxPlat

------------------------------------------------------------
-- Both Directions
------------------------------------------------------------

namespace CxPlat

namespace KArray

open Comp

variable {T : Type} {I : Instantiation T}
variable {h : Heap T} {a : KArray}
variable {b source target number : Nat}

/- What a shift leaves, whatever the direction. -/
theorem Shift.returns_watchedMoveElements
    (hShift : Shift h a b source target number)
    (hCopy : I.triviallyCopyable = false) :
    Returns (watchedMoveElements I a source target number)
      { heap := h, touched := [] }
      (fun _ u =>
        ∃ f,
          Progress b h f
            (fun j => source ≤ j ∨ target ≤ j) u ∧
          Moved I (h.val b) f source target number ∧
          (∀ j, source ≤ j → j < target → f j = none) ∧
          (∀ j, target + number ≤ j →
            j < source + number → f j = none)) := by
  have hPositive := hShift.positive
  have hApart := hShift.apart
  unfold watchedMoveElements
  rw [if_neg (by omega), if_neg (by simp [hCopy])]
  by_cases hRight : source < target
  · rw [if_pos hRight]
    refine (hShift.returns_watchedRight hRight).mono ?_
    intro _ u hProgress
    refine ⟨_, hProgress.mono (fun _ => Or.inl),
      moved_shiftRight I _ hRight, ?_, ?_⟩
    · intro j hLo hHi
      exact if_pos ⟨hLo, hHi⟩
    · intro j hLo hHi
      omega
  · have hLeft : target < source := by omega
    rw [if_neg hRight]
    refine (hShift.returns_watchedLeft hLeft).mono ?_
    intro _ u hProgress
    refine ⟨_, hProgress.mono (fun _ => Or.inr),
      moved_shiftLeft I _ hLeft, ?_, ?_⟩
    · intro j hLo hHi
      omega
    · intro j hLo hHi
      exact if_pos ⟨hLo, hHi⟩

theorem Rewrites.slot_eq_raw
    {f : Nat → Option T}
    {t : Heap T}
    {j : Nat}
    (hRewrites : Rewrites b f h t)
    (hNone : f j = none) :
    t.slot b j = .raw := by
  rw [← hRewrites.values] at hNone
  exact Slot.eq_raw_of_not_isLive
    (isLive_eq_false_of_val hNone)

/-
  Element-wise moves raise no alarm and agree with `memmove`
  on the elements.  What is vacated is raw, and what lies
  below is untouched.
-/
theorem moveElements_agrees
    (I : Instantiation T)
    (hCopy : I.triviallyCopyable = false)
    {h : Heap T}
    {a : KArray}
    {b source target number : Nat}
    (hShift : Shift h a b source target number) :
    ∃ u : Watch T,
      exec (watchedMoveElements I a source target number)
          { heap := h, touched := [] } = .ok ((), u) ∧
      exec (moveElements I a source target number) h =
        .ok ((), u.heap) ∧
      Returns (copySlots a.p target a.p source number) h
        (fun _ m =>
          ∀ j, j < number →
            u.heap.val b (target + j) =
              m.val b (target + j)) ∧
      (∀ j, j < number →
        ∃ v, h.val b (source + j) = some v ∧
          u.heap.val b (target + j) = some v) ∧
      (∀ j, source ≤ j → j < target →
        u.heap.slot b j = .raw) ∧
      (∀ j, target + number ≤ j → j < source + number →
        u.heap.slot b j = .raw) ∧
      (∀ j, j < source → j < target →
        u.heap.slot b j = h.slot b j) := by
  rcases hShift.returns_watchedMoveElements hCopy with
    ⟨_, u, hExec, f, hProgress, hMoved, hRaw, hRaw'⟩
  have hRewrites := hProgress.rewrites
  have hPlaced :
      ∀ j, j < number →
        u.heap.val b (target + j) = h.val b (source + j) := by
    intro j hLt
    rw [hRewrites.values]
    exact hMoved.placed j hLt
  refine ⟨u, hExec,
    tracks_watchedMoveElements I a source target number
      _ _ _ hExec, ?_, ?_, ?_, ?_, ?_⟩
  · have hFits := hShift.fits
    have hEnd := hShift.end_le
    rw [← hShift.capacity] at hFits hEnd
    rw [hShift.pointer]
    refine (returns_copySlots hFits
      (fun _ => ⟨b, rfl, hEnd⟩)).mono ?_
    intro _ m hCopied j hLt
    rw [hPlaced j hLt, hCopied.values, if_pos (by omega)]
    simp
  · intro j hLt
    rcases hShift.value (source + j) (by omega) (by omega)
      with ⟨v, hValue⟩
    exact ⟨v, hValue, (hPlaced j hLt).trans hValue⟩
  · intro j hLo hHi
    exact hRewrites.slot_eq_raw (hRaw j hLo hHi)
  · intro j hLo hHi
    exact hRewrites.slot_eq_raw (hRaw' j hLo hHi)
  · intro j hSource hTarget
    exact hProgress.untouched (by omega)

/- A buffer of five slots, of which three hold objects. -/
def threeOfFive : Heap Nat where
  oracle := fun _ => true
  asked := 1
  next := 1
  capacity := fun b => if b = 0 then 5 else 0
  slot := fun b j =>
    if b = 0 ∧ j < 3 then .live j (10 + j) else .raw
  log := [.constructed 0 0, .constructed 0 1,
    .constructed 0 2]

theorem shift_threeOfFive :
    Shift threeOfFive ⟨some 0, 3, 5⟩ 0 1 2 2 where
  pointer := rfl
  capacity := rfl
  positive := by decide
  apart := by decide
  near := by decide
  count := rfl
  fits := by decide
  small := by decide
  live := by
    intro j hLo hHi
    have hLt : j < 3 := hHi
    have hIn : j < 5 := by omega
    simp [threeOfFive, hLt, hIn]
  rawAbove := by
    intro j hLo hHi
    have hNot : ¬ j < 3 := Nat.not_lt.mpr hLo
    simp [threeOfFive, hNot]
  rawBelow := by
    intro j hLo hHi
    omega

/- Making room for an element before the second one. -/
theorem moveElements_agrees_threeOfFive :
    handleType.triviallyCopyable = false ∧
      Shift threeOfFive ⟨some 0, 3, 5⟩ 0 1 2 2 ∧
      ∃ u : Watch Nat,
        exec (watchedMoveElements handleType
            ⟨some 0, 3, 5⟩ 1 2 2)
            { heap := threeOfFive, touched := [] } =
          .ok ((), u) ∧
        exec (moveElements handleType ⟨some 0, 3, 5⟩ 1 2 2)
            threeOfFive = .ok ((), u.heap) ∧
        Returns (copySlots (some 0) 2 (some 0) 1 2)
          threeOfFive
          (fun _ m =>
            ∀ j, j < 2 →
              u.heap.val 0 (2 + j) = m.val 0 (2 + j)) ∧
        (∀ j, j < 2 →
          ∃ v, threeOfFive.val 0 (1 + j) = some v ∧
            u.heap.val 0 (2 + j) = some v) ∧
        (∀ j, 1 ≤ j → j < 2 → u.heap.slot 0 j = .raw) ∧
        (∀ j, 2 + 2 ≤ j → j < 1 + 2 →
          u.heap.slot 0 j = .raw) ∧
        (∀ j, j < 1 → j < 2 →
          u.heap.slot 0 j = threeOfFive.slot 0 j) :=
  ⟨rfl, shift_threeOfFive,
    moveElements_agrees handleType rfl shift_threeOfFive⟩

end KArray

end CxPlat
