import CxPlat.KArray.Storage

/-
  Every element operation of an array is a list operation.

  Each member function has one specification: it stops
  without a fault, the array then holds the list given by the
  corresponding list operation (or, when the function returns
  false, the list it held before, with all fields and the
  memory as they were), and it stays inside its own buffer.

  Key definitions include:
    * `resizeList`
    * `insertSortedList`, `insertSortedUniqueList`
    * `Outcome`

  Key theorems include:
    * `returns_resize`, `returns_clear`, `returns_popBack`
-/

------------------------------------------------------------
-- List Operations
------------------------------------------------------------

namespace CxPlat

namespace KArray

variable {T : Type}

/- Cut a list to `count` elements or pad it to that many. -/
def resizeList
    (padding : T)
    (xs : List T)
    (count : Nat) : List T :=
  xs.take count ++
    List.replicate (count - xs.length) padding

/- The first position whose element is not less than `t`. -/
def sortedIndex
    (lt : T → T → Bool)
    (xs : List T)
    (t : T) : Nat :=
  xs.findIdx (fun x => !lt x t)

/- Insert `t` before the first element not less than it. -/
def insertSortedList
    (lt : T → T → Bool)
    (xs : List T)
    (t : T) : List T :=
  xs.insertIdx (sortedIndex lt xs t) t

/- The element found there, if any, is more than `t`. -/
def sortedAbsent
    (lt : T → T → Bool)
    (xs : List T)
    (t : T) : Bool :=
  match xs[sortedIndex lt xs t]? with
  | some x => lt t x
  | none => true

/- Insert `t` as above if the element found is more. -/
def insertSortedUniqueList
    (lt : T → T → Bool)
    (xs : List T)
    (t : T) : List T :=
  if sortedAbsent lt xs t then insertSortedList lt xs t
  else xs

@[simp] theorem length_resizeList
    (padding : T)
    (xs : List T)
    (count : Nat) :
    (resizeList padding xs count).length = count := by
  unfold resizeList
  rw [List.length_append, List.length_take,
    List.length_replicate]
  omega

theorem getElem?_resizeList
    (padding : T)
    (xs : List T)
    {count i : Nat}
    (hLt : i < count) :
    (resizeList padding xs count)[i]? =
      if i < xs.length then xs[i]? else some padding := by
  unfold resizeList
  by_cases hOld : i < xs.length
  · rw [if_pos hOld, List.getElem?_append_left]
    · rw [List.getElem?_take_of_lt hLt]
    · rw [List.length_take]
      omega
  · rw [if_neg hOld, List.getElem?_append_right]
    · rw [List.getElem?_replicate, if_pos]
      rw [List.length_take]
      omega
    · rw [List.length_take]
      omega

/- The last element dropped, or an empty list as it is. -/
theorem resizeList_pred
    (padding : T)
    (xs : List T) :
    resizeList padding xs (xs.length - 1) =
      xs.dropLast := by
  unfold resizeList
  have hNone : xs.length - 1 - xs.length = 0 := by omega
  rw [hNone, List.dropLast_eq_take]
  simp

end KArray

end CxPlat

------------------------------------------------------------
-- Outcomes
------------------------------------------------------------

namespace CxPlat

namespace KArray

variable {T : Type}

/-
  The outcome of an operation that turns `xs` into `ys` when
  it returns true and does nothing when it returns false.
-/
structure Outcome
    (I : Instantiation T)
    (xs ys : List T)
    (h : Heap T)
    (a : KArray)
    (r : Bool × KArray)
    (t : Heap T) : Prop where
  holds : Holds I t r.2 (if r.1 then ys else xs)
  confined : Confined h t a r.2
  unchanged : r.1 = false → r.2 = a ∧ SameMemory h t

namespace Outcome

variable {I : Instantiation T} {xs ys : List T}
variable {h t u : Heap T} {a a' : KArray} {count : Nat}

/- An operation that fails because it got no room. -/
theorem of_refused
    (hReserved : Reserved I xs h a count (false, a') t) :
    Outcome I xs ys h a (false, a') t where
  holds := hReserved.holds
  confined := hReserved.confined
  unchanged := hReserved.unchanged

theorem of_true
    (hHolds : Holds I t a' ys)
    (hConfined : Confined h t a a') :
    Outcome I xs ys h a (true, a') t where
  holds := hHolds
  confined := hConfined
  unchanged := by
    intro hFalse
    cases hFalse

end Outcome

/- An array whose buffer shows `ys` holds `ys`. -/
theorem Holds.of_values
    {I : Instantiation T}
    {t : Heap T}
    {a : KArray}
    {ys : List T}
    {b : Nat}
    (hPointer : a.p = some b)
    (hCount : a.numElements = ys.length)
    (hFits : ys.length ≤ a.bufferSize)
    (hPos : 0 < a.bufferSize)
    (hSmall : a.bufferSize < ulongMax)
    (hBytes : I.sizeOf * a.bufferSize < I.sizeT.modulus)
    (hSize : t.capacity b = a.bufferSize)
    (hElements : ∀ i, i < ys.length → t.val b i = ys[i]?)
    (hSpare :
      I.triviallyDestructible = false →
        ∀ i, ys.length ≤ i → i < a.bufferSize →
          t.val b i = none) :
    Holds I t a ys := by
  have hOnly : ∀ c, a.p = some c → c = b := by
    intro c hSome
    rw [hPointer] at hSome
    exact (Option.some.inj hSome).symm
  exact
    { count := hCount
      fits := hFits
      small := hSmall
      bytes := hBytes
      null := by
        rw [hPointer]
        constructor
        · intro hNone
          cases hNone
        · intro hZero
          omega
      size := by
        intro c hSome
        rw [hOnly c hSome]
        exact hSize
      elements := by
        intro c hSome
        rw [hOnly c hSome]
        exact hElements
      spare := by
        intro hTrivial c hSome
        rw [hOnly c hSome]
        exact hSpare hTrivial }

/-
  Rewriting the buffer of an array so that it shows `ys`, in
  the room it has, makes the array hold `ys`.
-/
theorem Holds.rewrite
    {I : Instantiation T}
    {h t : Heap T}
    {a : KArray}
    {xs ys : List T}
    {b n : Nat}
    {f : Nat → Option T}
    (hHolds : Holds I h a xs)
    (hPointer : a.p = some b)
    (hRewrites : Rewrites b f h t)
    (hLength : n = ys.length)
    (hFits : ys.length ≤ a.bufferSize)
    (hElements : ∀ i, i < ys.length → f i = ys[i]?)
    (hSpare :
      I.triviallyDestructible = false →
        ∀ i, ys.length ≤ i → i < a.bufferSize →
          f i = none) :
    Holds I t { a with numElements := n } ys := by
  refine Holds.of_values (b := b) hPointer hLength hFits
    (hHolds.buffer_pos hPointer) hHolds.small hHolds.bytes
    ?_ ?_ ?_
  · rw [hRewrites.capacity]
    exact hHolds.size b hPointer
  · intro i hLt
    rw [hRewrites.values]
    exact hElements i hLt
  · intro hTrivial i hLo hHi
    rw [hRewrites.values]
    exact hSpare hTrivial i hLo hHi

end KArray

end CxPlat

------------------------------------------------------------
-- Resize, Clear And Pop
------------------------------------------------------------

namespace CxPlat

namespace KArray

open Comp

variable {T : Type}

/- The added elements are zero or `T()`. -/
theorem returns_extend
    (I : Instantiation T)
    {h : Heap T}
    {a : KArray}
    {xs : List T}
    {b count : Nat}
    (hHolds : Holds I h a xs)
    (hPointer : a.p = some b)
    (hRoom : count ≤ a.bufferSize) :
    Returns (extend I a count) h
      (fun _ t =>
        Rewrites b
          (fillRange (h.val b) a.numElements count I.padding)
          h t) := by
  have hLimit := hHolds.lt_ulong
  have hCount := hHolds.count
  have hFits := hHolds.fits
  have hWide := I.sizeT.ulong_le_modulus
  have hCapacity := hHolds.size b hPointer
  unfold extend Instantiation.padding
  cases hDefault : I.triviallyDefaultConstructible with
  | true =>
      simp only [if_true]
      by_cases hMore : count > a.numElements
      · rw [if_pos hMore,
          sizeSub_of_le (by omega) (by omega),
          slotsOf_of_le I hHolds.bytes (by omega), hPointer]
        have hEnd :
            a.numElements + (count - a.numElements) =
              count := by
          omega
        have hZero :=
          returns_zeroSlots I (h := h) (b := b)
            (by omega :
              a.numElements + (count - a.numElements) ≤
                h.capacity b)
        rw [hEnd] at hZero
        exact hZero
      · rw [if_neg hMore, returns_pure,
          fillRange_of_le _ _ (by omega)]
        exact Rewrites.refl b h
  | false =>
      simp only [Bool.false_eq_true, if_false]
      rw [hPointer]
      by_cases hMore : a.numElements ≤ count
      · refine Returns.bind
          (returns_constructUp I I.defaultValue hMore
            (by omega)
            (fun i _ hHi => sizeAdd_of_lt (by omega))
            (by omega) ?_) ?_
        · intro hTrivial j hLo hHi
          exact hHolds.spare hTrivial b hPointer j
            (by omega) (by omega)
        · rintro i t ⟨_, hFilled⟩
          rw [returns_pure]
          exact hFilled
      · refine Returns.bind
          (returns_forLoop_skip (by simp; omega)) ?_
        rintro i t ⟨_, hSame⟩
        subst hSame
        rw [returns_pure, fillRange_of_le _ _ (by omega)]
        exact Rewrites.refl b t

/- Elements past the new end are destroyed. -/
theorem returns_truncate
    (I : Instantiation T)
    {h : Heap T}
    {a : KArray}
    {b count : Nat}
    (hPointer : a.p = some b)
    (hLimit : a.numElements < 2 ^ 32)
    (hBound : a.numElements ≤ h.capacity b)
    (hLive :
      ∀ j, j < a.numElements →
        ∃ v, h.val b j = some v) :
    Returns (truncate I a count) h
      (fun _ t =>
        ∃ f, Rewrites b f h t ∧
          (∀ j, j < count → f j = h.val b j) ∧
          (I.triviallyDestructible = false →
            f = eraseRange (h.val b) count
              a.numElements)) := by
  have hWide := I.sizeT.ulong_le_modulus
  have hSame :
      a.numElements ≤ count →
        eraseRange (h.val b) count a.numElements =
          h.val b := by
    intro hLe
    funext j
    unfold eraseRange
    rw [if_neg (by omega)]
  unfold truncate
  cases hTrivial : I.triviallyDestructible with
  | true =>
      simp only [Bool.not_true, Bool.false_eq_true, if_false,
        returns_pure]
      refine ⟨h.val b, Rewrites.refl b h,
        fun _ _ => rfl, ?_⟩
      intro hFalse
      cases hFalse
  | false =>
      simp only [Bool.not_false, if_true]
      rw [hPointer]
      by_cases hLess : count ≤ a.numElements
      · refine Returns.bind
          (returns_destroyUp hLess hBound
            (fun i _ hHi => sizeAdd_of_lt (by omega))
            (by omega) (fun j _ hHi => hLive j hHi)) ?_
        rintro i t ⟨_, hCut⟩
        rw [returns_pure]
        refine ⟨_, hCut, ?_, fun _ => rfl⟩
        intro j hLt
        unfold eraseRange
        rw [if_neg (by omega)]
      · refine Returns.bind
          (returns_forLoop_skip (by simp; omega)) ?_
        rintro i t ⟨_, hEq⟩
        subst hEq
        rw [returns_pure]
        exact ⟨t.val b, Rewrites.refl b t, fun _ _ => rfl,
          fun _ => (hSame (by omega)).symm⟩

/- Nothing is constructed or destroyed without a buffer. -/
theorem returns_extend_null
    (I : Instantiation T)
    {h : Heap T}
    {a : KArray}
    (hNone : a.numElements = 0) :
    Returns (extend I a 0) h (fun _ t => t = h) := by
  unfold extend
  rw [hNone]
  cases I.triviallyDefaultConstructible with
  | true => simp
  | false =>
      simp only [Bool.false_eq_true, if_false]
      refine Returns.bind
        (returns_forLoop_skip (by simp)) ?_
      rintro i t ⟨_, hSame⟩
      rw [returns_pure]
      exact hSame

theorem returns_truncate_null
    (I : Instantiation T)
    {h : Heap T}
    {a : KArray}
    (hNone : a.numElements = 0) :
    Returns (truncate I a 0) h (fun _ t => t = h) := by
  unfold truncate
  rw [hNone]
  cases I.triviallyDestructible with
  | true => simp
  | false =>
      simp only [Bool.not_false, if_true]
      refine Returns.bind
        (returns_forLoop_skip (by simp)) ?_
      rintro i t ⟨_, hSame⟩
      rw [returns_pure]
      exact hSame

/- The contents after padding and truncation. -/
theorem Holds.resized
    {I : Instantiation T}
    {h t u : Heap T}
    {a : KArray}
    {xs : List T}
    {f : Nat → Option T}
    {b count : Nat}
    (hHolds : Holds I h a xs)
    (hPointer : a.p = some b)
    (hRoom : count ≤ a.bufferSize)
    (hPadded :
      Rewrites b
        (fillRange (h.val b) a.numElements count I.padding)
        h t)
    (hCut : Rewrites b f t u)
    (hKept : ∀ j, j < count → f j = t.val b j)
    (hErased :
      I.triviallyDestructible = false →
        f = eraseRange (t.val b) count a.numElements) :
    Holds I u { a with numElements := ulong count }
      (resizeList I.padding xs count) := by
  have hLimit := hHolds.lt_ulong
  have hCount := hHolds.count
  have hFits := hHolds.fits
  have hUlong : ulong count = count :=
    ulong_of_lt (by omega)
  apply hHolds.rewrite hPointer (hPadded.trans hCut)
  · rw [length_resizeList, hUlong]
  · rw [length_resizeList]
    exact hRoom
  · intro i hLt
    rw [length_resizeList] at hLt
    rw [hKept i hLt, hPadded.values,
      getElem?_resizeList I.padding xs hLt]
    unfold fillRange
    by_cases hOld : i < xs.length
    · rw [if_neg (by omega), if_pos hOld]
      exact hHolds.elements b hPointer i hOld
    · rw [if_pos (by omega), if_neg hOld]
  · intro hTrivial i hLo hHi
    rw [length_resizeList] at hLo
    rw [hErased hTrivial]
    unfold eraseRange
    by_cases hOld : i < a.numElements
    · rw [if_pos ⟨hLo, hOld⟩]
    · rw [if_neg (by omega), hPadded.values]
      unfold fillRange
      rw [if_neg (by omega)]
      exact hHolds.spare hTrivial b hPointer i
        (by omega) hHi

/- An array without a buffer can only be resized to nothing. -/
theorem returns_refit_null
    (I : Instantiation T)
    {h : Heap T}
    {a : KArray}
    {xs : List T}
    {count : Nat}
    (hFresh : h.Fresh)
    (hHolds : Holds I h a xs)
    (hRoom : count ≤ a.bufferSize)
    (hPointer : a.p = none) :
    Returns
      (do
        extend I a count
        truncate I a count
        pure (true, { a with numElements := ulong count })) h
      (fun r t =>
        r.1 = true ∧ Confined h t a r.2 ∧
          Holds I t r.2
            (resizeList I.padding xs count)) := by
  have hZero := hHolds.null.mp hPointer
  have hCount := hHolds.count
  have hFits := hHolds.fits
  have hNoElements : a.numElements = 0 := by omega
  have hNoCount : count = 0 := by omega
  have hNil : xs = [] :=
    List.eq_nil_of_length_eq_zero (by omega)
  subst hNoCount
  subst hNil
  refine (returns_extend_null I hNoElements).bind ?_
  rintro _ t rfl
  refine (returns_truncate_null I hNoElements).bind ?_
  rintro _ u rfl
  rw [returns_pure]
  have hFields :
      ({ a with numElements := ulong 0 } : KArray) = a := by
    rw [ulong_of_lt (by omega), ← hNoElements]
  rw [hFields]
  exact ⟨rfl, Confined.refl hFresh rfl, hHolds⟩

/- Padding and truncation in the room that there is. -/
theorem returns_refit
    (I : Instantiation T)
    {h : Heap T}
    {a : KArray}
    {xs : List T}
    {count : Nat}
    (hFresh : h.Fresh)
    (hHolds : Holds I h a xs)
    (hRoom : count ≤ a.bufferSize) :
    Returns
      (do
        extend I a count
        truncate I a count
        pure (true, { a with numElements := ulong count })) h
      (fun r t =>
        r.1 = true ∧ Confined h t a r.2 ∧
          Holds I t r.2
            (resizeList I.padding xs count)) := by
  rcases Option.eq_none_or_eq_some a.p with
    hPointer | ⟨b, hPointer⟩
  · exact returns_refit_null I hFresh hHolds hRoom hPointer
  have hLimit := hHolds.lt_ulong
  have hCount := hHolds.count
  have hFits := hHolds.fits
  have hCapacity := hHolds.size b hPointer
  refine (returns_extend I hHolds hPointer hRoom).bind ?_
  intro _ u hPadded
  refine (returns_truncate I hPointer (by omega)
    (by rw [hPadded.capacity]; omega) ?_).bind ?_
  · intro j hLt
    rw [hPadded.values]
    unfold fillRange
    rw [if_neg (by omega)]
    exact ⟨_, hHolds.live hPointer
      (by omega : j < xs.length)⟩
  · rintro _ v ⟨f, hCut, hKept, hErased⟩
    rw [returns_pure]
    refine ⟨rfl, ?_, ?_⟩
    · exact Confined.of_rewrites hFresh hPointer hPointer
        (hPadded.trans hCut)
    · exact hHolds.resized hPointer hRoom hPadded hCut hKept
        hErased

theorem returns_resize
    (I : Instantiation T)
    {h : Heap T}
    {a : KArray}
    {xs : List T}
    (count : Nat)
    (hFresh : h.Fresh)
    (hHolds : Holds I h a xs) :
    Returns (resize I a count) h
      (fun r t =>
        Outcome I xs (resizeList I.padding xs count)
            h a r t ∧
          (r.1 = true → count < ulongMax) ∧
          (count ≤ a.bufferSize → r.1 = true)) := by
  unfold resize
  refine (returns_reserve I count hFresh hHolds).bind ?_
  rintro ⟨ok, a'⟩ t hReserved
  cases ok with
  | false =>
      simp only [Bool.not_false, if_true, returns_pure]
      refine ⟨Outcome.of_refused hReserved, ?_, ?_⟩
      · intro hTrue
        cases hTrue
      · intro hRoom
        exact hReserved.sure hRoom
  | true =>
      simp only [Bool.not_true, Bool.false_eq_true, if_false]
      have hHolds' : Holds I t a' xs := hReserved.holds
      have hRoom : count ≤ a'.bufferSize :=
        hReserved.room rfl
      have hSmall := hHolds'.small
      apply (returns_refit I hReserved.confined.fresh hHolds'
        hRoom).mono
      rintro ⟨ok, a''⟩ u ⟨hTrue, hConfined, hResized⟩
      cases hTrue
      refine ⟨?_, fun _ => by omega, fun _ => rfl⟩
      exact Outcome.of_true hResized
        (hReserved.confined.trans hConfined)

theorem returns_clear
    (I : Instantiation T)
    {h : Heap T}
    {a : KArray}
    {xs : List T}
    (hFresh : h.Fresh)
    (hHolds : Holds I h a xs) :
    Returns (clear I a) h
      (fun a' t =>
        Holds I t a' [] ∧ Confined h t a a') := by
  unfold clear
  refine (returns_resize I 0 hFresh hHolds).bind ?_
  rintro ⟨ok, a'⟩ t ⟨hOutcome, _, hSure⟩
  have hTrue : ok = true := hSure (Nat.zero_le _)
  subst hTrue
  simp only [returns_pure]
  refine ⟨?_, hOutcome.confined⟩
  have hHolds' := hOutcome.holds
  simp only [if_true] at hHolds'
  have hNil : resizeList I.padding xs 0 = [] :=
    List.eq_nil_of_length_eq_zero (length_resizeList _ _ _)
  rw [hNil] at hHolds'
  exact hHolds'

/-
  On an empty array `count() - 1` is the largest `size_t`,
  which `reserve` turns down.
-/
theorem returns_popBack
    (I : Instantiation T)
    {h : Heap T}
    {a : KArray}
    {xs : List T}
    (hFresh : h.Fresh)
    (hHolds : Holds I h a xs) :
    Returns (popBack I a) h
      (fun a' t =>
        Holds I t a' xs.dropLast ∧ Confined h t a a') := by
  have hLimit := hHolds.lt_ulong
  have hCount := hHolds.count
  have hFits := hHolds.fits
  have hWide := I.sizeT.ulong_le_modulus
  unfold popBack
  refine (returns_resize I
    (sizeSub I.sizeT a.numElements 1) hFresh hHolds).bind ?_
  rintro ⟨ok, a'⟩ t ⟨hOutcome, hBound, hSure⟩
  simp only [returns_pure]
  refine ⟨?_, hOutcome.confined⟩
  have hHolds' := hOutcome.holds
  rcases Nat.eq_zero_or_pos xs.length with hZero | hPos
  · have hNil : xs = [] :=
      List.eq_nil_of_length_eq_zero hZero
    subst hNil
    cases ok with
    | false => exact hHolds'
    | true =>
        have hLarge := hBound rfl
        rw [hCount, List.length_nil, sizeSub_zero_one]
          at hLarge
        unfold ulongMax at hLarge
        omega
  · have hPred :
        sizeSub I.sizeT a.numElements 1 = xs.length - 1 := by
      rw [hCount]
      exact sizeSub_of_le hPos (by omega)
    rw [hPred] at hSure hHolds'
    have hTrue : ok = true := hSure (by omega)
    subst hTrue
    simp only [if_true] at hHolds'
    rw [resizeList_pred] at hHolds'
    exact hHolds'

end KArray

end CxPlat
