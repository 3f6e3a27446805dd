import CxPlat.KArray.Elements

/-
  The constructor of `Rtl::KArray` that fills the new array
  with copies of a value.

  It assigns to the slots of a buffer that `grow` may not
  have got, and in which no objects have been constructed.

  Key definitions include:
    * `Filled`

  Key theorems include:
    * `returns_assignUp`
    * `returns_fillConstruct`, `not_returns_fillConstruct`
    * `fillConstruct_filled_iff`
-/

------------------------------------------------------------
-- Assigning to Raw Slots
------------------------------------------------------------

namespace CxPlat

namespace KArray

open Comp

variable {T : Type}
variable {I : Instantiation T} {h : Heap T} {b i : Nat}

theorem not_returns_assignAt_null
    (v : T)
    (Q : Unit → Heap T → Prop) :
    ¬ Returns (assignAt I none i v) h Q := by
  simp [assignAt, locate]

theorem not_returns_assignAt_raw
    (hCopyable : I.triviallyCopyable = false)
    (hRaw : h.val b i = none)
    (v : T)
    (Q : Unit → Heap T → Prop) :
    ¬ Returns (assignAt I (some b) i v) h Q := by
  have hSlot := Slot.eq_raw_of_not_isLive
    (isLive_eq_false_of_val hRaw)
  unfold assignAt locate
  by_cases hBound : i < h.capacity b
  · simp [hBound, hSlot, hCopyable]
  · simp [hBound]

theorem returns_assignAt
    (hCopyable : I.triviallyCopyable = true)
    (hBound : i < h.capacity b)
    (v : T) :
    Returns (assignAt I (some b) i v) h
      (fun _ t =>
        Rewrites b (Function.update (h.val b) i (some v))
          h t) := by
  unfold assignAt
  rw [returns_bind, returns_locate hBound, returns_bind,
    returns_get]
  cases hSlot : h.slot b i with
  | raw =>
      simp only [hCopyable, if_true, returns_set]
      exact (Rewrites.refl b h).put i (.live _ v)
  | live k u =>
      simp only [returns_set]
      exact (Rewrites.refl b h).put i (.live k v)

/- The loop of the constructor. -/
theorem returns_assignUp
    (hCopyable : I.triviallyCopyable = true)
    {count : Nat}
    (hBound : count ≤ h.capacity b)
    (hSmall : count < 2 ^ 32)
    (v : T) :
    Returns
      (ulongLoop (fun i => decide (i < count))
        (fun i => ulongAdd i 1)
        (fun i => assignAt I (some b) i v) 0) h
      (fun _ t =>
        Rewrites b (fillRange (h.val b) 0 count v) h t) := by
  refine Returns.mono
    (returns_forLoop_up
      (fun i t =>
        Rewrites b (fillRange (h.val b) 0 i v) h t)
      (Nat.zero_le count) (by simp) ?_ ?_ (by omega) ?_)
    (fun _ _ hEnd => hEnd.2)
  · intro i _ hHi
    exact ulongAdd_of_lt (by omega)
  · intro i t hLo hHi hSoFar
    have hIn : i < t.capacity b := by
      rw [hSoFar.capacity]
      omega
    refine (returns_assignAt hCopyable hIn v).mono ?_
    intro _ u hStep
    refine (hSoFar.trans hStep).congr ?_
    intro j
    rw [funext hSoFar.values, update_fillRange _ v hLo]
  · rw [fillRange_self]
    exact Rewrites.refl b h

end KArray

end CxPlat

------------------------------------------------------------
-- The Constructor
------------------------------------------------------------

namespace CxPlat

namespace KArray

open Comp

variable {T : Type}
variable {I : Instantiation T} {h : Heap T} {count : Nat}

/- A new array gets a buffer for `count` elements. -/
def Obtained
    (I : Instantiation T)
    (h : Heap T)
    (count : Nat) : Prop :=
  Grants I h (growCount I {} count)

instance
    (I : Instantiation T)
    (h : Heap T)
    (count : Nat) :
    Decidable (Obtained I h count) :=
  inferInstanceAs (Decidable (Grants _ _ _))

/-
  The array holds `count` copies of the value, or nothing if
  it has got no buffer, and no other memory was touched.
-/
def Filled
    (I : Instantiation T)
    (h : Heap T)
    (count : Nat)
    (value : T)
    (a : KArray)
    (t : Heap T) : Prop :=
  Confined h t {} a ∧
    (Holds I t a (List.replicate count value) ∨
      ¬ Obtained I h count ∧ Holds I t a [])

/- With a buffer, and a type that is assigned bytewise. -/
theorem returns_fillConstruct
    (hFresh : h.Fresh)
    (hPos : 0 < count)
    (hCopyable : I.triviallyCopyable = true)
    (hObtained : Obtained I h count)
    (value : T) :
    Returns (fillConstruct I count value) h
      (fun a t =>
        Confined h t {} a ∧
          Holds I t a (List.replicate count value)) := by
  have hMore := le_growCount I {} count
  unfold fillConstruct
  simp only [ne_eq, if_pos (Nat.ne_of_gt hPos)]
  refine (returns_grow_more I hFresh (Holds.empty I h)
    hPos).bind ?_
  rintro ⟨ok, a⟩ u hExchanged
  have hOk : ok = true := hExchanged.granted.mpr hObtained
  have hPointer : a.p = some h.next :=
    hExchanged.pointer hOk
  have hHolds : Holds I u a [] := hExchanged.reserved.holds
  have hRoom : growCount I {} count ≤ a.bufferSize :=
    hExchanged.reserved.room hOk
  have hConfined := hExchanged.reserved.confined
  have hLimit := hHolds.lt_ulong
  have hSize := hHolds.size _ hPointer
  simp only [hPointer]
  refine (returns_assignUp hCopyable (by omega) (by omega)
    value).bind ?_
  intro _ t hRewrites
  rw [returns_pure, ← hPointer]
  constructor
  · exact hConfined.trans
      (Confined.of_rewrites hConfined.fresh hPointer hPointer
        hRewrites)
  · refine hHolds.rewrite hPointer hRewrites ?_ ?_ ?_ ?_
    · rw [List.length_replicate, ulong_of_lt (by omega)]
    · rw [List.length_replicate]
      omega
    · intro i hLt
      rw [List.length_replicate] at hLt
      unfold fillRange
      rw [if_pos ⟨Nat.zero_le i, hLt⟩,
        List.getElem?_replicate, if_pos hLt]
    · intro hTrivial
      rw [I.destructible_of_copyable hCopyable] at hTrivial
      contradiction

/- Without either the first assignment fails. -/
theorem not_returns_fillConstruct
    (hFresh : h.Fresh)
    (hPos : 0 < count)
    (hNot :
      ¬ (I.triviallyCopyable = true ∧ Obtained I h count))
    (value : T)
    (Q : KArray → Heap T → Prop) :
    ¬ Returns (fillConstruct I count value) h Q := by
  obtain ⟨⟨ok, a⟩, u, hExec, hExchanged⟩ :=
    returns_grow_more I hFresh (Holds.empty I h) hPos
  unfold fillConstruct
  simp only [ne_eq, if_pos (Nat.ne_of_gt hPos)]
  rw [returns_bind_of_exec hExec, returns_bind]
  apply not_returns_forLoop (by simp [hPos])
  cases ok with
  | false =>
      have hSame := (hExchanged.reserved.unchanged rfl).1
      simp only at hSame
      rw [hSame]
      exact not_returns_assignAt_null value
  | true =>
      have hObtained : Obtained I h count :=
        hExchanged.granted.mp rfl
      have hPointer : a.p = some h.next :=
        hExchanged.pointer rfl
      have hRaw : u.val h.next 0 = none :=
        hExchanged.blank rfl 0 (Nat.le_refl 0)
      have hCopyable : I.triviallyCopyable = false := by
        cases hCopyable : I.triviallyCopyable with
        | false => rfl
        | true => exact absurd ⟨hCopyable, hObtained⟩ hNot
      rw [hPointer]
      exact not_returns_assignAt_raw hCopyable hRaw value

/-
  The constructor is safe exactly if there is nothing to fill
  or, for a trivially copyable type, a buffer to fill.
-/
theorem fillConstruct_filled_iff
    (I : Instantiation T)
    {h : Heap T}
    (hFresh : h.Fresh)
    (count : Nat)
    (value : T) :
    Returns (fillConstruct I count value) h
        (Filled I h count value) ↔
      count = 0 ∨
        (I.triviallyCopyable = true ∧ Obtained I h count) := by
  rcases Nat.eq_zero_or_pos count with hZero | hPos
  · subst hZero
    refine iff_of_true ?_ (Or.inl rfl)
    unfold fillConstruct
    simp only [ne_eq, not_true, if_false, returns_pure]
    exact ⟨Confined.refl hFresh rfl,
      Or.inl (Holds.empty I h)⟩
  constructor
  · intro hReturns
    by_contra hNot
    rw [not_or] at hNot
    exact not_returns_fillConstruct hFresh hPos hNot.2 value _
      hReturns
  · rintro (hZero | ⟨hCopyable, hObtained⟩)
    · omega
    · apply (returns_fillConstruct hFresh hPos hCopyable
        hObtained value).mono
      rintro a t ⟨hConfined, hHolds⟩
      exact ⟨hConfined, Or.inl hHolds⟩

/- Values of four bytes, with or without an `operator=`. -/
def fourBytes
    (copyable : Bool) : Instantiation Nat where
  sizeT := .bits64
  sizeOf := 4
  sizeOf_pos := by decide
  triviallyCopyable := copyable
  triviallyDefaultConstructible := copyable
  triviallyDestructible := true
  zeroBytes := 0
  defaultValue := 0
  moved := id
  destructible_of_copyable := fun _ => rfl
  destructible_of_default := fun _ => rfl

theorem fillConstruct_filled_tenTimes :
    (Heap.empty (fun _ => true) : Heap Nat).Fresh ∧
      Returns (fillConstruct (fourBytes true) 10 7)
        (Heap.empty (fun _ => true))
        (Filled (fourBytes true) (Heap.empty (fun _ => true))
          10 7) := by
  have hFresh :
      (Heap.empty (fun _ => true) : Heap Nat).Fresh :=
    fun _ _ => rfl
  refine ⟨hFresh, ?_⟩
  apply (fillConstruct_filled_iff _ hFresh 10 7).mpr
  decide

/-
  Ten elements: without memory they are written through a
  null pointer, and with it an `operator=` is called where
  there is no object.
-/
theorem fill_assigns_to_nothing :
    (exec (fillConstruct (fourBytes true) 10 7)
          (Heap.empty (fun _ => false)) =
        .error .nullPointer ∧
      ¬ Returns (fillConstruct (fourBytes true) 10 7)
        (Heap.empty (fun _ => false))
        (Filled (fourBytes true)
          (Heap.empty (fun _ => false)) 10 7)) ∧
    (exec (fillConstruct (fourBytes false) 10 7)
          (Heap.empty (fun _ => true)) =
        .error .assignToRaw ∧
      ¬ Returns (fillConstruct (fourBytes false) 10 7)
        (Heap.empty (fun _ => true))
        (Filled (fourBytes false)
          (Heap.empty (fun _ => true)) 10 7)) := by
  refine ⟨⟨rfl, ?_⟩, ⟨rfl, ?_⟩⟩
  · rintro ⟨a, t, hExec, _⟩
    cases hExec
  · rintro ⟨a, t, hExec, _⟩
    cases hExec

end KArray

end CxPlat
