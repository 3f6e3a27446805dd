import CxPlat.KArray.MoveElements

/-
  Representation of a list by an array, and the functions
  that get, exchange and give back its buffer.

  `Holds I h a xs` says that the fields `a` and the memory
  `h` represent the list `xs`.  `Confined h t a a'` is the
  frame condition of an operation that takes the fields from
  `a` to `a'`: it touches the buffer of the array and fresh
  buffers only, and leaves no other buffer behind.

  Key definitions include:
    * `Holds`
    * `Confined`
    * `Reserved`, `Exchanged`
    * `Grants`

  Key theorems include:
    * `returns_reserve`, `returns_reserve_more`
    * `returns_grow`, `returns_grow_more`
    * `returns_reset`
-/

------------------------------------------------------------
-- Representation And Frame
------------------------------------------------------------

namespace CxPlat

namespace KArray

variable {T : Type}

/- The array `a` holds exactly the elements of `xs`. -/
structure Holds
    (I : Instantiation T)
    (h : Heap T)
    (a : KArray)
    (xs : List T) : Prop where
  count : a.numElements = xs.length
  fits : xs.length ≤ a.bufferSize
  small : a.bufferSize < ulongMax
  bytes : I.sizeOf * a.bufferSize < I.sizeT.modulus
  null : a.p = none ↔ a.bufferSize = 0
  size : ∀ b, a.p = some b → h.capacity b = a.bufferSize
  elements :
    ∀ b, a.p = some b →
      ∀ i, i < xs.length → h.val b i = xs[i]?
  spare :
    I.triviallyDestructible = false →
      ∀ b, a.p = some b →
        ∀ i, xs.length ≤ i → i < a.bufferSize →
          h.val b i = none

/- An operation from `h`, `a` to `t`, `a'` stays inside. -/
structure Confined
    (h t : Heap T)
    (a a' : KArray) : Prop where
  fresh : t.Fresh
  oracle : t.oracle = h.oracle
  others :
    ∀ c, h.capacity c ≠ 0 → a.p ≠ some c →
      t.capacity c = h.capacity c ∧ t.val c = h.val c
  owned :
    ∀ c, t.capacity c ≠ 0 →
      a'.p = some c ∨ (h.capacity c ≠ 0 ∧ a.p ≠ some c)
  gained :
    ∀ c, a'.p = some c →
      a.p = some c ∨ h.capacity c = 0

namespace Holds

variable {I : Instantiation T}
variable {h t : Heap T} {a : KArray} {xs : List T}

/- A default-constructed array holds nothing. -/
theorem empty
    (I : Instantiation T)
    (h : Heap T) :
    Holds I h {} [] where
  count := rfl
  fits := Nat.le_refl 0
  small := by decide
  bytes := by
    have hPos := I.sizeT.ulong_le_modulus
    simp only [Nat.mul_zero]
    omega
  null := by simp
  size := by
    intro b hPointer
    cases hPointer
  elements := by
    intro b hPointer
    cases hPointer
  spare := by
    intro _ b hPointer
    cases hPointer

/- The bounds of the fields in terms of `2 ^ 32`. -/
theorem lt_ulong
    (hHolds : Holds I h a xs) :
    a.bufferSize < 2 ^ 32 - 1 := by
  have hSmall := hHolds.small
  unfold ulongMax at hSmall
  exact hSmall

theorem pointer_of_pos
    (hHolds : Holds I h a xs)
    (hPos : 0 < a.bufferSize) :
    ∃ b, a.p = some b := by
  cases hPointer : a.p with
  | none =>
      have hZero := hHolds.null.mp hPointer
      omega
  | some b => exact ⟨b, rfl⟩

theorem buffer_pos
    (hHolds : Holds I h a xs)
    {b : Nat}
    (hPointer : a.p = some b) :
    0 < a.bufferSize := by
  rcases Nat.eq_zero_or_pos a.bufferSize with hZero | hPos
  · rw [hHolds.null.mpr hZero] at hPointer
    cases hPointer
  · exact hPos

/- Without a buffer an array is as constructed. -/
theorem eq_default
    (hHolds : Holds I h a xs)
    (hPointer : a.p = none) :
    a = {} := by
  have hZero := hHolds.null.mp hPointer
  have hFits := hHolds.fits
  have hCount := hHolds.count
  have hNone : a.numElements = 0 := by omega
  cases a with
  | mk p numElements bufferSize =>
      simp only at hPointer hZero hNone
      subst hPointer hZero hNone
      rfl

/- A buffer in use is none that will be allocated. -/
theorem ne_next
    (hHolds : Holds I h a xs)
    (hFresh : h.Fresh)
    {b : Nat}
    (hPointer : a.p = some b) :
    b ≠ h.next := by
  apply hFresh.ne_next
  have hPos := hHolds.buffer_pos hPointer
  rw [hHolds.size b hPointer]
  omega

/- Elements are live. -/
theorem live
    (hHolds : Holds I h a xs)
    {b i : Nat}
    (hPointer : a.p = some b)
    (hLt : i < xs.length) :
    h.val b i = some xs[i] := by
  rw [hHolds.elements b hPointer i hLt,
    List.getElem?_eq_getElem hLt]

/- The representation only depends on the array's buffer. -/
theorem transport
    (hHolds : Holds I h a xs)
    (hCapacity :
      ∀ b, a.p = some b → t.capacity b = h.capacity b)
    (hValues : ∀ b, a.p = some b → t.val b = h.val b) :
    Holds I t a xs where
  count := hHolds.count
  fits := hHolds.fits
  small := hHolds.small
  bytes := hHolds.bytes
  null := hHolds.null
  size := by
    intro b hPointer
    rw [hCapacity b hPointer]
    exact hHolds.size b hPointer
  elements := by
    intro b hPointer i hLt
    rw [hValues b hPointer]
    exact hHolds.elements b hPointer i hLt
  spare := by
    intro hTrivial b hPointer i hLo hHi
    rw [hValues b hPointer]
    exact hHolds.spare hTrivial b hPointer i hLo hHi

end Holds

namespace Confined

variable {h t u : Heap T} {a a' a'' : KArray}
variable {b : Nat} {f : Nat → Option T}

theorem trans
    (hFirst : Confined h t a a')
    (hSecond : Confined t u a' a'') :
    Confined h u a a'' where
  fresh := hSecond.fresh
  oracle := hSecond.oracle.trans hFirst.oracle
  others := by
    intro c hAllocated hNot
    rcases hFirst.others c hAllocated hNot with
      ⟨hCapacity, hValues⟩
    have hStill : t.capacity c ≠ 0 := by
      rw [hCapacity]
      exact hAllocated
    have hNot' : a'.p ≠ some c := by
      intro hPointer
      rcases hFirst.gained c hPointer with hOld | hFree
      · exact hNot hOld
      · exact hAllocated hFree
    rcases hSecond.others c hStill hNot' with
      ⟨hCapacity', hValues'⟩
    exact ⟨hCapacity'.trans hCapacity,
      hValues'.trans hValues⟩
  owned := by
    intro c hAllocated
    rcases hSecond.owned c hAllocated with
      hNew | ⟨hBefore, hNot⟩
    · exact Or.inl hNew
    · rcases hFirst.owned c hBefore with hOwn | hOther
      · exact absurd hOwn hNot
      · exact Or.inr hOther
  gained := by
    intro c hPointer
    rcases hSecond.gained c hPointer with hOld | hFree
    · exact hFirst.gained c hOld
    · by_cases hOwn : a.p = some c
      · exact Or.inl hOwn
      · right
        by_contra hAllocated
        have hSame :=
          (hFirst.others c hAllocated hOwn).1
        rw [hFree] at hSame
        exact hAllocated hSame.symm

/- Rewriting the array's own buffer stays inside. -/
theorem of_rewrites
    (hFresh : h.Fresh)
    (hPointer : a.p = some b)
    (hPointer' : a'.p = some b)
    (hRewrites : Rewrites b f h t) :
    Confined h t a a' where
  fresh := hRewrites.fresh hFresh
  oracle := hRewrites.oracle
  others := by
    intro c _ hNot
    have hNe : c ≠ b := by
      intro hEq
      exact hNot (by rw [hPointer, hEq])
    refine ⟨by rw [hRewrites.capacity], ?_⟩
    exact hRewrites.val_other hNe
  owned := by
    intro c hAllocated
    by_cases hEq : c = b
    · subst hEq
      exact Or.inl hPointer'
    · right
      rw [hRewrites.capacity] at hAllocated
      refine ⟨hAllocated, ?_⟩
      rw [hPointer]
      intro hSome
      exact hEq (Option.some.inj hSome).symm
  gained := by
    intro c hSome
    left
    rw [hPointer, ← hPointer']
    exact hSome

/- Giving the own buffer back. -/
theorem release
    {b : Nat}
    (hConfined : Confined h t a a)
    (hPointer : a.p = some b) :
    Confined h (t.release b) a {} where
  fresh := hConfined.fresh.release b
  oracle := hConfined.oracle
  others := by
    intro c hAllocated hNot
    have hNe : c ≠ b := by
      intro hEq
      exact hNot (hEq ▸ hPointer)
    rw [t.release_capacity_of_ne hNe, t.release_val]
    exact hConfined.others c hAllocated hNot
  owned := by
    intro c hAllocated
    have hNe : c ≠ b := by
      intro hEq
      subst hEq
      exact hAllocated (t.release_capacity_self c)
    rw [t.release_capacity_of_ne hNe] at hAllocated
    rcases hConfined.owned c hAllocated with hOwn | hOther
    · rw [hPointer] at hOwn
      exact absurd (Option.some.inj hOwn).symm hNe
    · exact Or.inr hOther
  gained := by
    intro c hSome
    cases hSome

/- Doing nothing stays inside. -/
theorem refl
    (hFresh : h.Fresh)
    (hPointer : a'.p = a.p) :
    Confined h h a a' where
  fresh := hFresh
  oracle := rfl
  others := fun _ _ _ => ⟨rfl, rfl⟩
  owned := by
    intro c hAllocated
    by_cases hOwn : a.p = some c
    · exact Or.inl (hPointer.trans hOwn)
    · exact Or.inr ⟨hAllocated, hOwn⟩
  gained := by
    intro c hSome
    exact Or.inl (hPointer ▸ hSome)

end Confined

end KArray

end CxPlat

------------------------------------------------------------
-- Exchanging The Buffer
------------------------------------------------------------

namespace CxPlat

namespace KArray

open Comp

variable {T : Type}

/-
  The first `n` objects of the old buffer have been copied or
  moved to buffer `b`.  The old objects are still there.
-/
structure Relocated
    (b : Nat)
    (old : Pointer)
    (n : Nat)
    (h t : Heap T) : Prop where
  oracle : t.oracle = h.oracle
  next : t.next = h.next
  capacity : t.capacity = h.capacity
  others :
    ∀ c, c ≠ b → old ≠ some c → t.val c = h.val c
  placed :
    ∀ j, t.val b j =
      if j < n then old.bind (fun c => h.val c j)
      else h.val b j
  live :
    ∀ c, old = some c → ∀ j, j < n →
      ∃ v, t.val c j = some v
  rest :
    ∀ c, old = some c → ∀ j, n ≤ j →
      t.val c j = h.val c j

/- Moving one object to another buffer. -/
theorem returns_moveConstructAt_across
    (I : Instantiation T)
    {h : Heap T}
    {b c i j : Nat}
    {v : T}
    (hNe : c ≠ b)
    (hBound : i < h.capacity b)
    (hRaw : h.val b i = none)
    (hSource : j < h.capacity c)
    (hLive : h.val c j = some v) :
    Returns (moveConstructAt I (some b) i (some c) j) h
      (fun _ t =>
        ∃ m,
          Rewrites c
            (Function.update (h.val c) j
              (some (I.moved v))) h m ∧
          Rewrites b
            (Function.update (h.val b) i (some v)) m t) := by
  unfold moveConstructAt
  refine (returns_moveOutAt I hSource hLive).bind ?_
  rintro r m ⟨hValue, hMoved⟩
  subst hValue
  have hSame : m.val b = h.val b :=
    hMoved.val_other hNe.symm
  refine (returns_constructAt I r
    (by rw [hMoved.capacity]; exact hBound)
    (fun _ => by rw [hSame]; exact hRaw)).mono ?_
  intro _ t hBuilt
  refine ⟨m, hMoved, ?_⟩
  rw [hSame] at hBuilt
  exact hBuilt

/- Nothing has been moved yet. -/
theorem Relocated.zero
    (b : Nat)
    (old : Pointer)
    (h : Heap T) :
    Relocated b old 0 h h where
  oracle := rfl
  next := rfl
  capacity := rfl
  others := fun _ _ _ => rfl
  placed := by
    intro j
    rw [if_neg (by omega)]
  live := by
    intro c _ j hLt
    contradiction
  rest := fun _ _ _ _ => rfl

/- One more object has been moved. -/
theorem Relocated.succ
    {I : Instantiation T}
    {h t m u : Heap T}
    {b c i : Nat}
    {v : T}
    (hNe : c ≠ b)
    (hSoFar : Relocated b (some c) i h t)
    (hValue : h.val c i = some v)
    (hMoved :
      Rewrites c
        (Function.update (t.val c) i (some (I.moved v)))
        t m)
    (hBuilt :
      Rewrites b
        (Function.update (t.val b) i (some v)) m u) :
    Relocated b (some c) (i + 1) h u := by
  -- Buffer `c` changes at `i` first, then buffer `b`.
  have hOld :
      ∀ j, u.val c j =
        Function.update (t.val c) i
          (some (I.moved v)) j := by
    intro j
    rw [hBuilt.val_other hNe, hMoved.values]
  exact
    { oracle :=
        (hBuilt.oracle.trans hMoved.oracle).trans
          hSoFar.oracle
      next :=
        (hBuilt.next.trans hMoved.next).trans hSoFar.next
      capacity :=
        (hBuilt.capacity.trans hMoved.capacity).trans
          hSoFar.capacity
      others := by
        intro d hNotNew hNotOld
        have hNotC : d ≠ c := by
          intro hEq
          exact hNotOld (by rw [hEq])
        rw [hBuilt.val_other hNotNew, hMoved.val_other hNotC]
        exact hSoFar.others d hNotNew hNotOld
      placed := by
        intro j
        rw [hBuilt.values]
        by_cases hEq : j = i
        · subst hEq
          rw [Function.update_self, if_pos (by omega),
            Option.bind_some, hValue]
        · rw [Function.update_of_ne hEq, hSoFar.placed]
          have hIff : j < i ↔ j < i + 1 := by omega
          simp only [hIff]
      live := by
        intro d hSome j hLt
        cases hSome
        rw [hOld]
        by_cases hEq : j = i
        · subst hEq
          exact ⟨I.moved v, Function.update_self ..⟩
        · rw [Function.update_of_ne hEq]
          exact hSoFar.live c rfl j (by omega)
      rest := by
        intro d hSome j hLe
        cases hSome
        rw [hOld, Function.update_of_ne (by omega)]
        exact hSoFar.rest c rfl j (by omega) }

/- Element-wise relocation, one object a round. -/
theorem returns_relocateLoop
    (I : Instantiation T)
    {h : Heap T}
    {b c n : Nat}
    (hNe : c ≠ b)
    (hSmall : n < 2 ^ 32)
    (hTarget : n ≤ h.capacity b)
    (hSource : n ≤ h.capacity c)
    (hRaw : ∀ j, h.val b j = none)
    (hLive : ∀ j, j < n → ∃ v, h.val c j = some v) :
    Returns
      (ulongLoop (fun i => decide (i < n))
        (fun i => ulongAdd i 1)
        (fun i => moveConstructAt I (some b) i (some c) i)
        0) h
      (fun i t =>
        i = n ∧ Relocated b (some c) n h t) := by
  refine returns_forLoop_up
    (fun i t => Relocated b (some c) i h t)
    (Nat.zero_le n) (by simp) ?_ ?_ (by omega) ?_
  · intro i _ hHi
    exact ulongAdd_of_lt (by omega)
  · intro i t _ hHi hSoFar
    rcases hLive i hHi with ⟨v, hValue⟩
    have hHere : t.val c i = some v := by
      rw [hSoFar.rest c rfl i (Nat.le_refl i), hValue]
    have hFree : t.val b i = none := by
      rw [hSoFar.placed, if_neg (by omega), hRaw]
    refine (returns_moveConstructAt_across I hNe
      (by rw [hSoFar.capacity]; omega) hFree
      (by rw [hSoFar.capacity]; omega) hHere).mono ?_
    rintro _ u ⟨m, hMoved, hBuilt⟩
    exact hSoFar.succ hNe hValue hMoved hBuilt
  · exact Relocated.zero b (some c) h

/- What `memcpy` to the new buffer leaves. -/
theorem Relocated.of_copied
    {h t : Heap T}
    {old : Pointer}
    {b n : Nat}
    (hOld :
      ∀ c, old = some c →
        c ≠ b ∧ ∀ j, j < n → ∃ v, h.val c j = some v)
    (hCopied :
      Rewrites b
        (fun j =>
          if j < n then old.bind (fun c => h.val c j)
          else h.val b j) h t) :
    Relocated b old n h t := by
  have hKept : ∀ c, old = some c → t.val c = h.val c := by
    intro c hPointer
    exact hCopied.val_other (hOld c hPointer).1
  exact
    { oracle := hCopied.oracle
      next := hCopied.next
      capacity := hCopied.capacity
      others := by
        intro c hNe _
        exact hCopied.val_other hNe
      placed := hCopied.values
      live := by
        intro c hPointer j hLt
        rw [hKept c hPointer]
        exact (hOld c hPointer).2 j hLt
      rest := by
        intro c hPointer j _
        rw [hKept c hPointer] }

/- Relocation by `memcpy` or element by element. -/
theorem returns_relocate
    (I : Instantiation T)
    {h : Heap T}
    {a : KArray}
    {b : Nat}
    (hSmall : a.numElements < 2 ^ 32)
    (hBytes : I.sizeOf * a.bufferSize < I.sizeT.modulus)
    (hFits : a.numElements ≤ a.bufferSize)
    (hTarget : a.numElements ≤ h.capacity b)
    (hRaw : ∀ j, h.val b j = none)
    (hNull : a.p = none → a.numElements = 0)
    (hOld :
      ∀ c, a.p = some c →
        c ≠ b ∧ a.numElements ≤ h.capacity c ∧
          ∀ j, j < a.numElements →
            ∃ v, h.val c j = some v) :
    Returns (relocate I a b) h
      (fun _ t => Relocated b a.p a.numElements h t) := by
  unfold relocate
  by_cases hCopy : I.triviallyCopyable = true
  · rw [if_pos hCopy, slotsOf_of_le I hBytes hFits]
    have hSource :
        0 < a.numElements →
          ∃ c, a.p = some c ∧
            0 + a.numElements ≤ h.capacity c := by
      intro hPos
      cases hPointer : a.p with
      | none =>
          have hZero := hNull hPointer
          omega
      | some c =>
          have hBound := (hOld c hPointer).2.1
          exact ⟨c, rfl, by omega⟩
    refine (returns_copySlots (by omega) hSource).mono ?_
    intro _ t hCopied
    apply Relocated.of_copied
    · intro c hPointer
      rcases hOld c hPointer with ⟨hNe, _, hLive⟩
      exact ⟨hNe, hLive⟩
    · refine hCopied.congr ?_
      intro j
      simp only [Nat.zero_le, true_and, Nat.zero_add,
        Nat.sub_zero]
  · rw [if_neg hCopy]
    cases hPointer : a.p with
    | none =>
        -- Without a buffer there are no elements to move.
        rw [hNull hPointer]
        refine Returns.bind
          (returns_forLoop_skip (by simp)) ?_
        rintro i t ⟨_, hSame⟩
        subst hSame
        rw [returns_pure]
        exact Relocated.zero b none t
    | some c =>
        rcases hOld c hPointer with ⟨hNe, hBound, hLive⟩
        refine (returns_relocateLoop I hNe hSmall hTarget
          hBound hRaw hLive).bind ?_
        rintro i t ⟨_, hDone⟩
        rw [returns_pure]
        exact hDone

/- The old objects are destroyed and their buffer freed. -/
theorem returns_discard
    (I : Instantiation T)
    {h : Heap T}
    {a : KArray}
    {c : Nat}
    (hPointer : a.p = some c)
    (hSmall : a.numElements < 2 ^ 32)
    (hAllocated : h.capacity c ≠ 0)
    (hBound : a.numElements ≤ h.capacity c)
    (hLive :
      ∀ j, j < a.numElements → ∃ v, h.val c j = some v)
    (hRaw :
      I.triviallyDestructible = false →
        ∀ j, a.numElements ≤ j → j < h.capacity c →
          h.val c j = none) :
    Returns (discard I a) h
      (fun _ t =>
        ∃ m f, Rewrites c f h m ∧ t = m.release c) := by
  unfold discard
  rw [hPointer]
  simp only [Option.isSome_some, if_true]
  refine Returns.bind
    (returns_destroyUp (Nat.zero_le _) hBound
      (fun i _ hHi => ulongAdd_of_lt (by omega))
      (by omega) (fun j _ hHi => hLive j hHi)) ?_
  rintro i m ⟨_, hEmptied⟩
  refine returns_exFreePoolWithTag I
    (by rw [hEmptied.capacity]; exact hAllocated) ?_
    ⟨m, _, hEmptied, rfl⟩
  intro hTrivial j hLt
  rw [hEmptied.capacity] at hLt
  rw [hEmptied.values]
  unfold eraseRange
  by_cases hElement : j < a.numElements
  · rw [if_pos ⟨Nat.zero_le j, hElement⟩]
  · rw [if_neg (by omega)]
    exact hRaw hTrivial j (by omega) hLt

end KArray

end CxPlat

------------------------------------------------------------
-- Reserve, Grow And Reset
------------------------------------------------------------

namespace CxPlat

namespace KArray

open Comp

variable {T : Type}

/-
  What a request for `count` elements does: the contents stay
  as they are, and a refusal changes nothing at all.
-/
structure Reserved
    (I : Instantiation T)
    (xs : List T)
    (h : Heap T)
    (a : KArray)
    (count : Nat)
    (r : Bool × KArray)
    (t : Heap T) : Prop where
  holds : Holds I t r.2 xs
  confined : Confined h t a r.2
  room : r.1 = true → count ≤ r.2.bufferSize
  sure : count ≤ a.bufferSize → r.1 = true
  unchanged : r.1 = false → r.2 = a ∧ SameMemory h t

namespace Reserved

variable {I : Instantiation T} {xs : List T}
variable {h t : Heap T} {a : KArray} {count : Nat}

/- A request that is already met. -/
theorem met
    (hFresh : h.Fresh)
    (hHolds : Holds I h a xs)
    (hRoom : count ≤ a.bufferSize) :
    Reserved I xs h a count (true, a) h where
  holds := hHolds
  confined := Confined.refl hFresh rfl
  room := fun _ => hRoom
  sure := fun _ => rfl
  unchanged := by
    intro hFalse
    cases hFalse

/- A request that is turned down before any allocation. -/
theorem rejected
    (hFresh : h.Fresh)
    (hHolds : Holds I h a xs)
    (hCount : a.bufferSize < count) :
    Reserved I xs h a count (false, a) h where
  holds := hHolds
  confined := Confined.refl hFresh rfl
  room := by
    intro hTrue
    cases hTrue
  sure := by
    intro hRoom
    omega
  unchanged := fun _ => ⟨rfl, rfl, rfl, rfl, rfl, rfl⟩

/- A request that the pool turns down. -/
theorem refused
    (hFresh : h.Fresh)
    (hHolds : Holds I h a xs)
    (hCount : a.bufferSize < count) :
    Reserved I xs h a count (false, a) h.refuse where
  holds :=
    hHolds.transport (fun _ _ => rfl) (fun _ _ => rfl)
  confined :=
    { fresh := hFresh
      oracle := rfl
      others := fun _ _ _ => ⟨rfl, rfl⟩
      owned := (Confined.refl hFresh rfl).owned
      gained := fun _ hSome => Or.inl hSome }
  room := by
    intro hTrue
    cases hTrue
  sure := by
    intro hRoom
    omega
  unchanged := fun _ => ⟨rfl, rfl, rfl, rfl, rfl, rfl⟩

/-
  When a request is granted, `t` is the memory in which the
  elements are in the fresh buffer, and `u` that in which the
  old buffer, if there was one, is gone as well.
-/
theorem granted_values
    {u : Heap T}
    (hFresh : h.Fresh)
    (hHolds : Holds I h a xs)
    (hMoved :
      Relocated h.next a.p a.numElements
        (h.allocate count) t)
    (hKept :
      ∀ c, a.p ≠ some c →
        u.capacity c = t.capacity c ∧ u.val c = t.val c)
    (i : Nat) :
    u.val h.next i =
      if i < xs.length then xs[i]? else none := by
  have hNotOld : a.p ≠ some h.next := by
    intro hPointer
    exact hHolds.ne_next hFresh hPointer rfl
  rw [(hKept h.next hNotOld).2, hMoved.placed,
    h.allocate_val_self, hHolds.count]
  by_cases hLt : i < xs.length
  · rw [if_pos hLt, if_pos hLt]
    have hPos : 0 < a.bufferSize := by
      have hFits := hHolds.fits
      omega
    rcases hHolds.pointer_of_pos hPos with ⟨c, hPointer⟩
    have hNe := hHolds.ne_next hFresh hPointer
    rw [hPointer, Option.bind_some,
      h.allocate_val_of_ne count hNe]
    exact hHolds.elements c hPointer i hLt
  · rw [if_neg hLt, if_neg hLt]

/- The array then holds its elements in the new buffer. -/
theorem granted_holds
    {u : Heap T}
    (hHolds : Holds I h a xs)
    (hCount : a.bufferSize < count)
    (hSmall : count < ulongMax)
    (hBytes : I.sizeOf * count < I.sizeT.modulus)
    (hCapacity : u.capacity h.next = count)
    (hValues :
      ∀ i, u.val h.next i =
        if i < xs.length then xs[i]? else none) :
    Holds I u
      { a with
        bufferSize := ulong count
        p := some h.next } xs := by
  have hUlong : ulong count = count := by
    unfold ulongMax at hSmall
    exact ulong_of_lt (by omega)
  rw [hUlong]
  refine
    { count := hHolds.count
      fits := ?_
      small := hSmall
      bytes := hBytes
      null := ?_
      size := ?_
      elements := ?_
      spare := ?_ }
  · have hFits := hHolds.fits
    simp only
    omega
  · simp only [reduceCtorEq, false_iff]
    omega
  · intro b hSome
    cases hSome
    exact hCapacity
  · intro b hSome i hLt
    cases hSome
    rw [hValues, if_pos hLt]
  · intro _ b hSome i hLo hHi
    cases hSome
    rw [hValues, if_neg (by omega)]

/- And no other buffer has been touched. -/
theorem granted_confined
    {u : Heap T}
    {a' : KArray}
    (hFresh : h.Fresh)
    (hMoved :
      Relocated h.next a.p a.numElements
        (h.allocate count) t)
    (hOracle : u.oracle = t.oracle)
    (hUFresh : u.Fresh)
    (hKept :
      ∀ c, a.p ≠ some c →
        u.capacity c = t.capacity c ∧ u.val c = t.val c)
    (hGone : ∀ c, a.p = some c → u.capacity c = 0)
    (hPointer : a'.p = some h.next) :
    Confined h u a a' where
  fresh := hUFresh
  oracle := hOracle.trans hMoved.oracle
  others := by
    intro c hAllocated hNot
    have hNe : c ≠ h.next := hFresh.ne_next hAllocated
    rcases hKept c hNot with ⟨hSame, hVals⟩
    rw [hSame, hMoved.capacity,
      h.allocate_capacity_of_ne count hNe, hVals,
      hMoved.others c hNe hNot,
      h.allocate_val_of_ne count hNe]
    exact ⟨rfl, rfl⟩
  owned := by
    intro c hAllocated
    by_cases hEq : c = h.next
    · subst hEq
      exact Or.inl hPointer
    · right
      have hNot : a.p ≠ some c := by
        intro hOld
        exact hAllocated (hGone c hOld)
      rw [(hKept c hNot).1, hMoved.capacity,
        h.allocate_capacity_of_ne count hEq] at hAllocated
      exact ⟨hAllocated, hNot⟩
  gained := by
    intro c hSome
    rw [hPointer] at hSome
    cases hSome
    exact Or.inr (hFresh h.next (Nat.le_refl _))

end Reserved

/- The pool grants a request for `count` elements. -/
def Grants
    (I : Instantiation T)
    (h : Heap T)
    (count : Nat) : Prop :=
  count < ulongMax ∧
    I.sizeOf * count < I.sizeT.modulus ∧
    h.oracle h.asked = true

instance
    (I : Instantiation T)
    (h : Heap T)
    (count : Nat) :
    Decidable (Grants I h count) :=
  inferInstanceAs (Decidable (_ ∧ _))

/-
  What a request for more elements than there is room for
  does: if it is granted, the elements are in a new buffer,
  which is raw behind them.
-/
structure Exchanged
    (I : Instantiation T)
    (xs : List T)
    (h : Heap T)
    (a : KArray)
    (count : Nat)
    (r : Bool × KArray)
    (t : Heap T) : Prop where
  reserved : Reserved I xs h a count r t
  granted : r.1 = true ↔ Grants I h count
  pointer : r.1 = true → r.2.p = some h.next
  blank :
    r.1 = true →
      ∀ i, xs.length ≤ i → t.val h.next i = none

namespace Exchanged

variable {I : Instantiation T} {xs : List T}
variable {h t : Heap T} {a : KArray} {count : Nat}

/- A request that is not granted. -/
theorem of_false
    {a' : KArray}
    (hReserved : Reserved I xs h a count (false, a') t)
    (hNot : ¬ Grants I h count) :
    Exchanged I xs h a count (false, a') t where
  reserved := hReserved
  granted := by simp [hNot]
  pointer := by
    intro hTrue
    cases hTrue
  blank := by
    intro hTrue
    cases hTrue

/- A request that is. -/
theorem of_true
    {u : Heap T}
    (hFresh : h.Fresh)
    (hHolds : Holds I h a xs)
    (hCount : a.bufferSize < count)
    (hGrants : Grants I h count)
    (hMoved :
      Relocated h.next a.p a.numElements
        (h.allocate count) t)
    (hOracle : u.oracle = t.oracle)
    (hUFresh : u.Fresh)
    (hKept :
      ∀ c, a.p ≠ some c →
        u.capacity c = t.capacity c ∧ u.val c = t.val c)
    (hGone : ∀ c, a.p = some c → u.capacity c = 0) :
    Exchanged I xs h a count
      (true,
        { a with
          bufferSize := ulong count
          p := some h.next }) u := by
  have hValues := Reserved.granted_values hFresh hHolds
    hMoved hKept
  have hCapacity : u.capacity h.next = count := by
    have hNotOld : a.p ≠ some h.next := by
      intro hPointer
      exact hHolds.ne_next hFresh hPointer rfl
    rw [(hKept h.next hNotOld).1, hMoved.capacity,
      h.allocate_capacity_self]
  have hUlong : ulong count = count := by
    have hSmall := hGrants.1
    unfold ulongMax at hSmall
    exact ulong_of_lt (by omega)
  refine
    { reserved :=
        { holds := Reserved.granted_holds hHolds hCount
            hGrants.1 hGrants.2.1 hCapacity hValues
          confined := Reserved.granted_confined hFresh
            hMoved hOracle hUFresh hKept hGone rfl
          room := fun _ => by simp [hUlong]
          sure := fun _ => rfl
          unchanged := by
            intro hFalse
            cases hFalse }
      granted := by simp [hGrants]
      pointer := fun _ => rfl
      blank := ?_ }
  intro _ i hLe
  rw [hValues, if_neg (by omega)]

end Exchanged

/- The elements of an array in the fresh buffer. -/
theorem returns_relocate_next
    (I : Instantiation T)
    {h : Heap T}
    {a : KArray}
    {xs : List T}
    {count : Nat}
    (hFresh : h.Fresh)
    (hHolds : Holds I h a xs)
    (hCount : a.bufferSize < count) :
    Returns (relocate I a h.next) (h.allocate count)
      (fun _ t =>
        Relocated h.next a.p a.numElements
          (h.allocate count) t) := by
  have hLimit := hHolds.lt_ulong
  have hLength := hHolds.count
  have hFits := hHolds.fits
  apply returns_relocate I (by omega) hHolds.bytes
    (by omega)
  · rw [h.allocate_capacity_self]
    omega
  · exact fun j => h.allocate_val_self count j
  · intro hPointer
    have hZero := hHolds.null.mp hPointer
    omega
  · intro c hPointer
    have hNe := hHolds.ne_next hFresh hPointer
    rw [h.allocate_capacity_of_ne count hNe,
      h.allocate_val_of_ne count hNe,
      hHolds.size c hPointer]
    refine ⟨hNe, by omega, ?_⟩
    intro j hLt
    exact ⟨_, hHolds.live hPointer
      (by omega : j < xs.length)⟩

/- The old buffer, if there is one, is given back. -/
theorem returns_discard_old
    (I : Instantiation T)
    {h t : Heap T}
    {a : KArray}
    {xs : List T}
    {count : Nat}
    (hFresh : h.Fresh)
    (hHolds : Holds I h a xs)
    (hCount : a.bufferSize < count)
    (hGrants : Grants I h count)
    (hMoved :
      Relocated h.next a.p a.numElements
        (h.allocate count) t) :
    Returns
      (do
        discard I a
        pure
          (true,
            { a with
              bufferSize := ulong count
              p := some h.next })) t
      (Exchanged I xs h a count) := by
  have hLimit := hHolds.lt_ulong
  have hLength := hHolds.count
  have hFits := hHolds.fits
  have hTFresh : t.Fresh := by
    intro c hNext
    rw [hMoved.capacity]
    rw [hMoved.next] at hNext
    exact hFresh.allocate count c hNext
  rcases Option.eq_none_or_eq_some a.p with
    hPointer | ⟨c, hPointer⟩
  · have hDiscard : discard I a = pure () := by
      simp [discard, hPointer]
    rw [hDiscard]
    simp only [pure_bind, returns_pure]
    apply Exchanged.of_true hFresh hHolds hCount hGrants
      hMoved rfl hTFresh
    · exact fun _ _ => ⟨rfl, rfl⟩
    · intro c hSome
      rw [hPointer] at hSome
      cases hSome
  · have hNe := hHolds.ne_next hFresh hPointer
    have hPos := hHolds.buffer_pos hPointer
    have hCapacity : t.capacity c = a.bufferSize := by
      rw [hMoved.capacity,
        h.allocate_capacity_of_ne count hNe,
        hHolds.size c hPointer]
    refine (returns_discard I hPointer (by omega) (by omega)
      (by omega) (hMoved.live c hPointer) ?_).bind ?_
    · intro hTrivial j hLo hHi
      rw [hMoved.rest c hPointer j hLo,
        h.allocate_val_of_ne count hNe]
      exact hHolds.spare hTrivial c hPointer j
        (by omega) (by omega)
    · rintro _ u ⟨m, f, hEmptied, hFreed⟩
      subst hFreed
      rw [returns_pure]
      apply Exchanged.of_true hFresh hHolds hCount hGrants
        hMoved
      · exact hEmptied.oracle
      · exact (hEmptied.fresh hTFresh).release c
      · intro d hNot
        have hDNe : d ≠ c := by
          intro hEq
          exact hNot (hEq ▸ hPointer)
        rw [m.release_capacity_of_ne hDNe,
          hEmptied.capacity, m.release_val]
        exact ⟨rfl, hEmptied.val_other hDNe⟩
      · intro d hSome
        rw [hPointer] at hSome
        cases hSome
        exact m.release_capacity_self c

/- Asking for more elements than there is room for. -/
theorem returns_reserve_more
    (I : Instantiation T)
    {h : Heap T}
    {a : KArray}
    {xs : List T}
    {count : Nat}
    (hFresh : h.Fresh)
    (hHolds : Holds I h a xs)
    (hCount : a.bufferSize < count) :
    Returns (reserve I a count) h
      (Exchanged I xs h a count) := by
  have hRejected :=
    Reserved.rejected hFresh hHolds hCount
  unfold reserve
  rw [if_neg (by omega)]
  by_cases hMax : count ≥ ulongMax
  · rw [if_pos hMax, returns_pure]
    apply Exchanged.of_false hRejected
    rintro ⟨hSmall, _⟩
    omega
  · rw [if_neg hMax]
    unfold rtlSIZETMult
    by_cases hBytes : I.sizeOf * count < I.sizeT.modulus
    · rw [if_pos hBytes]
      dsimp only
      rw [returns_bind]
      apply returns_exAllocatePoolUninitialized
      · intro hOracle
        rw [Nat.mul_div_cancel_left count I.sizeOf_pos]
        apply (returns_relocate_next I hFresh hHolds
          hCount).bind
        intro _ t hMoved
        exact returns_discard_old I hFresh hHolds hCount
          ⟨by omega, hBytes, hOracle⟩ hMoved
      · intro hOracle
        simp only [returns_pure]
        apply Exchanged.of_false
          (Reserved.refused hFresh hHolds hCount)
        rintro ⟨_, _, hGranted⟩
        rw [hOracle] at hGranted
        contradiction
    · rw [if_neg hBytes]
      simp only [returns_pure]
      apply Exchanged.of_false hRejected
      rintro ⟨_, hFits, _⟩
      exact hBytes hFits

theorem returns_reserve
    (I : Instantiation T)
    {h : Heap T}
    {a : KArray}
    {xs : List T}
    (count : Nat)
    (hFresh : h.Fresh)
    (hHolds : Holds I h a xs) :
    Returns (reserve I a count) h
      (Reserved I xs h a count) := by
  by_cases hMet : a.bufferSize ≥ count
  · unfold reserve
    rw [if_pos hMet, returns_pure]
    exact Reserved.met hFresh hHolds hMet
  · apply (returns_reserve_more I hFresh hHolds
      (by omega)).mono
    intro r t hExchanged
    exact hExchanged.reserved

/- `grow` when there is not room enough. -/
theorem returns_grow_more
    (I : Instantiation T)
    {h : Heap T}
    {a : KArray}
    {xs : List T}
    {count : Nat}
    (hFresh : h.Fresh)
    (hHolds : Holds I h a xs)
    (hCount : a.bufferSize < count) :
    Returns (grow I a count) h
      (Exchanged I xs h a (growCount I a count)) := by
  have hMore := le_growCount I a count
  unfold grow
  rw [if_neg (by omega)]
  exact returns_reserve_more I hFresh hHolds (by omega)

/- `grow` asks for more than it is asked for. -/
theorem returns_grow
    (I : Instantiation T)
    {h : Heap T}
    {a : KArray}
    {xs : List T}
    (count : Nat)
    (hFresh : h.Fresh)
    (hHolds : Holds I h a xs) :
    Returns (grow I a count) h
      (Reserved I xs h a count) := by
  unfold grow
  by_cases hMet : a.bufferSize ≥ count
  · rw [if_pos hMet, returns_pure]
    exact Reserved.met hFresh hHolds hMet
  · rw [if_neg hMet]
    refine (returns_reserve I (growCount I a count)
      hFresh hHolds).mono ?_
    intro r t hDone
    exact
      { holds := hDone.holds
        confined := hDone.confined
        room := fun hTrue =>
          Nat.le_trans (le_growCount I a count)
            (hDone.room hTrue)
        sure := by
          intro hRoom
          omega
        unchanged := hDone.unchanged }

/- The last part of `reset`, for an emptied buffer. -/
theorem returns_freeBuffer
    (I : Instantiation T)
    {h m : Heap T}
    {a : KArray}
    {b : Nat}
    {f : Nat → Option T}
    (hFresh : h.Fresh)
    (hPointer : a.p = some b)
    (hCapacity : h.capacity b = a.bufferSize)
    (hPos : 0 < a.bufferSize)
    (hEmptied : Rewrites b f h m)
    (hRaw :
      I.triviallyDestructible = false →
        ∀ i, i < a.bufferSize → f i = none) :
    Returns
      (do
        exFreePoolWithTag I (some b)
        pure
          ({ p := none, numElements := 0, bufferSize := 0 } :
            KArray)) m
      (fun a' t => a' = {} ∧ Confined h t a {}) := by
  have hInside :=
    Confined.of_rewrites hFresh hPointer hPointer hEmptied
  rw [returns_bind]
  apply returns_exFreePoolWithTag I
  · rw [hEmptied.capacity]
    omega
  · intro hTrivial i hLt
    rw [hEmptied.capacity, hCapacity] at hLt
    rw [hEmptied.values]
    exact hRaw hTrivial i hLt
  · rw [returns_pure]
    exact ⟨rfl, hInside.release hPointer⟩

/-
  `reset` leaves a default-constructed array and no buffer.
  Only types with a destructor have their elements visited.
-/
theorem returns_reset
    (I : Instantiation T)
    {h : Heap T}
    {a : KArray}
    {xs : List T}
    (hFresh : h.Fresh)
    (hHolds : Holds I h a xs) :
    Returns (reset I a) h
      (fun a' t => a' = {} ∧ Confined h t a {}) := by
  have hLimit := hHolds.lt_ulong
  have hCount := hHolds.count
  have hFits := hHolds.fits
  unfold reset
  cases hPointer : a.p with
  | none =>
      simp only [Option.isSome_none, Bool.false_eq_true,
        if_false, returns_pure]
      refine ⟨?_, Confined.refl hFresh hPointer.symm⟩
      exact hHolds.eq_default hPointer
  | some b =>
      have hCapacity := hHolds.size b hPointer
      have hPos := hHolds.buffer_pos hPointer
      simp only [Option.isSome_some, if_true]
      by_cases hTrivial : I.triviallyDestructible = true
      · rw [hTrivial]
        simp only [Bool.not_true, Bool.false_eq_true,
          if_false]
        apply returns_freeBuffer I hFresh hPointer hCapacity
          hPos (Rewrites.refl b h)
        intro hFalse
        rw [hTrivial] at hFalse
        cases hFalse
      · have hFalse : I.triviallyDestructible = false := by
          simpa using hTrivial
        rw [hFalse]
        simp only [Bool.not_false, if_true]
        refine (returns_destroyDown (Nat.zero_le _)
          (by omega) (by omega) ?_).bind ?_
        · intro j _ hLt
          exact ⟨_, hHolds.live hPointer
            (by omega : j < xs.length)⟩
        · rintro i m ⟨_, hEmptied⟩
          apply returns_freeBuffer I hFresh hPointer hCapacity
            hPos hEmptied
          intro _ j hLt
          unfold eraseRange
          by_cases hElement : j < a.numElements
          · rw [if_pos ⟨Nat.zero_le j, hElement⟩]
          · rw [if_neg (by omega)]
            exact hHolds.spare hFalse b hPointer j
              (by omega) hLt

end KArray

end CxPlat
