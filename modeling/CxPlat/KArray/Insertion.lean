import CxPlat.KArray.Elements

/-
  Insertion and erasure as list operations.

  An element argument may be any object outside the array,
  an element of another array included.  `Ref.Denotes` says
  which value it has, and `Ref.Spent` what taking the value
  does to the argument itself: an argument passed as `T &&`
  is left moved-from.

  Key definitions include:
    * `Ref.Denotes`, `Ref.Spent`
    * `Inserted`
    * `Opened`

  Key theorems include:
    * `returns_append`, `returns_insertAt`
    * `returns_insertSorted`, `returns_insertSortedUnique`
    * `returns_eraseAt`
-/

------------------------------------------------------------
-- Element Arguments
------------------------------------------------------------

namespace CxPlat

namespace KArray

open Comp

variable {T : Type}

/- The argument has value `v` and is not in `a`'s buffer. -/
def Ref.Denotes
    (h : Heap T)
    (a : KArray)
    (v : T) : Ref T → Prop
  | .value w => w = v
  | .element p i =>
      ∃ c, p = some c ∧ a.p ≠ some c ∧
        i < h.capacity c ∧ h.val c i = some v

/- Taking the value `v` of the argument turns `h` into `t`. -/
def Ref.Spent
    (I : Instantiation T)
    (v : T)
    (h t : Heap T) : Pass → Ref T → Prop
  | .move, .element (some c) i =>
      Rewrites c
        (Function.update (h.val c) i (some (I.moved v))) h t
  | _, _ => t = h

namespace Ref

variable {I : Instantiation T}
variable {h t : Heap T} {a a' : KArray} {v : T}

/- An argument keeps its value while the array changes. -/
theorem Denotes.confined
    {r : Ref T}
    (hDenotes : r.Denotes h a v)
    (hConfined : Confined h t a a') :
    r.Denotes t a' v := by
  cases r with
  | value w => exact hDenotes
  | element p i =>
      rcases hDenotes with ⟨c, hSome, hOther, hLt, hValue⟩
      have hAllocated : h.capacity c ≠ 0 := by omega
      rcases hConfined.others c hAllocated hOther with
        ⟨hCapacity, hValues⟩
      refine ⟨c, hSome, ?_, by omega, by rw [hValues, hValue]⟩
      intro hOwn
      rcases hConfined.gained c hOwn with hOld | hFree
      · exact hOther hOld
      · exact hAllocated hFree

/- Reading an argument changes nothing. -/
theorem Denotes.read
    {r : Ref T}
    (hDenotes : r.Denotes h a v)
    {Q : T → Heap T → Prop} :
    Returns r.read h Q ↔ Q v h := by
  cases r with
  | value w =>
      have hEq : w = v := hDenotes
      subst hEq
      unfold Ref.read
      rw [returns_pure]
  | element p i =>
      rcases hDenotes with ⟨c, hSome, _, hLt, hValue⟩
      subst hSome
      unfold Ref.read
      exact returns_readAt hLt hValue

/- Taking the value. -/
theorem Denotes.take
    {r : Ref T}
    (hDenotes : r.Denotes h a v)
    (pass : Pass) :
    Returns (r.take I pass) h
      (fun w t => w = v ∧ r.Spent I v h t pass) := by
  cases pass with
  | copy =>
      unfold Ref.take
      exact hDenotes.read.mpr ⟨rfl, rfl⟩
  | move =>
      cases r with
      | value w =>
          have hEq : w = v := hDenotes
          unfold Ref.take
          rw [returns_pure]
          exact ⟨hEq, rfl⟩
      | element p i =>
          rcases hDenotes with ⟨c, hSome, _, hLt, hValue⟩
          subst hSome
          unfold Ref.take
          exact returns_moveOutAt I hLt hValue

/- Taking the argument does not touch the array. -/
theorem Denotes.spent_own
    {r : Ref T}
    {pass : Pass}
    {b : Nat}
    (hDenotes : r.Denotes h a v)
    (hSpent : r.Spent I v h t pass)
    (hPointer : a.p = some b) :
    t.val b = h.val b := by
  cases pass with
  | copy =>
      have hSame : t = h := by
        cases r <;> exact hSpent
      rw [hSame]
  | move =>
      cases r with
      | value w =>
          have hSame : t = h := hSpent
          rw [hSame]
      | element p i =>
          rcases hDenotes with ⟨c, hSome, hOther, _⟩
          subst hSome
          have hMoved : Rewrites c _ h t := hSpent
          have hNe : b ≠ c := by
            intro hEq
            exact hOther (hEq ▸ hPointer)
          exact hMoved.val_other hNe

/- Taking the argument allocates and frees nothing. -/
theorem Spent.kept
    {r : Ref T}
    {pass : Pass}
    (hSpent : r.Spent I v h t pass) :
    t.oracle = h.oracle ∧ t.next = h.next ∧
      t.capacity = h.capacity := by
  rcases r with w | ⟨p, i⟩
  · have hSame : t = h := by
      cases pass <;> exact hSpent
    rw [hSame]
    exact ⟨rfl, rfl, rfl⟩
  · rcases pass with _ | _
    · have hSame : t = h := hSpent
      rw [hSame]
      exact ⟨rfl, rfl, rfl⟩
    · cases p with
      | none =>
          have hSame : t = h := hSpent
          rw [hSame]
          exact ⟨rfl, rfl, rfl⟩
      | some c =>
          have hMoved : Rewrites c _ h t := hSpent
          exact ⟨hMoved.oracle, hMoved.next,
            hMoved.capacity⟩

end Ref

/-
  The frame of an insertion: the array is changed, the
  argument is taken, and the array is changed again.
-/
def Spends
    (I : Instantiation T)
    (pass : Pass)
    (r : Ref T)
    (v : T)
    (h t : Heap T)
    (a a' : KArray) : Prop :=
  ∃ m u w,
    Confined h u a m ∧ r.Spent I v u w pass ∧
      Confined w t m a'

/-
  The outcome of an insertion of `v` that turns `xs` into
  `ys` when it returns true.
-/
structure Inserted
    (I : Instantiation T)
    (pass : Pass)
    (r : Ref T)
    (v : T)
    (xs ys : List T)
    (h : Heap T)
    (a : KArray)
    (res : Bool × KArray)
    (t : Heap T) : Prop where
  holds : Holds I t res.2 (if res.1 then ys else xs)
  spends : res.1 = true → Spends I pass r v h t a res.2
  unchanged : res.1 = false → res.2 = a ∧ SameMemory h t

end KArray

end CxPlat

------------------------------------------------------------
-- Placing An Element
------------------------------------------------------------

namespace CxPlat

namespace KArray

open Comp

variable {T : Type}

/-
  The values `g` are those of `xs` with slot `index` open:
  the elements from `index` on stand one slot higher.
-/
structure Opened
    (I : Instantiation T)
    (xs : List T)
    (index size : Nat)
    (g : Nat → Option T) : Prop where
  below : ∀ i, i < index → g i = xs[i]?
  above :
    ∀ i, index ≤ i → i < xs.length → g (i + 1) = xs[i]?
  hole : I.triviallyDestructible = false → g index = none
  spare :
    I.triviallyDestructible = false →
      ∀ i, xs.length < i → i < size → g i = none

/- Every array has an open slot after its last element. -/
theorem Holds.opened
    {I : Instantiation T}
    {h : Heap T}
    {a : KArray}
    {xs : List T}
    {b : Nat}
    (hHolds : Holds I h a xs)
    (hPointer : a.p = some b)
    (hRoom : xs.length < a.bufferSize) :
    Opened I xs xs.length a.bufferSize (h.val b) where
  below := fun i hLt => hHolds.elements b hPointer i hLt
  above := by
    intro i hLo hHi
    omega
  hole := fun hTrivial =>
    hHolds.spare hTrivial b hPointer _ (Nat.le_refl _) hRoom
  spare := fun hTrivial i hLo hHi =>
    hHolds.spare hTrivial b hPointer i (by omega) hHi

/- Filling the open slot gives the list with `v` inserted. -/
theorem Opened.fill
    {I : Instantiation T}
    {xs : List T}
    {index size : Nat}
    {g : Nat → Option T}
    (hOpened : Opened I xs index size g)
    (hIndex : index ≤ xs.length)
    (v : T)
    {i : Nat}
    (hLt : i < xs.length + 1) :
    Function.update g index (some v) i =
      (xs.insertIdx index v)[i]? := by
  rw [List.getElem?_insertIdx]
  by_cases hBelow : i < index
  · rw [if_pos hBelow, Function.update_of_ne (by omega)]
    exact hOpened.below i hBelow
  · rw [if_neg hBelow]
    by_cases hAt : i = index
    · subst hAt
      rw [Function.update_self, if_pos rfl, if_pos hIndex]
    · rw [if_neg hAt, Function.update_of_ne hAt]
      have hAbove := hOpened.above (i - 1) (by omega)
        (by omega)
      have hNext : i - 1 + 1 = i := by omega
      rw [hNext] at hAbove
      exact hAbove

/- Constructing the argument in the open slot. -/
theorem returns_place
    (I : Instantiation T)
    (pass : Pass)
    {r : Ref T}
    {v : T}
    {h u : Heap T}
    {a a' : KArray}
    {xs : List T}
    {b index : Nat}
    (hConfined : Confined h u a a')
    (hDenotes : r.Denotes u a' v)
    (hPointer : a'.p = some b)
    (hCount : a'.numElements = xs.length)
    (hSmall : a'.bufferSize < ulongMax)
    (hBytes : I.sizeOf * a'.bufferSize < I.sizeT.modulus)
    (hSize : u.capacity b = a'.bufferSize)
    (hRoom : xs.length < a'.bufferSize)
    (hIndex : index ≤ xs.length)
    (hOpened :
      Opened I xs index a'.bufferSize (u.val b)) :
    Returns (place I pass a' index r) u
      (fun res t =>
        Inserted I pass r v xs (xs.insertIdx index v)
          h a res t) := by
  have hMax : a'.bufferSize < 2 ^ 32 - 1 := by
    unfold ulongMax at hSmall
    exact hSmall
  unfold place
  refine (hDenotes.take (I := I) pass).bind ?_
  rintro w m ⟨hEq, hSpent⟩
  subst hEq
  rcases hSpent.kept with ⟨_, hNext, hCapacity⟩
  have hOwn := hDenotes.spent_own hSpent hPointer
  have hFresh : m.Fresh := by
    intro c hLe
    rw [hCapacity]
    exact hConfined.fresh c (hNext ▸ hLe)
  have hBuild := returns_constructAt I (b := b) w
    (by rw [hCapacity]; omega : index < m.capacity b)
    (fun hTrivial => by
      rw [hOwn]
      exact hOpened.hole hTrivial)
  rw [← hPointer] at hBuild
  refine hBuild.bind ?_
  intro _ t hBuilt
  rw [returns_pure]
  have hLength :=
    List.length_insertIdx_of_le_length hIndex w
  have hMore :
      ulongAdd a'.numElements 1 =
        (xs.insertIdx index w).length := by
    rw [hLength, hCount]
    exact ulongAdd_of_lt (by omega)
  refine
    { holds := ?_
      spends := ?_
      unchanged := ?_ }
  · rw [if_pos rfl]
    refine Holds.of_values (b := b) hPointer hMore
      (show _ ≤ a'.bufferSize by omega)
      (show 0 < a'.bufferSize by omega)
      hSmall hBytes ?_ ?_ ?_
    · rw [hBuilt.capacity, hCapacity]
      exact hSize
    · intro i hLt
      rw [hLength] at hLt
      rw [hBuilt.values, hOwn]
      exact hOpened.fill hIndex w hLt
    · intro hTrivial i hLo hHi
      rw [hLength] at hLo
      rw [hBuilt.values,
        Function.update_of_ne (by omega), hOwn]
      exact hOpened.spare hTrivial i (by omega) hHi
  · intro _
    refine ⟨a', u, m, hConfined, hSpent, ?_⟩
    exact Confined.of_rewrites hFresh hPointer hPointer
      hBuilt
  · intro hFalse
    cases hFalse

/- Inside the array, `makeRoom` shifts by one slot. -/
theorem makeRoom_eq
    (I : Instantiation T)
    {h : Heap T}
    {a : KArray}
    {xs : List T}
    {index : Nat}
    (hHolds : Holds I h a xs)
    (hIndex : index < xs.length) :
    makeRoom I a index =
      moveElements I a index (index + 1)
        (xs.length - index) := by
  have hMax := hHolds.lt_ulong
  have hCount := hHolds.count
  have hFits := hHolds.fits
  have hWide := I.sizeT.ulong_le_modulus
  unfold makeRoom
  rw [if_pos (by omega), sizeAdd_of_lt (by omega),
    sizeSub_of_le (by omega) (by omega),
    ulong_of_lt (by omega), ulong_of_lt (by omega),
    ulong_of_lt (by omega), hCount]

/- At its end it does nothing. -/
theorem makeRoom_length
    (I : Instantiation T)
    {h : Heap T}
    {a : KArray}
    {xs : List T}
    (hHolds : Holds I h a xs) :
    makeRoom I a xs.length = pure () := by
  unfold makeRoom
  rw [hHolds.count, if_neg (Nat.lt_irrefl _)]

/- `makeRoom` opens slot `index`. -/
theorem returns_makeRoom
    (I : Instantiation T)
    {h : Heap T}
    {a : KArray}
    {xs : List T}
    {b index : Nat}
    (hHolds : Holds I h a xs)
    (hPointer : a.p = some b)
    (hRoom : xs.length < a.bufferSize)
    (hIndex : index ≤ xs.length) :
    Returns (makeRoom I a index) h
      (fun _ t =>
        ∃ f, Rewrites b f h t ∧
          Opened I xs index a.bufferSize f) := by
  have hMax := hHolds.lt_ulong
  have hCount := hHolds.count
  by_cases hInside : index < xs.length
  · rw [makeRoom_eq I hHolds hInside]
    refine (returns_moveElements I hPointer (by omega)
      hHolds.bytes (hHolds.size b hPointer) (by omega)
      (by omega) (by omega) (by omega) (by omega)
      ?_ ?_ ?_).mono ?_
    · intro j _ hHi
      exact ⟨_, hHolds.live hPointer
        (by omega : j < xs.length)⟩
    · intro hTrivial j hLo hHi
      exact hHolds.spare hTrivial b hPointer j (by omega)
        (by omega)
    · intro _ j hLo hHi
      omega
    · rintro _ t ⟨f, hRewrites, hMoved⟩
      refine ⟨f, hRewrites, ?_⟩
      exact
        { below := by
            intro i hLt
            rw [hMoved.below i hLt (by omega)]
            exact hHolds.elements b hPointer i (by omega)
          above := by
            intro i hLo hHi
            have hPlaced :=
              hMoved.placed (i - index) (by omega)
            have hTarget :
                index + 1 + (i - index) = i + 1 := by
              omega
            have hSource : index + (i - index) = i := by
              omega
            rw [hTarget, hSource] at hPlaced
            rw [hPlaced]
            exact hHolds.elements b hPointer i hHi
          hole := fun hTrivial =>
            hMoved.vacatedRight hTrivial index
              (Nat.le_refl _) (by omega)
          spare := by
            intro hTrivial i hLo hHi
            rw [hMoved.above i (by omega) (by omega)]
            exact hHolds.spare hTrivial b hPointer i
              (by omega) hHi }
  · have hEnd : index = xs.length := by omega
    subst hEnd
    rw [makeRoom_length I hHolds, returns_pure]
    exact ⟨h.val b, Rewrites.refl b h,
      hHolds.opened hPointer hRoom⟩

/- Growth that fails fails the insertion. -/
theorem Inserted.of_refused
    {I : Instantiation T}
    {pass : Pass}
    {r : Ref T}
    {v : T}
    {xs ys : List T}
    {h t : Heap T}
    {a a' : KArray}
    {count : Nat}
    (hReserved : Reserved I xs h a count (false, a') t) :
    Inserted I pass r v xs ys h a (false, a') t where
  holds := hReserved.holds
  spends := by
    intro hTrue
    cases hTrue
  unchanged := hReserved.unchanged

/- An index past the end is turned down. -/
theorem returns_insertAt_of_lt
    (I : Instantiation T)
    (pass : Pass)
    {h : Heap T}
    {a : KArray}
    {xs : List T}
    {index : Nat}
    (r : Ref T)
    (hHolds : Holds I h a xs)
    (hIndex : xs.length < index) :
    Returns (insertAt I pass a index r) h
      (fun res t => res = (false, a) ∧ t = h) := by
  have hCount := hHolds.count
  unfold insertAt
  rw [if_pos (by omega), returns_pure]
  exact ⟨rfl, rfl⟩

theorem returns_insertAt
    (I : Instantiation T)
    (pass : Pass)
    {h : Heap T}
    {a : KArray}
    {xs : List T}
    {r : Ref T}
    {v : T}
    {index : Nat}
    (hFresh : h.Fresh)
    (hHolds : Holds I h a xs)
    (hDenotes : r.Denotes h a v)
    (hIndex : index ≤ xs.length) :
    Returns (insertAt I pass a index r) h
      (fun res t =>
        Inserted I pass r v xs (xs.insertIdx index v)
          h a res t) := by
  have hMax := hHolds.lt_ulong
  have hCount := hHolds.count
  have hFits := hHolds.fits
  have hWide := I.sizeT.ulong_le_modulus
  unfold insertAt
  rw [if_neg (by omega), sizeAdd_of_lt (by omega)]
  refine (returns_grow I _ hFresh hHolds).bind ?_
  rintro ⟨ok, a'⟩ u hReserved
  cases ok with
  | false =>
      simp only [Bool.not_false, if_true, returns_pure]
      exact Inserted.of_refused hReserved
  | true =>
      simp only [Bool.not_true, Bool.false_eq_true, if_false]
      have hHolds' : Holds I u a' xs := hReserved.holds
      have hRoom : a.numElements + 1 ≤ a'.bufferSize :=
        hReserved.room rfl
      have hCount' := hHolds'.count
      rcases hHolds'.pointer_of_pos (by omega) with
        ⟨b, hPointer⟩
      refine (returns_makeRoom I hHolds' hPointer (by omega)
        hIndex).bind ?_
      rintro _ m ⟨f, hRewrites, hOpened⟩
      have hInside : Confined u m a' a' :=
        Confined.of_rewrites hReserved.confined.fresh
          hPointer hPointer hRewrites
      have hShown : m.val b = f := funext hRewrites.values
      have hConfined := hReserved.confined.trans hInside
      refine returns_place I pass hConfined
        (hDenotes.confined hConfined) hPointer
        hCount' hHolds'.small hHolds'.bytes
        ?_ (by omega) hIndex ?_
      · rw [hRewrites.capacity]
        exact hHolds'.size b hPointer
      · rw [hShown]
        exact hOpened

/- Appending is inserting at the end. -/
theorem returns_append_iff
    (I : Instantiation T)
    (pass : Pass)
    {h : Heap T}
    {a : KArray}
    {xs : List T}
    (r : Ref T)
    {Q : Bool × KArray → Heap T → Prop}
    (hFresh : h.Fresh)
    (hHolds : Holds I h a xs) :
    Returns (append I pass a r) h Q ↔
      Returns (insertAt I pass a xs.length r) h Q := by
  have hCount := hHolds.count
  obtain ⟨⟨ok, a'⟩, u, hExec, hReserved⟩ :=
    returns_grow I (sizeAdd I.sizeT a.numElements 1) hFresh
      hHolds
  have hHolds' : Holds I u a' xs := hReserved.holds
  unfold append insertAt
  rw [if_neg (by omega), returns_bind_of_exec hExec,
    returns_bind_of_exec hExec]
  cases ok with
  | false => exact Iff.rfl
  | true =>
      simp only [Bool.not_true, Bool.false_eq_true, if_false,
        makeRoom_length I hHolds', pure_bind, hHolds'.count]

theorem returns_append
    (I : Instantiation T)
    (pass : Pass)
    {h : Heap T}
    {a : KArray}
    {xs : List T}
    {r : Ref T}
    {v : T}
    (hFresh : h.Fresh)
    (hHolds : Holds I h a xs)
    (hDenotes : r.Denotes h a v) :
    Returns (append I pass a r) h
      (fun res t =>
        Inserted I pass r v xs (xs ++ [v]) h a res t) := by
  rw [returns_append_iff I pass r hFresh hHolds,
    ← List.insertIdx_length_self]
  exact returns_insertAt I pass hFresh hHolds hDenotes
    (Nat.le_refl _)

end KArray

end CxPlat

------------------------------------------------------------
-- Sorted Insertion
------------------------------------------------------------

namespace CxPlat

namespace KArray

open Comp

variable {T : Type}

theorem sortedIndex_le
    (lt : T → T → Bool)
    (xs : List T)
    (v : T) :
    sortedIndex lt xs v ≤ xs.length :=
  List.findIdx_le_length

/- Where the search stops. -/
theorem sortedIndex_eq
    {lt : T → T → Bool}
    {xs : List T}
    {v : T}
    {i : Nat}
    (hLt : i < xs.length)
    (hBefore :
      ∀ j, j < i →
        ∀ x, xs[j]? = some x → lt x v = true)
    (hHere : lt xs[i] v = false) :
    sortedIndex lt xs v = i := by
  unfold sortedIndex
  rw [List.findIdx_eq hLt]
  refine ⟨by simp [hHere], ?_⟩
  intro j hJ
  have hLess := hBefore j hJ xs[j]
    (List.getElem?_eq_getElem (by omega))
  simp [hLess]

theorem sortedIndex_eq_length
    {lt : T → T → Bool}
    {xs : List T}
    {v : T}
    (hAll :
      ∀ j, j < xs.length →
        ∀ x, xs[j]? = some x → lt x v = true) :
    sortedIndex lt xs v = xs.length := by
  unfold sortedIndex
  rw [List.findIdx_eq_length]
  intro x hMem
  rcases List.getElem_of_mem hMem with ⟨j, hLt, hEq⟩
  have hLess := hAll j hLt x (by
    rw [List.getElem?_eq_getElem hLt, hEq])
  simp [hLess]

/-
  The search loop of the sorted insertions.  It reads the
  elements in order and runs `k` at the first one that is
  not less than the argument.
-/
theorem returns_sortedSearch
    (I : Instantiation T)
    (lt : T → T → Bool)
    {β : Type}
    {k : Nat → T → T → Code T (Option β)}
    {h : Heap T}
    {a : KArray}
    {xs : List T}
    {r : Ref T}
    {v : T}
    {Q : Option β → Heap T → Prop}
    (hHolds : Holds I h a xs)
    (hDenotes : r.Denotes h a v)
    (hFound :
      ∀ i x, i = sortedIndex lt xs v → xs[i]? = some x →
        Returns (k i x v) h
          (fun res t => res ≠ none ∧ Q res t))
    (hNone : sortedIndex lt xs v = xs.length → Q none h) :
    Returns
      (searchLoop Fault.endlessLoop
        (fun i => i < a.numElements)
        (fun i => sizeAdd I.sizeT i 1)
        (fun i => do
          let x ← readAt a.p i
          let v ← r.read
          if !lt x v then k i x v else pure none)
        I.sizeT.modulus 0) h Q := by
  have hMax := hHolds.lt_ulong
  have hCount := hHolds.count
  have hFits := hHolds.fits
  have hWide := I.sizeT.ulong_le_modulus
  refine returns_searchLoop
    (fun i t =>
      t = h ∧ i ≤ xs.length ∧
        ∀ j, j < i →
          ∀ x, xs[j]? = some x → lt x v = true)
    (fun i => xs.length - i) ?_ ?_ (by omega)
    ⟨rfl, Nat.zero_le _, fun j hLt => absurd hLt (by omega)⟩
  · rintro i t ⟨hSame, _, hBefore⟩ hCond
    subst hSame
    have hLt : i < xs.length := by
      simp only [decide_eq_true_eq] at hCond
      omega
    have hNext : sizeAdd I.sizeT i 1 = i + 1 :=
      sizeAdd_of_lt (by omega)
    rcases hHolds.pointer_of_pos (by omega) with
      ⟨b, hPointer⟩
    have hCapacity := hHolds.size b hPointer
    refine ⟨by rw [hNext]; omega, ?_⟩
    rw [hPointer, returns_bind,
      returns_readAt (by omega) (hHolds.live hPointer hLt),
      returns_bind, hDenotes.read]
    cases hLess : lt xs[i] v with
    | false =>
        simp only [Bool.not_false, if_true]
        refine (hFound i xs[i]
          (sortedIndex_eq hLt hBefore hLess).symm
          (List.getElem?_eq_getElem hLt)).mono ?_
        rintro res u ⟨hSome, hQ⟩
        exact ⟨fun hEq => absurd hEq hSome, fun _ => hQ⟩
    | true =>
        simp only [Bool.not_true, Bool.false_eq_true,
          if_false, returns_pure]
        refine ⟨?_, fun hNe => absurd rfl hNe⟩
        intro _
        rw [hNext]
        refine ⟨trivial, by omega, ?_⟩
        intro j hJ x hElement
        rcases Nat.lt_succ_iff_lt_or_eq.mp hJ with
          hOld | hEq
        · exact hBefore j hOld x hElement
        · subst hEq
          rw [List.getElem?_eq_getElem hLt] at hElement
          rw [← Option.some.inj hElement]
          exact hLess
  · rintro i t ⟨hSame, hLe, hBefore⟩ hCond
    subst hSame
    simp only [decide_eq_false_iff_not] at hCond
    have hEnd : i = xs.length := by omega
    subst hEnd
    exact hNone (sortedIndex_eq_length hBefore)

theorem returns_insertSorted
    (I : Instantiation T)
    (lt : T → T → Bool)
    (pass : Pass)
    {h : Heap T}
    {a : KArray}
    {xs : List T}
    {r : Ref T}
    {v : T}
    (hFresh : h.Fresh)
    (hHolds : Holds I h a xs)
    (hDenotes : r.Denotes h a v) :
    Returns (insertSorted I lt pass a r) h
      (fun res t =>
        Inserted I pass r v xs (insertSortedList lt xs v)
          h a res t) := by
  unfold insertSorted insertSortedList
  rw [returns_bind]
  refine returns_sortedSearch I lt
    (k := fun i _ _ => some <$> insertAt I pass a i r)
    hHolds hDenotes ?_ ?_
  · intro i x hIndex _
    subst hIndex
    rw [returns_map]
    refine (returns_insertAt I pass hFresh hHolds hDenotes
      (sortedIndex_le lt xs v)).mono ?_
    intro res t hInserted
    refine ⟨by simp, ?_⟩
    rw [returns_pure]
    exact hInserted
  · intro hEnd
    rw [hEnd, List.insertIdx_length_self]
    exact returns_append I pass hFresh hHolds hDenotes

/-
  `insertSortedUnique` does nothing, and succeeds, when the
  element found is not more than the argument.
-/
theorem returns_insertSortedUnique
    (I : Instantiation T)
    (lt : T → T → Bool)
    (pass : Pass)
    {h : Heap T}
    {a : KArray}
    {xs : List T}
    {r : Ref T}
    {v : T}
    (hFresh : h.Fresh)
    (hHolds : Holds I h a xs)
    (hDenotes : r.Denotes h a v) :
    Returns (insertSortedUnique I lt pass a r) h
      (fun res t =>
        if sortedAbsent lt xs v then
          Inserted I pass r v xs (insertSortedList lt xs v)
            h a res t
        else
          res = (true, a) ∧ t = h) := by
  unfold insertSortedUnique
  rw [returns_bind]
  refine returns_sortedSearch I lt
    (k := fun i x v =>
      if lt v x then some <$> insertAt I pass a i r
      else pure (some (true, a)))
    hHolds hDenotes ?_ ?_
  · intro i x hIndex hElement
    subst hIndex
    have hAbsent : sortedAbsent lt xs v = lt v x := by
      unfold sortedAbsent
      rw [hElement]
    rw [hAbsent]
    cases hMore : lt v x with
    | true =>
        simp only [if_true, returns_map]
        refine (returns_insertAt I pass hFresh hHolds
          hDenotes (sortedIndex_le lt xs v)).mono ?_
        intro res t hInserted
        refine ⟨by simp, ?_⟩
        rw [returns_pure]
        exact hInserted
    | false =>
        simp
  · intro hEnd
    have hAbsent : sortedAbsent lt xs v = true := by
      unfold sortedAbsent
      rw [hEnd, List.getElem?_eq_none (Nat.le_refl _)]
    unfold insertSortedList
    rw [hAbsent, hEnd, List.insertIdx_length_self]
    exact returns_append I pass hFresh hHolds hDenotes

end KArray

end CxPlat

------------------------------------------------------------
-- Erasure
------------------------------------------------------------

namespace CxPlat

namespace KArray

open Comp

variable {T : Type}

/-
  When an element has been destroyed and those behind it have
  been shifted down, the values are those of the list without
  it, ...
-/
theorem Holds.erased
    {I : Instantiation T}
    {h : Heap T}
    {a : KArray}
    {xs : List T}
    {f : Nat → Option T}
    {b index : Nat}
    (hHolds : Holds I h a xs)
    (hPointer : a.p = some b)
    (hIndex : index < xs.length)
    (hMoved :
      Moved I (Function.update (h.val b) index none) f
        (index + 1) index (xs.length - index - 1))
    {i : Nat}
    (hLt : i < (xs.eraseIdx index).length) :
    f i = (xs.eraseIdx index)[i]? := by
  rw [List.length_eraseIdx_of_lt hIndex] at hLt
  rw [List.getElem?_eraseIdx]
  by_cases hBelow : i < index
  · rw [if_pos hBelow, hMoved.below i (by omega) hBelow,
      Function.update_of_ne (by omega)]
    exact hHolds.elements b hPointer i (by omega)
  · rw [if_neg hBelow]
    have hPlaced := hMoved.placed (i - index) (by omega)
    have hTarget : index + (i - index) = i := by omega
    have hSource : index + 1 + (i - index) = i + 1 := by
      omega
    rw [hTarget, hSource,
      Function.update_of_ne (by omega)] at hPlaced
    rw [hPlaced]
    exact hHolds.elements b hPointer (i + 1) (by omega)

/- ... and there are no objects behind them. -/
theorem Holds.erased_spare
    {I : Instantiation T}
    {h : Heap T}
    {a : KArray}
    {xs : List T}
    {f : Nat → Option T}
    {b index : Nat}
    (hHolds : Holds I h a xs)
    (hPointer : a.p = some b)
    (hIndex : index < xs.length)
    (hMoved :
      Moved I (Function.update (h.val b) index none) f
        (index + 1) index (xs.length - index - 1))
    (hTrivial : I.triviallyDestructible = false)
    {i : Nat}
    (hLo : (xs.eraseIdx index).length ≤ i)
    (hHi : i < a.bufferSize) :
    f i = none := by
  rw [List.length_eraseIdx_of_lt hIndex] at hLo
  by_cases hLast : i < xs.length
  · exact hMoved.vacatedLeft hTrivial i (by omega) (by omega)
  · rw [hMoved.above i (by omega) (by omega),
      Function.update_of_ne (by omega)]
    exact hHolds.spare hTrivial b hPointer i (by omega) hHi

theorem returns_eraseAt
    (I : Instantiation T)
    {h : Heap T}
    {a : KArray}
    {xs : List T}
    {index : Nat}
    (hFresh : h.Fresh)
    (hHolds : Holds I h a xs)
    (hIndex : index < xs.length) :
    Returns (eraseAt I a index) h
      (fun a' t =>
        Holds I t a' (xs.eraseIdx index) ∧
          Confined h t a a') := by
  have hMax := hHolds.lt_ulong
  have hCount := hHolds.count
  have hFits := hHolds.fits
  have hWide := I.sizeT.ulong_le_modulus
  have hLength := List.length_eraseIdx_of_lt hIndex
  rcases hHolds.pointer_of_pos (by omega) with
    ⟨b, hPointer⟩
  have hCapacity := hHolds.size b hPointer
  unfold eraseAt
  rw [if_neg (by omega)]
  have hDestroy := returns_destroyAt (b := b)
    (by omega : index < h.capacity b)
    (hHolds.live hPointer hIndex)
  rw [← hPointer] at hDestroy
  refine hDestroy.bind ?_
  intro _ m hGone
  have hShown : m.val b = _ := funext hGone.values
  have hInner :
      sizeSub I.sizeT a.numElements index =
        xs.length - index := by
    rw [hCount]
    exact sizeSub_of_le (by omega) (by omega)
  rw [sizeAdd_of_lt (by omega), hInner,
    sizeSub_of_le (by omega) (by omega),
    ulong_of_lt (by omega), ulong_of_lt (by omega),
    ulong_of_lt (by omega)]
  refine (returns_moveElements I hPointer (by omega)
    hHolds.bytes (by rw [hGone.capacity]; exact hCapacity)
    (by omega) (by omega) (by omega) (by omega) (by omega)
    ?_ ?_ ?_).bind ?_
  · intro j hLo hHi
    rw [hShown, Function.update_of_ne (by omega)]
    exact ⟨_, hHolds.live hPointer
      (by omega : j < xs.length)⟩
  · intro _ j hLo hHi
    omega
  · intro _ j hLo hHi
    have hEq : j = index := by omega
    rw [hShown, hEq, Function.update_self]
  · rintro _ t ⟨f, hRewrites, hMoved⟩
    rw [returns_pure]
    rw [hShown] at hMoved
    have hWhole := hGone.trans hRewrites
    refine ⟨?_, Confined.of_rewrites hFresh hPointer
      hPointer hWhole⟩
    refine hHolds.rewrite hPointer hWhole ?_ (by omega)
      ?_ ?_
    · rw [hLength, hCount]
      exact ulongSub_of_le (by omega) (by omega)
    · intro i hLt
      exact hHolds.erased hPointer hIndex hMoved hLt
    · intro hTrivial i hLo hHi
      exact hHolds.erased_spare hPointer hIndex hMoved
        hTrivial hLo hHi

end KArray

end CxPlat
