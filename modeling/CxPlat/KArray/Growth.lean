import CxPlat.KArray.Fill
import CxPlat.KArray.Kept
import CxPlat.KArray.Refusal
import CxPlat.KArray.Sorted

/-
  How far an array grows if no allocation fails.

  `reserve` turns down requests for `2 ^ 32 - 1` elements or
  more.  `grow` asks it for half as much again as there is
  room for, so a full array can be turned down although it is
  far from that limit.  Nothing else in an insertion decides
  whether it returns true.

  Key definitions include:
    * `Ample`
    * `Stuck`
    * `Inserts`

  Key theorems include:
    * `kept_oracle`
    * `Ample.cannotGrow_iff`
    * `Ample.insertion_fails_iff`
    * `growth_succeeds_iff`
-/

------------------------------------------------------------
-- An Ample Pool
------------------------------------------------------------

namespace CxPlat

namespace KArray

open Comp

variable {T : Type}

/- The answers of the pool are fixed in advance. -/
theorem kept_oracle
    (I : Instantiation T)
    (oracle : Nat → Bool) :
    Kept I (fun h => h.oracle = oracle) where
  construct := by
    intro p i v h r t hExec hBefore
    rcases exec_constructAt_ok hExec with ⟨_, -, -, rfl⟩
    exact hBefore
  destroy := by
    intro p i h r t hExec hBefore
    rcases exec_destroyAt_ok hExec with ⟨_, _, _, -, rfl⟩
    exact hBefore
  moveOut := by
    intro p i h r t hExec hBefore
    rcases exec_moveOutAt_ok hExec with ⟨_, _, -, rfl⟩
    exact hBefore
  allocate := by
    intro bytes h r t hExec hBefore
    rcases exec_exAllocatePoolUninitialized_ok hExec
      with rfl | rfl
    · exact hBefore
    · exact hBefore
  release := by
    intro p h r t hExec hBefore
    rcases exec_exFreePoolWithTag_ok hExec with ⟨_, -, rfl⟩
    exact hBefore
  copy := by
    intro _ dst target src source number
    unfold copySlots
    split
    · exact preserves_pure _ _
    · refine (preserves_follow _ _).bind ?_
      intro d
      refine (preserves_follow _ _).bind ?_
      intro s
      exact preserves_modify (fun _ hBefore => hBefore)
  zero := by
    intro _ p start number
    unfold zeroSlots
    split
    · exact preserves_pure _ _
    · refine (preserves_follow _ _).bind ?_
      intro b
      exact preserves_modify (fun _ hBefore => hBefore)

/-
  `size_t` has 64 bits, it has room for the bytes of every
  array below the limit, and no allocation fails.
-/
structure Ample
    (I : Instantiation T)
    (h : Heap T) : Prop where
  wide : I.sizeT = .bits64
  bytes : I.sizeOf * (2 ^ 32 - 2) < I.sizeT.modulus
  oracle : h.oracle = fun _ => true

variable {I : Instantiation T} {h : Heap T} {a : KArray}
  {xs : List T}

theorem Ample.grants_iff
    (hAmple : Ample I h)
    (count : Nat) :
    Grants I h count ↔ count < 2 ^ 32 - 1 := by
  constructor
  · intro hGrants
    exact hGrants.1
  · intro hLess
    have hLe : I.sizeOf * count ≤ I.sizeOf * (2 ^ 32 - 2) :=
      Nat.mul_le_mul_left _ (by omega)
    refine ⟨hLess, Nat.lt_of_le_of_lt hLe hAmple.bytes, ?_⟩
    rw [hAmple.oracle]

/- Full, and half as much again is more than the limit. -/
def Stuck
    (a : KArray) : Prop :=
  a.numElements = a.bufferSize ∧ 2863311530 ≤ a.bufferSize

theorem Ample.grants_growCount_iff
    (hAmple : Ample I h)
    (hFull : a.numElements = a.bufferSize)
    (hBelow : a.numElements + 1 < 2 ^ 32 - 1) :
    Grants I h (growCount I a (a.numElements + 1)) ↔
      ¬ Stuck a := by
  have hSum :
      sizeAdd I.sizeT a.bufferSize (a.bufferSize / 2) =
        a.bufferSize + a.bufferSize / 2 := by
    apply sizeAdd_of_lt
    rw [hAmple.wide]
    change a.bufferSize + a.bufferSize / 2 < 2 ^ 64
    omega
  rw [hAmple.grants_iff]
  unfold growCount Stuck
  dsimp only
  rw [hSum]
  split <;> split <;> omega

/- `reserve` itself has room up to the limit. -/
theorem Ample.returns_reserve
    {count : Nat}
    (hAmple : Ample I h)
    (hFresh : h.Fresh)
    (hHolds : Holds I h a xs)
    (hBelow : count < 2 ^ 32 - 1) :
    Returns (reserve I a count) h
      (fun r _ => r.1 = true) := by
  by_cases hRoom : count ≤ a.bufferSize
  · apply (KArray.returns_reserve I count hFresh hHolds).mono
    intro r t hReserved
    exact hReserved.sure hRoom
  · apply (returns_reserve_more I hFresh hHolds
      (by omega)).mono
    intro r t hExchanged
    exact hExchanged.granted.mpr
      ((hAmple.grants_iff count).mpr hBelow)

theorem Ample.cannotGrow_iff
    (hAmple : Ample I h)
    (hBelow : a.numElements + 1 < 2 ^ 32 - 1) :
    CannotGrow I h a ↔ Stuck a := by
  constructor
  · rintro ⟨hFull, hNot⟩
    by_contra hStuck
    exact hNot
      ((hAmple.grants_growCount_iff hFull hBelow).mpr hStuck)
  · intro hStuck
    refine ⟨hStuck.1, ?_⟩
    rw [hAmple.grants_growCount_iff hStuck.1 hBelow]
    exact not_not_intro hStuck

/- `grow` does not. -/
theorem Ample.returns_grow
    (hAmple : Ample I h)
    (hFresh : h.Fresh)
    (hHolds : Holds I h a xs)
    (hBelow : a.numElements + 1 < 2 ^ 32 - 1) :
    Returns (grow I a (a.numElements + 1)) h
      (fun r _ => r.1 = true ↔ ¬ Stuck a) := by
  apply (returns_grow_refused hFresh hHolds).mono
  intro r t hRefused
  rw [← hAmple.cannotGrow_iff hBelow, ← hRefused,
    Bool.not_eq_false]

end KArray

end CxPlat

------------------------------------------------------------
-- What An Insertion Returns
------------------------------------------------------------

namespace CxPlat

namespace KArray

open Comp

variable {T : Type} {I : Instantiation T} {h : Heap T}
  {a : KArray} {xs : List T}

/- Calls of a member function with an argument. -/
theorem returns_call_iff
    {w : World T}
    {x : Nat}
    {t : Arg T}
    {ok : Bool}
    (k : KArray → Ref T → Code T (Bool × KArray))
    (hAlive : w.arrays x = .alive a)
    (hFound : t.Found w) :
    Returns
        (do
          let r ← t.resolve
          callBool x (fun a => k a r)) w
        (fun res _ => res = some ok) ↔
      Returns (k a (t.ref w.arrays)) w.heap
        (fun res _ => res.1 = ok) := by
  unfold callBool
  rw [returns_bind, hFound.resolve, returns_bind,
    returns_find hAlive, returns_bind, returns_onHeap]
  simp only [returns_bind, returns_store, returns_pure,
    Option.some_inj]

/-
  The calls that insert an argument, at a valid index if they
  have one.  The argument may be in the array itself.
-/
inductive Inserts
    (w : World T)
    (x : Nat)
    (a : KArray) : Op T → Prop where
  | append
      (pass : Pass)
      {t : Arg T}
      (hFound : t.Found w) :
      Inserts w x a (.append x pass t)
  | pushBack
      {t : Arg T}
      (hFound : t.Found w) :
      Inserts w x a (.pushBack x t)
  | insertAt
      (pass : Pass)
      {index : Nat}
      {t : Arg T}
      (hIndex : index ≤ a.numElements)
      (hFound : t.Found w) :
      Inserts w x a (.insertAt x index pass t)

theorem Inserts.returns_false_iff
    {w : World T}
    {x : Nat}
    {op : Op T}
    (hInserts : Inserts w x a op)
    (hAlive : w.arrays x = .alive a)
    (hFresh : w.heap.Fresh)
    (hHolds : Holds I w.heap a xs) :
    Returns (step I op) w (fun r _ => r = some false) ↔
      CannotGrow I w.heap a := by
  have hCount := hHolds.count
  have hAppend :
      ∀ pass r,
        Returns (KArray.append I pass a r) w.heap
            (fun res _ => res.1 = false) ↔
          CannotGrow I w.heap a := by
    intro pass r
    rw [returns_append_iff I pass r hFresh hHolds]
    exact returns_insertAt_false_iff pass r hFresh hHolds
      (by omega)
  unfold step
  cases hInserts with
  | append pass hFound =>
      exact (returns_call_iff
        (fun a r => KArray.append I pass a r) hAlive
          hFound).trans
        (hAppend pass _)
  | pushBack hFound =>
      exact (returns_call_iff
        (fun a r => KArray.pushBack I a r) hAlive
          hFound).trans
        (hAppend .copy _)
  | insertAt pass hIndex hFound =>
      exact (returns_call_iff
        (fun a r => KArray.insertAt I pass a _ r) hAlive
          hFound).trans
        (returns_insertAt_false_iff pass _ hFresh hHolds
          hIndex)

/- Such a call returns a `bool`. -/
theorem Inserts.result
    {w w' : World T}
    {x : Nat}
    {op : Op T}
    {r : Option Bool}
    (hInserts : Inserts w x a op)
    (hExec : exec (step I op) w = .ok (r, w')) :
    ∃ ok, r = some ok := by
  cases hInserts with
  | append pass hFound => exact callWith_result hExec
  | pushBack hFound => exact callWith_result hExec
  | insertAt pass hIndex hFound =>
      exact callWith_result hExec

theorem Ample.insertion_fails_iff
    {w : World T}
    {σ : Lists T}
    {x : Nat}
    {op : Op T}
    (hAmple : Ample I w.heap)
    (hRep : Represents I w σ)
    (hAlive : w.arrays x = .alive a)
    (hBelow : a.numElements + 1 < 2 ^ 32 - 1)
    (hInserts : Inserts w x a op) :
    Returns (step I op) w (fun r _ => r = some false) ↔
      Stuck a := by
  rcases hRep.holds hAlive with ⟨xs, _, hHolds⟩
  rw [hInserts.returns_false_iff hAlive hRep.fresh hHolds,
    hAmple.cannotGrow_iff hBelow]

/-
  With an ample pool and below the limit, `reserve` has room
  for one more element in every array that a program makes.
  An insertion, and the `grow` in it, fail exactly if the
  array is full at two thirds of the limit or more.
-/
theorem growth_succeeds_iff
    (I : Instantiation T)
    (hWide : I.sizeT = .bits64)
    (hBytes : I.sizeOf * (2 ^ 32 - 2) < I.sizeT.modulus)
    (ops : List (Op T))
    (hAllowed :
      AllowedRun I (World.start (fun _ => true)) ops) :
    ∃ rs w,
      exec (run I ops) (World.start (fun _ => true)) =
        .ok (rs, w) ∧
      ∀ x a, w.arrays x = .alive a →
        a.numElements + 1 < 2 ^ 32 - 1 →
        Returns (reserve I a (a.numElements + 1)) w.heap
          (fun r _ => r.1 = true) ∧
        Returns (grow I a (a.numElements + 1)) w.heap
          (fun r _ => r.1 = true ↔ ¬ Stuck a) ∧
        ∀ op, Inserts w x a op →
          (Returns (step I op) w
              (fun r _ => r = some false) ↔ Stuck a) ∧
          (Allowed w op →
            (Returns (step I op) w
                (fun r _ => r = some true) ↔
              ¬ Stuck a)) := by
  rcases returns_run
    (Represents.start I (fun _ => true)) hAllowed with
    ⟨rs, w, hExec, _, hRep⟩
  refine ⟨rs, w, hExec, ?_⟩
  intro x a hAlive hBelow
  have hAmple : Ample I w.heap :=
    { wide := hWide
      bytes := hBytes
      oracle :=
        preserves_run (kept_oracle I (fun _ => true)) ops
          _ rs w hExec rfl }
  rcases hRep.holds hAlive with ⟨xs, _, hHolds⟩
  refine ⟨hAmple.returns_reserve hRep.fresh hHolds hBelow,
    hAmple.returns_grow hRep.fresh hHolds hBelow, ?_⟩
  intro op hInserts
  have hFails :=
    hAmple.insertion_fails_iff hRep hAlive hBelow hInserts
  refine ⟨hFails, ?_⟩
  intro hOp
  rw [← hFails]
  rcases returns_step op hRep hOp with ⟨r, w', hStep, _⟩
  rcases hInserts.result hStep with ⟨ok, hResult⟩
  subst hResult
  constructor
  · intro hTrue hFalse
    have hEq := hTrue.post hStep
    rw [hFalse.post hStep] at hEq
    cases hEq
  · intro hNot
    apply returns_of_exec hStep
    cases ok with
    | true => rfl
    | false => exact absurd ⟨_, w', hStep, rfl⟩ hNot

/- An array that is grown step by step. -/
def fiveAppends : List (Op Nat) :=
  .construct 0 ::
    List.replicate 5 (.append 0 .copy (.value 7))

theorem growth_succeeds_fiveAppends :
    ∃ rs w a,
      exec (run (fourBytes true) fiveAppends)
          (World.start (fun _ => true)) = .ok (rs, w) ∧
        w.arrays 0 = .alive a ∧
        a.numElements = 5 ∧
        Returns
          (step (fourBytes true)
            (.insertAt 0 2 .move (.value 8))) w
          (fun r _ => r = some true) := by
  have hAllowed :
      AllowedRun (fourBytes true) (World.start (fun _ => true))
        fiveAppends := by
    decide
  rcases growth_succeeds_iff (fourBytes true) rfl (by decide)
    fiveAppends hAllowed with ⟨rs, w, hExec, hGrowth⟩
  have hFields :
      (match exec (run (fourBytes true) fiveAppends)
          (World.start (fun _ => true)) with
        | .ok (_, w) =>
            decide (w.arrays 0 = .alive ⟨some 1, 5, 6⟩)
        | .error _ => false) = true := by
    decide +kernel
  rw [hExec] at hFields
  have hAlive := of_decide_eq_true hFields
  have hCall :=
    (hGrowth 0 _ hAlive (by decide)).2.2
      (.insertAt 0 2 .move (.value 8))
      (.insertAt .move (by decide) trivial)
  refine ⟨rs, w, _, hExec, hAlive, rfl, ?_⟩
  refine (hCall.2 ⟨⟨_, hAlive⟩, trivial⟩).mpr ?_
  rintro ⟨hFull, _⟩
  cases hFull

/- Two thirds of the limit, in one step. -/
def resizeHuge : List (Op Nat) :=
  [.construct 0, .resize 0 2863311530]

/-
  `append` fails, although `reserve` has room for one more
  element.
-/
theorem fullArray_refused :
    ∃ w a,
      exec (run (fourBytes true) resizeHuge)
          (World.start (fun _ => true)) =
        .ok ([none, some true], w) ∧
      AllowedRun (fourBytes true)
        (World.start (fun _ => true)) resizeHuge ∧
      w.arrays 0 = .alive a ∧
      a.numElements + 1 < 2 ^ 32 - 1 ∧
      Allowed w (.append 0 .copy (.value 7)) ∧
      Returns
        (step (fourBytes true) (.append 0 .copy (.value 7)))
        w (fun r _ => r = some false) ∧
      Returns
        (reserve (fourBytes true) a (a.numElements + 1))
        w.heap (fun r _ => r.1 = true) := by
  have hAllowed :
      AllowedRun (fourBytes true)
        (World.start (fun _ => true)) resizeHuge := by
    decide +kernel
  rcases returns_run
    (Represents.start (fourBytes true) (fun _ => true))
    hAllowed with ⟨rs, w, hExec, _, hRep⟩
  have hFields :
      (match exec (run (fourBytes true) resizeHuge)
          (World.start (fun _ => true)) with
        | .ok (rs, w) =>
            decide
              (rs = [none, some true] ∧
                w.arrays 0 =
                  .alive ⟨some 0, 2863311530, 2863311530⟩)
        | .error _ => false) = true := by
    decide +kernel
  rw [hExec] at hFields
  rcases of_decide_eq_true hFields with ⟨hResults, hAlive⟩
  subst hResults
  have hAmple : Ample (fourBytes true) w.heap :=
    { wide := rfl
      bytes := by decide
      oracle :=
        preserves_run (kept_oracle _ (fun _ => true))
          resizeHuge _ _ w hExec rfl }
  rcases hRep.holds hAlive with ⟨xs, _, hHolds⟩
  have hInserts :
      Inserts w 0 ⟨some 0, 2863311530, 2863311530⟩
        (.append 0 .copy (.value 7)) :=
    .append .copy trivial
  refine ⟨w, _, hExec, hAllowed, hAlive, by decide,
    ⟨⟨_, hAlive⟩, trivial⟩, ?_, ?_⟩
  · exact (hAmple.insertion_fails_iff hRep hAlive
      (by decide) hInserts).mpr ⟨rfl, Nat.le_refl _⟩
  · exact hAmple.returns_reserve hRep.fresh hHolds
      (by decide)

end KArray

end CxPlat
