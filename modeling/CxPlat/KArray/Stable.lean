import CxPlat.KArray.Cost
import CxPlat.KArray.Refusal

/-
  Arrays that stay in the buffer they have.

  Once `reserve` has returned true for a number of elements,
  calls that keep the array within that number do not ask the
  pool for anything, cannot fail, and leave the elements in
  the same buffer, so that no pointer into it goes stale.

  Key definitions include:
    * `InPlace`
    * `Fits`, `FitsRun`

  Key theorems include:
    * `inPlace_insertAt`
    * `inPlace_step`
    * `reserved_run_inPlace`
-/

------------------------------------------------------------
-- Code That Asks for Nothing
------------------------------------------------------------

namespace CxPlat

namespace KArray

open Comp

variable {T : Type} {I : Instantiation T}
variable {cost : Heap T → Nat} {allocate : Nat}

namespace Priced

variable (hPriced : Priced I cost 0 allocate)

include hPriced

/- Where constructors are free, so is a shift. -/
theorem moveElements_free
    (a : KArray)
    (source target number : Nat) :
    Charges cost 0
      (moveElements I a source target number) := by
  have hMove := hPriced.moveConstructAt
  have hReplace : ∀ i j,
      Charges cost 0 (do
        destroyAt a.p i
        KArray.moveConstructAt I a.p i a.p j) :=
    fun i j =>
      (hPriced.destroy a.p i).bind_free
        (fun _ => hMove a.p i a.p j)
  unfold moveElements
  split
  · exact charges_pure _
  · split
    · exact hPriced.copy _ _ _ _ _
    split
    all_goals
      split
      · exact charges_throw _ _
      · apply (charges_forLoop_free
          (fun _ => hMove _ _ _ _) _ _).bind_free
        intro i
        apply (charges_forLoop_free
          (fun _ => hReplace _ _) _ _).bind_free
        intro i
        apply (charges_forLoop_free
          (fun _ => hPriced.destroy _ _) _ _).bind_free
        intro _
        exact charges_pure _

theorem makeRoom_free
    (a : KArray)
    (index : Nat) :
    Charges cost 0 (makeRoom I a index) := by
  unfold makeRoom
  split
  · exact hPriced.moveElements_free a _ _ _
  · exact charges_pure _

theorem extend_free
    (a : KArray)
    (count : Nat) :
    Charges cost 0 (extend I a count) := by
  unfold extend
  split
  · split
    · exact hPriced.zero _ _ _
    · exact charges_pure _
  · exact (charges_forLoop_free
      (fun _ => hPriced.construct _ _ _) _ _).bind_free
      (fun _ => charges_pure _)

end Priced

end KArray

end CxPlat

------------------------------------------------------------
-- Calls That Stay in the Buffer
------------------------------------------------------------

namespace CxPlat

namespace KArray

open Comp

variable {T : Type} {I : Instantiation T} {a : KArray}

/- The same buffer. -/
def SameBuffer
    (a b : KArray) : Prop :=
  b.p = a.p ∧ b.bufferSize = a.bufferSize

theorem SameBuffer.refl
    (a : KArray) :
    SameBuffer a a :=
  ⟨rfl, rfl⟩

/-
  Wherever the code returns, it returns true and the same
  buffer, and it has not asked the pool.
-/
def InPlace
    (a : KArray)
    (c : Code T (Bool × KArray)) : Prop :=
  ∀ h r t, exec c h = .ok (r, t) →
    r.1 = true ∧ SameBuffer a r.2 ∧ t.asked ≤ h.asked

theorem inPlace_pure
    {b : KArray}
    (hSame : SameBuffer a b) :
    InPlace a (pure (true, b) : Code T (Bool × KArray)) := by
  intro h r t hExec
  cases hExec
  exact ⟨rfl, hSame, Nat.le_refl _⟩

theorem InPlace.after
    {β : Type}
    {c : Code T β}
    {f : β → Code T (Bool × KArray)}
    (hFirst : Charges Heap.asked 0 c)
    (hRest : ∀ x, InPlace a (f x)) :
    InPlace a (c >>= f) := by
  intro h r u hExec
  rcases exec_bind_ok.mp hExec with ⟨x, t, hHead, hTail⟩
  have hLess := hFirst h x t hHead
  rcases hRest x t r u hTail with ⟨hTrue, hSame, hLater⟩
  exact ⟨hTrue, hSame, by omega⟩

theorem inPlace_place
    (pass : Pass)
    (index : Nat)
    (t : Ref T) :
    InPlace a (place I pass a index t) := by
  have hPriced := priced_requests I
  unfold place
  apply InPlace.after (hPriced.take pass t)
  intro v
  apply InPlace.after (hPriced.construct a.p index v)
  intro _
  exact inPlace_pure ⟨rfl, rfl⟩

/- There is room for one more element. -/
theorem grow_room
    (hRoom : a.numElements < a.bufferSize)
    (hSmall : a.bufferSize < ulongMax) :
    grow I a (sizeAdd I.sizeT a.numElements 1) =
      (pure (true, a) : Code T (Bool × KArray)) := by
  have hModulus := I.sizeT.ulong_le_modulus
  unfold ulongMax at hSmall
  rw [sizeAdd_of_lt (by omega)]
  unfold grow
  rw [if_pos (by omega)]

/-
  The same for a round of a search, which may also return
  nothing.
-/
def RoundInPlace
    (a : KArray)
    (c : Code T (Option (Bool × KArray))) : Prop :=
  ∀ h r t, exec c h = .ok (r, t) →
    t.asked ≤ h.asked ∧
      ∀ res, r = some res →
        res.1 = true ∧ SameBuffer a res.2

theorem roundInPlace_none :
    RoundInPlace a
      (pure none : Code T (Option (Bool × KArray))) := by
  intro h r t hExec
  cases hExec
  exact ⟨Nat.le_refl _, by simp⟩

theorem roundInPlace_some :
    RoundInPlace a
      (pure (some (true, a)) :
        Code T (Option (Bool × KArray))) := by
  intro h r t hExec
  cases hExec
  refine ⟨Nat.le_refl _, ?_⟩
  rintro res ⟨⟩
  exact ⟨rfl, SameBuffer.refl a⟩

theorem InPlace.round
    {c : Code T (Bool × KArray)}
    (hInPlace : InPlace a c) :
    RoundInPlace a (some <$> c) := by
  intro h r t hExec
  rw [map_eq_pure_bind] at hExec
  rcases exec_bind_ok.mp hExec with ⟨res, m, hRun, hLast⟩
  cases hLast
  rcases hInPlace h res t hRun with ⟨hTrue, hSame, hFree⟩
  refine ⟨hFree, ?_⟩
  rintro res' ⟨⟩
  exact ⟨hTrue, hSame⟩

/- A round reads an element and the argument first. -/
theorem RoundInPlace.compare
    {k : T → T → Code T (Option (Bool × KArray))}
    (hTest : ∀ x v, RoundInPlace a (k x v))
    (i : Nat)
    (arg : Ref T) :
    RoundInPlace a (do
      let x ← readAt a.p i
      let v ← arg.read
      k x v) := by
  have hElement :
      Charges Heap.asked 0 (readAt a.p i : Code T T) :=
    charges_of_preserves (fun _ => preserves_readAt a.p i)
  have hArg : Charges Heap.asked 0 arg.read :=
    charges_of_preserves (fun _ => preserves_read arg)
  intro h r u hExec
  rcases exec_bind_ok.mp hExec with ⟨x, t, hRead, hRest⟩
  rcases exec_bind_ok.mp hRest with ⟨v, m, hOther, hLast⟩
  have hFirst := hElement h x t hRead
  have hSecond := hArg t v m hOther
  rcases hTest x v m r u hLast with ⟨hThird, hFound⟩
  exact ⟨by omega, hFound⟩

section Room

variable (hRoom : a.numElements < a.bufferSize)
variable (hSmall : a.bufferSize < ulongMax)

include hRoom hSmall

theorem inPlace_append
    (pass : Pass)
    (t : Ref T) :
    InPlace a (append I pass a t) := by
  unfold append
  rw [grow_room hRoom hSmall, pure_bind]
  exact inPlace_place pass _ t

theorem inPlace_insertAt
    {index : Nat}
    (hIndex : index ≤ a.numElements)
    (pass : Pass)
    (t : Ref T) :
    InPlace a (insertAt I pass a index t) := by
  unfold insertAt
  rw [if_neg (by omega), grow_room hRoom hSmall, pure_bind]
  apply InPlace.after
    ((priced_requests I).makeRoom_free a index)
  intro _
  exact inPlace_place pass index t

/- A search, and an append if it finds nothing. -/
theorem inPlace_search
    {body : Nat → Code T (Option (Bool × KArray))}
    (hBody :
      ∀ i, i < a.numElements → RoundInPlace a (body i))
    (pass : Pass)
    (arg : Ref T) :
    InPlace a (do
      let found ← Comp.searchLoop .endlessLoop
        (fun i => i < a.numElements)
        (fun i => sizeAdd I.sizeT i 1)
        body I.sizeT.modulus 0
      match found with
      | some r => pure r
      | none => append I pass a arg) := by
  intro h r u hExec
  rcases exec_bind_ok.mp hExec with
    ⟨found, t, hSearch, hRest⟩
  rcases searchLoop_found
    (fun i hCond => hBody i (of_decide_eq_true hCond))
    hSearch with ⟨hFree, hFound⟩
  cases found with
  | some res =>
      cases hRest
      rcases hFound r rfl with ⟨hTrue, hSame⟩
      exact ⟨hTrue, hSame, hFree⟩
  | none =>
      rcases inPlace_append hRoom hSmall pass arg t r u hRest
        with ⟨hTrue, hSame, hLater⟩
      exact ⟨hTrue, hSame, Nat.le_trans hLater hFree⟩

theorem inPlace_insertSorted
    (lt : T → T → Bool)
    (pass : Pass)
    (arg : Ref T) :
    InPlace a (insertSorted I lt pass a arg) := by
  apply inPlace_search hRoom hSmall
  intro i hLess
  apply RoundInPlace.compare
  intro x v
  split
  · exact (inPlace_insertAt hRoom hSmall
      (Nat.le_of_lt hLess) pass arg).round
  · exact roundInPlace_none

theorem inPlace_insertSortedUnique
    (lt : T → T → Bool)
    (pass : Pass)
    (arg : Ref T) :
    InPlace a (insertSortedUnique I lt pass a arg) := by
  apply inPlace_search hRoom hSmall
  intro i hLess
  apply RoundInPlace.compare
  intro x v
  split
  · split
    · exact (inPlace_insertAt hRoom hSmall
        (Nat.le_of_lt hLess) pass arg).round
    · exact roundInPlace_some
  · exact roundInPlace_none

end Room

theorem inPlace_reserve
    {count : Nat}
    (hRoom : count ≤ a.bufferSize) :
    InPlace a
      (reserve I a count : Code T (Bool × KArray)) := by
  unfold reserve
  rw [if_pos hRoom]
  exact inPlace_pure (SameBuffer.refl a)

theorem inPlace_resize
    {count : Nat}
    (hRoom : count ≤ a.bufferSize) :
    InPlace a (resize I a count) := by
  unfold resize reserve
  rw [if_pos hRoom, pure_bind]
  simp only [Bool.not_true, Bool.false_eq_true, if_false]
  apply InPlace.after
    ((priced_requests I).extend_free a count)
  intro _
  apply InPlace.after ((priced_requests I).truncate a count)
  intro _
  exact inPlace_pure ⟨rfl, rfl⟩

/- Calls that return nothing. -/
def VoidInPlace
    (a : KArray)
    (c : Code T KArray) : Prop :=
  ∀ h b t, exec c h = .ok (b, t) →
    SameBuffer a b ∧ t.asked ≤ h.asked

theorem voidInPlace_clear :
    VoidInPlace a (clear I a) := by
  intro h b t hExec
  rcases exec_bind_ok.mp hExec with ⟨r, m, hRun, hLast⟩
  cases hLast
  exact (inPlace_resize (Nat.zero_le _) h r t hRun).2

/- Nothing is popped off an empty array. -/
theorem voidInPlace_popBack
    (hFits : a.numElements ≤ a.bufferSize)
    (hSmall : a.bufferSize < ulongMax) :
    VoidInPlace a (popBack I a) := by
  intro h b t hExec
  rcases exec_bind_ok.mp hExec with ⟨r, m, hRun, hLast⟩
  cases hLast
  have hModulus := I.sizeT.ulong_le_modulus
  unfold ulongMax at hSmall
  cases Nat.eq_zero_or_pos a.numElements with
  | inl hZero =>
      rw [hZero, sizeSub_zero_one,
        exec_resize_huge hSmall
          (by unfold ulongMax; omega)] at hRun
      cases hRun
      exact ⟨SameBuffer.refl a, Nat.le_refl _⟩
  | inr hPos =>
      rw [sizeSub_of_le hPos (by omega)] at hRun
      exact (inPlace_resize (by omega) h r t hRun).2

theorem voidInPlace_eraseAt
    (index : Nat) :
    VoidInPlace a (eraseAt I a index) := by
  intro h b t hExec
  unfold eraseAt at hExec
  split at hExec
  · cases hExec
  · rcases exec_bind_ok.mp hExec with ⟨_, m, hDestroy, hRest⟩
    rcases exec_bind_ok.mp hRest with ⟨_, u, hMove, hLast⟩
    cases hLast
    have hPriced := priced_requests I
    have hFirst := hPriced.destroy _ _ h _ m hDestroy
    have hSecond :=
      hPriced.moveElements_free _ _ _ _ m _ t hMove
    exact ⟨⟨rfl, rfl⟩, by omega⟩

end KArray

end CxPlat

------------------------------------------------------------
-- Runs That Stay in the Buffer
------------------------------------------------------------

namespace CxPlat

namespace KArray

open Comp

variable {T : Type} {I : Instantiation T}
variable {w w' : World T} {σ : Lists T}
variable {x n : Nat} {a : KArray} {r : Option Bool}

/- The pool is not asked less often than before. -/
theorem kept_asked
    (I : Instantiation T)
    (n : Nat) :
    Kept I (fun h => n ≤ h.asked) where
  construct := by
    intro p i v h r t hExec hBefore
    rcases exec_constructAt_ok hExec with ⟨_, -, -, rfl⟩
    exact hBefore
  destroy := by
    intro p i h r t hExec hBefore
    rcases exec_destroyAt_ok hExec with ⟨_, _, _, -, rfl⟩
    exact hBefore
  moveOut := by
    intro p i h r t hExec hBefore
    rcases exec_moveOutAt_ok hExec with ⟨_, _, -, rfl⟩
    exact hBefore
  allocate := by
    intro bytes h r t hExec hBefore
    rcases exec_exAllocatePoolUninitialized_ok hExec
      with rfl | rfl
    · exact Nat.le_succ_of_le hBefore
    · exact Nat.le_succ_of_le hBefore
  release := by
    intro p h r t hExec hBefore
    rcases exec_exFreePoolWithTag_ok hExec with ⟨_, -, rfl⟩
    exact hBefore
  copy := by
    intro _ dst target src source number
    unfold copySlots
    split
    · exact preserves_pure _ _
    · refine (preserves_follow _ _).bind ?_
      intro d
      refine (preserves_follow _ _).bind ?_
      intro s
      exact preserves_modify (fun _ hBefore => hBefore)
  zero := by
    intro _ p start number
    unfold zeroSlots
    split
    · exact preserves_pure _ _
    · refine (preserves_follow _ _).bind ?_
      intro b
      exact preserves_modify (fun _ hBefore => hBefore)

/- `size()` of array `x`. -/
def World.size
    (w : World T)
    (x : Nat) : Nat :=
  match w.arrays x with
  | .alive a => a.numElements
  | _ => 0

/- Calls on `x` that keep it within `n` elements. -/
def Fits
    (n x : Nat)
    (w : World T) : Op T → Prop
  | .reserve y count => y = x ∧ count ≤ n
  | .resize y count => y = x ∧ count ≤ n
  | .clear y => y = x
  | .append y _ _ => y = x ∧ w.size x < n
  | .pushBack y _ => y = x ∧ w.size x < n
  | .popBack y => y = x
  | .insertAt y index _ _ =>
      y = x ∧ index ≤ w.size x ∧ w.size x < n
  | .insertSorted y _ _ _ => y = x ∧ w.size x < n
  | .insertSortedUnique y lt _ t =>
      y = x ∧ (w.size x < n ∨ w.finds x lt t = true)
  | .eraseAt y _ => y = x
  | .construct _ => False
  | .moveConstruct _ _ => False
  | .moveAssign _ _ => False
  | .destruct _ => False

instance decidableFits
    (n x : Nat)
    (w : World T)
    (op : Op T) : Decidable (Fits n x w op) := by
  cases op <;> unfold Fits <;> infer_instance

/- Every call of a program does, where it is made. -/
def FitsRun
    (I : Instantiation T)
    (n x : Nat)
    (w : World T) : List (Op T) → Prop
  | [] => True
  | op :: ops =>
      (Allowed w op ∧ Fits n x w op) ∧
        match Comp.exec (step I op) w with
        | .ok (_, w') => FitsRun I n x w' ops
        | .error _ => True

instance decidableFitsRun
    (I : Instantiation T)
    (n x : Nat)
    (w : World T) :
    (ops : List (Op T)) → Decidable (FitsRun I n x w ops)
  | [] => .isTrue trivial
  | op :: ops =>
      match hRun : Comp.exec (step I op) w with
      | .ok (_, w') =>
          have := decidableFitsRun I n x w' ops
          decidable_of_iff
            ((Allowed w op ∧ Fits n x w op) ∧
              FitsRun I n x w' ops)
            (by rw [FitsRun, hRun])
      | .error _ =>
          decidable_of_iff (Allowed w op ∧ Fits n x w op)
            (by rw [FitsRun, hRun]; simp)

theorem exec_find_ok
    (hExec : exec (find x) w = .ok (a, w')) :
    w' = w ∧ w.arrays x = .alive a := by
  unfold find at hExec
  rcases exec_bind_ok.mp hExec with ⟨w₁, w₂, hGet, hRest⟩
  cases hGet
  split at hRest
  next hAlive =>
    cases hRest
    exact ⟨rfl, hAlive⟩
  next => cases hRest

/- An argument is looked up without changing anything. -/
theorem exec_resolve_ok
    {t : Arg T}
    {ref : Ref T}
    (hExec : exec t.resolve w = .ok (ref, w')) :
    w' = w := by
  cases t with
  | value v =>
      cases hExec
      rfl
  | element y i =>
      rcases exec_bind_ok.mp hExec with ⟨b, u, hFind, hRest⟩
      split at hRest <;> cases hRest
      exact (exec_find_ok hFind).1

/- What a call that fits does. -/
structure Stays
    (x : Nat)
    (a : KArray)
    (w : World T)
    (r : Option Bool)
    (w' : World T) : Prop where
  result : r ≠ some false
  buffer : ∃ b, w'.arrays x = .alive b ∧ SameBuffer a b
  asked : w'.heap.asked ≤ w.heap.asked

theorem stays_callBool
    {k : KArray → Code T (Bool × KArray)}
    (hAlive : w.arrays x = .alive a)
    (hInPlace : InPlace a (k a))
    (hExec : exec (callBool x k) w = .ok (r, w')) :
    Stays x a w r w' := by
  rcases exec_callBool_ok hAlive hExec with
    ⟨res, hCall, hResult, hArrays⟩
  rcases hInPlace _ _ _ hCall with ⟨hTrue, hSame, hFree⟩
  constructor
  · rw [hResult, hTrue]
    simp
  · refine ⟨res.2, ?_, hSame⟩
    rw [hArrays]
    exact Function.update_self ..
  · exact hFree

theorem stays_callVoid
    {k : KArray → Code T KArray}
    (hAlive : w.arrays x = .alive a)
    (hInPlace : VoidInPlace a (k a))
    (hExec : exec (callVoid x k) w = .ok (r, w')) :
    Stays x a w r w' := by
  rcases exec_callVoid_ok hAlive hExec with
    ⟨b, hCall, hResult, hArrays⟩
  rcases hInPlace _ _ _ hCall with ⟨hSame, hFree⟩
  constructor
  · rw [hResult]
    simp
  · refine ⟨b, ?_, hSame⟩
    rw [hArrays]
    exact Function.update_self ..
  · exact hFree

theorem stays_callWith
    {t : Arg T}
    {k : Ref T → KArray → Code T (Bool × KArray)}
    (hAlive : w.arrays x = .alive a)
    (hInPlace : ∀ ref, InPlace a (k ref a))
    (hExec :
      exec
          (do
            let ref ← t.resolve
            callBool x (k ref)) w =
        .ok (r, w')) :
    Stays x a w r w' := by
  rcases exec_bind_ok.mp hExec with
    ⟨ref, u, hResolve, hCall⟩
  rw [exec_resolve_ok hResolve] at hCall
  exact stays_callBool hAlive (hInPlace ref) hCall

/- What is in the array already is not inserted. -/
theorem stays_found
    {lt : T → T → Bool}
    {pass : Pass}
    {t : Arg T}
    (hRep : Represents I w σ)
    (hAlive : w.arrays x = .alive a)
    (hOutside : t.Outside w x)
    (hFinds : w.finds x lt t = true)
    (hExec :
      exec (step I (.insertSortedUnique x lt pass t)) w =
        .ok (r, w')) :
    Stays x a w r w' := by
  rcases hRep.holds hAlive with ⟨xs, hHas, hHolds⟩
  rcases hOutside.value hRep with ⟨v, hValue⟩
  have hThere : sortedAbsent lt xs v = false := by
    rw [hRep.finds lt hHas hValue] at hFinds
    simpa using hFinds
  have hCall := returns_insertSortedUnique I lt pass
    hRep.fresh hHolds (hOutside.denotes hRep hAlive hValue)
  rw [hThere] at hCall
  simp only [Bool.false_eq_true, if_false] at hCall
  rcases exec_bind_ok.mp hExec with
    ⟨ref, u, hResolve, hRun⟩
  have hRef : ref = t.ref w.arrays ∧ u = w :=
    (hOutside.found.resolve.mpr ⟨rfl, rfl⟩ :
      Returns t.resolve w
        (fun ref u => ref = t.ref w.arrays ∧ u = w)).post
      hResolve
  rcases hRef with ⟨rfl, rfl⟩
  rcases exec_callBool_ok hAlive hRun with
    ⟨res, hInsert, hResult, hArrays⟩
  rcases hCall.post hInsert with ⟨rfl, hHeap⟩
  constructor
  · rw [hResult]
    simp
  · refine ⟨a, ?_, SameBuffer.refl a⟩
    rw [hArrays]
    exact Function.update_self ..
  · rw [hHeap]

theorem inPlace_step
    {op : Op T}
    (hRep : Represents I w σ)
    (hAlive : w.arrays x = .alive a)
    (hAllowed : Allowed w op)
    (hRoom : n ≤ a.bufferSize)
    (hFits : Fits n x w op)
    (hExec : exec (step I op) w = .ok (r, w')) :
    Stays x a w r w' := by
  rcases hRep.holds hAlive with ⟨xs, _, hHolds⟩
  have hSize : w.size x = a.numElements := by
    unfold World.size
    rw [hAlive]
  have hSmall := hHolds.small
  cases op with
  | reserve y count =>
      rcases hFits with ⟨rfl, hCount⟩
      exact stays_callBool hAlive
        (inPlace_reserve (by omega)) hExec
  | resize y count =>
      rcases hFits with ⟨rfl, hCount⟩
      exact stays_callBool hAlive
        (inPlace_resize (by omega)) hExec
  | clear y =>
      cases hFits
      exact stays_callVoid hAlive voidInPlace_clear hExec
  | append y pass t =>
      rcases hFits with ⟨rfl, hLess⟩
      exact stays_callWith hAlive
        (inPlace_append (by omega) hSmall pass) hExec
  | pushBack y t =>
      rcases hFits with ⟨rfl, hLess⟩
      exact stays_callWith hAlive
        (inPlace_append (by omega) hSmall .copy) hExec
  | popBack y =>
      cases hFits
      exact stays_callVoid hAlive
        (voidInPlace_popBack hHolds.room hSmall) hExec
  | insertAt y index pass t =>
      rcases hFits with ⟨rfl, hIndex, hLess⟩
      exact stays_callWith hAlive
        (inPlace_insertAt (by omega) hSmall (by omega) pass)
        hExec
  | insertSorted y lt pass t =>
      rcases hFits with ⟨rfl, hLess⟩
      exact stays_callWith hAlive
        (inPlace_insertSorted (by omega) hSmall lt pass) hExec
  | insertSortedUnique y lt pass t =>
      rcases hFits with ⟨rfl, hLess | hFinds⟩
      · exact stays_callWith hAlive
          (inPlace_insertSortedUnique (by omega) hSmall lt
            pass)
          hExec
      · exact stays_found hRep hAlive hAllowed.2 hFinds hExec
  | eraseAt y index =>
      cases hFits
      exact stays_callVoid hAlive
        (voidInPlace_eraseAt index) hExec
  | construct y => cases hFits
  | moveConstruct y z => cases hFits
  | moveAssign y z => cases hFits
  | destruct y => cases hFits

/- Whole runs, by induction on the program. -/
theorem returns_inPlaceRun
    {ops : List (Op T)}
    (hRep : Represents I w σ)
    (hAlive : w.arrays x = .alive a)
    (hRoom : n ≤ a.bufferSize)
    (hFits : FitsRun I n x w ops) :
    Returns (run I ops) w (fun rs w' =>
      (∀ r ∈ rs, r ≠ some false) ∧
        w'.heap.asked ≤ w.heap.asked ∧
        ∃ b, w'.arrays x = .alive b ∧ SameBuffer a b) := by
  induction ops generalizing w σ a with
  | nil =>
      unfold run
      rw [returns_pure]
      exact ⟨by simp, Nat.le_refl _, a, hAlive,
        SameBuffer.refl a⟩
  | cons op ops ih =>
      rcases hFits with ⟨⟨hAllowed, hFirst⟩, hLater⟩
      rcases returns_step op hRep hAllowed with
        ⟨r, w₁, hExec, hRefines⟩
      rcases inPlace_step hRep hAlive hAllowed hRoom hFirst
        hExec with ⟨hResult, ⟨b, hThere, hSame⟩, hFree⟩
      rw [hExec] at hLater
      have hTail := ih hRefines.represents hThere
        (by rw [hSame.2]; exact hRoom) hLater
      unfold run
      rw [returns_bind_of_exec hExec]
      apply hTail.bind
      rintro rs w₂ ⟨hAll, hLess, c, hEnd, hKept⟩
      rw [returns_pure]
      refine ⟨?_, Nat.le_trans hLess hFree, c, hEnd, ?_⟩
      · intro r' hMem
        rcases List.mem_cons.mp hMem with rfl | hTailMem
        · exact hResult
        · exact hAll r' hTailMem
      · exact ⟨hKept.1.trans hSame.1, hKept.2.trans hSame.2⟩

/-
  After a `reserve` that has returned true, calls that keep
  within what was reserved all succeed, do not ask the pool
  and leave the buffer where it is, in every run and however
  the pool would answer.
-/
theorem reserved_run_inPlace
    (I : Instantiation T)
    (oracle : Nat → Bool)
    (ops later : List (Op T))
    {rs : List (Option Bool)}
    {w w₁ : World T}
    {x n : Nat}
    (hAllowed : AllowedRun I (World.start oracle) ops)
    (hRun :
      exec (run I ops) (World.start oracle) = .ok (rs, w))
    (hReserve :
      exec (step I (.reserve x n)) w = .ok (some true, w₁))
    (hFits : FitsRun I n x w₁ later) :
    ∃ a, w₁.arrays x = .alive a ∧
      Returns (run I later) w₁ (fun rs' w' =>
        (∀ r ∈ rs', r ≠ some false) ∧
          w'.heap.asked = w₁.heap.asked ∧
          ∃ b, w'.arrays x = .alive b ∧
            b.p = a.p ∧ b.bufferSize = a.bufferSize) := by
  have hRep :=
    ((returns_run (Represents.start I oracle)
      hAllowed).post hRun).2
  have hCall :
      exec (callBool x (fun a => reserve I a n)) w =
        .ok (some true, w₁) := hReserve
  rcases exec_bind_ok.mp hCall with ⟨a₀, u, hFind, _⟩
  have hAlive := (exec_find_ok hFind).2
  rcases hRep.holds hAlive with ⟨xs, _, hHolds⟩
  rcases exec_callBool_ok hAlive hCall with
    ⟨⟨ok, a⟩, hExec, hTrue, hArrays⟩
  have hReserved :=
    (returns_reserve I n hRep.fresh hHolds).post hExec
  have hRoom : n ≤ a.bufferSize := by
    apply hReserved.room
    exact (Option.some.inj hTrue).symm
  have hRep₁ :=
    ((returns_step (.reserve x n) hRep ⟨a₀, hAlive⟩).post
      hReserve).represents
  have hNow : w₁.arrays x = .alive a := by
    rw [hArrays]
    exact Function.update_self ..
  refine ⟨a, hNow, ?_⟩
  rcases returns_inPlaceRun hRep₁ hNow hRoom hFits with
    ⟨rs', w', hLater, hAll, hLess, b, hThere, hSame⟩
  have hMore : w₁.heap.asked ≤ w'.heap.asked :=
    preserves_run (kept_asked I _) later w₁ rs' w' hLater
      (Nat.le_refl _)
  exact ⟨rs', w', hLater, hAll, by omega, b, hThere, hSame⟩

/- The world that a program leaves. -/
def afterRun
    (I : Instantiation T)
    (ops : List (Op T))
    (w : World T) : World T :=
  match exec (run I ops) w with
  | .ok (_, w') => w'
  | .error _ => w

/- Two allocations succeed, and no later one would. -/
def reservedWorld : World Nat :=
  afterRun handleType
    [.construct 0, .append 0 .copy (.value 1), .reserve 0 6]
    (World.start (fun n => n < 2))

def laterCalls : List (Op Nat) :=
  [.append 0 .move (.value 2),
    .insertAt 0 0 .copy (.value 3), .eraseAt 0 1,
    .resize 0 6, .popBack 0,
    .insertSorted 0 (fun x y => x < y) .move (.value 4),
    .insertSortedUnique 0 (fun x y => x < y) .copy
      (.value 4)]

theorem reserved_run_inPlace_laterCalls :
    FitsRun handleType 6 0 reservedWorld laterCalls ∧
      ∃ a, reservedWorld.arrays 0 = .alive a ∧
        Returns (run handleType laterCalls) reservedWorld
          (fun rs' w' =>
            (∀ r ∈ rs', r ≠ some false) ∧
              w'.heap.asked = reservedWorld.heap.asked ∧
              ∃ b, w'.arrays 0 = .alive b ∧
                b.p = a.p ∧ b.bufferSize = a.bufferSize) := by
  have hFits :
      FitsRun handleType 6 0 reservedWorld laterCalls := by
    decide +kernel
  exact ⟨hFits,
    reserved_run_inPlace handleType (fun n => n < 2)
      [.construct 0, .append 0 .copy (.value 1)] laterCalls
      (by decide) rfl rfl hFits⟩

end KArray

end CxPlat
