import CxPlat.KArray.Refinement
import Mathlib.Order.Defs.Unbundled

/-
  Arrays kept as sorted sets by `insertSortedUnique`.

  Over lists, `insertSortedUnique` is an insertion that keeps
  a strictly increasing list strictly increasing and adds an
  element exactly when no equivalent one is there.  Runs of
  the code inherit this through the refinement of lists.

  Key definitions include:
    * `Equivalent`
    * `SetOp`, `setProgram`

  Key theorems include:
    * `increasing_insertSortedList`
    * `sortedAbsent_iff`
    * `setProgram_sorted`
-/

------------------------------------------------------------
-- Sorted Lists
------------------------------------------------------------

namespace CxPlat

namespace KArray

variable {T : Type} {lt : T → T → Bool}

/- Neither of the two is less than the other. -/
def Equivalent
    (lt : T → T → Bool)
    (x y : T) : Prop :=
  lt x y = false ∧ lt y x = false

/- The list is strictly increasing. -/
def Increasing
    (lt : T → T → Bool)
    (xs : List T) : Prop :=
  xs.Pairwise (fun x y => lt x y = true)

theorem sortedIndex_cons
    (lt : T → T → Bool)
    (x : T)
    (xs : List T)
    (v : T) :
    sortedIndex lt (x :: xs) v =
      if lt x v then sortedIndex lt xs v + 1 else 0 := by
  unfold sortedIndex
  rw [List.findIdx_cons]
  cases lt x v with
  | true => rfl
  | false => rfl

theorem insertSortedList_cons
    (lt : T → T → Bool)
    (x : T)
    (xs : List T)
    (v : T) :
    insertSortedList lt (x :: xs) v =
      if lt x v then x :: insertSortedList lt xs v
      else v :: x :: xs := by
  unfold insertSortedList
  rw [sortedIndex_cons]
  cases lt x v with
  | true => rfl
  | false => rfl

theorem sortedAbsent_cons
    (lt : T → T → Bool)
    (x : T)
    (xs : List T)
    (v : T) :
    sortedAbsent lt (x :: xs) v =
      if lt x v then sortedAbsent lt xs v else lt v x := by
  unfold sortedAbsent
  rw [sortedIndex_cons]
  cases lt x v with
  | true => rfl
  | false => rfl

theorem mem_insertSortedList
    {xs : List T}
    {v y : T} :
    y ∈ insertSortedList lt xs v ↔ y = v ∨ y ∈ xs := by
  unfold insertSortedList
  exact List.mem_insertIdx (sortedIndex_le lt xs v)

theorem length_insertSortedList
    (xs : List T)
    (v : T) :
    (insertSortedList lt xs v).length = xs.length + 1 :=
  List.length_insertIdx_of_le_length
    (sortedIndex_le lt xs v) v

/- The old elements stay, in their order. -/
theorem sublist_insertSortedList
    (xs : List T)
    (v : T) :
    xs.Sublist (insertSortedList lt xs v) := by
  induction xs with
  | nil => exact List.nil_sublist _
  | cons x xs ih =>
      rw [insertSortedList_cons]
      cases lt x v with
      | true => exact ih.cons_cons x
      | false => exact List.sublist_cons_self v (x :: xs)

/-
  In an increasing list the first element not less than `v`
  decides whether an equivalent element is there: all later
  ones are more than `v` if it is.
-/
theorem sortedAbsent_iff
    {xs : List T}
    {v : T}
    (hTrans :
      ∀ x y z, lt x y = true → lt y z = true →
        lt x z = true)
    (hSorted : Increasing lt xs) :
    sortedAbsent lt xs v = true ↔
      ¬ ∃ x ∈ xs, Equivalent lt x v := by
  induction xs with
  | nil => simp [sortedAbsent, sortedIndex]
  | cons x xs ih =>
      have hCons := List.pairwise_cons.mp hSorted
      rw [sortedAbsent_cons]
      cases hLess : lt x v with
      | true =>
          simp only [if_true, ih hCons.2]
          constructor
          · rintro hNone ⟨y, hMem, hEquiv⟩
            rcases List.mem_cons.mp hMem with hEq | hTail
            · subst hEq
              rw [hEquiv.1] at hLess
              cases hLess
            · exact hNone ⟨y, hTail, hEquiv⟩
          · rintro hNone ⟨y, hMem, hEquiv⟩
            exact hNone
              ⟨y, List.mem_cons_of_mem x hMem, hEquiv⟩
      | false =>
          simp only [Bool.false_eq_true, if_false]
          constructor
          · rintro hMore ⟨y, hMem, hEquiv⟩
            rcases List.mem_cons.mp hMem with hEq | hTail
            · subst hEq
              rw [hEquiv.2] at hMore
              cases hMore
            · have hLater :=
                hTrans v x y hMore (hCons.1 y hTail)
              rw [hEquiv.2] at hLater
              cases hLater
          · intro hNone
            cases hMore : lt v x with
            | true => rfl
            | false =>
                exact absurd
                  ⟨x, List.mem_cons_self, hLess, hMore⟩
                  hNone

theorem increasing_insertSortedList
    {xs : List T}
    {v : T}
    (hTrans :
      ∀ x y z, lt x y = true → lt y z = true →
        lt x z = true)
    (hSorted : Increasing lt xs)
    (hAbsent : sortedAbsent lt xs v = true) :
    Increasing lt (insertSortedList lt xs v) := by
  induction xs with
  | nil => exact List.pairwise_singleton _ _
  | cons x xs ih =>
      have hCons := List.pairwise_cons.mp hSorted
      rw [sortedAbsent_cons] at hAbsent
      rw [insertSortedList_cons]
      cases hLess : lt x v with
      | true =>
          simp only [hLess, if_true] at hAbsent ⊢
          refine List.pairwise_cons.mpr
            ⟨?_, ih hCons.2 hAbsent⟩
          intro y hMem
          rcases mem_insertSortedList.mp hMem with
            hEq | hTail
          · subst hEq
            exact hLess
          · exact hCons.1 y hTail
      | false =>
          simp only [hLess, Bool.false_eq_true, if_false]
            at hAbsent ⊢
          refine List.pairwise_cons.mpr ⟨?_, hSorted⟩
          intro y hMem
          rcases List.mem_cons.mp hMem with hEq | hTail
          · subst hEq
            exact hAbsent
          · exact hTrans v x y hAbsent (hCons.1 y hTail)

theorem increasing_insertSortedUniqueList
    {xs : List T}
    (v : T)
    (hTrans :
      ∀ x y z, lt x y = true → lt y z = true →
        lt x z = true)
    (hSorted : Increasing lt xs) :
    Increasing lt (insertSortedUniqueList lt xs v) := by
  unfold insertSortedUniqueList
  cases hAbsent : sortedAbsent lt xs v with
  | true =>
      exact increasing_insertSortedList hTrans hSorted hAbsent
  | false => exact hSorted

end KArray

end CxPlat

------------------------------------------------------------
-- Sorted Sets
------------------------------------------------------------

namespace CxPlat

namespace KArray

open Comp

variable {T : Type}

/- The calls on a sorted set; arguments lie outside it. -/
inductive SetOp (T : Type) where
  | insertSortedUnique (pass : Pass) (v : T)
  | eraseAt (index : Nat)

/- The call on array object 0. -/
def SetOp.call
    (lt : T → T → Bool) : SetOp T → Op T
  | .insertSortedUnique pass v =>
      .insertSortedUnique 0 lt pass (.value v)
  | .eraseAt index => .eraseAt 0 index

/- A program that only uses array 0 as a sorted set. -/
def setProgram
    (lt : T → T → Bool)
    (ops : List (SetOp T)) : List (Op T) :=
  .construct 0 :: ops.map (SetOp.call lt)

/- The set operations over lists. -/
def SetOp.onList
    (lt : T → T → Bool)
    (xs : List T) : SetOp T → List T
  | .insertSortedUnique _ v => insertSortedUniqueList lt xs v
  | .eraseAt index => xs.eraseIdx index

theorem specOp_call
    (I : Instantiation T)
    (lt : T → T → Bool)
    {σ : Lists T}
    {xs : List T}
    (hHas : σ 0 = .alive xs)
    (op : SetOp T) :
    specOp I σ (op.call lt) 0 =
      .alive (op.onList lt xs) := by
  cases op with
  | insertSortedUnique pass v =>
      simp only [SetOp.call, SetOp.onList, specOp, hHas,
        Arg.value?, insertSortedUniqueList]
      cases sortedAbsent lt xs v with
      | true =>
          have hOther :
              ∀ y i, Arg.value v = .element y i → y ≠ 0 := by
            intro y i hArg
            cases hArg
          rw [if_pos rfl,
            insertion_of_alive pass _ hHas rfl hOther]
          exact Function.update_self _ _ _
      | false => exact hHas
  | eraseAt index =>
      simp only [SetOp.call, SetOp.onList, specOp,
        change_of_alive hHas, Function.update_self]

section Order

variable {lt : T → T → Bool}
variable [IsStrictWeakOrder T (fun x y => lt x y = true)]

theorem lt_trans_of_strictWeak
    (x y z : T)
    (hXY : lt x y = true)
    (hYZ : lt y z = true) :
    lt x z = true :=
  IsTrans.trans (r := fun x y => lt x y = true) x y z
    hXY hYZ

/- One call keeps the list increasing. -/
theorem increasing_onList
    {xs : List T}
    (op : SetOp T)
    (hSorted : Increasing lt xs) :
    Increasing lt (op.onList lt xs) := by
  cases op with
  | insertSortedUnique pass v =>
      exact increasing_insertSortedUniqueList v
        lt_trans_of_strictWeak hSorted
  | eraseAt index =>
      exact hSorted.sublist (List.eraseIdx_sublist xs index)

/- Whole runs, whichever calls fail, by induction. -/
theorem increasing_specRun
    (I : Instantiation T)
    {σ : Lists T}
    {xs : List T}
    (ops : List (SetOp T))
    (rs : List (Option Bool))
    (hHas : σ 0 = .alive xs)
    (hSorted : Increasing lt xs) :
    ∃ ys,
      specRun I σ (ops.map (SetOp.call lt)) rs 0 =
          .alive ys ∧
        Increasing lt ys := by
  induction ops generalizing σ xs rs with
  | nil => exact ⟨xs, hHas, hSorted⟩
  | cons op ops ih =>
      cases rs with
      | nil => exact ⟨xs, hHas, hSorted⟩
      | cons r rs =>
          simp only [List.map_cons, specRun]
          by_cases hFalse : r = some false
          · refine ih rs ?_ hSorted
            rw [hFalse, specStep_false]
            exact hHas
          · refine ih rs ?_ (increasing_onList op hSorted)
            unfold specStep
            rw [if_neg hFalse]
            exact specOp_call I lt hHas op

/- What a successful `insertSortedUnique` does to the list. -/
theorem insertSortedUniqueList_spec
    {xs : List T}
    (v : T)
    (hSorted : Increasing lt xs) :
    (∃ y ∈ insertSortedUniqueList lt xs v,
        Equivalent lt y v) ∧
      xs.Sublist (insertSortedUniqueList lt xs v) ∧
      ((insertSortedUniqueList lt xs v).length =
          xs.length + 1 ↔
        ¬ ∃ x ∈ xs, Equivalent lt x v) ∧
      ((∃ x ∈ xs, Equivalent lt x v) →
        insertSortedUniqueList lt xs v = xs) := by
  have hIrrefl : lt v v = false := by
    have hNot := Std.Irrefl.irrefl
      (r := fun x y => lt x y = true) v
    simpa using hNot
  have hAbsent := sortedAbsent_iff (v := v)
    lt_trans_of_strictWeak hSorted
  unfold insertSortedUniqueList
  cases hFound : sortedAbsent lt xs v with
  | true =>
      have hNone := hAbsent.mp hFound
      simp only [if_true]
      refine ⟨⟨v, mem_insertSortedList.mpr (Or.inl rfl),
          hIrrefl, hIrrefl⟩,
        sublist_insertSortedList xs v, ?_, ?_⟩
      · exact iff_of_true (length_insertSortedList xs v) hNone
      · intro hSome
        exact absurd hSome hNone
  | false =>
      have hSome : ∃ x ∈ xs, Equivalent lt x v := by
        by_contra hNone
        rw [hAbsent.mpr hNone] at hFound
        cases hFound
      simp only [Bool.false_eq_true, if_false]
      refine ⟨hSome, List.Sublist.refl xs, ?_,
        fun _ => trivial⟩
      refine iff_of_false (by omega) ?_
      intro hNone
      exact hNone hSome

end Order

/- A call that returns a `bool` has a result. -/
theorem callBool_result
    {x : Nat}
    {k : KArray → Code T (Bool × KArray)}
    {w w' : World T}
    {r : Option Bool}
    (hExec : exec (callBool x k) w = .ok (r, w')) :
    ∃ ok, r = some ok := by
  unfold callBool at hExec
  rcases exec_bind_ok.mp hExec with
    ⟨a, w₁, _, hRest⟩
  rcases exec_bind_ok.mp hRest with
    ⟨⟨ok, a'⟩, w₂, _, hStore⟩
  rcases exec_bind_ok.mp hStore with
    ⟨_, w₃, _, hPure⟩
  cases hPure
  exact ⟨ok, rfl⟩

/- So has one that takes an argument. -/
theorem callWith_result
    {x : Nat}
    {t : Arg T}
    {k : Ref T → KArray → Code T (Bool × KArray)}
    {w w' : World T}
    {r : Option Bool}
    (hExec :
      exec
          (do
            let ref ← t.resolve
            callBool x (k ref)) w =
        .ok (r, w')) :
    ∃ ok, r = some ok := by
  rcases exec_bind_ok.mp hExec with ⟨ref, u, _, hCall⟩
  exact callBool_result hCall

/-
  What one insertion does to an increasing array: it stops
  without a fault and either changes nothing or adds its
  argument, unless an equivalent element is there.
-/
theorem step_insertSortedUnique
    {I : Instantiation T}
    {lt : T → T → Bool}
    [IsStrictWeakOrder T (fun x y => lt x y = true)]
    {w : World T}
    {σ : Lists T}
    {xs : List T}
    (pass : Pass)
    (v : T)
    (hRep : Represents I w σ)
    (hHas : σ 0 = .alive xs)
    (hSorted : Increasing lt xs) :
    ∃ (ok : Bool) (w' : World T) (ys : List T),
      exec (step I (.insertSortedUnique 0 lt pass
          (.value v))) w = .ok (some ok, w') ∧
      w'.contents 0 = .alive (ys.map some) ∧
      (ok = true →
        (∃ y ∈ ys, Equivalent lt y v) ∧
          xs.Sublist ys ∧
          (ys.length = xs.length + 1 ↔
            ¬ ∃ x ∈ xs, Equivalent lt x v) ∧
          ((∃ x ∈ xs, Equivalent lt x v) → ys = xs)) ∧
      (ok = false →
        w'.arrays = w.arrays ∧ ys = xs) := by
  rcases returns_step (.insertSortedUnique 0 lt pass
    (.value v)) hRep ⟨hRep.alive hHas, trivial⟩ with
    ⟨r, w', hStep, hRefines⟩
  rcases callWith_result hStep with ⟨ok, hOk⟩
  subst hOk
  have hAfter := hRefines.represents.contents 0
  cases ok with
  | true =>
      have hCall := specOp_call I lt hHas
        (.insertSortedUnique pass v)
      simp only [SetOp.call, SetOp.onList] at hCall
      rw [specStep_true, hCall] at hAfter
      refine ⟨true, w', _, hStep, hAfter, ?_, ?_⟩
      · intro _
        exact insertSortedUniqueList_spec v hSorted
      · intro hFalse
        cases hFalse
  | false =>
      rw [specStep_false, hHas] at hAfter
      refine ⟨false, w', xs, hStep, hAfter, ?_, ?_⟩
      · intro hTrue
        cases hTrue
      · intro _
        exact ⟨(hRefines.unchanged rfl).1, rfl⟩

/-
  Every run of set calls from an empty array keeps it
  strictly increasing, and every further insertion adds its
  argument exactly when no equivalent element is there.
-/
theorem setProgram_sorted
    (I : Instantiation T)
    (lt : T → T → Bool)
    [IsStrictWeakOrder T (fun x y => lt x y = true)]
    (oracle : Nat → Bool)
    (ops : List (SetOp T))
    (hAllowed :
      AllowedRun I (World.start oracle)
        (setProgram lt ops)) :
    ∃ (rs : List (Option Bool)) (w : World T) (xs : List T),
      exec (run I (setProgram lt ops))
          (World.start oracle) = .ok (rs, w) ∧
      w.contents 0 = .alive (xs.map some) ∧
      xs.Pairwise (fun x y => lt x y = true) ∧
      xs.Pairwise (fun x y => ¬ Equivalent lt x y) ∧
      ∀ (pass : Pass) (v : T),
        ∃ (ok : Bool) (w' : World T) (ys : List T),
          exec (step I (.insertSortedUnique 0 lt pass
              (.value v))) w = .ok (some ok, w') ∧
          w'.contents 0 = .alive (ys.map some) ∧
          (ok = true →
            (∃ y ∈ ys, Equivalent lt y v) ∧
              xs.Sublist ys ∧
              (ys.length = xs.length + 1 ↔
                ¬ ∃ x ∈ xs, Equivalent lt x v) ∧
              ((∃ x ∈ xs, Equivalent lt x v) → ys = xs)) ∧
          (ok = false →
            w'.arrays = w.arrays ∧ ys = xs) := by
  have hFirst :
      exec (step I (.construct 0)) (World.start oracle) =
        .ok (none,
          { heap := Heap.empty oracle
            arrays :=
              Function.update (fun _ => .unborn) 0
                (.alive {}) }) := rfl
  have hRest := ((allowedRun_cons _ hFirst).mp hAllowed).2
  have hEmpty :=
    ((returns_step (.construct 0)
      (Represents.start I oracle) rfl).post
        hFirst).represents
  rcases returns_run hEmpty hRest with
    ⟨rs, w, hTail, _, hRep⟩
  have hExec :
      exec (run I (setProgram lt ops))
        (World.start oracle) = .ok (none :: rs, w) := by
    unfold setProgram run
    rw [exec_bind, hFirst]
    simp only [exec_bind, hTail, exec_pure]
  have hNil :
      specStep I (fun _ => .unborn)
        (.construct 0 : Op T) none 0 = .alive [] := by
    simp [specOp]
  have hStart : Increasing lt [] := List.Pairwise.nil
  rcases increasing_specRun I ops rs hNil hStart with
    ⟨xs, hHas, hSorted⟩
  have hContents := hRep.contents 0
  rw [hHas] at hContents
  refine
    ⟨none :: rs, w, xs, hExec, hContents, hSorted, ?_, ?_⟩
  · refine hSorted.imp ?_
    intro x y hLess hEquiv
    rw [hEquiv.1] at hLess
    cases hLess
  · intro pass v
    exact step_insertSortedUnique pass v hRep hHas hSorted

/- The order of natural numbers by their tens. -/
def tensLess
    (x y : Nat) : Bool :=
  x / 10 < y / 10

instance tensLess_strictWeak :
    IsStrictWeakOrder Nat
      (fun x y => tensLess x y = true) where
  irrefl := by
    intro x
    simp [tensLess]
  trans := by
    intro x y z
    simp only [tensLess, decide_eq_true_eq]
    omega
  incomp_trans := by
    intro x y z
    simp only [tensLess, decide_eq_true_eq]
    omega

/- Two equivalent arguments, an erasure and a new element. -/
def tensProgram : List (SetOp Nat) :=
  [.insertSortedUnique .copy 25, .insertSortedUnique .move 11,
    .insertSortedUnique .move 27, .eraseAt 0]

theorem setProgram_sorted_tensProgram :
    AllowedRun handleType (World.start (fun _ => true))
        (setProgram tensLess tensProgram) ∧
      ∃ (rs : List (Option Bool)) (w : World Nat)
          (xs : List Nat),
        exec (run handleType
            (setProgram tensLess tensProgram))
          (World.start (fun _ => true)) = .ok (rs, w) ∧
        w.contents 0 = .alive (xs.map some) ∧
        xs.Pairwise (fun x y => tensLess x y = true) := by
  have hAllowed :
      AllowedRun handleType (World.start (fun _ => true))
        (setProgram tensLess tensProgram) := by
    decide
  refine ⟨hAllowed, ?_⟩
  rcases setProgram_sorted handleType tensLess
    (fun _ => true) tensProgram hAllowed with
    ⟨rs, w, xs, hExec, hContents, hSorted, _⟩
  exact ⟨rs, w, xs, hExec, hContents, hSorted⟩

end KArray

end CxPlat
