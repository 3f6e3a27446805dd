import CxPlat.KArray.Refusal
import CxPlat.KArray.Sorted

/-
  Arrays kept sorted by `insertSorted`.

  Under a strict weak order the elements less than a value
  are the front of a sorted list, so the search stops behind
  all of them: the insertion is before the first element that
  is equivalent.  Runs of the code inherit this through the
  refinement of lists.

  Key definitions include:
    * `InOrder`
    * `lowerBoundInsert`
    * `insertAll`, `insertedValues`

  Key theorems include:
    * `insertSortedList_eq`
    * `inOrder_insertSortedList`
    * `step_insertSorted`
    * `run_insertAll`
    * `insertSorted_lowerBound`
-/

------------------------------------------------------------
-- Lists In Order
------------------------------------------------------------

namespace CxPlat

namespace KArray

variable {T : Type} {lt : T → T → Bool}

/- No later element is less than an earlier one. -/
def InOrder
    (lt : T → T → Bool)
    (xs : List T) : Prop :=
  xs.Pairwise (fun x y => lt y x = false)

/- Insert behind as many elements as are less than `v`. -/
def lowerBoundInsert
    (lt : T → T → Bool)
    (xs : List T)
    (v : T) : List T :=
  let i := xs.countP (fun x => lt x v)
  xs.take i ++ [v] ++ xs.drop i

theorem perm_insertSortedList
    (xs : List T)
    (v : T) :
    (insertSortedList lt xs v).Perm (v :: xs) :=
  List.perm_insertIdx v xs (sortedIndex_le lt xs v)

section Order

variable [IsStrictWeakOrder T (fun x y => lt x y = true)]

theorem lt_asymm_of_strictWeak
    {x y : T}
    (hLess : lt x y = true) :
    lt y x = false := by
  by_contra hMore
  have hSelf := lt_trans_of_strictWeak x y x hLess
    (by simpa using hMore)
  exact Std.Irrefl.irrefl
    (r := fun x y => lt x y = true) x hSelf

/-
  If `z` is not less than `y` nor `y` less than `x`, then `z`
  is not less than `x`: else all three were equivalent.
-/
theorem not_lt_trans_of_strictWeak
    {x y z : T}
    (hYX : lt y x = false)
    (hZY : lt z y = false) :
    lt z x = false := by
  by_contra hNot
  have hZX : lt z x = true := by simpa using hNot
  have hYZ : lt y z = false := by
    by_contra hLess
    have hBoth := lt_trans_of_strictWeak y z x
      (by simpa using hLess) hZX
    rw [hYX] at hBoth
    cases hBoth
  have hXY : lt x y = false := by
    by_contra hLess
    have hBoth := lt_trans_of_strictWeak z x y hZX
      (by simpa using hLess)
    rw [hZY] at hBoth
    cases hBoth
  have hEquiv :=
    @IsStrictWeakOrder.incomp_trans T
      (fun x y => lt x y = true) _ z y x
      (by simp [hZY, hYZ]) (by simp [hYX, hXY])
  exact hEquiv.1 hZX

/- Behind an element not less than `v` none is. -/
theorem InOrder.not_lt_of_mem
    {x y v : T}
    {xs : List T}
    (hOrder : InOrder lt (x :: xs))
    (hFirst : lt x v = false)
    (hMem : y ∈ x :: xs) :
    lt y v = false := by
  rcases List.mem_cons.mp hMem with hEq | hTail
  · subst hEq
    exact hFirst
  · exact not_lt_trans_of_strictWeak hFirst
      ((List.pairwise_cons.mp hOrder).1 y hTail)

/- The search stops behind the elements that are less. -/
theorem insertSortedList_eq
    {xs : List T}
    (v : T)
    (hOrder : InOrder lt xs) :
    insertSortedList lt xs v = lowerBoundInsert lt xs v := by
  induction xs with
  | nil => rfl
  | cons x xs ih =>
      have hTail := (List.pairwise_cons.mp hOrder).2
      rw [insertSortedList_cons]
      cases hLess : lt x v with
      | true =>
          rw [if_pos rfl, ih hTail]
          simp [lowerBoundInsert, hLess]
      | false =>
          have hNone :
              (x :: xs).countP (fun y => lt y v) = 0 := by
            rw [List.countP_eq_zero]
            intro y hMem
            rw [hOrder.not_lt_of_mem hLess hMem]
            exact Bool.false_ne_true
          unfold lowerBoundInsert
          rw [hNone]
          rfl

theorem inOrder_insertSortedList
    {xs : List T}
    (v : T)
    (hOrder : InOrder lt xs) :
    InOrder lt (insertSortedList lt xs v) := by
  induction xs with
  | nil => exact List.pairwise_singleton _ _
  | cons x xs ih =>
      have hCons := List.pairwise_cons.mp hOrder
      rw [insertSortedList_cons]
      cases hLess : lt x v with
      | true =>
          rw [if_pos rfl]
          refine List.pairwise_cons.mpr ⟨?_, ih hCons.2⟩
          intro y hMem
          rcases mem_insertSortedList.mp hMem with
            hEq | hTail
          · subst hEq
            exact lt_asymm_of_strictWeak hLess
          · exact hCons.1 y hTail
      | false =>
          rw [if_neg Bool.false_ne_true]
          refine List.pairwise_cons.mpr ⟨?_, hOrder⟩
          intro y hMem
          exact hOrder.not_lt_of_mem hLess hMem

end Order

end KArray

end CxPlat

------------------------------------------------------------
-- Runs of Insertions
------------------------------------------------------------

namespace CxPlat

namespace KArray

open Comp

variable {T : Type}

/- Calls of `insertSorted` on one array. -/
def insertAll
    (x : Nat)
    (lt : T → T → Bool)
    (calls : List (Pass × Arg T)) : List (Op T) :=
  calls.map (fun call => .insertSorted x lt call.1 call.2)

/- The values whose calls return true. -/
def insertedValues
    (I : Instantiation T)
    (x : Nat)
    (lt : T → T → Bool)
    (w : World T) : List (Pass × Arg T) → List T
  | [] => []
  | (pass, t) :: calls =>
      match exec (step I (.insertSorted x lt pass t)) w with
      | .ok (some true, w') =>
          (t.denoted w).toList ++
            insertedValues I x lt w' calls
      | .ok (_, w') => insertedValues I x lt w' calls
      | .error _ => []

variable {I : Instantiation T} {lt : T → T → Bool}
variable {w : World T} {σ : Lists T} {x : Nat} {xs : List T}

/- What an array shows is its list. -/
theorem Represents.list_of_contents
    (hRep : Represents I w σ)
    (hContents : w.contents x = .alive (xs.map some)) :
    σ x = .alive xs := by
  rw [hRep.contents x] at hContents
  cases hHas : σ x with
  | unborn => rw [hHas] at hContents; cases hContents
  | gone => rw [hHas] at hContents; cases hContents
  | alive ys =>
      rw [hHas] at hContents
      have hEq : ys.map some = xs.map some := by
        simpa [Life.map] using hContents
      rw [(List.map_inj_right
        (fun _ _ => Option.some.inj)).mp hEq]

/- One call, from any world that holds lists. -/
theorem step_insertSorted
    {t : Arg T}
    (lt : T → T → Bool)
    (pass : Pass)
    (hRep : Represents I w σ)
    (hHas : σ x = .alive xs)
    (hOutside : t.Outside w x) :
    ∃ (v : T) (ok : Bool) (w' : World T) (σ' : Lists T),
      t.denoted w = some v ∧
      exec (step I (.insertSorted x lt pass t)) w =
        .ok (some ok, w') ∧
      Represents I w' σ' ∧
      σ' x =
        .alive (if ok then insertSortedList lt xs v else xs) ∧
      (ok = false →
        w'.arrays = w.arrays ∧
          ∀ y, w'.contents y = w.contents y) := by
  rcases hOutside.value hRep with ⟨v, hValue⟩
  rcases returns_step (.insertSorted x lt pass t) hRep
    ⟨hRep.alive hHas, hOutside⟩ with
    ⟨r, w', hStep, hRefines⟩
  rcases callWith_result hStep with ⟨ok, hOk⟩
  subst hOk
  refine ⟨v, ok, w', _, ?_, hStep, hRefines.represents,
    ?_, ?_⟩
  · rw [hRep.denoted t]
    exact hValue
  · cases ok with
    | true =>
        rw [specStep_true, if_pos rfl]
        simp only [specOp]
        rw [insertion_of_alive pass _ hHas hValue hOutside.ne]
        exact Function.update_self _ _ _
    | false => exact hHas
  · intro hFalse
    subst hFalse
    rcases hRefines.unchanged rfl with ⟨hArrays, hSame⟩
    exact ⟨hArrays, World.contents_congr hArrays hSame⟩

/- Any sequence of calls, by induction. -/
theorem run_insertAll
    [IsStrictWeakOrder T (fun x y => lt x y = true)]
    (calls : List (Pass × Arg T))
    (hRep : Represents I w σ)
    (hHas : σ x = .alive xs)
    (hOrder : InOrder lt xs)
    (hAllowed : AllowedRun I w (insertAll x lt calls)) :
    ∃ rs w' ys,
      exec (run I (insertAll x lt calls)) w = .ok (rs, w') ∧
      w'.contents x = .alive (ys.map some) ∧
      InOrder lt ys ∧
      ys.Perm (insertedValues I x lt w calls ++ xs) := by
  induction calls generalizing w σ xs with
  | nil =>
      have hContents := hRep.contents x
      rw [hHas] at hContents
      exact ⟨[], w, xs, rfl, hContents, hOrder,
        List.Perm.refl _⟩
  | cons call calls ih =>
      rcases call with ⟨pass, t⟩
      have hFirst :
          Allowed w (.insertSorted x lt pass t) := hAllowed.1
      rcases step_insertSorted lt pass hRep hHas hFirst.2 with
        ⟨v, ok, w', σ', hValue, hStep, hRep', hHas', _⟩
      have hRest :=
        ((allowedRun_cons _ hStep).mp hAllowed).2
      have hOrder' :
          InOrder lt
            (if ok then insertSortedList lt xs v
              else xs) := by
        cases ok with
        | true => exact inOrder_insertSortedList v hOrder
        | false => exact hOrder
      rcases ih hRep' hHas' hOrder' hRest with
        ⟨rs, w'', ys, hRun, hContents, hSorted, hPerm⟩
      refine ⟨some ok :: rs, w'', ys, ?_, hContents, hSorted,
        hPerm.trans ?_⟩
      · change
          exec
            (do
              let r ← step I (.insertSorted x lt pass t)
              let rs ← run I (insertAll x lt calls)
              pure (r :: rs)) w = _
        rw [exec_bind, hStep]
        simp only [exec_bind, hRun, exec_pure]
      · simp only [insertedValues, hStep]
        cases ok with
        | true =>
            simp only [if_true, hValue, Option.toList_some,
              List.cons_append]
            exact ((perm_insertSortedList xs v).append_left
              _).trans List.perm_middle
        | false =>
            simp only [Bool.false_eq_true, if_false]
            exact List.Perm.refl _

/-
  In every world that a program reaches, `insertSorted` of an
  argument outside a sorted array is a lower-bound insertion
  or changes nothing, and the latter only if the array cannot
  grow.  Any sequence of its calls fills an empty array with
  a sorted permutation of the values whose calls return true.
-/
theorem insertSorted_lowerBound
    (I : Instantiation T)
    (lt : T → T → Bool)
    [IsStrictWeakOrder T (fun x y => lt x y = true)]
    (oracle : Nat → Bool)
    (ops : List (Op T))
    (hAllowed : AllowedRun I (World.start oracle) ops) :
    ∃ rs w,
      exec (run I ops) (World.start oracle) = .ok (rs, w) ∧
      (∀ (x : Nat) (xs : List T) (pass : Pass) (t : Arg T),
        w.contents x = .alive (xs.map some) →
        InOrder lt xs → t.Outside w x →
        ∃ (v : T) (ok : Bool) (w' : World T),
          t.denoted w = some v ∧
          exec (step I (.insertSorted x lt pass t)) w =
            .ok (some ok, w') ∧
          (ok = true →
            w'.contents x =
                .alive ((lowerBoundInsert lt xs v).map some) ∧
              InOrder lt (lowerBoundInsert lt xs v)) ∧
          (ok = false ↔ w.At x (CannotGrow I w.heap)) ∧
          (ok = false →
            w'.arrays = w.arrays ∧
              ∀ y, w'.contents y = w.contents y)) ∧
      (∀ (x : Nat) (calls : List (Pass × Arg T)),
        w.contents x = .alive [] →
        AllowedRun I w (insertAll x lt calls) →
        ∃ rs' w' ys,
          exec (run I (insertAll x lt calls)) w =
            .ok (rs', w') ∧
          w'.contents x = .alive (ys.map some) ∧
          InOrder lt ys ∧
          ys.Perm (insertedValues I x lt w calls)) := by
  rcases returns_run (Represents.start I oracle)
    hAllowed with ⟨rs, w, hExec, _, hRep⟩
  refine ⟨rs, w, hExec, ?_, ?_⟩
  · intro x xs pass t hContents hOrder hOutside
    have hHas := hRep.list_of_contents hContents
    rcases step_insertSorted lt pass hRep hHas hOutside with
      ⟨v, ok, w', σ', hValue, hStep, hRep', hHas', hSame⟩
    have hRefused :=
      (returns_step_refused (.insertSorted x lt pass t) hRep
        ⟨hRep.alive hHas, hOutside⟩).post hStep
    rw [Option.some_inj] at hRefused
    refine ⟨v, ok, w', hValue, hStep, ?_, hRefused, hSame⟩
    intro hTrue
    subst hTrue
    have hContents' := hRep'.contents x
    rw [hHas', if_pos rfl, insertSortedList_eq v hOrder]
      at hContents'
    refine ⟨hContents', ?_⟩
    rw [← insertSortedList_eq v hOrder]
    exact inOrder_insertSortedList v hOrder
  · intro x calls hContents hCalls
    have hHas : specRun I (fun _ => .unborn) ops rs x =
        .alive [] :=
      hRep.list_of_contents hContents
    have hEmpty : InOrder lt ([] : List T) :=
      List.Pairwise.nil
    have hRun := run_insertAll calls hRep hHas hEmpty hCalls
    rw [List.append_nil] at hRun
    exact hRun

/-
  Array 1 is filled, and its elements and other values go to
  array 0.
-/
def fillOther : List (Op Nat) :=
  [.construct 0, .construct 1, .pushBack 1 (.value 12),
    .pushBack 1 (.value 31)]

def tensCalls : List (Pass × Arg Nat) :=
  [(.copy, .value 25), (.move, .element 1 0),
    (.copy, .value 27), (.copy, .element 1 1)]

theorem insertSorted_lowerBound_tens :
    ∃ (w w' : World Nat) (ys : List Nat),
      exec (run handleType fillOther)
          (World.start (fun _ => true)) =
        .ok ([none, none, some true, some true], w) ∧
      exec (run handleType (insertAll 0 tensLess tensCalls))
          w =
        .ok ([some true, some true, some true, some true],
          w') ∧
      ys = [12, 27, 25, 31] ∧
      w'.contents 0 = .alive (ys.map some) ∧
      InOrder tensLess ys ∧
      ys.Perm
        (insertedValues handleType 0 tensLess w
          tensCalls) := by
  have hAllowed :
      AllowedRun handleType (World.start (fun _ => true))
        fillOther := by
    decide
  rcases insertSorted_lowerBound handleType tensLess
    (fun _ => true) fillOther hAllowed with
    ⟨rs, w, hExec, _, hCalls⟩
  have hReady :
      (match exec (run handleType fillOther)
          (World.start (fun _ => true)) with
        | .ok (rs, w) =>
            decide
              (rs = [none, none, some true, some true] ∧
                w.contents 0 = .alive [] ∧
                AllowedRun handleType w
                  (insertAll 0 tensLess tensCalls) ∧
                After
                  (run handleType
                    (insertAll 0 tensLess tensCalls)) w
                  (fun rs' w' =>
                    rs' = [some true, some true, some true,
                        some true] ∧
                      w'.contents 0 =
                        .alive
                          ([12, 27, 25, 31].map some)))
        | .error _ => false) = true := by
    decide +kernel
  rw [hExec] at hReady
  rcases of_decide_eq_true hReady with
    ⟨rfl, hEmpty, hNext, hAfter⟩
  rcases hCalls 0 tensCalls hEmpty hNext with
    ⟨rs', w', ys, hRun, hContents, hOrder, hPerm⟩
  rw [after_of_exec hRun] at hAfter
  rcases hAfter with ⟨rfl, hShown⟩
  have hList : ys = [12, 27, 25, 31] := by
    rw [hContents] at hShown
    exact (List.map_inj_right
      (fun _ _ => Option.some.inj)).mp
      (Life.alive.inj hShown)
  exact ⟨w, w', ys, hExec, hRun, hList, hContents, hOrder,
    hPerm⟩

end KArray

end CxPlat
