import CxPlat.KArray.Refinement

/-
  When a call returns false.

  Only `reserve` and an index past the end turn a call down.
  `reserve` does if there is not room enough and the request
  is too large or the pool has nothing.  An insertion asks it
  through `grow`, and only in a full array; a value that
  `insertSortedUnique` finds in the array is not inserted,
  and so cannot be refused.

  Key definitions include:
    * `CannotReserve`, `CannotGrow`
    * `World.finds`
    * `Refuses`

  Key theorems include:
    * `returns_insertAt_refused`
    * `returns_insertSorted_refused`
    * `returns_step_refused`
    * `run_refines_lists`
-/

------------------------------------------------------------
-- Member Functions
------------------------------------------------------------

namespace CxPlat

namespace KArray

open Comp

variable {T : Type} {I : Instantiation T} {h : Heap T}
variable {a : KArray} {xs : List T} {r : Ref T} {v : T}

/- More than there is room for, and it is not granted. -/
def CannotReserve
    (I : Instantiation T)
    (h : Heap T)
    (a : KArray)
    (count : Nat) : Prop :=
  a.bufferSize < count ∧ ¬ Grants I h count

/- Full, and what `grow` asks for is not granted. -/
def CannotGrow
    (I : Instantiation T)
    (h : Heap T)
    (a : KArray) : Prop :=
  a.numElements = a.bufferSize ∧
    ¬ Grants I h (growCount I a (a.numElements + 1))

theorem returns_reserve_refused
    (count : Nat)
    (hFresh : h.Fresh)
    (hHolds : Holds I h a xs) :
    Returns (reserve I a count) h
      (fun res _ =>
        res.1 = false ↔ CannotReserve I h a count) := by
  unfold CannotReserve
  by_cases hRoom : count ≤ a.bufferSize
  · apply (returns_reserve I count hFresh hHolds).mono
    intro res t hReserved
    rw [hReserved.sure hRoom]
    simp only [Bool.true_eq_false, false_iff]
    omega
  · apply (returns_reserve_more I hFresh hHolds
      (by omega)).mono
    intro res t hExchanged
    rw [← hExchanged.granted, Bool.not_eq_true]
    exact ⟨fun hFalse => ⟨by omega, hFalse⟩, And.right⟩

theorem returns_grow_refused
    (hFresh : h.Fresh)
    (hHolds : Holds I h a xs) :
    Returns (grow I a (a.numElements + 1)) h
      (fun res _ =>
        res.1 = false ↔ CannotGrow I h a) := by
  have hFits := hHolds.fits
  have hCount := hHolds.count
  unfold CannotGrow
  by_cases hRoom : a.numElements + 1 ≤ a.bufferSize
  · apply (returns_grow I _ hFresh hHolds).mono
    intro res t hReserved
    rw [hReserved.sure hRoom]
    simp only [Bool.true_eq_false, false_iff]
    omega
  · apply (returns_grow_more I hFresh hHolds
      (by omega)).mono
    intro res t hExchanged
    rw [← hExchanged.granted, Bool.not_eq_true]
    exact ⟨fun hFalse => ⟨by omega, hFalse⟩, And.right⟩

theorem returns_resize_refused
    (count : Nat)
    (hFresh : h.Fresh)
    (hHolds : Holds I h a xs) :
    Returns (resize I a count) h
      (fun res _ =>
        res.1 = false ↔ CannotReserve I h a count) := by
  unfold resize
  apply ((returns_reserve I count hFresh hHolds).and
    (returns_reserve_refused count hFresh hHolds)).bind
  rintro ⟨ok, a'⟩ t ⟨hReserved, hRefused⟩
  cases ok with
  | false =>
      simp only [Bool.not_false, if_true]
      rw [returns_pure]
      exact hRefused
  | true =>
      simp only [Bool.not_true, Bool.false_eq_true, if_false]
      apply (returns_refit I hReserved.confined.fresh
        hReserved.holds (hReserved.room rfl)).mono
      rintro res u ⟨hTrue, _⟩
      rw [hTrue]
      exact hRefused

theorem not_returns_place_false
    (pass : Pass)
    (a : KArray)
    (index : Nat)
    (r : Ref T) :
    ¬ Returns (place I pass a index r) h
      (fun res _ => res.1 = false) := by
  unfold place
  rw [returns_bind]
  rintro ⟨v, t, _, hConstruct⟩
  rw [returns_bind] at hConstruct
  rcases hConstruct with ⟨_, u, _, hLast⟩
  rw [returns_pure] at hLast
  cases hLast

/- Whatever the argument, only `grow` can fail. -/
theorem returns_insertAt_false_iff
    (pass : Pass)
    {index : Nat}
    (r : Ref T)
    (hFresh : h.Fresh)
    (hHolds : Holds I h a xs)
    (hIndex : index ≤ a.numElements) :
    Returns (insertAt I pass a index r) h
        (fun res _ => res.1 = false) ↔
      CannotGrow I h a := by
  have hMax := hHolds.lt_ulong
  have hCount := hHolds.count
  have hFits := hHolds.fits
  have hWide := I.sizeT.ulong_le_modulus
  rcases returns_grow_refused hFresh hHolds with
    ⟨⟨ok, a'⟩, u, hExec, hRefused⟩
  rw [← hRefused]
  unfold insertAt
  rw [if_neg (by omega), sizeAdd_of_lt (by omega),
    returns_bind_of_exec hExec]
  cases ok with
  | false => simp only [Bool.not_false, if_true, returns_pure]
  | true =>
      simp only [Bool.not_true, Bool.false_eq_true, if_false,
        Bool.true_eq_false, iff_false]
      rw [returns_bind]
      rintro ⟨_, t, _, hPlace⟩
      exact not_returns_place_false pass a' index r hPlace

section Insertion

variable (pass : Pass)
variable (hFresh : h.Fresh) (hHolds : Holds I h a xs)
variable (hDenotes : r.Denotes h a v)

include hFresh hHolds hDenotes

theorem returns_insertAt_refused
    {index : Nat}
    (hIndex : index ≤ xs.length) :
    Returns (insertAt I pass a index r) h
      (fun res _ =>
        res.1 = false ↔ CannotGrow I h a) := by
  rcases returns_insertAt I pass hFresh hHolds hDenotes
    hIndex with ⟨res, t, hExec, _⟩
  have hInside : index ≤ a.numElements := by
    rw [hHolds.count]
    exact hIndex
  apply returns_of_exec hExec
  rw [← returns_insertAt_false_iff pass r hFresh hHolds
    hInside]
  constructor
  · intro hFalse
    exact returns_of_exec hExec hFalse
  · intro hReturns
    exact hReturns.post hExec

theorem returns_append_refused :
    Returns (append I pass a r) h
      (fun res _ =>
        res.1 = false ↔ CannotGrow I h a) := by
  rw [returns_append_iff I pass r hFresh hHolds]
  exact returns_insertAt_refused pass hFresh hHolds hDenotes
    (Nat.le_refl _)

/- Past the end `insertAt` does not even ask for room. -/
theorem returns_insertAt_anywhere
    (index : Nat) :
    Returns (insertAt I pass a index r) h
      (fun res _ =>
        res.1 = false ↔
          a.numElements < index ∨ CannotGrow I h a) := by
  have hCount := hHolds.count
  by_cases hIndex : index ≤ xs.length
  · apply (returns_insertAt_refused pass hFresh hHolds
      hDenotes hIndex).mono
    intro res t hRefused
    rw [hRefused]
    exact ⟨Or.inr, Or.rec (by omega) id⟩
  · apply (returns_insertAt_of_lt I pass r hHolds
      (by omega)).mono
    rintro res t ⟨rfl, _⟩
    exact iff_of_true rfl (Or.inl (by omega))

theorem returns_insertSorted_refused
    (lt : T → T → Bool) :
    Returns (insertSorted I lt pass a r) h
      (fun res _ =>
        res.1 = false ↔ CannotGrow I h a) := by
  unfold insertSorted
  rw [returns_bind]
  refine returns_sortedSearch I lt
    (k := fun i _ _ => some <$> insertAt I pass a i r)
    hHolds hDenotes ?_ ?_
  · intro i x hIndex _
    subst hIndex
    rw [returns_map]
    apply (returns_insertAt_refused pass hFresh hHolds
      hDenotes (sortedIndex_le lt xs v)).mono
    intro res t hRefused
    refine ⟨by simp, ?_⟩
    rw [returns_pure]
    exact hRefused
  · intro _
    exact returns_append_refused pass hFresh hHolds hDenotes

/- A value that is in the array cannot be refused. -/
theorem returns_insertSortedUnique_refused
    (lt : T → T → Bool) :
    Returns (insertSortedUnique I lt pass a r) h
      (fun res _ =>
        res.1 = false ↔
          sortedAbsent lt xs v = true ∧
            CannotGrow I h a) := by
  cases hAbsent : sortedAbsent lt xs v with
  | false =>
      have hFound := returns_insertSortedUnique I lt pass
        hFresh hHolds hDenotes
      rw [hAbsent] at hFound
      simp only [Bool.false_eq_true, if_false] at hFound
      apply hFound.mono
      rintro res t ⟨rfl, _⟩
      simp
  | true =>
      unfold insertSortedUnique
      rw [returns_bind]
      refine returns_sortedSearch I lt
        (k := fun i x v =>
          if lt v x then some <$> insertAt I pass a i r
          else pure (some (true, a)))
        hHolds hDenotes ?_ ?_
      · intro i x hIndex hElement
        subst hIndex
        have hMore : lt v x = true := by
          unfold sortedAbsent at hAbsent
          rwa [hElement] at hAbsent
        rw [if_pos hMore, returns_map]
        apply (returns_insertAt_refused pass hFresh hHolds
          hDenotes (sortedIndex_le lt xs v)).mono
        intro res t hRefused
        refine ⟨by simp, ?_⟩
        rw [returns_pure, hRefused]
        rw [eq_self, true_and]
      · intro _
        apply (returns_append_refused pass hFresh hHolds
          hDenotes).mono
        intro res t hRefused
        rw [hRefused]
        rw [eq_self, true_and]

end Insertion

end KArray

end CxPlat

------------------------------------------------------------
-- Calls
------------------------------------------------------------

namespace CxPlat

namespace KArray

open Comp

variable {T : Type}

/- The array object `x` is alive and has this property. -/
def World.At
    (w : World T)
    (x : Nat)
    (P : KArray → Prop) : Prop :=
  ∃ a, w.arrays x = .alive a ∧ P a

/- `insertSortedUnique` finds the argument in the array. -/
def World.finds
    (w : World T)
    (x : Nat)
    (lt : T → T → Bool)
    (t : Arg T) : Bool :=
  match w.contents x, t.denoted w with
  | .alive xs, some v =>
      !sortedAbsent lt (xs.filterMap id) v
  | _, _ => false

/- The calls that return false. -/
def Refuses
    (I : Instantiation T)
    (w : World T) : Op T → Prop
  | .reserve x count =>
      w.At x (fun a => CannotReserve I w.heap a count)
  | .resize x count =>
      w.At x (fun a => CannotReserve I w.heap a count)
  | .append x _ _ => w.At x (CannotGrow I w.heap)
  | .pushBack x _ => w.At x (CannotGrow I w.heap)
  | .insertAt x index _ _ =>
      w.At x (fun a =>
        a.numElements < index ∨ CannotGrow I w.heap a)
  | .insertSorted x _ _ _ => w.At x (CannotGrow I w.heap)
  | .insertSortedUnique x lt _ t =>
      w.finds x lt t = false ∧ w.At x (CannotGrow I w.heap)
  | _ => False

variable {I : Instantiation T} {w w' : World T}
variable {σ : Lists T} {x : Nat} {a : KArray}

theorem World.at_iff
    {P : KArray → Prop}
    (hAlive : w.arrays x = .alive a) :
    w.At x P ↔ P a := by
  constructor
  · rintro ⟨b, hHere, hHas⟩
    rw [hAlive] at hHere
    cases hHere
    exact hHas
  · intro hHas
    exact ⟨a, hAlive, hHas⟩

theorem Represents.finds
    {xs : List T}
    {t : Arg T}
    {v : T}
    (lt : T → T → Bool)
    (hRep : Represents I w σ)
    (hHas : σ x = .alive xs)
    (hValue : t.value? σ = some v) :
    w.finds x lt t = !sortedAbsent lt xs v := by
  unfold World.finds
  rw [hRep.contents x, hHas, hRep.denoted t, hValue]
  simp [Life.map]

/- The result of a call is that of the member function. -/
theorem returns_callBool_refused
    {k : KArray → Code T (Bool × KArray)}
    {q : KArray → Prop}
    (hAlive : w.arrays x = .alive a)
    (hCall :
      Returns (k a) w.heap
        (fun res _ => res.1 = false ↔ q a)) :
    Returns (callBool x k) w
      (fun res _ => res = some false ↔ w.At x q) := by
  unfold callBool
  rw [returns_bind, returns_find hAlive, returns_bind,
    returns_onHeap]
  apply hCall.mono
  intro res t hRefused
  rw [returns_bind, returns_store, returns_pure,
    Option.some_inj, World.at_iff hAlive]
  exact hRefused

/- A call with an argument outside the array. -/
theorem returns_callWith_refused
    {t : Arg T}
    {k : KArray → Ref T → Code T (Bool × KArray)}
    {q : KArray → Prop}
    (hRep : Represents I w σ)
    (hAllowed : w.Alive x ∧ t.Outside w x)
    (hSpec :
      ∀ a xs r v, Holds I w.heap a xs →
        r.Denotes w.heap a v → σ x = .alive xs →
        t.value? σ = some v →
        Returns (k a r) w.heap
          (fun res _ => res.1 = false ↔ q a)) :
    Returns
      (do
        let r ← t.resolve
        callBool x (fun a => k a r)) w
      (fun res _ => res = some false ↔ w.At x q) := by
  rcases hAllowed with ⟨⟨a, hAlive⟩, hOutside⟩
  rcases hRep.holds hAlive with ⟨xs, hHas, hHolds⟩
  rcases hOutside.value hRep with ⟨v, hValue⟩
  rw [returns_bind, hOutside.found.resolve]
  exact returns_callBool_refused hAlive
    (hSpec a xs _ v hHolds
      (hOutside.denotes hRep hAlive hValue) hHas hValue)

/- Calls that return nothing. -/
theorem gives_callVoid
    (x : Nat)
    (k : KArray → Code T KArray) :
    Gives none (callVoid x k) :=
  gives_bind (fun _ =>
    gives_bind (fun _ =>
      gives_bind (fun _ => gives_pure none)))

/- `Refuses` says of no other call that it returns false. -/
theorem returns_step_void
    {op : Op T}
    (hRep : Represents I w σ)
    (hAllowed : Allowed w op)
    (hVoid : Gives none (step I op))
    (hRefuses : ¬ Refuses I w op) :
    Returns (step I op) w
      (fun res _ => res = some false ↔ Refuses I w op) := by
  rcases returns_step op hRep hAllowed with
    ⟨res, w', hExec, _⟩
  apply returns_of_exec hExec
  rw [hVoid w res w' hExec]
  simp [hRefuses]

theorem returns_step_refused
    (op : Op T)
    (hRep : Represents I w σ)
    (hAllowed : Allowed w op) :
    Returns (step I op) w
      (fun res _ => res = some false ↔ Refuses I w op) := by
  have hFresh := hRep.fresh
  cases op with
  | construct y =>
      exact returns_step_void hRep hAllowed
        (gives_bind (fun _ => gives_pure none)) id
  | reserve y count =>
      rcases hAllowed with ⟨a, hAlive⟩
      rcases hRep.holds hAlive with ⟨xs, _, hHolds⟩
      exact returns_callBool_refused hAlive
        (returns_reserve_refused count hFresh hHolds)
  | resize y count =>
      rcases hAllowed with ⟨a, hAlive⟩
      rcases hRep.holds hAlive with ⟨xs, _, hHolds⟩
      exact returns_callBool_refused hAlive
        (returns_resize_refused count hFresh hHolds)
  | clear y =>
      exact returns_step_void hRep hAllowed
        (gives_callVoid y _) id
  | append y pass t =>
      exact returns_callWith_refused
        (k := fun a r => append I pass a r) hRep hAllowed
        (fun _ _ _ _ hHolds hDenotes _ _ =>
          returns_append_refused pass hFresh hHolds hDenotes)
  | pushBack y t =>
      exact returns_callWith_refused
        (k := fun a r => pushBack I a r) hRep hAllowed
        (fun _ _ _ _ hHolds hDenotes _ _ =>
          returns_append_refused .copy hFresh hHolds hDenotes)
  | popBack y =>
      exact returns_step_void hRep hAllowed
        (gives_callVoid y _) id
  | insertAt y index pass t =>
      exact returns_callWith_refused
        (k := fun a r => insertAt I pass a index r)
        hRep hAllowed
        (fun _ _ _ _ hHolds hDenotes _ _ =>
          returns_insertAt_anywhere pass hFresh hHolds
            hDenotes index)
  | insertSorted y lt pass t =>
      exact returns_callWith_refused
        (k := fun a r => insertSorted I lt pass a r)
        hRep hAllowed
        (fun _ _ _ _ hHolds hDenotes _ _ =>
          returns_insertSorted_refused pass hFresh hHolds
            hDenotes lt)
  | insertSortedUnique y lt pass t =>
      have hCall := returns_callWith_refused (x := y) (t := t)
        (k := fun a r => insertSortedUnique I lt pass a r)
        (q := fun a =>
          w.finds y lt t = false ∧ CannotGrow I w.heap a)
        hRep hAllowed (by
          intro a xs r v hHolds hDenotes hHas hValue
          rw [hRep.finds lt hHas hValue, Bool.not_eq_false']
          exact returns_insertSortedUnique_refused pass
            hFresh hHolds hDenotes lt)
      apply hCall.mono
      intro res t hRefused
      rw [hRefused]
      unfold Refuses World.At
      exact ⟨fun ⟨a, hAlive, hFinds, hFull⟩ =>
          ⟨hFinds, a, hAlive, hFull⟩,
        fun ⟨hFinds, a, hAlive, hFull⟩ =>
          ⟨a, hAlive, hFinds, hFull⟩⟩
  | eraseAt y index =>
      exact returns_step_void hRep hAllowed
        (gives_callVoid y _) id
  | moveConstruct y z =>
      apply returns_step_void hRep hAllowed _ id
      exact gives_bind (fun _ =>
        gives_bind (fun _ =>
          gives_bind (fun _ => gives_pure none)))
  | moveAssign y z =>
      apply returns_step_void hRep hAllowed _ id
      exact gives_bind (fun _ =>
        gives_bind (fun _ =>
          gives_bind (fun _ =>
            gives_bind (fun _ =>
              gives_bind (fun _ => gives_pure none)))))
  | destruct y =>
      apply returns_step_void hRep hAllowed _ id
      exact gives_bind (fun _ =>
        gives_bind (fun _ =>
          gives_bind (fun _ => gives_pure none)))

end KArray

end CxPlat

------------------------------------------------------------
-- Programs
------------------------------------------------------------

namespace CxPlat

namespace KArray

open Comp

variable {T : Type}

/-
  Every allowed program, under every pattern of allocation
  outcomes, runs without a fault, shows the lists of the
  program over lists and keeps the bounds of the fields.  A
  call returns false exactly where `Refuses` says so, and
  then it changes nothing.
-/
theorem run_refines_lists
    (I : Instantiation T)
    (oracle : Nat → Bool)
    (ops : List (Op T))
    (hAllowed : AllowedRun I (World.start oracle) ops) :
    ∃ rs w,
      exec (run I ops) (World.start oracle) = .ok (rs, w) ∧
      rs.length = ops.length ∧
      (∀ x,
        w.contents x =
          (specRun I (fun _ => .unborn) ops rs x).map
            (List.map some)) ∧
      (∀ x a, w.arrays x = .alive a →
        a.numElements ≤ a.bufferSize ∧
          a.bufferSize < 2 ^ 32 - 1 ∧
          (a.p = none ↔ a.bufferSize = 0)) ∧
      (∀ op, Allowed w op →
        ∃ r w',
          exec (step I op) w = .ok (r, w') ∧
          (r = some false ↔ Refuses I w op) ∧
          (r = some false →
            w'.arrays = w.arrays ∧
              ∀ x, w'.contents x = w.contents x)) := by
  rcases returns_run (Represents.start I oracle)
    hAllowed with ⟨rs, w, hExec, hLength, hRep⟩
  refine ⟨rs, w, hExec, hLength, hRep.contents, ?_, ?_⟩
  · intro x a hAlive
    rcases hRep.holds hAlive with ⟨xs, _, hHolds⟩
    refine ⟨?_, hHolds.lt_ulong, hHolds.null⟩
    rw [hHolds.count]
    exact hHolds.fits
  · intro op hOp
    rcases returns_step op hRep hOp with
      ⟨r, w', hStep, hRefines⟩
    refine ⟨r, w', hStep,
      (returns_step_refused op hRep hOp).post hStep, ?_⟩
    intro hFalse
    rcases hRefines.unchanged hFalse with
      ⟨hArrays, hSame⟩
    exact ⟨hArrays, World.contents_congr hArrays hSame⟩

/-
  The pool turns down the second request, which the append to
  the emptied array makes.
-/
theorem run_refines_lists_handleProgram :
    AllowedRun handleType (World.start (fun n => n != 1))
        handleProgram ∧
      ∃ w,
        exec (run handleType handleProgram)
          (World.start (fun n => n != 1)) =
            .ok ([none, some true, some true, none,
              some false, none, none], w) ∧
        w.contents 0 = .alive [] ∧
        ∀ x,
          w.contents x =
            (specRun handleType (fun _ => .unborn)
              handleProgram
              [none, some true, some true, none,
                some false, none, none] x).map
              (List.map some) := by
  have hAllowed :
      AllowedRun handleType (World.start (fun n => n != 1))
        handleProgram := by
    decide
  refine ⟨hAllowed, ?_⟩
  rcases run_refines_lists handleType (fun n => n != 1)
    handleProgram hAllowed with
    ⟨rs, w, hExec, _, hContents, _⟩
  have hResults :
      (match exec (run handleType handleProgram)
          (World.start (fun n => n != 1)) with
        | .ok (rs, w) =>
            decide
              (rs = [none, some true, some true, none,
                some false, none, none] ∧
                w.contents 0 = .alive [])
        | .error _ => false) = true := by
    decide +kernel
  rw [hExec] at hResults
  rcases of_decide_eq_true hResults with ⟨rfl, hEmpty⟩
  exact ⟨w, hExec, hEmpty, hContents⟩

end KArray

end CxPlat
