import CxPlat.KArray.Iterators
import CxPlat.KArray.Sorted

/-
  Sorted sets that are given their own elements.

  An element that is inserted at a place the caller chooses
  must not lie in the array itself, since it may be moved
  before it is read.  `insertSortedUnique` has no such
  restriction on a sorted array: its search stops at the
  element itself, and nothing is moved.  Runs of set calls
  therefore stay sorted with any arguments.

  Key definitions include:
    * `OwnSetOp`, `ownSetProgram`

  Key theorems include:
    * `returns_insertSortedUnique_own`
    * `returnsIff_ownSetStep`
    * `ownSetProgram_sorted`
-/

------------------------------------------------------------
-- An Element of the Set Itself
------------------------------------------------------------

namespace CxPlat

namespace KArray

open Comp

variable {T : Type} {I : Instantiation T}
variable {lt : T → T → Bool}
variable [IsStrictWeakOrder T (fun x y => lt x y = true)]

omit [IsStrictWeakOrder T (fun x y => lt x y = true)] in
theorem lt_irrefl_of_strictWeak
    (lt : T → T → Bool)
    [IsStrictWeakOrder T (fun x y => lt x y = true)]
    (x : T) :
    lt x x = false := by
  have hNot := irrefl_of (fun x y => lt x y = true) x
  simpa using hNot

/-
  Every element before `j` is less than element `j`, which
  itself is neither less nor more.
-/
theorem returns_insertSortedUnique_own
    {h : Heap T}
    {a : KArray}
    {xs : List T}
    {j : Nat}
    (pass : Pass)
    (hHolds : Holds I h a xs)
    (hSorted : Increasing lt xs)
    (hLess : j < xs.length) :
    Returns
      (insertSortedUnique I lt pass a (.element a.p j)) h
      (fun r t => r = (true, a) ∧ t = h) := by
  have hCount := hHolds.count
  have hRoom := hHolds.room
  have hSmall := hHolds.small
  have hModulus := I.sizeT.ulong_le_modulus
  unfold ulongMax at hSmall
  have hSearch :
      Returns
        (Comp.searchLoop .endlessLoop
          (fun i => i < a.numElements)
          (fun i => sizeAdd I.sizeT i 1)
          (fun i => do
            let x ← readAt a.p i
            let v ← (Ref.element a.p j : Ref T).read
            if !lt x v then
              if lt v x then
                some <$> insertAt I pass a i (.element a.p j)
              else
                pure (some (true, a))
            else
              pure none)
          I.sizeT.modulus 0) h
        (fun r t => r = some (true, a) ∧ t = h) := by
    apply returns_searchLoop
      (fun i t => i ≤ j ∧ t = h)
      (fun i => a.numElements - i)
    · rintro i t ⟨hLe, rfl⟩ hCond
      have hBound : i < a.numElements :=
        of_decide_eq_true hCond
      have hNext : sizeAdd I.sizeT i 1 = i + 1 :=
        sizeAdd_of_lt (by omega)
      rw [hNext]
      refine ⟨by omega, ?_⟩
      apply (hHolds.returns_readAt (show i < xs.length by
        omega)).bind
      rintro x u ⟨hX, rfl⟩
      apply (hHolds.returns_readAt hLess).bind
      rintro v u ⟨hV, rfl⟩
      by_cases hHere : i = j
      · subst hHere
        rw [hX, hV, lt_irrefl_of_strictWeak lt]
        simp
      · have hBefore : lt x v = true := by
          rw [hX, hV]
          exact List.pairwise_iff_getElem.mp hSorted i j
            (by omega) hLess (by omega)
        rw [hBefore]
        simp only [Bool.not_true, Bool.false_eq_true,
          if_false, returns_pure]
        exact ⟨fun _ => ⟨by omega, trivial⟩,
          fun hSome => absurd rfl hSome⟩
    · rintro i t ⟨hLe, rfl⟩ hCond
      have hPast : ¬ i < a.numElements :=
        of_decide_eq_false hCond
      omega
    · omega
    · exact ⟨Nat.zero_le j, rfl⟩
  unfold insertSortedUnique
  apply hSearch.bind
  rintro found t ⟨rfl, rfl⟩
  simp

end KArray

end CxPlat

------------------------------------------------------------
-- Runs
------------------------------------------------------------

namespace CxPlat

namespace KArray

open Comp

variable {T : Type}

/- The calls on a sorted set, with any arguments. -/
inductive OwnSetOp (T : Type) where
  | insertValue (pass : Pass) (v : T)
  | insertOwn (pass : Pass) (j : Nat)
  | eraseAt (index : Nat)

def OwnSetOp.call
    (lt : T → T → Bool) : OwnSetOp T → Op T
  | .insertValue pass v =>
      .insertSortedUnique 0 lt pass (.value v)
  | .insertOwn pass j =>
      .insertSortedUnique 0 lt pass (.element 0 j)
  | .eraseAt index => .eraseAt 0 index

def ownSetProgram
    (lt : T → T → Bool)
    (ops : List (OwnSetOp T)) : List (Op T) :=
  .construct 0 :: ops.map (OwnSetOp.call lt)

section Order

variable {I : Instantiation T} {lt : T → T → Bool}
variable [IsStrictWeakOrder T (fun x y => lt x y = true)]
variable {w : World T} {τ : Lists T} {xs : List T}

/- Array 0 holds an increasing list. -/
def World.Sorted
    (I : Instantiation T)
    (lt : T → T → Bool)
    (w : World T) : Prop :=
  ∃ τ xs, Represents I w τ ∧ τ 0 = .alive xs ∧
    Increasing lt xs

/- The calls that do not read the set itself. -/
theorem returnsIff_setStep
    (op : SetOp T)
    (hRep : Represents I w τ)
    (hHas : τ 0 = .alive xs)
    (hSorted : Increasing lt xs) :
    ReturnsIff (InRange w (op.call lt)) .failFast
      (step I (op.call lt)) w
      (fun _ w' => w'.Sorted I lt) := by
  have hOn : OnArray w 0 (op.call lt) := by
    cases op with
    | insertSortedUnique pass v => exact ⟨rfl, trivial⟩
    | eraseAt index => rfl
  apply (returnsIff_step hRep (hRep.alive hHas) hOn).mono
  rintro r w' ⟨hRep', _⟩
  by_cases hFalse : r = some false
  · subst hFalse
    exact ⟨_, xs, hRep', hHas, hSorted⟩
  · refine ⟨_, op.onList lt xs, hRep', ?_,
      increasing_onList op hSorted⟩
    rw [specStep, if_neg hFalse]
    exact specOp_call I lt hHas op

/- The call that does leaves everything as it is. -/
theorem returnsIff_insertOwn
    (pass : Pass)
    (j : Nat)
    (hRep : Represents I w τ)
    (hHas : τ 0 = .alive xs)
    (hSorted : Increasing lt xs) :
    ReturnsIff (w.HasElement 0 j) .failFast
      (step I (.insertSortedUnique 0 lt pass
        (.element 0 j))) w
      (fun r w' => r = some true ∧ w' = w) := by
  rcases hRep.alive hHas with ⟨a, hAlive⟩
  rcases hRep.holds hAlive with ⟨ys, hSame, hHolds⟩
  rw [hHas] at hSame
  cases hSame
  have hCount := hHolds.count
  constructor
  · rintro ⟨b, hHere, hLess⟩
    rw [hAlive] at hHere
    cases hHere
    unfold step Arg.resolve callBool
    simp only [returns_bind, returns_find hAlive]
    rw [if_neg (by omega), returns_pure]
    simp only [returns_find hAlive, returns_onHeap]
    apply (returns_insertSortedUnique_own pass hHolds hSorted
      (by omega)).mono
    rintro r t ⟨rfl, rfl⟩
    rw [returns_store, returns_pure]
    refine ⟨rfl, ?_⟩
    rw [← hAlive, Function.update_eq_self]
  · intro hNot
    unfold step
    rw [exec_bind, exec_resolve_past ⟨a, hAlive⟩ hNot]

theorem returnsIff_ownSetStep
    (op : OwnSetOp T)
    (hSorted : w.Sorted I lt) :
    ReturnsIff (InRange w (op.call lt)) .failFast
      (step I (op.call lt)) w
      (fun _ w' => w'.Sorted I lt) := by
  rcases hSorted with ⟨τ, xs, hRep, hHas, hIncreasing⟩
  cases op with
  | insertValue pass v =>
      exact returnsIff_setStep (.insertSortedUnique pass v)
        hRep hHas hIncreasing
  | insertOwn pass j =>
      apply (returnsIff_insertOwn pass j hRep hHas
        hIncreasing).mono
      rintro r w' ⟨_, rfl⟩
      exact ⟨τ, xs, hRep, hHas, hIncreasing⟩
  | eraseAt index =>
      exact returnsIff_setStep (.eraseAt index) hRep hHas
        hIncreasing

theorem returnsIff_ownSetRun
    {ops : List (OwnSetOp T)}
    (hSorted : w.Sorted I lt) :
    ReturnsIff (InRangeRun I w (ops.map (OwnSetOp.call lt)))
      .failFast (run I (ops.map (OwnSetOp.call lt))) w
      (fun _ w' => w'.Sorted I lt) := by
  induction ops generalizing w with
  | nil =>
      unfold List.map run InRangeRun
      apply Returns.iff_true
      rw [returns_pure]
      exact hSorted
  | cons op ops ih =>
      unfold List.map run InRangeRun
      apply (returnsIff_ownSetStep op hSorted).bind
      intro r w₁ hSorted₁
      apply (ih hSorted₁).then_returns
      intro rs w₂ hSorted₂
      rw [returns_pure]
      exact hSorted₂

end Order

/-
  Every run of set calls, with any arguments, keeps the array
  strictly increasing, and it is stopped only where a call
  names an element that is not there.
-/
theorem ownSetProgram_sorted
    (I : Instantiation T)
    (lt : T → T → Bool)
    [IsStrictWeakOrder T (fun x y => lt x y = true)]
    (oracle : Nat → Bool)
    (ops : List (OwnSetOp T)) :
    ReturnsIff
      (InRangeRun I (World.start oracle)
        (ownSetProgram lt ops))
      .failFast (run I (ownSetProgram lt ops))
      (World.start oracle)
      (fun _ w => ∃ xs : List T,
        w.contents 0 = .alive (xs.map some) ∧
          xs.Pairwise (fun x y => lt x y = true)) := by
  have hSorted :
      (World.oneArray oracle : World T).Sorted I lt :=
    ⟨_, [], represents_oneArray I oracle,
      Function.update_self .., List.Pairwise.nil⟩
  have hFirst : ReturnsIff True Fault.failFast
      (step I (.construct 0)) (World.start oracle)
      (fun _ w => w.Sorted I lt) :=
    (returns_of_exec (exec_construct I oracle)
      hSorted).iff_true
  unfold ownSetProgram run InRangeRun
  apply hFirst.bind
  intro r w hStart
  apply (returnsIff_ownSetRun hStart).then_returns
  rintro rs w' ⟨τ, xs, hRep, hHas, hIncreasing⟩
  rw [returns_pure]
  refine ⟨xs, ?_, hIncreasing⟩
  rw [hRep.contents 0, hHas]
  rfl

/- The first run returns, and the second has no element 2. -/
theorem ownSetProgram_sorted_tens :
    Returns
        (run handleType
          (ownSetProgram tensLess
            [.insertValue .copy 25, .insertValue .move 11,
              .insertOwn .move 1, .insertOwn .copy 0,
              .eraseAt 0]))
        (World.start (fun _ => true))
        (fun _ w => ∃ xs : List Nat,
          w.contents 0 = .alive (xs.map some) ∧
            xs.Pairwise (fun x y => tensLess x y = true)) ∧
      exec
          (run handleType
            (ownSetProgram tensLess
              [.insertValue .copy 25, .insertValue .move 11,
                .insertOwn .move 2]))
          (World.start (fun _ => true)) =
        .error .failFast :=
  ⟨(ownSetProgram_sorted handleType tensLess
      (fun _ => true) _).returns (by decide +kernel),
    (ownSetProgram_sorted handleType tensLess
      (fun _ => true) _).fails (by decide +kernel)⟩

/- The contents after the first of them. -/
example :
    (afterRun handleType
        (ownSetProgram tensLess
          [.insertValue .copy 25, .insertValue .move 11,
            .insertOwn .move 1, .insertOwn .copy 0,
            .eraseAt 0])
        (World.start (fun _ => true))).contents 0 =
      .alive [some 25] := rfl

end KArray

end CxPlat
