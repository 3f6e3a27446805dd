import CxPlat.KArray.LowerBound
import CxPlat.KArray.Stable

/-
  The iterators of `Rtl::KArray`, and `for (x : y)` over an
  array whose loop body calls its member functions.

  An iterator is a pointer to the array object and an index,
  and it is followed through `operator[]`.  The end of the
  loop is the size the array has when the loop starts.  A
  body may therefore add elements, and so exchange the buffer
  that the loop is reading; if it removes elements, the loop
  stops the program instead of reading past the end.

  Key definitions include:
    * `Iterator`
    * `rangeFor`
    * `OnArray`, `Extends`
    * `InRange`, `RoundsInRange`

  Key theorems include:
    * `returnsIff_step`, `returnsIff_run`
    * `rangeFor_safe`
    * `rangeFor_visits`
-/

------------------------------------------------------------
-- Iterators
------------------------------------------------------------

namespace CxPlat

namespace KArray

open Comp

variable {T : Type}

/- `_a` as the name of the array object, and `_i`. -/
structure Iterator where
  array : Nat
  index : Nat
deriving DecidableEq, Repr

def beginOf
    (x : Nat) : Comp Fault (World T) Iterator := do
  let _ ← find x
  pure { array := x, index := 0 }

def endOf
    (x : Nat) : Comp Fault (World T) Iterator := do
  let a ← find x
  pure { array := x, index := a.numElements }

/- `operator++`. -/
def Iterator.next
    (w : SizeT)
    (it : Iterator) : Iterator :=
  { it with index := sizeAdd w it.index 1 }

/- `operator!=`, which only looks at the indices. -/
def Iterator.differs
    (it rhs : Iterator) : Bool :=
  !(rhs.index == it.index)

/- `operator[]`. -/
def elementAt
    (x index : Nat) : Comp Fault (World T) T := do
  let a ← find x
  if index ≥ a.numElements then
    throw .failFast
  else
    onHeap (readAt a.p index)

/- `operator*`. -/
def Iterator.deref
    (it : Iterator) : Comp Fault (World T) T :=
  elementAt it.array it.index

/-
  The rounds of the loop.  The body is given the index and
  the element, and the loop gives the elements it has read.
-/
def rangeLoop
    (I : Instantiation T)
    (body : Nat → T → List (Op T))
    (last : Iterator) :
    Nat → Iterator → Comp Fault (World T) (List T)
  | 0, it =>
      if it.differs last then
        throw .endlessLoop
      else
        pure []
  | fuel + 1, it =>
      if it.differs last then do
        let v ← it.deref
        let _ ← run I (body it.index v)
        let vs ← rangeLoop I body last fuel
          (it.next I.sizeT)
        pure (v :: vs)
      else
        pure []

/- `for (auto v : x) { ... }`. -/
def rangeFor
    (I : Instantiation T)
    (x : Nat)
    (body : Nat → T → List (Op T)) :
    Comp Fault (World T) (List T) := do
  let first ← beginOf x
  let last ← endOf x
  rangeLoop I body last I.sizeT.modulus first

/- The argument is not one of the elements of `x`. -/
def Arg.Elsewhere
    (w : World T)
    (x : Nat) : Arg T → Prop
  | .value _ => True
  | .element y _ => y ≠ x ∧ w.Alive y

/- A call on `x`, with an argument that lies elsewhere. -/
def OnArray
    (w : World T)
    (x : Nat) : Op T → Prop
  | .reserve y _ => y = x
  | .resize y _ => y = x
  | .clear y => y = x
  | .append y _ t => y = x ∧ t.Elsewhere w x
  | .pushBack y t => y = x ∧ t.Elsewhere w x
  | .popBack y => y = x
  | .insertAt y _ _ t => y = x ∧ t.Elsewhere w x
  | .insertSorted y _ _ t => y = x ∧ t.Elsewhere w x
  | .insertSortedUnique y _ _ t => y = x ∧ t.Elsewhere w x
  | .eraseAt y _ => y = x
  | _ => False

/- A call that only adds elements at the end, if any. -/
def Extends
    (w : World T)
    (x : Nat) : Op T → Prop
  | .reserve y _ => y = x
  | .append y _ t => y = x ∧ t.Outside w x
  | .pushBack y t => y = x ∧ t.Outside w x
  | _ => False

/- The elements that a call names are there. -/
def InRange
    (w : World T) : Op T → Prop
  | .append _ _ t => t.Found w
  | .pushBack _ t => t.Found w
  | .insertAt _ _ _ t => t.Found w
  | .insertSorted _ _ _ t => t.Found w
  | .insertSortedUnique _ _ _ t => t.Found w
  | .eraseAt x index => w.HasElement x index
  | _ => True

/- Each call finds the elements that it names. -/
def InRangeRun
    (I : Instantiation T)
    (w : World T) : List (Op T) → Prop
  | [] => True
  | op :: ops =>
      InRange w op ∧
        After (step I op) w
          (fun _ w' => InRangeRun I w' ops)

/-
  The element of each round is there when the round starts,
  and so are the elements that its body names.
-/
def RoundsInRange
    (I : Instantiation T)
    (x : Nat)
    (body : Nat → T → List (Op T)) :
    Nat → Nat → World T → Prop
  | 0, _, _ => True
  | rounds + 1, i, w =>
      w.HasElement x i ∧
        After (elementAt x i) w (fun v w₁ =>
          InRangeRun I w₁ (body i v) ∧
            After (run I (body i v)) w₁ (fun _ w₂ =>
              RoundsInRange I x body rounds (i + 1) w₂))

instance Arg.decidableFound
    (w : World T) :
    (t : Arg T) → Decidable (t.Found w)
  | .value _ => inferInstanceAs (Decidable True)
  | .element y i =>
      inferInstanceAs (Decidable (w.HasElement y i))

instance decidableInRange
    (w : World T) :
    (op : Op T) → Decidable (InRange w op)
  | .append _ _ t => Arg.decidableFound w t
  | .pushBack _ t => Arg.decidableFound w t
  | .insertAt _ _ _ t => Arg.decidableFound w t
  | .insertSorted _ _ _ t => Arg.decidableFound w t
  | .insertSortedUnique _ _ _ t => Arg.decidableFound w t
  | .eraseAt x index => World.decidableHasElement w x index
  | .construct _ => isTrue trivial
  | .reserve _ _ => isTrue trivial
  | .resize _ _ => isTrue trivial
  | .clear _ => isTrue trivial
  | .popBack _ => isTrue trivial
  | .moveConstruct _ _ => isTrue trivial
  | .moveAssign _ _ => isTrue trivial
  | .destruct _ => isTrue trivial

instance decidableInRangeRun
    (I : Instantiation T) :
    (w : World T) → (ops : List (Op T)) →
      Decidable (InRangeRun I w ops)
  | _, [] => inferInstanceAs (Decidable True)
  | w, op :: ops =>
      have (w' : World T) := decidableInRangeRun I w' ops
      inferInstanceAs (Decidable
        (InRange w op ∧
          After (step I op) w
            (fun _ w' => InRangeRun I w' ops)))

instance decidableRoundsInRange
    (I : Instantiation T)
    (x : Nat)
    (body : Nat → T → List (Op T)) :
    (rounds i : Nat) → (w : World T) →
      Decidable (RoundsInRange I x body rounds i w)
  | 0, _, _ => inferInstanceAs (Decidable True)
  | rounds + 1, i, w =>
      have (w₂ : World T) :=
        decidableRoundsInRange I x body rounds (i + 1) w₂
      inferInstanceAs (Decidable
        (w.HasElement x i ∧
          After (elementAt x i) w (fun v w₁ =>
            InRangeRun I w₁ (body i v) ∧
              After (run I (body i v)) w₁ (fun _ w₂ =>
                RoundsInRange I x body rounds (i + 1) w₂))))

end KArray

end CxPlat

------------------------------------------------------------
-- Calls on One Array
------------------------------------------------------------

namespace CxPlat

namespace KArray

open Comp

variable {T : Type} {I : Instantiation T}
variable {w w' : World T} {τ : Lists T}
variable {x : Nat} {op : Op T}

/- Array `x` is still there, and no other was exchanged. -/
structure World.OnlyAt
    (x : Nat)
    (w w' : World T) : Prop where
  alive : w'.Alive x
  others : ∀ y, y ≠ x → w'.arrays y = w.arrays y

theorem World.OnlyAt.refl
    (hAlive : w.Alive x) :
    World.OnlyAt x w w where
  alive := hAlive
  others _ _ := rfl

theorem World.OnlyAt.trans
    {w'' : World T}
    (hFirst : World.OnlyAt x w w')
    (hSecond : World.OnlyAt x w' w'') :
    World.OnlyAt x w w'' where
  alive := hSecond.alive
  others y hNe :=
    (hSecond.others y hNe).trans (hFirst.others y hNe)

theorem World.OnlyAt.of_update
    {b : KArray}
    (hArrays :
      w'.arrays = Function.update w.arrays x (.alive b)) :
    World.OnlyAt x w w' where
  alive := ⟨b, by rw [hArrays]; exact Function.update_self ..⟩
  others y hNe := by
    rw [hArrays]
    exact Function.update_of_ne hNe ..

theorem onlyAt_callBool
    {k : KArray → Code T (Bool × KArray)}
    {r : Option Bool}
    (hAlive : w.Alive x)
    (hExec : exec (callBool x k) w = .ok (r, w')) :
    World.OnlyAt x w w' := by
  rcases hAlive with ⟨a, hAlive⟩
  rcases exec_callBool_ok hAlive hExec with
    ⟨_, _, _, hArrays⟩
  exact .of_update hArrays

theorem onlyAt_callVoid
    {k : KArray → Code T KArray}
    {r : Option Bool}
    (hAlive : w.Alive x)
    (hExec : exec (callVoid x k) w = .ok (r, w')) :
    World.OnlyAt x w w' := by
  rcases hAlive with ⟨a, hAlive⟩
  rcases exec_callVoid_ok hAlive hExec with
    ⟨_, _, _, hArrays⟩
  exact .of_update hArrays

theorem onlyAt_callWith
    {t : Arg T}
    {k : Ref T → KArray → Code T (Bool × KArray)}
    {r : Option Bool}
    (hAlive : w.Alive x)
    (hExec :
      exec
          (do
            let ref ← t.resolve
            callBool x (k ref)) w =
        .ok (r, w')) :
    World.OnlyAt x w w' := by
  rcases exec_bind_ok.mp hExec with
    ⟨ref, u, hResolve, hCall⟩
  rw [exec_resolve_ok hResolve] at hCall
  exact onlyAt_callBool hAlive hCall

/- A call on one array leaves the fields of the others. -/
theorem OnArray.onlyAt
    {r : Option Bool}
    (hOn : OnArray w x op)
    (hAlive : w.Alive x)
    (hExec : exec (step I op) w = .ok (r, w')) :
    World.OnlyAt x w w' := by
  unfold OnArray at hOn
  split at hOn
  case h_1 | h_2 =>
    subst hOn
    exact onlyAt_callBool hAlive hExec
  case h_3 | h_6 | h_10 =>
    subst hOn
    exact onlyAt_callVoid hAlive hExec
  case h_4 | h_5 | h_7 | h_8 | h_9 =>
    rcases hOn with ⟨rfl, _⟩
    exact onlyAt_callWith hAlive hExec
  case h_11 => cases hOn

theorem Arg.Elsewhere.still
    {t : Arg T}
    (hOnly : World.OnlyAt x w w')
    (hElsewhere : t.Elsewhere w x) :
    t.Elsewhere w' x := by
  cases t with
  | value v => trivial
  | element y i =>
      rcases hElsewhere with ⟨hNe, b, hAlive⟩
      exact ⟨hNe, b, by rw [hOnly.others y hNe, hAlive]⟩

theorem OnArray.still
    (hOnly : World.OnlyAt x w w')
    (hOn : OnArray w x op) :
    OnArray w' x op := by
  cases op <;> first
    | exact hOn
    | exact ⟨hOn.1, hOn.2.still hOnly⟩

theorem Arg.Outside.still
    {t : Arg T}
    (hOnly : World.OnlyAt x w w')
    (hOutside : t.Outside w x) :
    t.Outside w' x := by
  cases t with
  | value v => trivial
  | element y i =>
      rcases hOutside with ⟨hNe, b, hAlive, hLess⟩
      exact ⟨hNe, b, by rw [hOnly.others y hNe, hAlive],
        hLess⟩

theorem Extends.still
    (hOnly : World.OnlyAt x w w')
    (hExtends : Extends w x op) :
    Extends w' x op := by
  cases op <;> first
    | exact hExtends
    | exact ⟨hExtends.1, hExtends.2.still hOnly⟩

theorem Arg.Outside.elsewhere
    {t : Arg T}
    (hOutside : t.Outside w x) :
    t.Elsewhere w x := by
  cases t with
  | value v => trivial
  | element y i =>
      rcases hOutside with ⟨hNe, b, hAlive, _⟩
      exact ⟨hNe, b, hAlive⟩

theorem Extends.onArray
    (hExtends : Extends w x op) :
    OnArray w x op := by
  cases op <;> first
    | exact hExtends
    | exact ⟨hExtends.1, hExtends.2.elsewhere⟩
    | exact hExtends.elim

theorem Arg.Elsewhere.outside
    {t : Arg T}
    (hElsewhere : t.Elsewhere w x)
    (hFound : t.Found w) :
    t.Outside w x := by
  cases t with
  | value v => trivial
  | element y i => exact ⟨hElsewhere.1, hFound⟩

/- A call whose elements are there is allowed. -/
theorem OnArray.allowed
    (hOn : OnArray w x op)
    (hAlive : w.Alive x)
    (hRange : InRange w op) :
    Allowed w op := by
  unfold OnArray at hOn
  split at hOn
  case h_1 | h_2 | h_3 | h_6 =>
    subst hOn
    exact hAlive
  case h_4 | h_5 | h_7 | h_8 | h_9 =>
    rcases hOn with ⟨rfl, hElsewhere⟩
    exact ⟨hAlive, hElsewhere.outside hRange⟩
  case h_10 => exact hRange
  case h_11 => cases hOn

theorem numElements_le_of_not_hasElement
    {y i : Nat}
    {b : KArray}
    (hAlive : w.arrays y = .alive b)
    (hNot : ¬ w.HasElement y i) :
    b.numElements ≤ i := by
  by_contra hLess
  exact hNot ⟨b, hAlive, by omega⟩

/- `operator[]` on an argument that is not there. -/
theorem exec_resolve_past
    {y i : Nat}
    (hAlive : w.Alive y)
    (hNot : ¬ w.HasElement y i) :
    exec (Arg.element y i : Arg T).resolve w =
      .error .failFast := by
  rcases hAlive with ⟨b, hAlive⟩
  have hPast := numElements_le_of_not_hasElement hAlive hNot
  unfold Arg.resolve
  rw [exec_bind, exec_find hAlive]
  simp only
  rw [if_pos hPast]
  rfl

theorem Arg.Elsewhere.fails
    {t : Arg T}
    (hElsewhere : t.Elsewhere w x)
    (hNot : ¬ t.Found w) :
    exec t.resolve w = .error .failFast := by
  cases t with
  | value v => exact absurd trivial hNot
  | element y i => exact exec_resolve_past hElsewhere.2 hNot

/- A call that names an element that is not there. -/
theorem OnArray.fails
    (hOn : OnArray w x op)
    (hAlive : w.Alive x)
    (hNot : ¬ InRange w op) :
    exec (step I op) w = .error .failFast := by
  unfold OnArray at hOn
  split at hOn
  case h_1 | h_2 | h_3 | h_6 => exact absurd trivial hNot
  case h_4 | h_5 | h_7 | h_8 | h_9 =>
    unfold step
    rw [exec_bind, hOn.2.fails hNot]
  case h_10 y index =>
    subst hOn
    rcases hAlive with ⟨a, hAlive⟩
    have hPast :=
      numElements_le_of_not_hasElement hAlive hNot
    unfold step callVoid eraseAt
    rw [exec_bind, exec_find hAlive]
    simp only [exec_bind, exec_onHeap]
    rw [if_pos hPast]
    rfl
  case h_11 => cases hOn

theorem returnsIff_step
    (hRep : Represents I w τ)
    (hAlive : w.Alive x)
    (hOn : OnArray w x op) :
    ReturnsIff (InRange w op) .failFast (step I op) w
      (fun r w' =>
        Represents I w' (specStep I τ op r) ∧
          World.OnlyAt x w w') where
  returns hRange := by
    rcases returns_step op hRep
      (hOn.allowed hAlive hRange) with
      ⟨r, w', hExec, hRefines⟩
    exact ⟨r, w', hExec, hRefines.represents,
      hOn.onlyAt hAlive hExec⟩
  fails := hOn.fails hAlive

theorem returnsIff_run
    {ops : List (Op T)}
    (hRep : Represents I w τ)
    (hAlive : w.Alive x)
    (hOn : ∀ op ∈ ops, OnArray w x op) :
    ReturnsIff (InRangeRun I w ops) .failFast (run I ops) w
      (fun _ w' =>
        (∃ τ', Represents I w' τ') ∧
          World.OnlyAt x w w') := by
  induction ops generalizing w τ with
  | nil =>
      unfold run InRangeRun
      apply Returns.iff_true
      rw [returns_pure]
      exact ⟨⟨τ, hRep⟩, .refl hAlive⟩
  | cons op ops ih =>
      unfold run InRangeRun
      apply (returnsIff_step hRep hAlive
        (hOn op List.mem_cons_self)).bind
      rintro r w₁ ⟨hRep₁, hOnly₁⟩
      apply (ih hRep₁ hOnly₁.alive
        (fun op' hMem =>
          (hOn op' (List.mem_cons_of_mem op hMem)).still
            hOnly₁)).then_returns
      rintro rs w₂ ⟨hEnd, hOnly₂⟩
      rw [returns_pure]
      exact ⟨hEnd, hOnly₁.trans hOnly₂⟩

end KArray

end CxPlat

------------------------------------------------------------
-- Loops
------------------------------------------------------------

namespace CxPlat

namespace KArray

open Comp

variable {T : Type} {I : Instantiation T}
variable {w : World T} {τ : Lists T} {x : Nat}
variable {body : Nat → T → List (Op T)}

/- Reading through the array's own pointer. -/
theorem Holds.returns_readAt
    {h : Heap T}
    {a : KArray}
    {xs : List T}
    {i : Nat}
    (hHolds : Holds I h a xs)
    (hLess : i < xs.length) :
    Returns (readAt a.p i) h
      (fun v t => v = xs[i] ∧ t = h) := by
  have hFits := hHolds.fits
  rcases hHolds.pointer_of_pos (by omega) with ⟨b, hPointer⟩
  rw [hPointer]
  refine (KArray.returns_readAt ?_
    (hHolds.live hPointer hLess)).mpr ⟨rfl, rfl⟩
  rw [hHolds.size b hPointer]
  omega

/- An element is read where the array has it now. -/
theorem exec_elementAt
    {xs : List T}
    {i : Nat}
    (hRep : Represents I w τ)
    (hHas : τ x = .alive xs)
    (hLess : i < xs.length) :
    exec (elementAt x i) w = .ok (xs[i], w) := by
  rcases hRep.alive hHas with ⟨a, hAlive⟩
  rcases hRep.holds hAlive with ⟨ys, hSame, hHolds⟩
  rw [hHas] at hSame
  cases hSame
  have hCount := hHolds.count
  rcases hHolds.returns_readAt hLess with
    ⟨v, t, hExec, rfl, rfl⟩
  unfold elementAt
  rw [exec_bind, exec_find hAlive]
  simp only
  rw [if_neg (by omega), exec_onHeap, hExec]

/- Past the end the program is stopped. -/
theorem returnsIff_elementAt
    {i : Nat}
    (hRep : Represents I w τ)
    (hAlive : w.Alive x) :
    ReturnsIff (w.HasElement x i) .failFast (elementAt x i)
      w (fun _ w' => w' = w) := by
  rcases hAlive with ⟨a, hAlive⟩
  rcases hRep.holds hAlive with ⟨xs, hHas, hHolds⟩
  have hCount := hHolds.count
  constructor
  · rintro ⟨b, hHere, hLess⟩
    rw [hAlive] at hHere
    cases hHere
    exact ⟨_, _, exec_elementAt hRep hHas (by omega), rfl⟩
  · intro hNot
    have hPast :=
      numElements_le_of_not_hasElement hAlive hNot
    unfold elementAt
    rw [exec_bind, exec_find hAlive]
    simp only
    rw [if_pos hPast]
    rfl

theorem rangeLoop_done
    (fuel n : Nat) :
    rangeLoop I body { array := x, index := n } fuel
      { array := x, index := n } = pure [] := by
  cases fuel with
  | zero => simp [rangeLoop, Iterator.differs]
  | succ fuel => simp [rangeLoop, Iterator.differs]

theorem rangeLoop_round
    {fuel i n : Nat}
    (hLess : i < n)
    (hSmall : n < 2 ^ 32) :
    rangeLoop I body { array := x, index := n } (fuel + 1)
        { array := x, index := i } =
      (do
        let v ← elementAt x i
        let _ ← run I (body i v)
        let vs ← rangeLoop I body { array := x, index := n }
          fuel { array := x, index := i + 1 }
        pure (v :: vs)) := by
  have hGo : (!(n == i)) = true := by
    simp
    omega
  have hModulus := I.sizeT.ulong_le_modulus
  have hNext : sizeAdd I.sizeT i 1 = i + 1 :=
    sizeAdd_of_lt (by omega)
  rw [rangeLoop]
  simp only [Iterator.differs, hGo, if_true,
    Iterator.deref, Iterator.next, hNext]

/- The loop, by induction on the rounds that are left. -/
theorem returnsIff_rangeLoop
    {n i rounds fuel : Nat}
    (hRep : Represents I w τ)
    (hAlive : w.Alive x)
    (hBody : ∀ i v, ∀ op ∈ body i v, OnArray w x op)
    (hSmall : n < 2 ^ 32)
    (hRounds : i + rounds = n)
    (hFuel : rounds ≤ fuel) :
    ReturnsIff (RoundsInRange I x body rounds i w) .failFast
      (rangeLoop I body { array := x, index := n } fuel
        { array := x, index := i }) w
      (fun vs _ => vs.length = rounds) := by
  induction rounds generalizing i w τ fuel with
  | zero =>
      have hEnd : i = n := by omega
      rw [hEnd, rangeLoop_done]
      unfold RoundsInRange
      apply Returns.iff_true
      rw [returns_pure]
      rfl
  | succ rounds ih =>
      obtain ⟨fuel, rfl⟩ : ∃ k, fuel = k + 1 :=
        ⟨fuel - 1, by omega⟩
      rw [rangeLoop_round (by omega) hSmall]
      unfold RoundsInRange
      apply (returnsIff_elementAt hRep hAlive).bind
      rintro v w₁ rfl
      apply (returnsIff_run hRep hAlive (hBody i v)).bind
      rintro rs w₂ ⟨⟨τ', hRep'⟩, hOnly⟩
      apply (ih hRep' hOnly.alive
        (fun i v op hMem => (hBody i v op hMem).still hOnly)
        (by omega) (by omega)).then_returns
      intro vs w₃ hLength
      rw [returns_pure, List.length_cons, hLength]

theorem exec_rangeFor
    {a : KArray}
    (hAlive : w.arrays x = .alive a) :
    exec (rangeFor I x body) w =
      exec
        (rangeLoop I body
          { array := x, index := a.numElements }
          I.sizeT.modulus { array := x, index := 0 }) w := by
  unfold rangeFor beginOf endOf
  simp only [exec_bind, exec_find hAlive, exec_pure]

/-
  Whatever member functions of the array the body calls, the
  loop makes as many rounds as there were elements, unless a
  round finds the array too short or a call of the body names
  an element that is not there: then the program is stopped.
  It never reads an element that is not there, in this buffer
  or an old one.
-/
theorem rangeFor_safe
    (I : Instantiation T)
    (oracle : Nat → Bool)
    (ops : List (Op T))
    (body : Nat → T → List (Op T))
    {rs : List (Option Bool)}
    {w : World T}
    {x : Nat}
    {a : KArray}
    (hAllowed : AllowedRun I (World.start oracle) ops)
    (hRun :
      exec (run I ops) (World.start oracle) = .ok (rs, w))
    (hAlive : w.arrays x = .alive a)
    (hBody : ∀ i v, ∀ op ∈ body i v, OnArray w x op) :
    ReturnsIff (RoundsInRange I x body a.numElements 0 w)
      .failFast (rangeFor I x body) w
      (fun vs _ => vs.length = a.numElements) := by
  have hRep :=
    ((returns_run (Represents.start I oracle)
      hAllowed).post hRun).2
  rcases hRep.holds hAlive with ⟨xs, _, hHolds⟩
  have hRoom := hHolds.room
  have hSmall := hHolds.small
  unfold ulongMax at hSmall
  have hModulus := I.sizeT.ulong_le_modulus
  have hLoop :=
    returnsIff_rangeLoop (n := a.numElements) hRep
      ⟨a, hAlive⟩ hBody (by omega) (Nat.zero_add _)
      (show a.numElements ≤ I.sizeT.modulus by omega)
  exact hLoop.of_exec_eq (exec_rangeFor hAlive)

/- A call that only adds elements is allowed. -/
theorem Extends.allowed
    {op : Op T}
    (hExtends : Extends w x op)
    (hAlive : w.Alive x) :
    Allowed w op := by
  unfold Extends at hExtends
  split at hExtends
  case h_1 =>
    subst hExtends
    exact hAlive
  case h_2 | h_3 =>
    rcases hExtends with ⟨rfl, hOutside⟩
    exact ⟨hAlive, hOutside⟩
  case h_4 => cases hExtends

theorem insertion_append
    {xs : List T}
    {t : Arg T}
    (pass : Pass)
    (hOutside : t.Outside w x)
    (hRep : Represents I w τ)
    (hHas : τ x = .alive xs) :
    ∃ v, insertion I τ x pass t (fun xs v => xs ++ [v]) x =
      .alive (xs ++ [v]) := by
  rcases hOutside.value hRep with ⟨v, hValue⟩
  refine ⟨v, ?_⟩
  rw [insertion_of_alive pass _ hHas hValue hOutside.ne]
  exact Function.update_self ..

/- Such a call leaves the elements that were there. -/
theorem Extends.step
    {xs : List T}
    {op : Op T}
    (hExtends : Extends w x op)
    (hRep : Represents I w τ)
    (hHas : τ x = .alive xs) :
    Returns (step I op) w (fun r w' =>
      World.OnlyAt x w w' ∧
        Represents I w' (specStep I τ op r) ∧
          ∃ ys, specStep I τ op r x = .alive (xs ++ ys)) := by
  have hAlive := hRep.alive hHas
  rcases returns_step op hRep (hExtends.allowed hAlive) with
    ⟨r, w', hExec, hRefines⟩
  refine ⟨r, w', hExec,
    hExtends.onArray.onlyAt hAlive hExec,
    hRefines.represents, ?_⟩
  by_cases hFalse : r = some false
  · subst hFalse
    exact ⟨[], by rw [specStep_false, hHas, List.append_nil]⟩
  · rw [specStep, if_neg hFalse]
    unfold Extends at hExtends
    split at hExtends
    case h_1 =>
      exact ⟨[], by rw [specOp, hHas, List.append_nil]⟩
    case h_2 | h_3 =>
      rcases hExtends with ⟨rfl, hOutside⟩
      rcases insertion_append _ hOutside hRep hHas with
        ⟨v, hAdded⟩
      exact ⟨[v], hAdded⟩
    case h_4 => cases hExtends

theorem returns_extendingRun
    {xs : List T}
    {ops : List (Op T)}
    (hOps : ∀ op ∈ ops, Extends w x op)
    (hRep : Represents I w τ)
    (hHas : τ x = .alive xs) :
    Returns (run I ops) w (fun _ w' =>
      World.OnlyAt x w w' ∧
        ∃ τ' ys, Represents I w' τ' ∧
          τ' x = .alive (xs ++ ys)) := by
  induction ops generalizing w τ xs with
  | nil =>
      unfold run
      rw [returns_pure]
      exact ⟨.refl (hRep.alive hHas), τ, [], hRep,
        by rw [hHas, List.append_nil]⟩
  | cons op ops ih =>
      unfold run
      apply ((hOps op List.mem_cons_self).step hRep
        hHas).bind
      rintro r w₁ ⟨hOnly₁, hRep₁, ys, hHas₁⟩
      apply (ih
        (fun op' hMem =>
          (hOps op' (List.mem_cons_of_mem op hMem)).still
            hOnly₁)
        hRep₁ hHas₁).bind
      rintro rs w₂ ⟨hOnly₂, τ', zs, hRep₂, hHas₂⟩
      rw [returns_pure]
      exact ⟨hOnly₁.trans hOnly₂, τ', ys ++ zs, hRep₂,
        by rw [hHas₂, List.append_assoc]⟩

theorem returns_rangeLoop_done
    {xs ys : List T}
    (hRep : Represents I w τ)
    (hHas : τ x = .alive (xs ++ ys))
    (fuel : Nat) :
    Returns
      (rangeLoop I body { array := x, index := xs.length }
        fuel { array := x, index := xs.length }) w
      (fun vs w' => vs = xs.drop xs.length ∧
        ∃ τ' zs, Represents I w' τ' ∧
          τ' x = .alive (xs ++ zs)) := by
  rw [rangeLoop_done, returns_pure, List.drop_length]
  exact ⟨rfl, τ, ys, hRep, hHas⟩

theorem returns_rangeLoop
    {xs ys : List T}
    {i fuel : Nat}
    (hRep : Represents I w τ)
    (hHas : τ x = .alive (xs ++ ys))
    (hBody : ∀ i v, ∀ op ∈ body i v, Extends w x op)
    (hSmall : xs.length < 2 ^ 32)
    (hLe : i ≤ xs.length)
    (hFuel : xs.length - i ≤ fuel) :
    Returns
      (rangeLoop I body { array := x, index := xs.length }
        fuel { array := x, index := i }) w
      (fun vs w' => vs = xs.drop i ∧
        ∃ τ' zs, Represents I w' τ' ∧
          τ' x = .alive (xs ++ zs)) := by
  induction fuel generalizing i w τ ys with
  | zero =>
      have hEnd : i = xs.length := by omega
      subst hEnd
      exact returns_rangeLoop_done hRep hHas 0
  | succ fuel ih =>
      by_cases hEnd : i = xs.length
      · subst hEnd
        exact returns_rangeLoop_done hRep hHas (fuel + 1)
      · have hLess : i < xs.length := by omega
        have hThere : i < (xs ++ ys).length := by
          rw [List.length_append]
          omega
        rw [rangeLoop_round hLess hSmall,
          returns_bind_of_exec
            (exec_elementAt hRep hHas hThere)]
        apply (returns_extendingRun
          (hBody i _) hRep hHas).bind
        rintro rs w₁ ⟨hOnly, τ', zs, hRep', hHas'⟩
        rw [List.append_assoc] at hHas'
        apply (ih hRep' hHas'
          (fun i v op hMem =>
            (hBody i v op hMem).still hOnly)
          hLess (by omega)).bind
        rintro vs w₂ ⟨hRest, hLast⟩
        rw [returns_pure, hRest,
          List.getElem_append_left hLess,
          List.drop_eq_getElem_cons hLess]
        exact ⟨rfl, hLast⟩

/-
  A loop whose body only appends and reserves reads the
  elements that were there at the start, in order, although
  they may be moved to other buffers on the way.
-/
theorem rangeFor_visits
    (I : Instantiation T)
    (oracle : Nat → Bool)
    (ops : List (Op T))
    (body : Nat → T → List (Op T))
    {rs : List (Option Bool)}
    {w : World T}
    {x : Nat}
    {xs : List T}
    (hAllowed : AllowedRun I (World.start oracle) ops)
    (hRun :
      exec (run I ops) (World.start oracle) = .ok (rs, w))
    (hContents : w.contents x = .alive (xs.map some))
    (hBody : ∀ i v, ∀ op ∈ body i v, Extends w x op) :
    Returns (rangeFor I x body) w
      (fun vs w' => vs = xs ∧
        ∃ ys, w'.contents x =
          .alive ((xs ++ ys).map some)) := by
  have hRep :=
    ((returns_run (Represents.start I oracle)
      hAllowed).post hRun).2
  have hHas := hRep.list_of_contents hContents
  rcases hRep.alive hHas with ⟨a, hAlive⟩
  rcases hRep.holds hAlive with ⟨ys, hSame, hHolds⟩
  rw [hHas] at hSame
  cases hSame
  have hCount := hHolds.count
  have hFits := hHolds.fits
  have hSmall := hHolds.small
  unfold ulongMax at hSmall
  have hModulus := I.sizeT.ulong_le_modulus
  rw [← List.append_nil xs] at hHas
  have hLoop :=
    returns_rangeLoop hRep hHas hBody
      (by omega) (Nat.zero_le xs.length)
      (show xs.length - 0 ≤ I.sizeT.modulus by omega)
  have hFor :
      Returns (rangeFor I x body) w
        (fun vs w' => vs = xs.drop 0 ∧
          ∃ τ' zs, Represents I w' τ' ∧
            τ' x = .alive (xs ++ zs)) := by
    unfold Returns at hLoop ⊢
    rw [exec_rangeFor hAlive, hCount]
    exact hLoop
  apply hFor.mono
  rintro vs w' ⟨hVisited, τ', zs, hRep', hHas'⟩
  refine ⟨hVisited, zs, ?_⟩
  rw [hRep'.contents x, hHas']
  rfl

/- Two elements in array 0, and one in array 1. -/
def twoArraysProgram : List (Op Nat) :=
  [.construct 0, .append 0 .copy (.value 1),
    .append 0 .copy (.value 2), .construct 1,
    .append 1 .copy (.value 7)]

def twoArrays : World Nat :=
  afterRun handleType twoArraysProgram
    (World.start (fun _ => true))

/-
  A body that removes elements is stopped in the second
  round, where one that inserts an element of the other array
  at the front goes through both.
-/
theorem rangeFor_safe_twoRounds :
    exec (rangeFor handleType 0 (fun _ _ => [.popBack 0]))
        twoArrays = .error .failFast ∧
      Returns
        (rangeFor handleType 0
          (fun _ _ => [.insertAt 0 0 .copy (.element 1 0)]))
        twoArrays (fun vs _ => vs.length = 2) :=
  ⟨(rangeFor_safe
      (a := { p := some 0, numElements := 2, bufferSize := 4 })
      handleType (fun _ => true) twoArraysProgram
      (fun _ _ => [.popBack 0]) (by decide) rfl rfl
      (by simp [OnArray])).fails (by decide +kernel),
    (rangeFor_safe
      (a := { p := some 0, numElements := 2, bufferSize := 4 })
      handleType (fun _ => true) twoArraysProgram
      (fun _ _ => [.insertAt 0 0 .copy (.element 1 0)])
      (by decide) rfl rfl
      (by
        intro i v op hMem
        rw [List.mem_singleton.mp hMem]
        exact ⟨rfl, by decide, _, rfl⟩)).returns
      (by decide +kernel)⟩

/-
  The body appends what it reads and an element of the other
  array, and the elements are moved to a larger buffer.
-/
theorem rangeFor_visits_doubled :
    Returns
      (rangeFor handleType 0
        (fun _ v =>
          [.append 0 .copy (.value v),
            .pushBack 0 (.element 1 0)]))
      twoArrays
      (fun vs w' => vs = [1, 2] ∧
        ∃ ys, w'.contents 0 =
          .alive (([1, 2] ++ ys).map some)) :=
  rangeFor_visits handleType (fun _ => true) twoArraysProgram
    (fun _ v =>
      [.append 0 .copy (.value v),
        .pushBack 0 (.element 1 0)])
    (by decide) rfl rfl
    (by
      intro i v op hMem
      rcases List.mem_pair.mp hMem with rfl | rfl
      · exact ⟨rfl, trivial⟩
      · exact ⟨rfl, by decide, _, rfl, by decide⟩)

end KArray

end CxPlat
