import CxPlat.KArray.World

/-
  Every program over arrays refines the program over lists.

  `Represents I w σ` relates a world to the lists its arrays
  hold: each array holds its list, no buffer is shared, and
  every allocated buffer belongs to an array.  While a call
  on `x` is under way only `Besides` is kept, the part of the
  relation that does not speak of the contents of `x`.

  Key definitions include:
    * `Represents`
    * `Besides`

  Key theorems include:
    * `Besides.confined`, `Besides.spent`
    * `returns_step`
    * `returns_run`
-/

------------------------------------------------------------
-- Representation
------------------------------------------------------------

namespace CxPlat

namespace KArray

open Comp

variable {T : Type}

/- The arrays of `w` hold the lists `σ`. -/
structure Represents
    (I : Instantiation T)
    (w : World T)
    (σ : Lists T) : Prop where
  fresh : w.heap.Fresh
  state :
    ∀ x, Life.Rel (Holds I w.heap) (w.arrays x) (σ x)
  apart :
    ∀ x y a b c,
      w.arrays x = .alive a → w.arrays y = .alive b →
        a.p = some c → b.p = some c → x = y
  owned :
    ∀ c, w.heap.capacity c ≠ 0 →
      ∃ x a, w.arrays x = .alive a ∧ a.p = some c

/-
  Array `x` has the fields `a`; all other arrays hold their
  lists, in buffers of their own.
-/
structure Besides
    (I : Instantiation T)
    (arrays : Nat → Life KArray)
    (σ : Lists T)
    (x : Nat)
    (h : Heap T)
    (a : KArray) : Prop where
  fresh : h.Fresh
  state :
    ∀ y, y ≠ x → Life.Rel (Holds I h) (arrays y) (σ y)
  apart :
    ∀ y z b b' c, y ≠ x → z ≠ x →
      arrays y = .alive b → arrays z = .alive b' →
        b.p = some c → b'.p = some c → y = z
  apartOwn :
    ∀ y b c, y ≠ x → arrays y = .alive b →
      b.p = some c → a.p ≠ some c
  owned :
    ∀ c, h.capacity c ≠ 0 →
      a.p = some c ∨
        ∃ y b, y ≠ x ∧ arrays y = .alive b ∧ b.p = some c

/- An array that is alive holds a list. -/
theorem Life.Rel.alive
    {R : KArray → List T → Prop}
    {l : Life (List T)}
    {a : KArray}
    (hRel : Life.Rel R (.alive a) l) :
    ∃ xs, l = .alive xs ∧ R a xs := by
  cases l with
  | unborn => exact hRel.elim
  | alive xs => exact ⟨xs, rfl, hRel⟩
  | gone => exact hRel.elim

/- The relation only depends on the arrays that are alive. -/
theorem Life.Rel.imp
    {R R' : KArray → List T → Prop}
    {s : Life KArray}
    {l : Life (List T)}
    (hRel : Life.Rel R s l)
    (hImp : ∀ a xs, s = .alive a → R a xs → R' a xs) :
    Life.Rel R' s l := by
  cases s with
  | unborn =>
      cases l <;> exact hRel
  | alive a =>
      cases l with
      | unborn => exact hRel
      | alive xs => exact hImp a xs rfl hRel
      | gone => exact hRel
  | gone =>
      cases l <;> exact hRel

namespace Represents

variable {I : Instantiation T}
variable {w : World T} {σ : Lists T}

theorem start
    (I : Instantiation T)
    (oracle : Nat → Bool) :
    Represents I (World.start oracle)
      (fun _ => .unborn) where
  fresh := fun _ _ => rfl
  state := fun _ => trivial
  apart := by
    intro x y a b c hAlive
    cases hAlive
  owned := by
    intro c hAllocated
    exact absurd rfl hAllocated

theorem holds
    {x : Nat}
    {a : KArray}
    (hRep : Represents I w σ)
    (hAlive : w.arrays x = .alive a) :
    ∃ xs, σ x = .alive xs ∧ Holds I w.heap a xs := by
  have hState := hRep.state x
  rw [hAlive] at hState
  exact hState.alive

theorem alive
    {x : Nat}
    {xs : List T}
    (hRep : Represents I w σ)
    (hHas : σ x = .alive xs) :
    w.Alive x := by
  have hState := hRep.state x
  rw [hHas] at hState
  cases hIs : w.arrays x with
  | unborn => rw [hIs] at hState; exact hState.elim
  | alive a => exact ⟨a, hIs⟩
  | gone => rw [hIs] at hState; exact hState.elim

/- Set one array apart from the others. -/
theorem besides
    {x : Nat}
    {a : KArray}
    (hRep : Represents I w σ)
    (hAlive : w.arrays x = .alive a) :
    Besides I w.arrays σ x w.heap a where
  fresh := hRep.fresh
  state := fun y _ => hRep.state y
  apart := fun y z b b' c _ _ => hRep.apart y z b b' c
  apartOwn := by
    intro y b c hNe hOther hPointer hOwn
    exact hNe (hRep.apart y x b a c hOther hAlive
      hPointer hOwn)
  owned := by
    intro c hAllocated
    rcases hRep.owned c hAllocated with
      ⟨y, b, hOther, hPointer⟩
    by_cases hEq : y = x
    · subst hEq
      rw [hAlive] at hOther
      cases hOther
      exact Or.inl hPointer
    · exact Or.inr ⟨y, b, hEq, hOther, hPointer⟩

/- An object that is not alive owns nothing. -/
theorem besides_unborn
    {x : Nat}
    (hRep : Represents I w σ)
    (hUnborn : w.arrays x = .unborn) :
    Besides I w.arrays σ x w.heap {} where
  fresh := hRep.fresh
  state := fun y _ => hRep.state y
  apart := fun y z b b' c _ _ => hRep.apart y z b b' c
  apartOwn := by
    intro y b c _ _ _ hOwn
    cases hOwn
  owned := by
    intro c hAllocated
    rcases hRep.owned c hAllocated with
      ⟨y, b, hOther, hPointer⟩
    refine Or.inr ⟨y, b, ?_, hOther, hPointer⟩
    intro hEq
    subst hEq
    rw [hUnborn] at hOther
    cases hOther

end Represents

namespace Besides

variable {I : Instantiation T}
variable {arrays : Nat → Life KArray} {σ : Lists T}
variable {x : Nat} {h t : Heap T} {a a' : KArray}

/- What the array does to its own buffer is not seen. -/
theorem confined
    (hBesides : Besides I arrays σ x h a)
    (hConfined : Confined h t a a') :
    Besides I arrays σ x t a' := by
  -- The buffers of the other arrays stay as they are.
  have hKept :
      ∀ y b c, y ≠ x → arrays y = .alive b →
        b.p = some c → h.capacity c ≠ 0 →
        t.capacity c = h.capacity c ∧ t.val c = h.val c := by
    intro y b c hNe hAlive hPointer hAllocated
    exact hConfined.others c hAllocated
      (hBesides.apartOwn y b c hNe hAlive hPointer)
  have hAllocated :
      ∀ y b c, y ≠ x → arrays y = .alive b →
        b.p = some c → h.capacity c ≠ 0 := by
    intro y b c hNe hAlive hPointer
    have hState := hBesides.state y hNe
    rw [hAlive] at hState
    rcases hState.alive with ⟨ys, _, hHolds⟩
    have hPos := hHolds.buffer_pos hPointer
    have hSize := hHolds.size c hPointer
    omega
  exact
    { fresh := hConfined.fresh
      state := by
        intro y hNe
        refine (hBesides.state y hNe).imp ?_
        intro b ys hAlive hHolds
        refine hHolds.transport ?_ ?_
        · intro c hPointer
          exact (hKept y b c hNe hAlive hPointer
            (hAllocated y b c hNe hAlive hPointer)).1
        · intro c hPointer
          exact (hKept y b c hNe hAlive hPointer
            (hAllocated y b c hNe hAlive hPointer)).2
      apart := hBesides.apart
      apartOwn := by
        intro y b c hNe hAlive hPointer hOwn
        rcases hConfined.gained c hOwn with hOld | hFree
        · exact hBesides.apartOwn y b c hNe hAlive
            hPointer hOld
        · exact hAllocated y b c hNe hAlive hPointer hFree
      owned := by
        intro c hStill
        rcases hConfined.owned c hStill with
          hOwn | ⟨hBefore, hNot⟩
        · exact Or.inl hOwn
        · rcases hBesides.owned c hBefore with hOwn | hOther
          · exact absurd hOwn hNot
          · exact Or.inr hOther }

/- Put the array back among the others. -/
theorem represents
    {xs : List T}
    (hBesides : Besides I arrays σ x h a)
    (hHolds : Holds I h a xs) :
    Represents I
      { heap := h
        arrays := Function.update arrays x (.alive a) }
      (Function.update σ x (.alive xs)) where
  fresh := hBesides.fresh
  state := by
    intro y
    by_cases hEq : y = x
    · subst hEq
      simp only [Function.update_self]
      exact hHolds
    · simp only [Function.update_of_ne hEq]
      exact hBesides.state y hEq
  apart := by
    intro y z b b' c hY hZ hPointer hPointer'
    simp only [Function.update_apply] at hY hZ
    split at hY <;> split at hZ
    next hEq hEq' => exact hEq.trans hEq'.symm
    next hEq hNe =>
      cases hY
      exact absurd hPointer
        (hBesides.apartOwn z b' c hNe hZ hPointer')
    next hNe hEq =>
      cases hZ
      exact absurd hPointer'
        (hBesides.apartOwn y b c hNe hY hPointer)
    next hNe hNe' =>
      exact hBesides.apart y z b b' c hNe hNe' hY hZ
        hPointer hPointer'
  owned := by
    intro c hAllocated
    rcases hBesides.owned c hAllocated with
      hOwn | ⟨y, b, hNe, hAlive, hPointer⟩
    · exact ⟨x, a, Function.update_self .., hOwn⟩
    · refine ⟨y, b, ?_, hPointer⟩
      simp only [Function.update_of_ne hNe]
      exact hAlive

/- An array without a buffer can go. -/
theorem vanish
    (hBesides : Besides I arrays σ x h a)
    (hNone : a.p = none) :
    Represents I
      { heap := h
        arrays := Function.update arrays x .gone }
      (Function.update σ x .gone) where
  fresh := hBesides.fresh
  state := by
    intro y
    by_cases hEq : y = x
    · subst hEq
      simp only [Function.update_self]
      trivial
    · simp only [Function.update_of_ne hEq]
      exact hBesides.state y hEq
  apart := by
    intro y z b b' c hY hZ hPointer hPointer'
    simp only [Function.update_apply] at hY hZ
    split at hY
    next => cases hY
    next hNe =>
      split at hZ
      next => cases hZ
      next hNe' =>
        exact hBesides.apart y z b b' c hNe hNe' hY hZ
          hPointer hPointer'
  owned := by
    intro c hAllocated
    rcases hBesides.owned c hAllocated with
      hOwn | ⟨y, b, hNe, hAlive, hPointer⟩
    · rw [hNone] at hOwn
      cases hOwn
    · refine ⟨y, b, ?_, hPointer⟩
      simp only [Function.update_of_ne hNe]
      exact hAlive

end Besides

end KArray

end CxPlat

------------------------------------------------------------
-- Arguments And Moves
------------------------------------------------------------

namespace CxPlat

namespace KArray

open Comp

variable {T : Type}

theorem change_of_alive
    {σ : Lists T}
    {x : Nat}
    {xs : List T}
    (hHas : σ x = .alive xs)
    (f : List T → List T) :
    change σ x f =
      Function.update σ x (.alive (f xs)) := by
  unfold change
  rw [hHas]

/- Other objects are not changed. -/
theorem change_of_ne
    (σ : Lists T)
    {x y : Nat}
    (hNe : x ≠ y)
    (f : List T → List T) :
    change σ y f x = σ x := by
  cases hHas : σ y with
  | unborn => simp only [change, hHas]
  | gone => simp only [change, hHas]
  | alive ys =>
      rw [change_of_alive hHas, Function.update_of_ne hNe]

/- The reference that an argument resolves to. -/
def Arg.ref
    (arrays : Nat → Life KArray) : Arg T → Ref T
  | .value v => .value v
  | .element y i =>
      match arrays y with
      | .alive b => .element b.p i
      | _ => .element none i

theorem Arg.value?_element
    {σ : Lists T}
    {y : Nat}
    {ys : List T}
    (hHas : σ y = .alive ys)
    (i : Nat) :
    (Arg.element y i).value? σ = ys[i]? := by
  simp only [Arg.value?, hHas]

theorem Arg.ref_element
    {arrays : Nat → Life KArray}
    {y : Nat}
    {b : KArray}
    (hAlive : arrays y = .alive b)
    (i : Nat) :
    (Arg.element y i : Arg T).ref arrays =
      .element b.p i := by
  simp only [Arg.ref, hAlive]

/- An element passed as `T &&` is in another array. -/
theorem Arg.taken_of_ne
    {σ : Lists T}
    {x : Nat}
    {t : Arg T}
    (I : Instantiation T)
    (pass : Pass)
    (hOther : ∀ y i, t = .element y i → y ≠ x) :
    t.taken I σ pass x = σ x := by
  cases pass with
  | copy => cases t <;> rfl
  | move =>
      cases t with
      | value v => rfl
      | element y i =>
          exact change_of_ne σ (Ne.symm (hOther y i rfl)) _

theorem insertion_of_alive
    {I : Instantiation T}
    {σ : Lists T}
    {x : Nat}
    {xs : List T}
    {t : Arg T}
    {v : T}
    (pass : Pass)
    (f : List T → T → List T)
    (hHas : σ x = .alive xs)
    (hValue : t.value? σ = some v)
    (hOther : ∀ y i, t = .element y i → y ≠ x) :
    insertion I σ x pass t f =
      Function.update (t.taken I σ pass) x
        (.alive (f xs v)) := by
  have hStill := Arg.taken_of_ne (σ := σ) I pass hOther
  rw [hHas] at hStill
  unfold insertion
  rw [hValue]
  exact change_of_alive hStill _

theorem Arg.Outside.ne
    {w : World T}
    {x : Nat}
    {t : Arg T}
    (hOutside : t.Outside w x)
    (y i : Nat)
    (hArg : t = .element y i) :
    y ≠ x := by
  subst hArg
  exact hOutside.1

/- An argument outside the array has a value. -/
theorem Arg.Outside.value
    {I : Instantiation T}
    {w : World T}
    {σ : Lists T}
    {x : Nat}
    {t : Arg T}
    (hOutside : t.Outside w x)
    (hRep : Represents I w σ) :
    ∃ v, t.value? σ = some v := by
  cases t with
  | value v => exact ⟨v, rfl⟩
  | element y i =>
      rcases hOutside with ⟨_, b, hAlive, hLt⟩
      rcases hRep.holds hAlive with ⟨ys, hHas, hHolds⟩
      have hCount := hHolds.count
      refine ⟨ys[i], ?_⟩
      rw [Arg.value?_element hHas]
      exact List.getElem?_eq_getElem (by omega)

/- An argument that is there, in any array. -/
def Arg.Found
    (w : World T) : Arg T → Prop
  | .value _ => True
  | .element y i => w.HasElement y i

theorem Arg.Outside.found
    {w : World T}
    {x : Nat}
    {t : Arg T}
    (hOutside : t.Outside w x) :
    t.Found w := by
  cases t with
  | value v => trivial
  | element y i => exact hOutside.2

theorem Arg.Found.resolve
    {w : World T}
    {t : Arg T}
    (hFound : t.Found w)
    {Q : Ref T → World T → Prop} :
    Returns t.resolve w Q ↔ Q (t.ref w.arrays) w := by
  cases t with
  | value v =>
      unfold Arg.resolve
      rw [returns_pure]
      rfl
  | element y i =>
      rcases hFound with ⟨b, hAlive, hLt⟩
      unfold Arg.resolve find
      rw [returns_bind, returns_bind, returns_get, hAlive,
        Arg.ref_element hAlive]
      simp only [returns_pure]
      rw [if_neg (by omega), returns_pure]

/- The reference denotes the value. -/
theorem Arg.Outside.denotes
    {I : Instantiation T}
    {w : World T}
    {σ : Lists T}
    {x : Nat}
    {a : KArray}
    {t : Arg T}
    {v : T}
    (hOutside : t.Outside w x)
    (hRep : Represents I w σ)
    (hAlive : w.arrays x = .alive a)
    (hValue : t.value? σ = some v) :
    (t.ref w.arrays).Denotes w.heap a v := by
  cases t with
  | value u => exact Option.some.inj hValue
  | element y i =>
      rcases hOutside with ⟨hNe, b, hOther, hLt⟩
      rcases hRep.holds hOther with ⟨ys, hHas, hHolds⟩
      have hCount := hHolds.count
      have hFits := hHolds.fits
      rcases hHolds.pointer_of_pos (by omega) with
        ⟨c, hPointer⟩
      have hSize := hHolds.size c hPointer
      rw [Arg.value?_element hHas] at hValue
      rw [Arg.ref_element hOther]
      refine ⟨c, hPointer, ?_, by omega, ?_⟩
      · intro hOwn
        exact hNe (hRep.apart y x b a c hOther hAlive
          hPointer hOwn)
      · rw [hHolds.elements c hPointer i (by omega)]
        exact hValue

/- An array after one of its elements was moved from. -/
theorem Holds.movedFrom
    {I : Instantiation T}
    {h u : Heap T}
    {b : KArray}
    {ys : List T}
    {c i : Nat}
    {v : T}
    (hHolds : Holds I h b ys)
    (hPointer : b.p = some c)
    (hValue : ys[i]? = some v)
    (hMoved :
      Rewrites c
        (Function.update (h.val c) i (some (I.moved v)))
        h u) :
    Holds I u b (ys.modify i I.moved) := by
  have hLt : i < ys.length :=
    (List.getElem?_eq_some_iff.mp hValue).1
  apply hHolds.rewrite (n := b.numElements) hPointer hMoved
  · rw [List.length_modify]
    exact hHolds.count
  · rw [List.length_modify]
    exact hHolds.fits
  · intro j hJ
    rw [List.length_modify] at hJ
    rw [List.getElem?_modify]
    by_cases hEq : i = j
    · subst hEq
      rw [Function.update_self, hValue]
      simp
    · rw [Function.update_of_ne (Ne.symm hEq),
        hHolds.elements c hPointer j hJ]
      simp [hEq]
  · intro hTrivial j hLo hHi
    rw [List.length_modify] at hLo
    rw [Function.update_of_ne (by omega)]
    exact hHolds.spare hTrivial c hPointer j hLo hHi

/- Moving from an element changes only the list it is in. -/
theorem Besides.spent_element
    {I : Instantiation T}
    {arrays : Nat → Life KArray}
    {σ : Lists T}
    {x y i : Nat}
    {h u : Heap T}
    {a : KArray}
    {ys : List T}
    {v : T}
    (hBesides : Besides I arrays σ x h a)
    (hNe : y ≠ x)
    (hHas : σ y = .alive ys)
    (hValue : ys[i]? = some v)
    (hSpent :
      ((Arg.element y i).ref arrays).Spent I v h u .move) :
    Besides I arrays
      ((Arg.element y i).taken I σ .move) x u a := by
  have hLt : i < ys.length :=
    (List.getElem?_eq_some_iff.mp hValue).1
  have hState := hBesides.state y hNe
  rw [hHas] at hState
  cases hAlive : arrays y with
  | unborn => rw [hAlive] at hState; exact hState.elim
  | gone => rw [hAlive] at hState; exact hState.elim
  | alive b =>
      rw [hAlive] at hState
      have hHolds : Holds I h b ys := hState
      have hFits := hHolds.fits
      rcases hHolds.pointer_of_pos (by omega) with
        ⟨c, hPointer⟩
      rw [Arg.ref_element hAlive, hPointer] at hSpent
      have hMoved : Rewrites c _ h u := hSpent
      -- The list of `y` in the new memory.
      have hOwn : Holds I u b (ys.modify i I.moved) :=
        hHolds.movedFrom hPointer hValue hMoved
      have hTaken :
          (Arg.element y i).taken I σ .move =
            Function.update σ y
              (.alive (ys.modify i I.moved)) :=
        change_of_alive hHas _
      rw [hTaken]
      exact
        { fresh := hMoved.fresh hBesides.fresh
          state := by
            intro z hZ
            by_cases hEq : z = y
            · subst hEq
              rw [Function.update_self, hAlive]
              exact hOwn
            · rw [Function.update_of_ne hEq]
              refine (hBesides.state z hZ).imp ?_
              intro b' zs hAlive' hHolds'
              refine hHolds'.transport ?_ ?_
              · intro d _
                rw [hMoved.capacity]
              · intro d hSome
                have hNot : d ≠ c := by
                  intro hSame
                  subst hSame
                  exact hEq (hBesides.apart z y b' b d hZ
                    hNe hAlive' hAlive hSome hPointer)
                exact hMoved.val_other hNot
          apart := hBesides.apart
          apartOwn := hBesides.apartOwn
          owned := by
            intro d hAllocated
            rw [hMoved.capacity] at hAllocated
            exact hBesides.owned d hAllocated }

/- Taking the argument changes only the list it is in. -/
theorem Besides.spent
    {I : Instantiation T}
    {arrays : Nat → Life KArray}
    {σ : Lists T}
    {x : Nat}
    {h u : Heap T}
    {a : KArray}
    {t : Arg T}
    {v : T}
    {pass : Pass}
    (hBesides : Besides I arrays σ x h a)
    (hOther : ∀ y i, t = .element y i → y ≠ x)
    (hValue : t.value? σ = some v)
    (hSpent : (t.ref arrays).Spent I v h u pass) :
    Besides I arrays (t.taken I σ pass) x u a := by
  cases pass with
  | copy =>
      have hSame : u = h := by
        cases hRef : t.ref arrays <;>
          rw [hRef] at hSpent <;> exact hSpent
      have hTaken : t.taken I σ .copy = σ := by
        cases t <;> rfl
      rw [hSame, hTaken]
      exact hBesides
  | move =>
      cases t with
      | value w =>
          have hSame : u = h := hSpent
          rw [hSame]
          exact hBesides
      | element y i =>
          have hNe := hOther y i rfl
          cases hHas : σ y with
          | unborn => simp [Arg.value?, hHas] at hValue
          | gone => simp [Arg.value?, hHas] at hValue
          | alive ys =>
              rw [Arg.value?_element hHas] at hValue
              exact hBesides.spent_element hNe hHas hValue
                hSpent

/- Where an array is found after `b` went from `y` to `x`. -/
theorem alive_transferred
    (arrays : Nat → Life KArray)
    {x y z : Nat}
    {b d : KArray}
    (hIs :
      Function.update
          (Function.update arrays x (.alive b))
          y (.alive {}) z = .alive d) :
    (z = y ∧ d = {}) ∨ (z = x ∧ d = b) ∨
      (z ≠ x ∧ z ≠ y ∧ arrays z = .alive d) := by
  by_cases hY : z = y
  · subst hY
    rw [Function.update_self] at hIs
    cases hIs
    exact Or.inl ⟨rfl, rfl⟩
  · rw [Function.update_of_ne hY] at hIs
    by_cases hZ : z = x
    · subst hZ
      rw [Function.update_self] at hIs
      cases hIs
      exact Or.inr (Or.inl ⟨rfl, rfl⟩)
    · rw [Function.update_of_ne hZ] at hIs
      exact Or.inr (Or.inr ⟨hZ, hY, hIs⟩)

/-
  Moving the buffer of `y` to an object that has none.
-/
theorem Represents.transfer
    {I : Instantiation T}
    {w : World T}
    {σ : Lists T}
    {x y : Nat}
    {b : KArray}
    (hRep : Represents I w σ)
    (hNe : x ≠ y)
    (hAlive : w.arrays y = .alive b)
    (hNone : ∀ a, w.arrays x = .alive a → a.p = none) :
    Represents I
      { heap := w.heap
        arrays :=
          Function.update
            (Function.update w.arrays x (.alive b))
            y (.alive {}) }
      (transfer σ x y) := by
  rcases hRep.holds hAlive with ⟨ys, hHas, hHolds⟩
  have hX :
      ∀ f : Nat → Life KArray,
        Function.update f y (.alive {}) x = f x :=
    fun f => Function.update_of_ne hNe _ f
  exact
    { fresh := hRep.fresh
      state := by
        intro z
        unfold KArray.transfer
        by_cases hY : z = y
        · subst hY
          simp only [Function.update_self]
          exact Holds.empty I w.heap
        · simp only [Function.update_of_ne hY]
          by_cases hZ : z = x
          · subst hZ
            simp only [Function.update_self, hHas]
            exact hHolds
          · simp only [Function.update_of_ne hZ]
            exact hRep.state z
      apart := by
        intro z z' d d' c hIs hIs' hPointer hPointer'
        rcases alive_transferred w.arrays hIs with
          ⟨_, hEmpty⟩ | ⟨hZ, hD⟩ | ⟨hZ, hY, hOld⟩
        · subst hEmpty
          cases hPointer
        · rcases alive_transferred w.arrays hIs' with
            ⟨_, hEmpty⟩ | ⟨hZ', _⟩ | ⟨_, hY', hOld'⟩
          · subst hEmpty
            cases hPointer'
          · exact hZ.trans hZ'.symm
          · subst hD
            exact absurd (hRep.apart z' y d' d c hOld'
              hAlive hPointer' hPointer) hY'
        · rcases alive_transferred w.arrays hIs' with
            ⟨_, hEmpty⟩ | ⟨_, hD'⟩ | ⟨_, _, hOld'⟩
          · subst hEmpty
            cases hPointer'
          · subst hD'
            exact absurd (hRep.apart z y d d' c hOld
              hAlive hPointer hPointer') hY
          · exact hRep.apart z z' d d' c hOld hOld'
              hPointer hPointer'
      owned := by
        intro c hAllocated
        rcases hRep.owned c hAllocated with
          ⟨z, d, hIs, hPointer⟩
        by_cases hY : z = y
        · subst hY
          rw [hAlive] at hIs
          cases hIs
          refine ⟨x, b, ?_, hPointer⟩
          simp only [hX, Function.update_self]
        · have hZ : z ≠ x := by
            intro hEq
            subst hEq
            rw [hNone d hIs] at hPointer
            cases hPointer
          refine ⟨z, d, ?_, hPointer⟩
          simp only [Function.update_of_ne hY,
            Function.update_of_ne hZ]
          exact hIs }

end KArray

end CxPlat

------------------------------------------------------------
-- Calls
------------------------------------------------------------

namespace CxPlat

namespace KArray

open Comp

variable {T : Type}

theorem exec_onHeap
    {β : Type}
    (c : Code T β)
    (w : World T) :
    exec (onHeap c) w =
      match exec c w.heap with
      | .ok (r, h) => .ok (r, { w with heap := h })
      | .error e => .error e := rfl

theorem returns_onHeap
    {β : Type}
    {c : Code T β}
    {w : World T}
    {Q : β → World T → Prop} :
    Returns (onHeap c) w Q ↔
      Returns c w.heap
        (fun r h => Q r { w with heap := h }) := by
  unfold Returns
  rw [exec_onHeap]
  cases exec c w.heap with
  | error e => simp
  | ok res =>
      constructor
      · rintro ⟨r, w', hEq, hPost⟩
        cases hEq
        exact ⟨res.1, res.2, rfl, hPost⟩
      · rintro ⟨r, h, hEq, hPost⟩
        cases hEq
        exact ⟨r, { w with heap := h }, rfl, hPost⟩

@[simp] theorem returns_store
    (x : Nat)
    (s : Life KArray)
    (w : World T)
    (Q : Unit → World T → Prop) :
    Returns (store x s) w Q ↔
      Q () { w with
        arrays := Function.update w.arrays x s } := by
  unfold store
  rw [returns_modify]

theorem returns_find
    {x : Nat}
    {a : KArray}
    {w : World T}
    {Q : KArray → World T → Prop}
    (hAlive : w.arrays x = .alive a) :
    Returns (find x) w Q ↔ Q a w := by
  unfold find
  rw [returns_bind, returns_get, hAlive]
  simp

/-
  What every call keeps: the lists are those of the program
  over lists, and a call that returns false leaves all arrays
  and their memory alone.
-/
structure Refines
    (I : Instantiation T)
    (w : World T)
    (σ : Lists T)
    (op : Op T)
    (r : Option Bool)
    (w' : World T) : Prop where
  represents : Represents I w' (specStep I σ op r)
  unchanged :
    r = some false →
      w'.arrays = w.arrays ∧ SameMemory w.heap w'.heap

/- A world with the same memory holds the same lists. -/
theorem Represents.sameMemory
    {I : Instantiation T}
    {w : World T}
    {σ : Lists T}
    {t : Heap T}
    (hRep : Represents I w σ)
    (hSame : SameMemory w.heap t) :
    Represents I { w with heap := t } σ where
  fresh := by
    intro c hNext
    rw [hSame.capacity]
    exact hRep.fresh c (hSame.next ▸ hNext)
  state := by
    intro x
    refine (hRep.state x).imp ?_
    intro a xs _ hHolds
    refine hHolds.transport ?_ ?_
    · intro b _
      rw [hSame.capacity]
    · intro b _
      rw [hSame.val]
  apart := hRep.apart
  owned := by
    intro c hAllocated
    rw [hSame.capacity] at hAllocated
    exact hRep.owned c hAllocated

/- Calls that return a `bool`. -/
theorem returns_callBool
    {I : Instantiation T}
    {w : World T}
    {σ : Lists T}
    {op : Op T}
    {x : Nat}
    {a : KArray}
    {k : KArray → Code T (Bool × KArray)}
    (hRep : Represents I w σ)
    (hAlive : w.arrays x = .alive a)
    (hCall :
      Returns (k a) w.heap (fun r t =>
        (r.1 = true →
          Represents I
            { heap := t
              arrays :=
                Function.update w.arrays x (.alive r.2) }
            (specOp I σ op)) ∧
        (r.1 = false → r.2 = a ∧ SameMemory w.heap t))) :
    Returns (callBool x k) w (Refines I w σ op) := by
  unfold callBool
  rw [returns_bind, returns_find hAlive, returns_bind]
  refine returns_onHeap.mpr (hCall.mono ?_)
  rintro ⟨ok, a'⟩ t ⟨hTrue, hFalse⟩
  rw [returns_bind, returns_store, returns_pure]
  cases ok with
  | true =>
      exact
        { represents := by
            rw [specStep_true]
            exact hTrue rfl
          unchanged := by
            intro hEq
            cases hEq }
  | false =>
      rcases hFalse rfl with ⟨hFields, hSame⟩
      simp only at hFields
      have hArrays :
          Function.update w.arrays x (.alive a') =
            w.arrays := by
        rw [hFields, ← hAlive]
        exact Function.update_eq_self x w.arrays
      exact
        { represents := by
            simp only [hArrays, specStep_false]
            exact hRep.sameMemory hSame
          unchanged := fun _ => ⟨hArrays, hSame⟩ }

/- Calls that return nothing. -/
theorem returns_callVoid
    {I : Instantiation T}
    {w : World T}
    {σ : Lists T}
    {op : Op T}
    {x : Nat}
    {a : KArray}
    {ys : List T}
    {k : KArray → Code T KArray}
    (hRep : Represents I w σ)
    (hAlive : w.arrays x = .alive a)
    (hOp : specOp I σ op = Function.update σ x (.alive ys))
    (hCall :
      Returns (k a) w.heap (fun a' t =>
        Holds I t a' ys ∧ Confined w.heap t a a')) :
    Returns (callVoid x k) w (Refines I w σ op) := by
  unfold callVoid
  rw [returns_bind, returns_find hAlive, returns_bind]
  refine returns_onHeap.mpr (hCall.mono ?_)
  rintro a' t ⟨hHolds, hConfined⟩
  rw [returns_bind, returns_store, returns_pure]
  exact
    { represents := by
        rw [specStep_none, hOp]
        exact ((hRep.besides hAlive).confined
          hConfined).represents hHolds
      unchanged := by
        intro hEq
        cases hEq }

/- Calls with an outcome in the array's own buffer. -/
theorem returns_callOutcome
    {I : Instantiation T}
    {w : World T}
    {σ : Lists T}
    {op : Op T}
    {x : Nat}
    {a : KArray}
    {xs ys : List T}
    {k : KArray → Code T (Bool × KArray)}
    (hRep : Represents I w σ)
    (hAlive : w.arrays x = .alive a)
    (hOp : specOp I σ op = Function.update σ x (.alive ys))
    (hCall :
      Returns (k a) w.heap (fun r t =>
        Outcome I xs ys w.heap a r t)) :
    Returns (callBool x k) w (Refines I w σ op) := by
  refine returns_callBool hRep hAlive (hCall.mono ?_)
  rintro ⟨ok, a'⟩ t hOutcome
  refine ⟨?_, hOutcome.unchanged⟩
  intro hTrue
  have hEq : ok = true := hTrue
  subst hEq
  have hHolds : Holds I t a' ys := hOutcome.holds
  rw [hOp]
  exact ((hRep.besides hAlive).confined
    hOutcome.confined).represents hHolds

/- Calls that insert an argument. -/
theorem returns_callInserted
    {I : Instantiation T}
    {w : World T}
    {σ : Lists T}
    {op : Op T}
    {x : Nat}
    {a : KArray}
    {xs : List T}
    {t : Arg T}
    {v : T}
    {pass : Pass}
    {f : List T → T → List T}
    {k : KArray → Ref T → Code T (Bool × KArray)}
    (hRep : Represents I w σ)
    (hAlive : w.arrays x = .alive a)
    (hHas : σ x = .alive xs)
    (hOutside : t.Outside w x)
    (hValue : t.value? σ = some v)
    (hOp : specOp I σ op = insertion I σ x pass t f)
    (hCall :
      Returns (k a (t.ref w.arrays)) w.heap (fun r u =>
        Inserted I pass (t.ref w.arrays) v xs (f xs v)
          w.heap a r u)) :
    Returns
      (do
        let r ← t.resolve
        callBool x (fun a => k a r)) w
      (Refines I w σ op) := by
  rw [returns_bind, hOutside.found.resolve]
  refine returns_callBool hRep hAlive (hCall.mono ?_)
  rintro ⟨ok, a'⟩ u hInserted
  refine ⟨?_, hInserted.unchanged⟩
  intro hTrue
  have hEq : ok = true := hTrue
  subst hEq
  have hHolds : Holds I u a' (f xs v) := hInserted.holds
  rcases hInserted.spends rfl with
    ⟨m, u₁, u₂, hBefore, hSpent, hAfter⟩
  have hBesides :=
    (((hRep.besides hAlive).confined hBefore).spent
      hOutside.ne hValue hSpent).confined hAfter
  rw [hOp, insertion_of_alive pass f hHas hValue hOutside.ne]
  exact hBesides.represents hHolds

end KArray

end CxPlat

------------------------------------------------------------
-- Steps And Runs
------------------------------------------------------------

namespace CxPlat

namespace KArray

open Comp

variable {T : Type}

/- `reserve` changes no list. -/
theorem returns_step_reserve
    {I : Instantiation T}
    {w : World T}
    {σ : Lists T}
    {x : Nat}
    (count : Nat)
    (hRep : Represents I w σ)
    (hAllowed : w.Alive x) :
    Returns (step I (.reserve x count)) w
      (Refines I w σ (.reserve x count)) := by
  rcases hAllowed with ⟨a, hAlive⟩
  rcases hRep.holds hAlive with ⟨xs, hHas, hHolds⟩
  have hSame :
      specOp I σ (.reserve x count) =
        Function.update σ x (.alive xs) := by
    rw [← hHas]
    exact (Function.update_eq_self x σ).symm
  have hCall :
      Returns (reserve I a count) w.heap (fun r t =>
        Outcome I xs xs w.heap a r t) := by
    refine (returns_reserve I count hRep.fresh
      hHolds).mono ?_
    intro r t hReserved
    exact
      { holds := by
          rw [ite_self]
          exact hReserved.holds
        confined := hReserved.confined
        unchanged := hReserved.unchanged }
  exact returns_callOutcome
    (k := fun a => reserve I a count)
    hRep hAlive hSame hCall

/- The insertions, for an argument outside the array. -/
theorem returns_step_insertion
    {I : Instantiation T}
    {w : World T}
    {σ : Lists T}
    {op : Op T}
    {x : Nat}
    {t : Arg T}
    {pass : Pass}
    {f : List T → T → List T}
    {k : KArray → Ref T → Code T (Bool × KArray)}
    (hRep : Represents I w σ)
    (hAllowed : w.Alive x ∧ t.Outside w x)
    (hOp : specOp I σ op = insertion I σ x pass t f)
    (hSpec :
      ∀ a xs r v, Holds I w.heap a xs →
        r.Denotes w.heap a v →
        Returns (k a r) w.heap (fun res u =>
          Inserted I pass r v xs (f xs v)
            w.heap a res u)) :
    Returns
      (do
        let r ← t.resolve
        callBool x (fun a => k a r)) w
      (Refines I w σ op) := by
  rcases hAllowed with ⟨⟨a, hAlive⟩, hOutside⟩
  rcases hRep.holds hAlive with ⟨xs, hHas, hHolds⟩
  rcases hOutside.value hRep with ⟨v, hValue⟩
  exact returns_callInserted hRep hAlive hHas hOutside
    hValue hOp
    (hSpec a xs _ v hHolds
      (hOutside.denotes hRep hAlive hValue))

/- An index past the end is turned down and changes nothing. -/
theorem returns_step_insertAt
    {I : Instantiation T}
    {w : World T}
    {σ : Lists T}
    {x : Nat}
    {t : Arg T}
    (index : Nat)
    (pass : Pass)
    (hRep : Represents I w σ)
    (hAllowed : w.Alive x ∧ t.Outside w x) :
    Returns (step I (.insertAt x index pass t)) w
      (Refines I w σ (.insertAt x index pass t)) := by
  refine returns_step_insertion
    (k := fun a r => insertAt I pass a index r)
    hRep hAllowed rfl ?_
  intro a xs r v hHolds hDenotes
  by_cases hIndex : index ≤ xs.length
  · exact returns_insertAt I pass hRep.fresh hHolds hDenotes
      hIndex
  · refine (returns_insertAt_of_lt I pass r hHolds
      (by omega)).mono ?_
    rintro res u ⟨hRes, hSame⟩
    subst hRes
    subst hSame
    exact
      { holds := hHolds
        spends := by
          intro hTrue
          cases hTrue
        unchanged := fun _ =>
          ⟨rfl, rfl, rfl, rfl, rfl, rfl⟩ }

/- The stored element is kept when an equal one is found. -/
theorem returns_step_insertSortedUnique
    {I : Instantiation T}
    {w : World T}
    {σ : Lists T}
    {x : Nat}
    {t : Arg T}
    (lt : T → T → Bool)
    (pass : Pass)
    (hRep : Represents I w σ)
    (hAllowed : w.Alive x ∧ t.Outside w x) :
    Returns (step I (.insertSortedUnique x lt pass t)) w
      (Refines I w σ (.insertSortedUnique x lt pass t)) := by
  rcases hAllowed with ⟨⟨a, hAlive⟩, hOutside⟩
  rcases hRep.holds hAlive with ⟨xs, hHas, hHolds⟩
  rcases hOutside.value hRep with ⟨v, hValue⟩
  have hDenotes := hOutside.denotes hRep hAlive hValue
  have hCall := returns_insertSortedUnique I lt pass
    hRep.fresh hHolds hDenotes
  have hOp :
      specOp I σ (.insertSortedUnique x lt pass t) =
        if sortedAbsent lt xs v then
          insertion I σ x pass t (insertSortedList lt)
        else σ := by
    simp only [specOp, hHas, hValue]
  cases hAbsent : sortedAbsent lt xs v with
  | true =>
      simp only [hAbsent, if_true] at hCall hOp
      exact returns_callInserted
        (k := fun a r => insertSortedUnique I lt pass a r)
        hRep hAlive hHas hOutside hValue hOp hCall
  | false =>
      simp only [hAbsent, Bool.false_eq_true, if_false]
        at hCall hOp
      unfold step
      rw [returns_bind, hOutside.found.resolve]
      refine returns_callBool hRep hAlive (hCall.mono ?_)
      rintro res u ⟨hRes, hSame⟩
      subst hRes
      subst hSame
      refine ⟨?_, ?_⟩
      · intro _
        have hArrays :
            Function.update w.arrays x (.alive a) =
              w.arrays := by
          rw [← hAlive]
          exact Function.update_eq_self x w.arrays
        simp only [hArrays, hOp]
        exact hRep
      · intro hFalse
        cases hFalse

/- Move construction. -/
theorem returns_step_moveConstruct
    {I : Instantiation T}
    {w : World T}
    {σ : Lists T}
    {x y : Nat}
    (hRep : Represents I w σ)
    (hAllowed : w.arrays x = .unborn ∧ w.Alive y) :
    Returns (step I (.moveConstruct x y)) w
      (Refines I w σ (.moveConstruct x y)) := by
  rcases hAllowed with ⟨hUnborn, rhs, hAlive⟩
  have hNe : x ≠ y := by
    intro hEq
    subst hEq
    rw [hUnborn] at hAlive
    cases hAlive
  unfold step
  rw [returns_bind, returns_find hAlive, returns_bind,
    returns_store, returns_bind, returns_store,
    returns_pure]
  refine
    { represents := ?_
      unchanged := ?_ }
  · rw [specStep_none]
    refine hRep.transfer hNe hAlive ?_
    intro a hIs
    rw [hUnborn] at hIs
    cases hIs
  · intro hFalse
    cases hFalse

/- Move assignment: the old elements go first. -/
theorem returns_step_moveAssign
    {I : Instantiation T}
    {w : World T}
    {σ : Lists T}
    {x y : Nat}
    (hRep : Represents I w σ)
    (hAllowed : x ≠ y ∧ w.Alive x ∧ w.Alive y) :
    Returns (step I (.moveAssign x y)) w
      (Refines I w σ (.moveAssign x y)) := by
  rcases hAllowed with ⟨hNe, ⟨a, hAliveX⟩, ⟨rhs, hAliveY⟩⟩
  rcases hRep.holds hAliveX with ⟨xs, hHas, hHolds⟩
  unfold step
  rw [returns_bind, returns_find hAliveX, returns_bind,
    returns_find hAliveY, returns_bind]
  rw [returns_onHeap]
  unfold moveAssign
  refine (returns_reset I hRep.fresh hHolds).bind ?_
  rintro _ t ⟨_, hConfined⟩
  rw [returns_pure, returns_bind, returns_store,
    returns_bind, returns_store, returns_pure]
  refine
    { represents := ?_
      unchanged := ?_ }
  · rw [specStep_none]
    -- After `reset`, `x` is an empty array.
    have hReset :=
      ((hRep.besides hAliveX).confined hConfined).represents
        (Holds.empty I t)
    have hMoved := hReset.transfer (x := x) (y := y)
      (b := rhs) hNe
      (by
        simp only [Function.update_of_ne hNe.symm]
        exact hAliveY)
      (by
        intro a' hIs
        simp only [Function.update_self] at hIs
        cases hIs
        rfl)
    have hLists :
        transfer (Function.update σ x (.alive [])) x y =
          transfer σ x y := by
      unfold transfer
      rw [Function.update_of_ne hNe.symm,
        Function.update_idem]
    rw [hLists] at hMoved
    simp only [Function.update_idem] at hMoved
    exact hMoved
  · intro hFalse
    cases hFalse

theorem returns_step_destruct
    {I : Instantiation T}
    {w : World T}
    {σ : Lists T}
    {x : Nat}
    (hRep : Represents I w σ)
    (hAllowed : w.Alive x) :
    Returns (step I (.destruct x)) w
      (Refines I w σ (.destruct x)) := by
  rcases hAllowed with ⟨a, hAlive⟩
  rcases hRep.holds hAlive with ⟨xs, hHas, hHolds⟩
  unfold step
  rw [returns_bind, returns_find hAlive, returns_bind]
  rw [returns_onHeap]
  unfold destroy
  refine (returns_reset I hRep.fresh hHolds).mono ?_
  rintro _ t ⟨_, hConfined⟩
  rw [returns_bind, returns_store, returns_pure]
  refine
    { represents := ?_
      unchanged := ?_ }
  · rw [specStep_none]
    exact ((hRep.besides hAlive).confined
      hConfined).vanish rfl
  · intro hFalse
    cases hFalse

/- One call, from any world that holds lists. -/
theorem returns_step
    {I : Instantiation T}
    {w : World T}
    {σ : Lists T}
    (op : Op T)
    (hRep : Represents I w σ)
    (hAllowed : Allowed w op) :
    Returns (step I op) w (Refines I w σ op) := by
  cases op with
  | construct x =>
      unfold step
      rw [returns_bind, returns_store, returns_pure]
      refine
        { represents := ?_
          unchanged := fun hFalse => by cases hFalse }
      rw [specStep_none]
      exact (hRep.besides_unborn hAllowed).represents
        (Holds.empty I w.heap)
  | reserve x count =>
      exact returns_step_reserve count hRep hAllowed
  | resize x count =>
      rcases hAllowed with ⟨a, hAlive⟩
      rcases hRep.holds hAlive with ⟨xs, hHas, hHolds⟩
      exact returns_callOutcome
        (k := fun a => resize I a count)
        hRep hAlive (change_of_alive hHas _)
        ((returns_resize I count hRep.fresh hHolds).mono
          (fun _ _ hDone => hDone.1))
  | clear x =>
      rcases hAllowed with ⟨a, hAlive⟩
      rcases hRep.holds hAlive with ⟨xs, hHas, hHolds⟩
      exact returns_callVoid hRep hAlive
        (change_of_alive hHas _)
        (returns_clear I hRep.fresh hHolds)
  | append x pass t =>
      exact returns_step_insertion
        (k := fun a r => append I pass a r)
        hRep hAllowed rfl
        (fun _ _ _ _ hHolds hDenotes =>
          returns_append I pass hRep.fresh hHolds hDenotes)
  | pushBack x t =>
      exact returns_step_insertion
        (k := fun a r => pushBack I a r)
        hRep hAllowed rfl
        (fun _ _ _ _ hHolds hDenotes =>
          returns_append I .copy hRep.fresh hHolds hDenotes)
  | popBack x =>
      rcases hAllowed with ⟨a, hAlive⟩
      rcases hRep.holds hAlive with ⟨xs, hHas, hHolds⟩
      exact returns_callVoid hRep hAlive
        (change_of_alive hHas _)
        (returns_popBack I hRep.fresh hHolds)
  | insertAt x index pass t =>
      exact returns_step_insertAt index pass hRep hAllowed
  | insertSorted x lt pass t =>
      exact returns_step_insertion
        (k := fun a r => insertSorted I lt pass a r)
        hRep hAllowed rfl
        (fun _ _ _ _ hHolds hDenotes =>
          returns_insertSorted I lt pass hRep.fresh hHolds
            hDenotes)
  | insertSortedUnique x lt pass t =>
      exact returns_step_insertSortedUnique lt pass hRep
        hAllowed
  | eraseAt x index =>
      rcases hAllowed with ⟨a, hAlive, hLt⟩
      rcases hRep.holds hAlive with ⟨xs, hHas, hHolds⟩
      exact returns_callVoid
        (k := fun a => eraseAt I a index)
        hRep hAlive (change_of_alive hHas _)
        (returns_eraseAt I hRep.fresh hHolds
          (by rw [← hHolds.count]; exact hLt))
  | moveConstruct x y =>
      exact returns_step_moveConstruct hRep hAllowed
  | moveAssign x y =>
      exact returns_step_moveAssign hRep hAllowed
  | destruct x =>
      exact returns_step_destruct hRep hAllowed

/-
  Whole runs, by induction on the program: each call meets
  `Refines` and hands the next one a world that holds lists.
-/
theorem returns_run
    {I : Instantiation T}
    {w : World T}
    {σ : Lists T}
    {ops : List (Op T)}
    (hRep : Represents I w σ)
    (hAllowed : AllowedRun I w ops) :
    Returns (run I ops) w (fun rs w' =>
      rs.length = ops.length ∧
        Represents I w' (specRun I σ ops rs)) := by
  induction ops generalizing w σ with
  | nil =>
      unfold run
      rw [returns_pure]
      exact ⟨rfl, hRep⟩
  | cons op ops ih =>
      have hFirst : Allowed w op := hAllowed.1
      rcases returns_step op hRep hFirst with
        ⟨r, w', hExec, hRefines⟩
      have hRest :=
        ((allowedRun_cons ops hExec).mp hAllowed).2
      have hTail := ih hRefines.represents hRest
      unfold run
      rw [returns_bind]
      refine returns_of_exec hExec ?_
      refine hTail.bind ?_
      rintro rs w'' ⟨hLength, hEnd⟩
      rw [returns_pure]
      exact ⟨by simp [hLength], hEnd⟩

/- An array that holds a list shows its elements. -/
theorem Holds.contents
    {I : Instantiation T}
    {h : Heap T}
    {a : KArray}
    {xs : List T}
    (hHolds : Holds I h a xs) :
    KArray.contents h a = xs.map some := by
  have hCount := hHolds.count
  have hFits := hHolds.fits
  unfold KArray.contents
  refine List.ext_getElem? ?_
  intro i
  rw [List.getElem?_map, List.getElem?_map, hCount]
  by_cases hLt : i < xs.length
  · rcases hHolds.pointer_of_pos (by omega) with
      ⟨b, hPointer⟩
    rw [List.getElem?_range hLt, hPointer,
      List.getElem?_eq_getElem hLt]
    simp only [Option.map_some, Option.bind_some]
    rw [hHolds.live hPointer hLt]
  · rw [List.getElem?_eq_none (by simp; omega),
      List.getElem?_eq_none (by omega)]
    rfl

/- So does every array of a world. -/
theorem Represents.contents
    {I : Instantiation T}
    {w : World T}
    {σ : Lists T}
    (hRep : Represents I w σ)
    (x : Nat) :
    w.contents x = (σ x).map (List.map some) := by
  have hState := hRep.state x
  unfold World.contents
  cases hIs : w.arrays x with
  | unborn =>
      rw [hIs] at hState
      cases hHas : σ x with
      | unborn => rfl
      | alive xs => rw [hHas] at hState; exact hState.elim
      | gone => rw [hHas] at hState; exact hState.elim
  | alive a =>
      rcases hRep.holds hIs with ⟨xs, hHas, hHolds⟩
      rw [hHas]
      simp only [Life.map, hHolds.contents]
  | gone =>
      rw [hIs] at hState
      cases hHas : σ x with
      | unborn => rw [hHas] at hState; exact hState.elim
      | alive xs => rw [hHas] at hState; exact hState.elim
      | gone => rfl

end KArray

end CxPlat

------------------------------------------------------------
-- Refinement
------------------------------------------------------------

namespace CxPlat

namespace KArray

open Comp

variable {T : Type}

/- Contents only depend on the slots. -/
theorem World.contents_congr
    {w w' : World T}
    (hArrays : w'.arrays = w.arrays)
    (hSame : SameMemory w.heap w'.heap)
    (x : Nat) :
    w'.contents x = w.contents x := by
  unfold World.contents KArray.contents
  rw [hArrays, hSame.val]

/- The value behind an argument is that of the lists. -/
theorem Represents.denoted
    {I : Instantiation T}
    {w : World T}
    {σ : Lists T}
    (hRep : Represents I w σ)
    (t : Arg T) :
    t.denoted w = t.value? σ := by
  cases t with
  | value v => rfl
  | element y i =>
      simp only [Arg.denoted, Arg.value?, hRep.contents y]
      cases σ y with
      | unborn => rfl
      | gone => rfl
      | alive ys =>
          simp only [Life.map, List.getElem?_map]
          cases ys[i]? with
          | none => rfl
          | some v => rfl

/- A class type with a destructor, on a 64-bit target. -/
def handleType : Instantiation Nat where
  sizeT := .bits64
  sizeOf := 8
  sizeOf_pos := by decide
  triviallyCopyable := false
  triviallyDefaultConstructible := false
  triviallyDestructible := false
  zeroBytes := 0
  defaultValue := 0
  moved := fun _ => 0
  destructible_of_copyable := by decide
  destructible_of_default := by decide

/- Two arrays, an insertion in front, and a moved buffer. -/
def handleProgram : List (Op Nat) :=
  [.construct 0, .append 0 .move (.value 5),
    .insertAt 0 0 .copy (.value 7), .moveConstruct 1 0,
    .append 0 .move (.element 1 1), .eraseAt 1 0,
    .destruct 1]

end KArray

end CxPlat
