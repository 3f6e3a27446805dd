import CxPlat.KArray.Insertion

/-
  Programs over several arrays, and what they mean as
  programs over lists.

  A world has named array objects, each not yet constructed,
  alive or destroyed, that share one pool.  A program is a
  list of member function calls; `run` executes it and
  collects the results.  `specRun` is the same program over
  lists: which calls succeeded is read off the results.

  Key definitions include:
    * `World`, `Op`
    * `step`, `run`
    * `Allowed`, `AllowedRun`
    * `specOp`, `specStep`, `specRun`
-/

------------------------------------------------------------
-- Worlds And Calls
------------------------------------------------------------

namespace CxPlat

namespace KArray

/- The life of an object with state `α`. -/
inductive Life (α : Type) where
  | unborn
  | alive (a : α)
  | gone
deriving DecidableEq, Repr

/- Objects with related states, at the same point of life. -/
def Life.Rel
    {α β : Type}
    (R : α → β → Prop) : Life α → Life β → Prop
  | .unborn, .unborn => True
  | .alive a, .alive b => R a b
  | .gone, .gone => True
  | _, _ => False

def Life.map
    {α β : Type}
    (f : α → β) : Life α → Life β
  | .unborn => .unborn
  | .alive a => .alive (f a)
  | .gone => .gone

/- Array objects by name, and the pool they share. -/
structure World (T : Type) where
  heap : Heap T
  arrays : Nat → Life KArray

/- No array yet, and nothing allocated. -/
def World.start
    {T : Type}
    (oracle : Nat → Bool) : World T where
  heap := Heap.empty oracle
  arrays := fun _ => .unborn

/- An element argument: any object, or `y[i]`. -/
inductive Arg (T : Type) where
  | value (v : T)
  | element (y i : Nat)

/- The member functions, with the name of `*this`. -/
inductive Op (T : Type) where
  | construct (x : Nat)
  | reserve (x count : Nat)
  | resize (x count : Nat)
  | clear (x : Nat)
  | append (x : Nat) (pass : Pass) (t : Arg T)
  | pushBack (x : Nat) (t : Arg T)
  | popBack (x : Nat)
  | insertAt (x index : Nat) (pass : Pass) (t : Arg T)
  | insertSorted
      (x : Nat) (lt : T → T → Bool) (pass : Pass) (t : Arg T)
  | insertSortedUnique
      (x : Nat) (lt : T → T → Bool) (pass : Pass) (t : Arg T)
  | eraseAt (x index : Nat)
  | moveConstruct (x y : Nat)
  | moveAssign (x y : Nat)
  | destruct (x : Nat)

variable {T : Type}

/- Run code that only works on the pool. -/
def onHeap
    {β : Type}
    (c : Code T β) : Comp Fault (World T) β :=
  fun w =>
    match Comp.exec c w.heap with
    | .ok (r, h) => .ok (r, { w with heap := h })
    | .error e => .error e

/- The fields of an array that is alive. -/
def find
    (x : Nat) : Comp Fault (World T) KArray := do
  let w ← get
  match w.arrays x with
  | .alive a => pure a
  | _ => throw .deadArray

def store
    (x : Nat)
    (s : Life KArray) : Comp Fault (World T) Unit :=
  modify fun w =>
    { w with arrays := Function.update w.arrays x s }

/- `y[i]` is checked by `operator[]`. -/
def Arg.resolve :
    Arg T → Comp Fault (World T) (Ref T)
  | .value v => pure (.value v)
  | .element y i => do
      let b ← find y
      if i ≥ b.numElements then throw .failFast
      else pure (.element b.p i)

/- Call a member function that returns a `bool`. -/
def callBool
    (x : Nat)
    (k : KArray → Code T (Bool × KArray)) :
    Comp Fault (World T) (Option Bool) := do
  let a ← find x
  let r ← onHeap (k a)
  store x (.alive r.2)
  pure (some r.1)

/- Call a member function that returns nothing. -/
def callVoid
    (x : Nat)
    (k : KArray → Code T KArray) :
    Comp Fault (World T) (Option Bool) := do
  let a ← find x
  let a' ← onHeap (k a)
  store x (.alive a')
  pure none

/- One call. -/
def step
    (I : Instantiation T) :
    Op T → Comp Fault (World T) (Option Bool)
  | .construct x => do
      store x (.alive {})
      pure none
  | .reserve x count =>
      callBool x (fun a => KArray.reserve I a count)
  | .resize x count =>
      callBool x (fun a => KArray.resize I a count)
  | .clear x => callVoid x (KArray.clear I)
  | .append x pass t => do
      let r ← t.resolve
      callBool x (fun a => KArray.append I pass a r)
  | .pushBack x t => do
      let r ← t.resolve
      callBool x (fun a => KArray.pushBack I a r)
  | .popBack x => callVoid x (KArray.popBack I)
  | .insertAt x index pass t => do
      let r ← t.resolve
      callBool x (fun a => KArray.insertAt I pass a index r)
  | .insertSorted x lt pass t => do
      let r ← t.resolve
      callBool x (fun a => KArray.insertSorted I lt pass a r)
  | .insertSortedUnique x lt pass t => do
      let r ← t.resolve
      callBool x
        (fun a => KArray.insertSortedUnique I lt pass a r)
  | .eraseAt x index =>
      callVoid x (fun a => KArray.eraseAt I a index)
  | .moveConstruct x y => do
      let rhs ← find y
      store x (.alive (KArray.moveConstruct rhs).1)
      store y (.alive (KArray.moveConstruct rhs).2)
      pure none
  | .moveAssign x y => do
      let a ← find x
      let rhs ← find y
      let r ← onHeap (KArray.moveAssign I a rhs)
      store x (.alive r.1)
      store y (.alive r.2)
      pure none
  | .destruct x => do
      let a ← find x
      let _ ← onHeap (KArray.destroy I a)
      store x .gone
      pure none

/- A program, with the results of its calls. -/
def run
    (I : Instantiation T) :
    List (Op T) →
      Comp Fault (World T) (List (Option Bool))
  | [] => pure []
  | op :: ops => do
      let r ← step I op
      let rs ← run I ops
      pure (r :: rs)

end KArray

end CxPlat

------------------------------------------------------------
-- Well-Formed Programs
------------------------------------------------------------

namespace CxPlat

namespace KArray

variable {T : Type}

/- `x` is an array object that is alive. -/
def World.Alive
    (w : World T)
    (x : Nat) : Prop :=
  ∃ a, w.arrays x = .alive a

/- `y[i]` is an element. -/
def World.HasElement
    (w : World T)
    (y i : Nat) : Prop :=
  ∃ a, w.arrays y = .alive a ∧ i < a.numElements

instance World.decidableAlive
    (w : World T)
    (x : Nat) : Decidable (w.Alive x) :=
  match h : w.arrays x with
  | .alive a => .isTrue ⟨a, h⟩
  | .unborn => .isFalse (by
      rintro ⟨a, hAlive⟩
      rw [h] at hAlive
      cases hAlive)
  | .gone => .isFalse (by
      rintro ⟨a, hAlive⟩
      rw [h] at hAlive
      cases hAlive)

instance World.decidableHasElement
    (w : World T)
    (y i : Nat) : Decidable (w.HasElement y i) :=
  match h : w.arrays y with
  | .alive a =>
      decidable_of_iff (i < a.numElements) (by
        constructor
        · intro hLt
          exact ⟨a, h, hLt⟩
        · rintro ⟨b, hAlive, hLt⟩
          rw [h] at hAlive
          cases hAlive
          exact hLt)
  | .unborn => .isFalse (by
      rintro ⟨a, hAlive, _⟩
      rw [h] at hAlive
      cases hAlive)
  | .gone => .isFalse (by
      rintro ⟨a, hAlive, _⟩
      rw [h] at hAlive
      cases hAlive)

/- An argument for a call on `x` that is not inside `x`. -/
def Arg.Outside
    (w : World T)
    (x : Nat) : Arg T → Prop
  | .value _ => True
  | .element y i => y ≠ x ∧ w.HasElement y i

/-
  The calls a program may make: on arrays that are alive,
  with arguments outside the array, erasing inside the array,
  and moving between distinct objects.
-/
def Allowed
    (w : World T) : Op T → Prop
  | .construct x => w.arrays x = .unborn
  | .reserve x _ => w.Alive x
  | .resize x _ => w.Alive x
  | .clear x => w.Alive x
  | .append x _ t => w.Alive x ∧ t.Outside w x
  | .pushBack x t => w.Alive x ∧ t.Outside w x
  | .popBack x => w.Alive x
  | .insertAt x _ _ t => w.Alive x ∧ t.Outside w x
  | .insertSorted x _ _ t => w.Alive x ∧ t.Outside w x
  | .insertSortedUnique x _ _ t =>
      w.Alive x ∧ t.Outside w x
  | .eraseAt x index => w.HasElement x index
  | .moveConstruct x y =>
      w.arrays x = .unborn ∧ w.Alive y
  | .moveAssign x y => x ≠ y ∧ w.Alive x ∧ w.Alive y
  | .destruct x => w.Alive x

/- Every call is allowed in the state it is made in. -/
def AllowedRun
    (I : Instantiation T)
    (w : World T) : List (Op T) → Prop
  | [] => True
  | op :: ops =>
      Allowed w op ∧
        match Comp.exec (step I op) w with
        | .ok (_, w') => AllowedRun I w' ops
        | .error _ => True

theorem allowedRun_cons
    {I : Instantiation T}
    {w w' : World T}
    {op : Op T}
    {r : Option Bool}
    (ops : List (Op T))
    (hStep : Comp.exec (step I op) w = .ok (r, w')) :
    AllowedRun I w (op :: ops) ↔
      Allowed w op ∧ AllowedRun I w' ops := by
  rw [AllowedRun, hStep]

theorem allowedRun_cons_of_error
    {I : Instantiation T}
    {w : World T}
    {op : Op T}
    {e : Fault}
    (ops : List (Op T))
    (hStep : Comp.exec (step I op) w = .error e) :
    AllowedRun I w (op :: ops) ↔ Allowed w op := by
  rw [AllowedRun, hStep]
  simp

instance Arg.decidableOutside
    (w : World T)
    (x : Nat) :
    (t : Arg T) → Decidable (t.Outside w x)
  | .value _ => .isTrue trivial
  | .element y i =>
      inferInstanceAs (Decidable (y ≠ x ∧ w.HasElement y i))

instance decidableAllowed
    (w : World T) :
    (op : Op T) → Decidable (Allowed w op)
  | .construct x =>
      inferInstanceAs (Decidable (w.arrays x = .unborn))
  | .reserve x _ => inferInstanceAs (Decidable (w.Alive x))
  | .resize x _ => inferInstanceAs (Decidable (w.Alive x))
  | .clear x => inferInstanceAs (Decidable (w.Alive x))
  | .append x _ t =>
      inferInstanceAs (Decidable (w.Alive x ∧ t.Outside w x))
  | .pushBack x t =>
      inferInstanceAs (Decidable (w.Alive x ∧ t.Outside w x))
  | .popBack x => inferInstanceAs (Decidable (w.Alive x))
  | .insertAt x _ _ t =>
      inferInstanceAs (Decidable (w.Alive x ∧ t.Outside w x))
  | .insertSorted x _ _ t =>
      inferInstanceAs (Decidable (w.Alive x ∧ t.Outside w x))
  | .insertSortedUnique x _ _ t =>
      inferInstanceAs (Decidable (w.Alive x ∧ t.Outside w x))
  | .eraseAt x index =>
      inferInstanceAs (Decidable (w.HasElement x index))
  | .moveConstruct x y =>
      inferInstanceAs
        (Decidable (w.arrays x = .unborn ∧ w.Alive y))
  | .moveAssign x y =>
      inferInstanceAs
        (Decidable (x ≠ y ∧ w.Alive x ∧ w.Alive y))
  | .destruct x => inferInstanceAs (Decidable (w.Alive x))

instance decidableAllowedRun
    (I : Instantiation T)
    (w : World T) :
    (ops : List (Op T)) → Decidable (AllowedRun I w ops)
  | [] => .isTrue trivial
  | op :: ops =>
      match hRun : Comp.exec (step I op) w with
      | .ok (_, w') =>
          have := decidableAllowedRun I w' ops
          decidable_of_iff
            (Allowed w op ∧ AllowedRun I w' ops)
            (allowedRun_cons ops hRun).symm
      | .error _ =>
          decidable_of_iff (Allowed w op)
            (allowedRun_cons_of_error ops hRun).symm

end KArray

end CxPlat

------------------------------------------------------------
-- Programs Over Lists
------------------------------------------------------------

namespace CxPlat

namespace KArray

variable {T : Type}

/- What each array object holds. -/
abbrev Lists (T : Type) :=
  Nat → Life (List T)

/- Apply a list operation to one object. -/
def change
    (σ : Lists T)
    (x : Nat)
    (f : List T → List T) : Lists T :=
  match σ x with
  | .alive xs => Function.update σ x (.alive (f xs))
  | _ => σ

/- The value of an argument. -/
def Arg.value?
    (σ : Lists T) : Arg T → Option T
  | .value v => some v
  | .element y i =>
      match σ y with
      | .alive ys => ys[i]?
      | _ => none

/- An element passed as `T &&` is left moved-from. -/
def Arg.taken
    (I : Instantiation T)
    (σ : Lists T) : Pass → Arg T → Lists T
  | .move, .element y i =>
      change σ y (fun ys => ys.modify i I.moved)
  | _, _ => σ

/- Take the argument and insert its value. -/
def insertion
    (I : Instantiation T)
    (σ : Lists T)
    (x : Nat)
    (pass : Pass)
    (t : Arg T)
    (f : List T → T → List T) : Lists T :=
  match t.value? σ with
  | some v => change (t.taken I σ pass) x (fun xs => f xs v)
  | none => σ

/- Object `x` gets the contents of `y`, which is left empty. -/
def transfer
    (σ : Lists T)
    (x y : Nat) : Lists T :=
  Function.update (Function.update σ x (σ y)) y (.alive [])

/- What a call that does not return false does to lists. -/
def specOp
    (I : Instantiation T)
    (σ : Lists T) : Op T → Lists T
  | .construct x => Function.update σ x (.alive [])
  | .reserve _ _ => σ
  | .resize x count =>
      change σ x (fun xs => resizeList I.padding xs count)
  | .clear x => change σ x (fun _ => [])
  | .append x pass t =>
      insertion I σ x pass t (fun xs v => xs ++ [v])
  | .pushBack x t =>
      insertion I σ x .copy t (fun xs v => xs ++ [v])
  | .popBack x => change σ x List.dropLast
  | .insertAt x index pass t =>
      insertion I σ x pass t
        (fun xs v => xs.insertIdx index v)
  | .insertSorted x lt pass t =>
      insertion I σ x pass t (insertSortedList lt)
  | .insertSortedUnique x lt pass t =>
      match σ x, t.value? σ with
      | .alive xs, some v =>
          if sortedAbsent lt xs v then
            insertion I σ x pass t (insertSortedList lt)
          else σ
      | _, _ => σ
  | .eraseAt x index =>
      change σ x (fun xs => xs.eraseIdx index)
  | .moveConstruct x y => transfer σ x y
  | .moveAssign x y => transfer σ x y
  | .destruct x => Function.update σ x .gone

/- A call that returns false does nothing. -/
def specStep
    (I : Instantiation T)
    (σ : Lists T)
    (op : Op T)
    (r : Option Bool) : Lists T :=
  if r = some false then σ else specOp I σ op

@[simp] theorem specStep_false
    (I : Instantiation T)
    (σ : Lists T)
    (op : Op T) :
    specStep I σ op (some false) = σ := rfl

@[simp] theorem specStep_true
    (I : Instantiation T)
    (σ : Lists T)
    (op : Op T) :
    specStep I σ op (some true) = specOp I σ op := rfl

@[simp] theorem specStep_none
    (I : Instantiation T)
    (σ : Lists T)
    (op : Op T) :
    specStep I σ op none = specOp I σ op := rfl

def specRun
    (I : Instantiation T)
    (σ : Lists T) :
    List (Op T) → List (Option Bool) → Lists T
  | op :: ops, r :: rs =>
      specRun I (specStep I σ op r) ops rs
  | _, _ => σ

/- The contents `_p[0..m_numElements)` of an array. -/
def contents
    (h : Heap T)
    (a : KArray) : List (Option T) :=
  (List.range a.numElements).map (fun i =>
    a.p.bind (fun b => h.val b i))

/- What can be read through each array object. -/
def World.contents
    (w : World T)
    (x : Nat) : Life (List (Option T)) :=
  (w.arrays x).map (KArray.contents w.heap)

/- The value that a call finds behind its argument. -/
def Arg.denoted
    (w : World T) : Arg T → Option T
  | .value v => some v
  | .element y i =>
      match w.contents y with
      | .alive ys => ys[i]?.join
      | _ => none

end KArray

end CxPlat
