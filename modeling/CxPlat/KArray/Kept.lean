import CxPlat.KArray.Refinement

/-
  Properties of the pool that every member function keeps.

  A property that the primitives keep is kept by all code
  over them, so by every run that does not fault.  A property
  may rely on the element type: bytes are only copied or set
  to zero where that stands for a constructor.

  Key definitions include:
    * `Kept`

  Key theorems include:
    * `exec_constructAt_ok`, `exec_destroyAt_ok`
    * `preserves_moveElements`
    * `preserves_step`, `preserves_run`
-/

------------------------------------------------------------
-- Primitives
------------------------------------------------------------

namespace CxPlat

namespace KArray

open Comp

variable {T : Type} {P : Heap T → Prop}

/- Following a pointer changes nothing. -/
theorem exec_locate_ok
    {p : Pointer}
    {i b : Nat}
    {h t : Heap T}
    (hExec : exec (locate p i) h = .ok (b, t)) :
    t = h ∧ i < h.capacity b := by
  cases p with
  | none => cases hExec
  | some c =>
      unfold locate at hExec
      simp only [exec_bind, exec_get] at hExec
      split at hExec
      next hBound =>
        cases hExec
        exact ⟨rfl, hBound⟩
      next => cases hExec

/-
  What a run of each primitive did if it did not fault: the
  checks it passed, and the heap it left.
-/
theorem exec_constructAt_ok
    {I : Instantiation T}
    {p : Pointer}
    {i : Nat}
    {v : T}
    {h t : Heap T}
    {r : Unit}
    (hExec : exec (constructAt I p i v) h = .ok (r, t)) :
    ∃ b,
      i < h.capacity b ∧
        ((h.slot b i).isLive && !I.triviallyDestructible)
          = false ∧
        t = (h.put b i (.live h.log.length v)).note
          (.constructed b i) := by
  rcases exec_bind_ok.mp hExec with ⟨b, u, hFound, hNext⟩
  rcases exec_locate_ok hFound with ⟨rfl, hBound⟩
  simp only [exec_bind, exec_get] at hNext
  split at hNext
  next => cases hNext
  next hFree =>
    cases hNext
    exact ⟨b, hBound, Bool.eq_false_iff.mpr hFree, rfl⟩

theorem exec_destroyAt_ok
    {p : Pointer}
    {i : Nat}
    {h t : Heap T}
    {r : Unit}
    (hExec : exec (destroyAt p i) h = .ok (r, t)) :
    ∃ b k v,
      h.slot b i = .live k v ∧
        t = (h.put b i .raw).note (.destroyed b i k) := by
  rcases exec_bind_ok.mp hExec with ⟨b, u, hFound, hNext⟩
  rcases exec_locate_ok hFound with ⟨rfl, -⟩
  simp only [exec_bind, exec_get] at hNext
  split at hNext
  next => cases hNext
  next k v hSlot =>
    cases hNext
    exact ⟨b, k, v, hSlot, rfl⟩

theorem exec_moveOutAt_ok
    {I : Instantiation T}
    {p : Pointer}
    {i : Nat}
    {v : T}
    {h t : Heap T}
    (hExec : exec (moveOutAt I p i) h = .ok (v, t)) :
    ∃ b k,
      h.slot b i = .live k v ∧
        t = h.put b i (.live k (I.moved v)) := by
  rcases exec_bind_ok.mp hExec with ⟨b, u, hFound, hNext⟩
  rcases exec_locate_ok hFound with ⟨rfl, -⟩
  simp only [exec_bind, exec_get] at hNext
  split at hNext
  next => cases hNext
  next k v hSlot =>
    cases hNext
    exact ⟨b, k, hSlot, rfl⟩

theorem exec_exAllocatePoolUninitialized_ok
    {I : Instantiation T}
    {bytes : Nat}
    {p : Pointer}
    {h t : Heap T}
    (hExec :
      exec (exAllocatePoolUninitialized I bytes) h
        = .ok (p, t)) :
    t = h.allocate (bytes / I.sizeOf) ∨ t = h.refuse := by
  unfold exAllocatePoolUninitialized at hExec
  simp only [exec_bind, exec_get] at hExec
  split at hExec
  next =>
    cases hExec
    exact Or.inl rfl
  next =>
    cases hExec
    exact Or.inr rfl

theorem exec_exFreePoolWithTag_ok
    {I : Instantiation T}
    {p : Pointer}
    {h t : Heap T}
    {r : Unit}
    (hExec :
      exec (exFreePoolWithTag I p) h = .ok (r, t)) :
    ∃ b,
      (I.triviallyDestructible = false →
        ∀ i < h.capacity b,
          (h.slot b i).isLive = false) ∧
        t = h.release b := by
  cases p with
  | none => cases hExec
  | some b =>
      unfold exFreePoolWithTag at hExec
      simp only [exec_bind, exec_get] at hExec
      split at hExec
      next => cases hExec
      next =>
        split at hExec
        next => cases hExec
        next hClear =>
          cases hExec
          refine ⟨b, ?_, rfl⟩
          intro hDestructor i hLt
          simp only [hDestructor, Bool.not_false,
            Bool.true_and, List.any_eq_true,
            List.mem_range, not_exists, not_and] at hClear
          exact Bool.eq_false_iff.mpr (hClear i hLt)

theorem preserves_follow
    (p : Pointer)
    (i : Nat) :
    Preserves P (locate p i) := by
  intro h b t hExec hBefore
  rw [(exec_locate_ok hExec).1]
  exact hBefore

theorem preserves_readAt
    (p : Pointer)
    (i : Nat) :
    Preserves P (readAt p i) := by
  intro h v t hExec hBefore
  rcases exec_bind_ok.mp hExec with ⟨b, u, hFound, hNext⟩
  rcases exec_locate_ok hFound with ⟨rfl, -⟩
  simp only [exec_bind, exec_get] at hNext
  split at hNext
  next => cases hNext
  next =>
    cases hNext
    exact hBefore

/- What the primitives keep, for an element type. -/
structure Kept
    (I : Instantiation T)
    (P : Heap T → Prop) : Prop where
  construct : ∀ p i v, Preserves P (constructAt I p i v)
  destroy : ∀ p i, Preserves P (destroyAt p i)
  moveOut : ∀ p i, Preserves P (moveOutAt I p i)
  allocate :
    ∀ bytes,
      Preserves P (exAllocatePoolUninitialized I bytes)
  release : ∀ p, Preserves P (exFreePoolWithTag I p)
  copy :
    I.triviallyCopyable = true →
      ∀ dst target src source number,
        Preserves P (copySlots dst target src source number)
  zero :
    I.triviallyDefaultConstructible = true →
      ∀ p start number,
        Preserves P (zeroSlots I p start number)

end KArray

end CxPlat

------------------------------------------------------------
-- Member Functions
------------------------------------------------------------

namespace CxPlat

namespace KArray

open Comp

variable {T : Type} {P : Heap T → Prop}

section Members

variable {I : Instantiation T}
variable (hKept : Kept I P)

include hKept

theorem preserves_moveConstructAt
    (p : Pointer)
    (i : Nat)
    (q : Pointer)
    (j : Nat) :
    Preserves P (moveConstructAt I p i q j) :=
  (hKept.moveOut q j).bind
    (fun v => hKept.construct p i v)

theorem preserves_relocate
    (a : KArray)
    (b : Nat) :
    Preserves P (relocate I a b) := by
  unfold relocate
  split
  next hTrivial => exact hKept.copy hTrivial _ _ _ _ _
  next =>
    refine (preserves_forLoop _ _ _ ?_ _ _).bind
      (fun _ => preserves_pure P _)
    intro i
    exact preserves_moveConstructAt hKept _ _ _ _

theorem preserves_discard
    (a : KArray) :
    Preserves P (discard I a) := by
  unfold discard
  split
  · refine (preserves_forLoop _ _ _
      (fun i => hKept.destroy a.p i) _ _).bind ?_
    intro _
    exact hKept.release a.p
  · exact preserves_pure P _

theorem preserves_reserve
    (a : KArray)
    (count : Nat) :
    Preserves P (reserve I a count) := by
  unfold reserve
  split
  · exact preserves_pure P _
  · split
    · exact preserves_pure P _
    · split
      · exact preserves_pure P _
      · refine (hKept.allocate _).bind ?_
        intro p
        cases p with
        | none => exact preserves_pure P _
        | some b =>
            refine (preserves_relocate hKept a b).bind ?_
            intro _
            refine (preserves_discard hKept a).bind ?_
            intro _
            exact preserves_pure P _

theorem preserves_grow
    (a : KArray)
    (count : Nat) :
    Preserves P (grow I a count) := by
  unfold grow
  split
  · exact preserves_pure P _
  · exact preserves_reserve hKept a _

omit hKept in
/- Three loops that pass their counter on. -/
theorem preserves_threeLoops
    {cond cond' last : Nat → Bool}
    {next : Nat → Nat}
    {construct replace destroy : Nat → Code T Unit}
    (hConstruct : ∀ i, Preserves P (construct i))
    (hReplace : ∀ i, Preserves P (replace i))
    (hDestroy : ∀ i, Preserves P (destroy i))
    (start : Nat) :
    Preserves P (do
      let i ← ulongLoop cond next construct start
      let i ← ulongLoop cond' next replace i
      let _ ← ulongLoop last next destroy i) := by
  refine (preserves_forLoop _ _ _ hConstruct _ _).bind ?_
  intro i
  refine (preserves_forLoop _ _ _ hReplace _ _).bind ?_
  intro i
  refine (preserves_forLoop _ _ _ hDestroy _ _).bind ?_
  intro _
  exact preserves_pure P _

theorem preserves_moveElements
    (a : KArray)
    (source target number : Nat) :
    Preserves P
      (moveElements I a source target number) := by
  have hMove := preserves_moveConstructAt hKept
  have hReplace :
      ∀ i j, Preserves P (do
        destroyAt a.p i
        moveConstructAt I a.p i a.p j) :=
    fun i j =>
      (hKept.destroy a.p i).bind
        (fun _ => hMove a.p i a.p j)
  have hDestroy := hKept.destroy a.p
  unfold moveElements
  split
  · exact preserves_pure P _
  · split
    next hTrivial => exact hKept.copy hTrivial _ _ _ _ _
    split
    · split
      · exact preserves_throw P _
      · exact preserves_threeLoops (fun _ => hMove _ _ _ _)
          (fun _ => hReplace _ _) (fun _ => hDestroy _) _
    · split
      · exact preserves_throw P _
      · exact preserves_threeLoops (fun _ => hMove _ _ _ _)
          (fun _ => hReplace _ _) (fun _ => hDestroy _) _

theorem preserves_reset
    (a : KArray) :
    Preserves P (reset I a) := by
  have hLast :
      Preserves P (do
        exFreePoolWithTag I a.p
        pure
          { p := none, numElements := 0,
            bufferSize := 0 : KArray }) :=
    (hKept.release a.p).bind (fun _ => preserves_pure P _)
  unfold reset
  split
  · split
    · refine (preserves_forLoop _ _ _
        (fun i => hKept.destroy a.p _) _ _).bind ?_
      intro _
      exact hLast
    · exact hLast
  · exact preserves_pure P _

theorem preserves_resize
    (a : KArray)
    (count : Nat) :
    Preserves P (resize I a count) := by
  have hExtend :
      ∀ a', Preserves P (extend I a' count) := by
    intro a'
    unfold extend
    split
    next hTrivial =>
      split
      · exact hKept.zero hTrivial _ _ _
      · exact preserves_pure P _
    next =>
      refine (preserves_forLoop _ _ _
        (fun i => hKept.construct _ _ _) _ _).bind ?_
      intro _
      exact preserves_pure P _
  have hTruncate :
      ∀ a', Preserves P (truncate I a' count) := by
    intro a'
    unfold truncate
    split
    · refine (preserves_forLoop _ _ _
        (fun i => hKept.destroy _ _) _ _).bind ?_
      intro _
      exact preserves_pure P _
    · exact preserves_pure P _
  unfold resize
  refine (preserves_reserve hKept a count).bind ?_
  rintro ⟨ok, a'⟩
  cases ok with
  | false => exact preserves_pure P _
  | true =>
      refine (hExtend a').bind ?_
      intro _
      refine (hTruncate a').bind ?_
      intro _
      exact preserves_pure P _

omit hKept in
theorem preserves_read
    (t : Ref T) :
    Preserves P t.read := by
  cases t with
  | value v => exact preserves_pure P v
  | element p i => exact preserves_readAt p i

theorem preserves_take
    (pass : Pass)
    (t : Ref T) :
    Preserves P (t.take I pass) := by
  cases pass with
  | copy =>
      unfold Ref.take
      exact preserves_read t
  | move =>
      cases t with
      | value v => exact preserves_pure P v
      | element p i => exact hKept.moveOut p i

theorem preserves_place
    (pass : Pass)
    (a : KArray)
    (index : Nat)
    (t : Ref T) :
    Preserves P (place I pass a index t) := by
  unfold place
  refine (preserves_take hKept pass t).bind ?_
  intro v
  refine (hKept.construct _ _ v).bind ?_
  intro _
  exact preserves_pure P _

theorem preserves_append
    (pass : Pass)
    (a : KArray)
    (t : Ref T) :
    Preserves P (append I pass a t) := by
  unfold append
  refine (preserves_grow hKept a _).bind ?_
  rintro ⟨ok, a'⟩
  cases ok with
  | false => exact preserves_pure P _
  | true => exact preserves_place hKept pass a' _ t

theorem preserves_insertAt
    (pass : Pass)
    (a : KArray)
    (index : Nat)
    (t : Ref T) :
    Preserves P (insertAt I pass a index t) := by
  have hRoom :
      ∀ a', Preserves P (makeRoom I a' index) := by
    intro a'
    unfold makeRoom
    split
    · exact preserves_moveElements hKept a' _ _ _
    · exact preserves_pure P _
  unfold insertAt
  split
  · exact preserves_pure P _
  · refine (preserves_grow hKept a _).bind ?_
    rintro ⟨ok, a'⟩
    cases ok with
    | false => exact preserves_pure P _
    | true =>
        refine (hRoom a').bind ?_
        intro _
        exact preserves_place hKept pass a' index t

theorem preserves_insertSorted
    (lt : T → T → Bool)
    (pass : Pass)
    (a : KArray)
    (t : Ref T) :
    Preserves P (insertSorted I lt pass a t) := by
  unfold insertSorted
  refine (preserves_searchLoop _ _ _ ?_ _ _).bind ?_
  · intro i
    refine (preserves_readAt a.p i).bind ?_
    intro x
    refine (preserves_read t).bind ?_
    intro v
    split
    · exact preserves_map _
        (preserves_insertAt hKept pass a i t)
    · exact preserves_pure P _
  · intro found
    cases found with
    | some r => exact preserves_pure P _
    | none => exact preserves_append hKept pass a t

theorem preserves_insertSortedUnique
    (lt : T → T → Bool)
    (pass : Pass)
    (a : KArray)
    (t : Ref T) :
    Preserves P
      (insertSortedUnique I lt pass a t) := by
  unfold insertSortedUnique
  refine (preserves_searchLoop _ _ _ ?_ _ _).bind ?_
  · intro i
    refine (preserves_readAt a.p i).bind ?_
    intro x
    refine (preserves_read t).bind ?_
    intro v
    split
    · split
      · exact preserves_map _
          (preserves_insertAt hKept pass a i t)
      · exact preserves_pure P _
    · exact preserves_pure P _
  · intro found
    cases found with
    | some r => exact preserves_pure P _
    | none => exact preserves_append hKept pass a t

theorem preserves_eraseAt
    (a : KArray)
    (index : Nat) :
    Preserves P (eraseAt I a index) := by
  unfold eraseAt
  split
  · exact preserves_throw P _
  · refine (hKept.destroy a.p index).bind ?_
    intro _
    refine (preserves_moveElements hKept a _ _ _).bind ?_
    intro _
    exact preserves_pure P _

end Members

end KArray

end CxPlat

------------------------------------------------------------
-- Runs
------------------------------------------------------------

namespace CxPlat

namespace KArray

open Comp

variable {T : Type} {P : Heap T → Prop}

theorem preserves_onHeap
    {β : Type}
    {c : Code T β}
    (hCode : Preserves P c) :
    Preserves (fun w : World T => P w.heap) (onHeap c) := by
  intro w r w' hExec hBefore
  rw [exec_onHeap] at hExec
  cases hRun : exec c w.heap with
  | error e =>
      rw [hRun] at hExec
      cases hExec
  | ok res =>
      rw [hRun] at hExec
      cases hExec
      exact hCode w.heap res.1 res.2 hRun hBefore

theorem preserves_find
    (x : Nat) :
    Preserves (fun w : World T => P w.heap)
      (find x) := by
  unfold find
  refine (preserves_get _).bind ?_
  intro w
  cases w.arrays x with
  | unborn => exact preserves_throw _ _
  | alive a => exact preserves_pure _ a
  | gone => exact preserves_throw _ _

theorem preserves_store
    (x : Nat)
    (s : Life KArray) :
    Preserves (fun w : World T => P w.heap)
      (store x s) :=
  preserves_modify (fun _ hBefore => hBefore)

theorem preserves_resolve
    (t : Arg T) :
    Preserves (fun w : World T => P w.heap) t.resolve := by
  cases t with
  | value v => exact preserves_pure _ _
  | element y i =>
      unfold Arg.resolve
      refine (preserves_find y).bind ?_
      intro b
      split
      · exact preserves_throw _ _
      · exact preserves_pure _ _

theorem preserves_callBool
    (x : Nat)
    {k : KArray → Code T (Bool × KArray)}
    (hCode : ∀ a, Preserves P (k a)) :
    Preserves (fun w : World T => P w.heap) (callBool x k) := by
  unfold callBool
  refine (preserves_find x).bind ?_
  intro a
  refine (preserves_onHeap (hCode a)).bind ?_
  intro r
  refine (preserves_store x _).bind ?_
  intro _
  exact preserves_pure _ _

theorem preserves_callVoid
    (x : Nat)
    {k : KArray → Code T KArray}
    (hCode : ∀ a, Preserves P (k a)) :
    Preserves (fun w : World T => P w.heap) (callVoid x k) := by
  unfold callVoid
  refine (preserves_find x).bind ?_
  intro a
  refine (preserves_onHeap (hCode a)).bind ?_
  intro r
  refine (preserves_store x _).bind ?_
  intro _
  exact preserves_pure _ _

/- One call. -/
theorem preserves_step
    {I : Instantiation T}
    (hKept : Kept I P)
    (op : Op T) :
    Preserves (fun w : World T => P w.heap) (step I op) := by
  cases op with
  | construct x =>
      exact (preserves_store x _).bind
        (fun _ => preserves_pure _ _)
  | reserve x count =>
      exact preserves_callBool x
        (fun a => preserves_reserve hKept a count)
  | resize x count =>
      exact preserves_callBool x
        (fun a => preserves_resize hKept a count)
  | clear x =>
      exact preserves_callVoid x
        (fun a => (preserves_resize hKept a 0).bind
          (fun _ => preserves_pure _ _))
  | append x pass t =>
      exact (preserves_resolve t).bind (fun r =>
        preserves_callBool x
          (fun a => preserves_append hKept pass a r))
  | pushBack x t =>
      exact (preserves_resolve t).bind (fun r =>
        preserves_callBool x
          (fun a => preserves_append hKept .copy a r))
  | popBack x =>
      exact preserves_callVoid x
        (fun a => (preserves_resize hKept a _).bind
          (fun _ => preserves_pure _ _))
  | insertAt x index pass t =>
      exact (preserves_resolve t).bind (fun r =>
        preserves_callBool x (fun a =>
          preserves_insertAt hKept pass a index r))
  | insertSorted x lt pass t =>
      exact (preserves_resolve t).bind (fun r =>
        preserves_callBool x (fun a =>
          preserves_insertSorted hKept lt pass a r))
  | insertSortedUnique x lt pass t =>
      exact (preserves_resolve t).bind (fun r =>
        preserves_callBool x (fun a =>
          preserves_insertSortedUnique hKept lt pass
            a r))
  | eraseAt x index =>
      exact preserves_callVoid x
        (fun a => preserves_eraseAt hKept a index)
  | moveConstruct x y =>
      refine (preserves_find y).bind ?_
      intro rhs
      refine (preserves_store x _).bind ?_
      intro _
      refine (preserves_store y _).bind ?_
      intro _
      exact preserves_pure _ _
  | moveAssign x y =>
      refine (preserves_find x).bind ?_
      intro a
      refine (preserves_find y).bind ?_
      intro rhs
      refine (preserves_onHeap
        ((preserves_reset hKept a).bind
          (fun _ => preserves_pure _ _))).bind ?_
      intro r
      refine (preserves_store x _).bind ?_
      intro _
      refine (preserves_store y _).bind ?_
      intro _
      exact preserves_pure _ _
  | destruct x =>
      refine (preserves_find x).bind ?_
      intro a
      refine (preserves_onHeap
        (preserves_reset hKept a)).bind ?_
      intro _
      refine (preserves_store x _).bind ?_
      intro _
      exact preserves_pure _ _

/- Whole runs, by induction on the program. -/
theorem preserves_run
    {I : Instantiation T}
    (hKept : Kept I P)
    (ops : List (Op T)) :
    Preserves (fun w : World T => P w.heap) (run I ops) := by
  induction ops with
  | nil => exact preserves_pure _ _
  | cons op ops ih =>
      unfold run
      refine (preserves_step hKept op).bind ?_
      intro r
      refine ih.bind ?_
      intro rs
      exact preserves_pure _ _

end KArray

end CxPlat
