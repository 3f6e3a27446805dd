import CxPlat.Lib.Watch
import CxPlat.KArray.Kept

/-
  `KArray::moveElements` under observation.

  The watched version is the same code with all its `ULONG`
  arithmetic checked for wrap-around, with every move checked
  to read a slot that the call has not changed yet, and with
  every construction checked to be on a raw slot, whatever
  the element type.  What it returns the code returns.

  Key definitions include:
    * `Alarm`, `Watch`
    * `watchedMove`, `watchedDestroy`
    * `watchedMoveElements`
    * `Progress`

  Key theorems include:
    * `tracks_watchedMoveElements`
    * `Progress.returns_watchedMove`
    * `Progress.returns_watchedDestroy`
-/

------------------------------------------------------------
-- The Watched Code
------------------------------------------------------------

namespace CxPlat

namespace KArray

/- What stops a watched run. -/
inductive Alarm where
  | fault (f : Fault)
  | wrapped
  | readOfTouched
  | constructOnLive
deriving DecidableEq, Repr

/-
  The heap, and the indices of the slots that have been
  constructed, moved from or destroyed.
-/
structure Watch (T : Type) where
  heap : Heap T
  touched : List Nat

abbrev Watched (T : Type) :=
  Comp Alarm (Watch T)

variable {T : Type}

/- Run plain code. -/
def watch
    {α : Type}
    (c : Code T α) : Watched T α :=
  Comp.embed .fault Watch.heap
    (fun w h => { w with heap := h }) c

def touch
    (i : Nat) : Watched T Unit :=
  modify (fun w => { w with touched := i :: w.touched })

/- `ULONG` addition. -/
def watchedAdd
    (x y : Nat) : Watched T Nat :=
  if ulongAdd x y = x + y then pure (ulongAdd x y)
  else throw .wrapped

/- `ULONG` subtraction. -/
def watchedSub
    (x y : Nat) : Watched T Nat :=
  if ulongSub x y + y = x then pure (ulongSub x y)
  else throw .wrapped

def liveAt
    (h : Heap T)
    (p : Pointer)
    (i : Nat) : Bool :=
  p.any (fun b => (h.slot b i).isLive)

/- `new (addressof(p[i])) T(cxplatstd::move(p[j]))`. -/
def watchedMove
    (I : Instantiation T)
    (p : Pointer)
    (i j : Nat) : Watched T Unit := do
  Comp.check .readOfTouched (fun w => !w.touched.contains j)
  Comp.check .constructOnLive
    (fun w => !liveAt w.heap p i)
  watch (moveConstructAt I p i p j)
  touch i
  touch j

/- `p[i].~T()`. -/
def watchedDestroy
    (p : Pointer)
    (i : Nat) : Watched T Unit := do
  watch (destroyAt p i)
  touch i

def watchedLoop
    (cond : Nat → Watched T Bool)
    (next : Nat → Watched T Nat)
    (body : Nat → Watched T Unit)
    (i : Nat) : Watched T Nat :=
  Comp.whileLoop (.fault .endlessLoop) cond next body
    (2 ^ 32) i

/- In `moveElements`: the loops for `from < to`. -/
def watchedRight
    (I : Instantiation T)
    (a : KArray)
    (source target number : Nat) : Watched T Unit := do
  let sum ← watchedAdd source number
  if a.numElements ≠ sum then
    throw (.fault .assertFailed)
  else do
    let delta ← watchedSub target source
    let start ← watchedAdd target number
    let i ← watchedLoop
      (fun i => do
        let k ← watchedSub i 1
        pure (k ≥ a.numElements))
      (fun i => watchedSub i 1)
      (fun i => do
        let k ← watchedSub i 1
        let j ← watchedSub i delta
        let j ← watchedSub j 1
        watchedMove I a.p k j)
      start
    let i ← watchedLoop
      (fun i => pure (i > target))
      (fun i => watchedSub i 1)
      (fun i => do
        let k ← watchedSub i 1
        watchedDestroy a.p k
        let k ← watchedSub i 1
        let j ← watchedSub i delta
        let j ← watchedSub j 1
        watchedMove I a.p k j)
      i
    let _ ← watchedLoop
      (fun i => pure (i > source))
      (fun i => watchedSub i 1)
      (fun i => do
        let k ← watchedSub i 1
        watchedDestroy a.p k)
      i

/- In `moveElements`: the loops for `to < from`. -/
def watchedLeft
    (I : Instantiation T)
    (a : KArray)
    (source target number : Nat) : Watched T Unit := do
  let sum ← watchedAdd source number
  if a.numElements ≠ sum then
    throw (.fault .assertFailed)
  else do
    let delta ← watchedSub source target
    let i ← watchedLoop
      (fun i => pure (i < source))
      (fun i => watchedAdd i 1)
      (fun i => do
        let j ← watchedAdd i delta
        watchedMove I a.p i j)
      target
    let i ← watchedLoop
      (fun i => do
        let stop ← watchedAdd target number
        pure (i < stop))
      (fun i => watchedAdd i 1)
      (fun i => do
        watchedDestroy a.p i
        let j ← watchedAdd i delta
        watchedMove I a.p i j)
      i
    let _ ← watchedLoop
      (fun i => do
        let stop ← watchedAdd source number
        pure (i < stop))
      (fun i => watchedAdd i 1)
      (fun i => watchedDestroy a.p i)
      i

/- `moveElements`. -/
def watchedMoveElements
    (I : Instantiation T)
    (a : KArray)
    (source target number : Nat) : Watched T Unit :=
  if source = target ∨ number = 0 then
    pure ()
  else if I.triviallyCopyable then
    watch (copySlots a.p target a.p source
      (slotsOf I number))
  else if source < target then
    watchedRight I a source target number
  else
    watchedLeft I a source target number

end KArray

end CxPlat

------------------------------------------------------------
-- It Is the Same Code
------------------------------------------------------------

namespace CxPlat

namespace KArray

open Comp

variable {T : Type}

theorem tracks_watch
    {α : Type}
    (c : Code T α) :
    Tracks Watch.heap (watch c) c :=
  tracks_embed _ (fun _ _ => rfl) c

theorem tracks_touch
    (i : Nat) :
    Tracks Watch.heap (touch i : Watched T Unit)
      (pure () : Code T Unit) :=
  tracks_modify (fun _ => rfl)

theorem tracks_watchedAdd
    (x y : Nat) :
    Tracks Watch.heap (watchedAdd x y : Watched T Nat)
      (pure (ulongAdd x y) : Code T Nat) := by
  unfold watchedAdd
  split
  next => exact tracks_pure _
  next => exact tracks_throw _ _

theorem tracks_watchedSub
    (x y : Nat) :
    Tracks Watch.heap (watchedSub x y : Watched T Nat)
      (pure (ulongSub x y) : Code T Nat) := by
  unfold watchedSub
  split
  next => exact tracks_pure _
  next => exact tracks_throw _ _

theorem tracks_watchedMove
    (I : Instantiation T)
    (p : Pointer)
    (i j : Nat) :
    Tracks Watch.heap (watchedMove I p i j)
      (moveConstructAt I p i p j) := by
  unfold watchedMove
  refine (tracks_check _ _).silent_bind ?_
  refine (tracks_check _ _).silent_bind ?_
  refine (tracks_watch _).bind_silent ?_
  intro _
  exact (tracks_touch i).silent_bind (tracks_touch j)

theorem tracks_watchedDestroy
    (p : Pointer)
    (i : Nat) :
    Tracks Watch.heap (watchedDestroy p i : Watched T Unit)
      (destroyAt p i) :=
  (tracks_watch _).bind_silent (fun _ => tracks_touch i)

theorem tracks_watchedLoop
    {cond : Nat → Watched T Bool}
    {next : Nat → Watched T Nat}
    {body : Nat → Watched T Unit}
    {goes : Nat → Bool}
    {step : Nat → Nat}
    {plain : Nat → Code T Unit}
    (hCond :
      ∀ i, Tracks Watch.heap (cond i)
        (pure (goes i) : Code T Bool))
    (hNext :
      ∀ i, Tracks Watch.heap (next i)
        (pure (step i) : Code T Nat))
    (hBody : ∀ i, Tracks Watch.heap (body i) (plain i))
    (i : Nat) :
    Tracks Watch.heap (watchedLoop cond next body i)
      (ulongLoop goes step plain i) :=
  tracks_whileLoop hCond hNext hBody (2 ^ 32) i

/- The indices of one round upwards. -/
theorem tracks_watchedRound
    (I : Instantiation T)
    (p : Pointer)
    (delta i : Nat) :
    Tracks Watch.heap
      (do
        let k ← watchedSub i 1
        let j ← watchedSub i delta
        let j ← watchedSub j 1
        watchedMove I p k j)
      (moveConstructAt I p (ulongSub i 1) p
        (ulongSub (ulongSub i delta) 1)) := by
  refine (tracks_watchedSub _ _).silent_bind ?_
  refine (tracks_watchedSub _ _).silent_bind ?_
  refine (tracks_watchedSub _ _).silent_bind ?_
  exact tracks_watchedMove I p _ _

/- A run that raises no alarm is a run of the code. -/
theorem tracks_watchedMoveElements
    (I : Instantiation T)
    (a : KArray)
    (source target number : Nat) :
    Tracks Watch.heap
      (watchedMoveElements I a source target number)
      (moveElements I a source target number) := by
  unfold watchedMoveElements moveElements
  refine tracks_ite (fun _ => tracks_pure ()) (fun _ => ?_)
  refine tracks_ite (fun _ => tracks_watch _) (fun _ => ?_)
  refine tracks_ite (fun _ => ?_) (fun _ => ?_)
  · unfold watchedRight
    refine (tracks_watchedAdd _ _).silent_bind ?_
    refine tracks_ite (fun _ => tracks_throw _ _)
      (fun _ => ?_)
    refine (tracks_watchedSub _ _).silent_bind ?_
    refine (tracks_watchedAdd _ _).silent_bind ?_
    refine (tracks_watchedLoop ?_
      (fun _ => tracks_watchedSub _ _)
      (fun _ => tracks_watchedRound I a.p _ _) _).bind ?_
    · intro i
      exact (tracks_watchedSub _ _).silent_bind
        (tracks_pure _)
    intro i
    refine (tracks_watchedLoop (fun _ => tracks_pure _)
      (fun _ => tracks_watchedSub _ _) ?_ _).bind ?_
    · intro i
      refine (tracks_watchedSub _ _).silent_bind ?_
      refine (tracks_watchedDestroy _ _).bind ?_
      intro _
      exact tracks_watchedRound I a.p _ _
    intro i
    refine (tracks_watchedLoop (fun _ => tracks_pure _)
      (fun _ => tracks_watchedSub _ _) ?_ _).bind
      (fun _ => tracks_pure _)
    intro i
    exact (tracks_watchedSub _ _).silent_bind
      (tracks_watchedDestroy _ _)
  · unfold watchedLeft
    refine (tracks_watchedAdd _ _).silent_bind ?_
    refine tracks_ite (fun _ => tracks_throw _ _)
      (fun _ => ?_)
    refine (tracks_watchedSub _ _).silent_bind ?_
    refine (tracks_watchedLoop (fun _ => tracks_pure _)
      (fun _ => tracks_watchedAdd _ _) ?_ _).bind ?_
    · intro i
      exact (tracks_watchedAdd _ _).silent_bind
        (tracks_watchedMove I _ _ _)
    intro i
    refine (tracks_watchedLoop ?_
      (fun _ => tracks_watchedAdd _ _) ?_ _).bind ?_
    · intro i
      exact (tracks_watchedAdd _ _).silent_bind
        (tracks_pure _)
    · intro i
      refine (tracks_watchedDestroy _ _).bind ?_
      intro _
      exact (tracks_watchedAdd _ _).silent_bind
        (tracks_watchedMove I _ _ _)
    intro i
    refine (tracks_watchedLoop ?_
      (fun _ => tracks_watchedAdd _ _)
      (fun _ => tracks_watchedDestroy _ _) _).bind
      (fun _ => tracks_pure _)
    intro i
    exact (tracks_watchedAdd _ _).silent_bind
      (tracks_pure _)

end KArray

end CxPlat

------------------------------------------------------------
-- Steps Without an Alarm
------------------------------------------------------------

namespace CxPlat

namespace KArray

open Comp

variable {T : Type}

theorem finds_watchedAdd
    {x y : Nat}
    (hLt : x + y < 2 ^ 32) :
    Finds (watchedAdd x y : Watched T Nat) (x + y) := by
  intro w
  unfold watchedAdd
  rw [ulongAdd_of_lt hLt, if_pos rfl]
  rfl

theorem finds_watchedSub
    {x y : Nat}
    (hLe : y ≤ x)
    (hLt : x < 2 ^ 32) :
    Finds (watchedSub x y : Watched T Nat) (x - y) := by
  intro w
  unfold watchedSub
  rw [ulongSub_of_le hLe hLt, if_pos (by omega)]
  rfl

/- Moving and destroying change no other slots. -/
theorem preserves_slot_moveOutAt
    (I : Instantiation T)
    {b k : Nat}
    {s : Slot T}
    {p : Pointer}
    {j : Nat}
    (hNe : k ≠ j) :
    Preserves (fun h : Heap T => h.slot b k = s)
      (moveOutAt I p j) := by
  intro h r t hExec hBefore
  rcases exec_moveOutAt_ok hExec with ⟨c, _, -, rfl⟩
  rw [h.put_slot_of_ne _ (Or.inr hNe)]
  exact hBefore

theorem preserves_slot_constructAt
    (I : Instantiation T)
    {b k : Nat}
    {s : Slot T}
    {p : Pointer}
    {i : Nat}
    (v : T)
    (hNe : k ≠ i) :
    Preserves (fun h : Heap T => h.slot b k = s)
      (constructAt I p i v) := by
  intro h r t hExec hBefore
  rcases exec_constructAt_ok hExec with ⟨c, -, -, rfl⟩
  rw [Heap.note_slot, h.put_slot_of_ne _ (Or.inr hNe)]
  exact hBefore

theorem preserves_slot_destroyAt
    {b k : Nat}
    {s : Slot T}
    {p : Pointer}
    {i : Nat}
    (hNe : k ≠ i) :
    Preserves (fun h : Heap T => h.slot b k = s)
      (destroyAt p i) := by
  intro h r t hExec hBefore
  rcases exec_destroyAt_ok hExec with ⟨c, _, _, -, rfl⟩
  rw [Heap.note_slot, h.put_slot_of_ne _ (Or.inr hNe)]
  exact hBefore

/-
  How far a watched run has come since heap `h`: buffer `b`
  holds the values `f`, all slots it has changed are in `P`,
  and all others are as they were.
-/
structure Progress
    (b : Nat)
    (h : Heap T)
    (f : Nat → Option T)
    (P : Nat → Prop)
    (w : Watch T) : Prop where
  rewrites : Rewrites b f h w.heap
  touched : ∀ j ∈ w.touched, P j
  others :
    ∀ j, j ∉ w.touched → w.heap.slot b j = h.slot b j

namespace Progress

variable {b : Nat} {h : Heap T} {w : Watch T}
variable {f g : Nat → Option T} {P R : Nat → Prop}

theorem begin
    (b : Nat)
    (h : Heap T)
    (P : Nat → Prop) :
    Progress b h (h.val b) P
      { heap := h, touched := [] } where
  rewrites := Rewrites.refl b h
  touched := by
    intro j hMem
    cases hMem
  others := fun _ _ => rfl

theorem mono
    (hProgress : Progress b h f P w)
    (hImp : ∀ j, P j → R j) :
    Progress b h f R w where
  rewrites := hProgress.rewrites
  touched := fun j hMem => hImp j (hProgress.touched j hMem)
  others := hProgress.others

/- Slots outside `P` are as they were. -/
theorem untouched
    (hProgress : Progress b h f P w)
    {j : Nat}
    (hNot : ¬ P j) :
    w.heap.slot b j = h.slot b j :=
  hProgress.others j
    (fun hMem => hNot (hProgress.touched j hMem))

/-
  A move raises no alarm if its source is outside `P` and its
  target is raw.
-/
theorem returns_watchedMove
    {I : Instantiation T}
    {i j : Nat}
    (hProgress : Progress b h f P w)
    (hMove :
      Returns (moveConstructAt I (some b) i (some b) j)
        w.heap (fun _ t => Rewrites b g h t))
    (hRaw : f i = none)
    (hFresh : ¬ P j)
    (hMore : ∀ k, P k ∨ k = i ∨ k = j → R k) :
    Returns (watchedMove I (some b) i j) w
      (fun _ u => Progress b h g R u) := by
  have hSource : (!w.touched.contains j) = true := by
    have hNot : j ∉ w.touched :=
      fun hMem => hFresh (hProgress.touched j hMem)
    simpa using hNot
  have hTarget : (!liveAt w.heap (some b) i) = true := by
    rw [← hProgress.rewrites.values] at hRaw
    simp [liveAt, isLive_eq_false_of_val hRaw]
  unfold watchedMove
  rw [returns_bind, returns_check]
  refine ⟨hSource, ?_⟩
  rw [returns_bind, returns_check]
  refine ⟨hTarget, ?_⟩
  refine (returns_embed hMove).bind ?_
  rintro _ u ⟨t, hExec, hRewrites, hUpdate⟩
  subst hUpdate
  unfold touch
  rw [returns_bind, returns_modify, returns_modify]
  exact
    { rewrites := hRewrites
      touched := by
        intro k hMem
        apply hMore
        simp only [List.mem_cons] at hMem
        rcases hMem with hJ | hI | hOld
        · exact Or.inr (Or.inr hJ)
        · exact Or.inr (Or.inl hI)
        · exact Or.inl (hProgress.touched k hOld)
      others := by
        intro k hNot
        simp only [List.mem_cons, not_or] at hNot
        have hKeep :
            Preserves (fun t : Heap T =>
                t.slot b k = h.slot b k)
              (moveConstructAt I (some b) i (some b) j) :=
          (preserves_slot_moveOutAt I hNot.1).bind
            (fun v =>
              preserves_slot_constructAt I v hNot.2.1)
        exact hKeep _ _ _ hExec
          (hProgress.others k hNot.2.2) }

theorem returns_watchedDestroy
    {i : Nat}
    {v : T}
    (hProgress : Progress b h f P w)
    (hBound : i < h.capacity b)
    (hLive : f i = some v)
    (hMore : ∀ k, P k ∨ k = i → R k) :
    Returns (watchedDestroy (some b) i) w
      (fun _ u =>
        Progress b h (Function.update f i none) R u) := by
  have hRewrites := hProgress.rewrites
  have hValues : w.heap.val b = f := funext hRewrites.values
  rw [← hRewrites.capacity] at hBound
  rw [← hValues] at hLive
  have hDestroy := returns_destroyAt hBound hLive
  rw [hValues] at hDestroy
  unfold watchedDestroy
  refine (returns_embed hDestroy).bind ?_
  rintro _ u ⟨t, hExec, hCleared, hUpdate⟩
  subst hUpdate
  unfold touch
  rw [returns_modify]
  exact
    { rewrites := hRewrites.trans hCleared
      touched := by
        intro k hMem
        apply hMore
        rcases List.mem_cons.mp hMem with hNew | hOld
        · exact Or.inr hNew
        · exact Or.inl (hProgress.touched k hOld)
      others := by
        intro k hNot
        simp only [List.mem_cons, not_or] at hNot
        exact preserves_slot_destroyAt hNot.1 _ _ _ hExec
          (hProgress.others k hNot.2) }

end Progress

end KArray

end CxPlat
