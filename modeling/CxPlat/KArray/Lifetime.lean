import CxPlat.KArray.Kept

/-
  Object lifetimes, for element types with a destructor.

  Each constructor call has a position in the log, and a live
  slot knows the position of the call that made its object.
  The ledger says that the two agree: an object that is in a
  slot has not been destroyed, and any other object has been
  destroyed exactly once.  It is kept by every primitive, so
  by every run that does not fault.

  Key definitions include:
    * `destroyedCount`
    * `Ledger`

  Key theorems include:
    * `preserves_constructAt`, `preserves_destroyAt`
    * `kept_ledger`
    * `run_keeps_lifetimes`
-/

------------------------------------------------------------
-- The Ledger
------------------------------------------------------------

namespace CxPlat

namespace KArray

/- The event destroys the object of constructor call `k`. -/
def LifeEvent.destroys
    (k : Nat) : LifeEvent → Bool
  | .constructed _ _ => false
  | .destroyed _ _ born => born == k

/- How often the object of constructor call `k` is destroyed. -/
def destroyedCount
    (log : List LifeEvent)
    (k : Nat) : Nat :=
  log.countP (LifeEvent.destroys k)

@[simp] theorem destroyedCount_constructed
    (log : List LifeEvent)
    (b i k : Nat) :
    destroyedCount (log ++ [.constructed b i]) k =
      destroyedCount log k := by
  unfold destroyedCount
  simp [LifeEvent.destroys]

theorem destroyedCount_destroyed
    (log : List LifeEvent)
    (b i j k : Nat) :
    destroyedCount (log ++ [.destroyed b i j]) k =
      destroyedCount log k + (if j = k then 1 else 0) := by
  unfold destroyedCount
  by_cases hEq : j = k
  · simp [LifeEvent.destroys, hEq]
  · simp [LifeEvent.destroys, hEq]

/- An entry of a log with one more event is old or that. -/
theorem getElem?_append_event
    {log : List LifeEvent}
    {e f : LifeEvent}
    {k : Nat}
    (hLog : (log ++ [e])[k]? = some f) :
    log[k]? = some f ∨ k = log.length ∧ e = f := by
  rw [List.getElem?_append] at hLog
  split at hLog
  · exact Or.inl hLog
  · rw [List.getElem?_singleton] at hLog
    split at hLog
    · right
      cases hLog
      constructor
      · omega
      · rfl
    · contradiction

/- And an old entry stays. -/
theorem getElem?_append_old
    {log : List LifeEvent}
    {f : LifeEvent}
    {k : Nat}
    (e : LifeEvent)
    (hLog : log[k]? = some f) :
    (log ++ [e])[k]? = some f := by
  rw [List.getElem?_append_left
    (List.getElem?_eq_some_iff.mp hLog).1]
  exact hLog

variable {T : Type}

/- The log and the slots agree on which objects there are. -/
structure Ledger
    (h : Heap T) : Prop where
  fresh : h.Fresh
  tidy : ∀ b i, h.capacity b ≤ i → h.slot b i = .raw
  born :
    ∀ b i k v, h.slot b i = .live k v →
      h.log[k]? = some (.constructed b i) ∧
        destroyedCount h.log k = 0
  settled :
    ∀ b i k, h.log[k]? = some (.constructed b i) →
      destroyedCount h.log k = 1 ∨
        ∃ v, h.slot b i = .live k v
  past :
    ∀ k, h.log.length ≤ k → destroyedCount h.log k = 0

namespace Ledger

variable {h : Heap T}

theorem empty
    (oracle : Nat → Bool) :
    Ledger (Heap.empty oracle : Heap T) where
  fresh := fun _ _ => rfl
  tidy := fun _ _ _ => rfl
  born := by
    intro b i k v hLive
    cases hLive
  settled := by
    intro b i k hLog
    cases hLog
  past := fun _ _ => rfl

/- A new object in a raw slot. -/
theorem construct
    {b i : Nat}
    (v : T)
    (hLedger : Ledger h)
    (hBound : i < h.capacity b)
    (hRaw : h.slot b i = .raw) :
    Ledger ((h.put b i (.live h.log.length v)).note
      (.constructed b i)) where
  fresh := hLedger.fresh
  tidy := by
    intro c j hLe
    rw [Heap.note_slot, Heap.put_slot_of_ne]
    · exact hLedger.tidy c j hLe
    · by_cases hEq : c = b
      · subst hEq
        right
        simp only [Heap.note_capacity,
          Heap.put_capacity] at hLe
        omega
      · exact Or.inl hEq
  born := by
    intro c j k u hLive
    simp only [Heap.note_slot, Heap.note_log,
      Heap.put_log, destroyedCount_constructed] at hLive ⊢
    by_cases hHere : c = b ∧ j = i
    · rcases hHere with ⟨hC, hJ⟩
      subst hC
      subst hJ
      rw [Heap.put_slot_self] at hLive
      cases hLive
      refine ⟨?_, hLedger.past _ (Nat.le_refl _)⟩
      simp
    · rw [Heap.put_slot_of_ne _ _ (not_and_or.mp hHere)]
        at hLive
      rcases hLedger.born c j k u hLive with
        ⟨hLog, hNone⟩
      exact ⟨getElem?_append_old _ hLog, hNone⟩
  settled := by
    intro c j k hLog
    simp only [Heap.note_slot, Heap.note_log,
      Heap.put_log, destroyedCount_constructed] at hLog ⊢
    rcases getElem?_append_event hLog with
      hOld | ⟨hNew, hEvent⟩
    · rcases hLedger.settled c j k hOld with
        hOnce | ⟨u, hLive⟩
      · exact Or.inl hOnce
      · refine Or.inr ⟨u, ?_⟩
        rw [Heap.put_slot_of_ne]
        · exact hLive
        · by_cases hC : c = b
          · right
            intro hJ
            subst hC
            subst hJ
            rw [hRaw] at hLive
            cases hLive
          · exact Or.inl hC
    · subst hNew
      cases hEvent
      exact Or.inr ⟨v, Heap.put_slot_self ..⟩
  past := by
    intro k hLe
    simp only [Heap.note_log, Heap.put_log,
      List.length_append, List.length_singleton,
      destroyedCount_constructed] at hLe ⊢
    exact hLedger.past k (by omega)

/- The object in a live slot goes. -/
theorem destroy
    {b i k : Nat}
    {v : T}
    (hLedger : Ledger h)
    (hLive : h.slot b i = .live k v) :
    Ledger ((h.put b i .raw).note
      (.destroyed b i k)) := by
  rcases hLedger.born b i k v hLive with ⟨hBorn, hNone⟩
  have hPast : k < h.log.length :=
    (List.getElem?_eq_some_iff.mp hBorn).1
  exact
    { fresh := hLedger.fresh
      tidy := by
        intro c j hLe
        rw [Heap.note_slot, Heap.put_slot]
        split
        · rfl
        · exact hLedger.tidy c j hLe
      born := by
        intro c j l u hOther
        simp only [Heap.note_slot, Heap.note_log,
          Heap.put_log, destroyedCount_destroyed]
          at hOther ⊢
        rw [Heap.put_slot] at hOther
        split at hOther
        next => cases hOther
        next hNot =>
          rcases hLedger.born c j l u hOther with
            ⟨hLog, hZero⟩
          -- Two slots never hold the same object.
          have hNe : k ≠ l := by
            intro hEq
            subst hEq
            rw [hBorn] at hLog
            cases hLog
            exact hNot ⟨rfl, rfl⟩
          rw [if_neg hNe, hZero]
          exact ⟨getElem?_append_old _ hLog, rfl⟩
      settled := by
        intro c j l hLog
        simp only [Heap.note_slot, Heap.note_log,
          Heap.put_log, destroyedCount_destroyed] at hLog ⊢
        rcases getElem?_append_event hLog with
          hOld | ⟨_, hEvent⟩
        rotate_left
        · contradiction
        by_cases hEq : k = l
        · subst hEq
          left
          rw [hNone, if_pos rfl]
        · rw [if_neg hEq]
          rcases hLedger.settled c j l hOld with
            hOnce | ⟨u, hOther⟩
          · exact Or.inl hOnce
          · refine Or.inr ⟨u, ?_⟩
            rw [Heap.put_slot, if_neg]
            · exact hOther
            · rintro ⟨hC, hJ⟩
              subst hC
              subst hJ
              rw [hLive] at hOther
              cases hOther
              exact hEq rfl
      past := by
        intro l hLe
        simp only [Heap.note_log, Heap.put_log,
          List.length_append, List.length_singleton,
          destroyedCount_destroyed] at hLe ⊢
        rw [hLedger.past l (by omega), if_neg (by omega)] }

/- A moved-from object is still the same object. -/
theorem moveOut
    {b i k : Nat}
    {v : T}
    (u : T)
    (hLedger : Ledger h)
    (hLive : h.slot b i = .live k v) :
    Ledger (h.put b i (.live k u)) where
  fresh := hLedger.fresh
  tidy := by
    intro c j hLe
    rw [Heap.put_slot, if_neg]
    · exact hLedger.tidy c j hLe
    · rintro ⟨hC, hJ⟩
      subst hC
      subst hJ
      rw [hLedger.tidy c j hLe] at hLive
      cases hLive
  born := by
    intro c j l x hOther
    rw [Heap.put_log]
    rw [Heap.put_slot] at hOther
    split at hOther
    next hHere =>
      cases hOther
      rw [hHere.1, hHere.2]
      exact hLedger.born b i k v hLive
    next => exact hLedger.born c j l x hOther
  settled := by
    intro c j l hLog
    rw [Heap.put_log] at hLog ⊢
    rcases hLedger.settled c j l hLog with
      hOnce | ⟨x, hOther⟩
    · exact Or.inl hOnce
    · right
      rw [Heap.put_slot]
      split
      next hHere =>
        rw [hHere.1, hHere.2, hLive] at hOther
        cases hOther
        exact ⟨u, rfl⟩
      next => exact ⟨x, hOther⟩
  past := hLedger.past

/- A fresh buffer replaces a buffer of raw slots. -/
theorem allocate
    (slots : Nat)
    (hLedger : Ledger h) :
    Ledger (h.allocate slots) := by
  have hNothing : ∀ i, h.slot h.next i = .raw := by
    intro i
    refine hLedger.tidy h.next i ?_
    rw [hLedger.fresh h.next (Nat.le_refl _)]
    exact Nat.zero_le i
  have hSlots : (h.allocate slots).slot = h.slot := by
    funext c i
    by_cases hEq : c = h.next
    · subst hEq
      rw [hNothing i]
      simp [Heap.allocate]
    · rw [h.allocate_slot_of_ne slots hEq]
  exact
    { fresh := hLedger.fresh.allocate slots
      tidy := by
        intro c i hLe
        rw [hSlots]
        by_cases hEq : c = h.next
        · subst hEq
          exact hNothing i
        · rw [h.allocate_capacity_of_ne slots hEq] at hLe
          exact hLedger.tidy c i hLe
      born := by
        rw [hSlots]
        exact hLedger.born
      settled := by
        rw [hSlots]
        exact hLedger.settled
      past := hLedger.past }

/- A buffer can go once its slots are raw. -/
theorem release
    {b : Nat}
    (hLedger : Ledger h)
    (hRaw :
      ∀ i, i < h.capacity b → (h.slot b i).isLive = false) :
    Ledger (h.release b) where
  fresh := hLedger.fresh.release b
  tidy := by
    intro c i hLe
    rw [Heap.release_slot]
    by_cases hEq : c = b
    · subst hEq
      by_cases hLt : i < h.capacity c
      · exact Slot.eq_raw_of_not_isLive (hRaw i hLt)
      · exact hLedger.tidy c i (by omega)
    · rw [h.release_capacity_of_ne hEq] at hLe
      exact hLedger.tidy c i hLe
  born := hLedger.born
  settled := hLedger.settled
  past := hLedger.past

theorem refuse
    (hLedger : Ledger h) :
    Ledger h.refuse where
  fresh := hLedger.fresh
  tidy := hLedger.tidy
  born := hLedger.born
  settled := hLedger.settled
  past := hLedger.past

end Ledger

end KArray

end CxPlat

------------------------------------------------------------
-- Primitives
------------------------------------------------------------

namespace CxPlat

namespace KArray

open Comp

variable {T : Type}

theorem preserves_constructAt
    {I : Instantiation T}
    (hDestructor : I.triviallyDestructible = false)
    (p : Pointer)
    (i : Nat)
    (v : T) :
    Preserves Ledger (constructAt I p i v) := by
  intro h r t hExec hLedger
  rcases exec_constructAt_ok hExec
    with ⟨b, hBound, hFree, rfl⟩
  rw [hDestructor, Bool.not_false, Bool.and_true] at hFree
  exact hLedger.construct v hBound
    (Slot.eq_raw_of_not_isLive hFree)

theorem preserves_destroyAt
    (p : Pointer)
    (i : Nat) :
    Preserves (Ledger (T := T)) (destroyAt p i) := by
  intro h r t hExec hLedger
  rcases exec_destroyAt_ok hExec with ⟨b, k, v, hSlot, rfl⟩
  exact hLedger.destroy hSlot

theorem preserves_moveOutAt
    (I : Instantiation T)
    (p : Pointer)
    (i : Nat) :
    Preserves Ledger (moveOutAt I p i) := by
  intro h v t hExec hLedger
  rcases exec_moveOutAt_ok hExec with ⟨b, k, hSlot, rfl⟩
  exact hLedger.moveOut _ hSlot

theorem preserves_exAllocatePoolUninitialized
    (I : Instantiation T)
    (bytes : Nat) :
    Preserves Ledger
      (exAllocatePoolUninitialized I bytes) := by
  intro h r t hExec hLedger
  rcases exec_exAllocatePoolUninitialized_ok hExec
    with rfl | rfl
  · exact hLedger.allocate _
  · exact hLedger.refuse

theorem preserves_exFreePoolWithTag
    {I : Instantiation T}
    (hDestructor : I.triviallyDestructible = false)
    (p : Pointer) :
    Preserves Ledger (exFreePoolWithTag I p) := by
  intro h r t hExec hLedger
  rcases exec_exFreePoolWithTag_ok hExec
    with ⟨b, hClear, rfl⟩
  exact hLedger.release (hClear hDestructor)

/-
  Element types with a destructor and a copy or move
  constructor that has to be run.
-/
structure Managed
    (I : Instantiation T) : Prop where
  copies : I.triviallyCopyable = false
  destructor : I.triviallyDestructible = false

/- Their default constructor has to be run as well. -/
theorem Managed.default
    {I : Instantiation T}
    (hManaged : Managed I) :
    I.triviallyDefaultConstructible = false := by
  cases hDefault : I.triviallyDefaultConstructible with
  | false => rfl
  | true =>
      have hTrivial := I.destructible_of_default hDefault
      rw [hManaged.destructor] at hTrivial
      cases hTrivial

/- So no bytes are copied or set to zero for them. -/
theorem kept_ledger
    {I : Instantiation T}
    (hManaged : Managed I) :
    Kept I Ledger where
  construct := preserves_constructAt hManaged.destructor
  destroy := preserves_destroyAt
  moveOut := preserves_moveOutAt I
  allocate := preserves_exAllocatePoolUninitialized I
  release := preserves_exFreePoolWithTag hManaged.destructor
  copy := by
    intro hTrivial
    rw [hManaged.copies] at hTrivial
    cases hTrivial
  zero := by
    intro hTrivial
    rw [hManaged.default] at hTrivial
    cases hTrivial

end KArray

end CxPlat

------------------------------------------------------------
-- Runs
------------------------------------------------------------

namespace CxPlat

namespace KArray

open Comp

variable {T : Type}

/- The ledger of the pool of a world. -/
def World.Ledger
    (w : World T) : Prop :=
  KArray.Ledger w.heap

/- In an array, the live slots are those of its elements. -/
theorem Holds.isLive_iff
    {I : Instantiation T}
    {h : Heap T}
    {a : KArray}
    {xs : List T}
    {b i : Nat}
    (hHolds : Holds I h a xs)
    (hManaged : Managed I)
    (hLedger : Ledger h)
    (hPointer : a.p = some b) :
    (h.slot b i).isLive = true ↔ i < a.numElements := by
  have hCount := hHolds.count
  have hSize := hHolds.size b hPointer
  constructor
  · intro hLive
    by_contra hNot
    have hRaw : (h.slot b i).isLive = false := by
      by_cases hInside : i < a.bufferSize
      · exact isLive_eq_false_of_val
          (hHolds.spare hManaged.destructor b hPointer i
            (by omega) hInside)
      · rw [hLedger.tidy b i (by omega)]
        rfl
    rw [hRaw] at hLive
    cases hLive
  · intro hLt
    exact isLive_of_val
      (hHolds.live hPointer (by omega : i < xs.length))

/- A live slot is an element of an array that is alive. -/
theorem Represents.live_owned
    {I : Instantiation T}
    {w : World T}
    {σ : Lists T}
    {b i : Nat}
    (hRep : Represents I w σ)
    (hManaged : Managed I)
    (hLedger : w.Ledger)
    (hLive : (w.heap.slot b i).isLive = true) :
    ∃ x a, w.arrays x = .alive a ∧ a.p = some b ∧
      i < a.numElements := by
  have hAllocated : w.heap.capacity b ≠ 0 := by
    intro hZero
    rw [hLedger.tidy b i (by omega)] at hLive
    cases hLive
  rcases hRep.owned b hAllocated with
    ⟨x, a, hAlive, hPointer⟩
  rcases hRep.holds hAlive with ⟨xs, _, hHolds⟩
  exact ⟨x, a, hAlive, hPointer,
    (hHolds.isLive_iff hManaged hLedger hPointer).mp hLive⟩

/- Array `x` has had buffer `b` between two calls. -/
def HeldBuffer
    (I : Instantiation T)
    (oracle : Nat → Bool)
    (ops : List (Op T))
    (x b : Nat) : Prop :=
  ∃ n rs w a,
    exec (run I (ops.take n)) (World.start oracle) =
        .ok (rs, w) ∧
      w.arrays x = .alive a ∧ a.p = some b

/-
  Lifetimes in every allowed program, under every pattern of
  allocation outcomes.  That there is a final world says that
  no constructor ran on a live slot and no destructor or read
  on a raw one.
-/
theorem run_keeps_lifetimes
    (I : Instantiation T)
    (hManaged : Managed I)
    (oracle : Nat → Bool)
    (ops : List (Op T))
    (hAllowed : AllowedRun I (World.start oracle) ops) :
    ∃ rs w,
      exec (run I ops) (World.start oracle) = .ok (rs, w) ∧
      (∀ x a b i, w.arrays x = .alive a → a.p = some b →
        ((w.heap.slot b i).isLive = true ↔
          i < a.numElements)) ∧
      (∀ b i k,
        w.heap.log[k]? = some (.constructed b i) →
          destroyedCount w.heap.log k = 1 ∨
            destroyedCount w.heap.log k = 0 ∧
              ∃ x a, w.arrays x = .alive a ∧
                a.p = some b ∧ i < a.numElements) ∧
      (∀ b i k,
        w.heap.log[k]? = some (.constructed b i) →
          (∀ x, HeldBuffer I oracle ops x b →
            w.arrays x = .gone) →
          destroyedCount w.heap.log k = 1) := by
  rcases returns_run (Represents.start I oracle)
    hAllowed with ⟨rs, w, hExec, _, hRep⟩
  have hLedger : w.Ledger :=
    preserves_run (kept_ledger hManaged) ops _ rs w hExec
      (Ledger.empty oracle)
  have hOnce :
      ∀ b i k,
        w.heap.log[k]? = some (.constructed b i) →
          destroyedCount w.heap.log k = 1 ∨
            destroyedCount w.heap.log k = 0 ∧
              ∃ x a, w.arrays x = .alive a ∧
                a.p = some b ∧ i < a.numElements := by
    intro b i k hBorn
    rcases hLedger.settled b i k hBorn with
      hGone | ⟨v, hLive⟩
    · exact Or.inl hGone
    · right
      refine ⟨(hLedger.born b i k v hLive).2, ?_⟩
      exact hRep.live_owned hManaged hLedger (by
        rw [hLive]
        rfl)
  refine ⟨rs, w, hExec, ?_, hOnce, ?_⟩
  · intro x a b i hAlive hPointer
    rcases hRep.holds hAlive with ⟨xs, _, hHolds⟩
    exact hHolds.isLive_iff hManaged hLedger hPointer
  · intro b i k hBorn hGone
    rcases hOnce b i k hBorn with
      hDone | ⟨_, x, a, hAlive, hPointer, _⟩
    · exact hDone
    · -- The array that still has the buffer is not gone.
      have hNot := hGone x
        ⟨ops.length, rs, w, a,
          by rw [List.take_length]; exact hExec,
          hAlive, hPointer⟩
      rw [hAlive] at hNot
      cases hNot

theorem run_keeps_lifetimes_handleProgram :
    Managed handleType ∧
      ∃ rs w,
        exec (run handleType handleProgram)
          (World.start (fun n => n != 1)) = .ok (rs, w) ∧
        ∀ b i k,
          w.heap.log[k]? = some (.constructed b i) →
            (∀ x, HeldBuffer handleType (fun n => n != 1)
              handleProgram x b → w.arrays x = .gone) →
            destroyedCount w.heap.log k = 1 := by
  have hManaged : Managed handleType := ⟨rfl, rfl⟩
  refine ⟨hManaged, ?_⟩
  rcases run_keeps_lifetimes handleType hManaged
    (fun n => n != 1) handleProgram (by decide) with
    ⟨rs, w, hExec, _, _, hOnce⟩
  exact ⟨rs, w, hExec, hOnce⟩

/- An array is given one of its own elements to insert. -/
def selfInsert : List (Op Nat) :=
  [.construct 0, .append 0 .copy (.value 5),
    .insertAt 0 0 .move (.element 0 0)]

/-
  By the time the argument is read its slot is raw: the
  element has been shifted up and destroyed.
-/
theorem selfInsert_reads_raw :
    exec (run handleType selfInsert)
        (World.start (fun _ => true)) =
      .error .readOfRaw := by
  rfl

end KArray

end CxPlat
