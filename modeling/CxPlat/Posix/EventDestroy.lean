import CxPlat.Posix.EventSafety

/-
  Taking a POSIX event down after a wait.

  `CxPlatInternalEventSet` broadcasts while it holds the
  mutex, so a wait comes back only after the thread that set
  the event has given the mutex up, which is the last it does
  with the event.  A thread that waits for the one signal an
  event is ever sent can take the event down when its wait
  has been satisfied.

  Key definitions include:
    * `eventUninitialize`
    * `OneSet`

  Key theorems include:
    * `OneSet.run`
    * `asleep_of_enqueued`
    * `destroy_after_wait`
-/

------------------------------------------------------------
-- Taking an Event Down
------------------------------------------------------------

namespace CxPlat

namespace Posix

variable {Th : Type} [DecidableEq Th]

/- The object whose destruction fails, with `EBUSY`. -/
inductive Busy where
  | condition
  | mutex
deriving DecidableEq, Repr

/-
  `CxPlatInternalEventUninitialize`.  The assertions abort if
  the condition or the mutex is in use.
-/
def eventUninitialize
    (e : Event Th) : Except Busy Unit := do
  if e.cond ≠ [] then
    throw .condition
  if e.owner ≠ none then
    throw .mutex

/- In a call of `CxPlatInternalEventSet`. -/
def Pc.setting : Pc → Bool
  | .setLock | .setStore | .setBroadcast | .setUnlock => true
  | _ => false

/- Before its store to `Signaled`. -/
def Pc.beforeStore : Pc → Bool
  | .setLock | .setStore => true
  | _ => false

/- A call that is not `Set`. -/
def Choice.otherCall : Choice → Bool
  | .reset | .waitForever | .waitWithTimeout => true
  | _ => false

/- The statement a call starts with. -/
def Choice.entry : Choice → Option Pc
  | .set => some .setLock
  | .reset => some .resetLock
  | .waitForever => some (.waitLock false)
  | .waitWithTimeout => some (.waitLock true)
  | .next | .wake _ => none

def isSet
    (move : Th × Choice) : Bool :=
  move.2 = .set

end Posix

end CxPlat

------------------------------------------------------------
-- At Most One Signal
------------------------------------------------------------

namespace CxPlat

namespace Posix

variable {Th : Type} [DecidableEq Th]
variable {e e' : Event Th} {th q : Th} {pc pc' : Pc}
variable {c d : Threads.Config (Event Th) Thread Th}
variable {choice : Choice} {sets : Nat}
variable {manualReset initialState : Bool}
variable {moves : List (Th × Choice)}

/-
  `sets` calls of `Set` have been made.  As long as the only
  one is not over, no wait has taken the signal.
-/
structure OneSet
    (sets : Nat)
    (c : Threads.Config (Event Th) Thread Th) : Prop where
  none :
    sets = 0 →
      (∀ th, (c.locals th).pc.setting = false) ∧
        c.shared.signaled = false ∧ c.shared.taken = 0
  alone :
    sets ≤ 1 → ∀ th q,
      (c.locals th).pc.setting = true →
        (c.locals q).pc.setting = true → th = q
  early :
    sets ≤ 1 → ∀ th,
      (c.locals th).pc.setting = true →
        c.shared.taken = 0 ∧
          ((c.locals th).pc.beforeStore = true →
            c.shared.signaled = false)

/- A thread makes a call, or goes on with one. -/
theorem step_call_or_moves
    (hStep : Threads.step program c (th, choice) = some d) :
    (∀ q, q ≠ th → d.locals q = c.locals q) ∧
      ((c.locals th).pc = .idle ∧ d.shared = c.shared ∧
          choice.entry = some (d.locals th).pc ∨
        (c.locals th).pc ≠ .idle ∧ choice.entry = none) := by
  rcases Threads.step_some hStep with
    ⟨e, l, hProgram, hNext⟩
  subst hNext
  simp only [program] at hProgram
  split at hProgram
  next e' pc' hStatement =>
    cases hProgram
    constructor
    · intro q hNe
      simp only [Function.update_of_ne hNe]
    · simp only [Function.update_self]
      cases hPc : (c.locals th).pc with
      | idle =>
          rw [hPc] at hStatement
          cases choice <;> cases hStatement <;>
            exact Or.inl ⟨rfl, rfl, rfl⟩
      | _ =>
          rw [hPc] at hStatement
          refine Or.inr ⟨by simp, ?_⟩
          cases choice <;> first | rfl | cases hStatement
  next => contradiction

/- No other statement leads into a call of `Set`. -/
theorem Moves.setting
    (hMoves : Moves e th pc e' pc')
    (hBusy : pc ≠ .idle)
    (hSetting : pc'.setting = true) :
    pc.setting = true := by
  cases hMoves with
  | call => exact absurd rfl hBusy
  | lock _ hLocked =>
      cases pc with
      | setLock => rfl
      | resetLock => cases hLocked; contradiction
      | waitLock timed => cases hLocked; contradiction
      | waitRelock timed expired =>
          cases hLocked
          cases expired <;> contradiction
      | _ => contradiction
  | setStore => rfl
  | broadcast => rfl
  | _ => contradiction

/- A call of `Set` goes on until it returns. -/
theorem Moves.setting_or_done
    (hMoves : Moves e th pc e' pc')
    (hSetting : pc.setting = true) :
    pc' = .idle ∨ pc'.setting = true := by
  cases hMoves with
  | lock _ hLocked =>
      cases pc with
      | setLock => cases hLocked; exact Or.inr rfl
      | _ => contradiction
  | setStore => exact Or.inr rfl
  | broadcast => exact Or.inr rfl
  | unlock => exact Or.inl rfl
  | _ => contradiction

theorem Moves.beforeStore
    (hMoves : Moves e th pc e' pc')
    (hBusy : pc ≠ .idle)
    (hBefore : pc'.beforeStore = true) :
    pc.beforeStore = true ∧ e'.signaled = e.signaled := by
  cases hMoves with
  | call => exact absurd rfl hBusy
  | lock _ hLocked =>
      cases pc with
      | setLock => exact ⟨rfl, rfl⟩
      | resetLock => cases hLocked; contradiction
      | waitLock timed => cases hLocked; contradiction
      | waitRelock timed expired =>
          cases hLocked
          cases expired <;> contradiction
      | _ => contradiction
  | _ => contradiction

/- Only a wait takes a signal. -/
theorem Moves.taken_changed
    (hMoves : Moves e th pc e' pc')
    (hChanged : e'.taken ≠ e.taken) :
    ∃ timed, pc = .waitTake timed := by
  cases hMoves with
  | @take timed => exact ⟨timed, rfl⟩
  | @waitUnlock timed satisfied =>
      cases timed <;> cases satisfied <;>
        exact absurd rfl hChanged
  | _ => exact absurd rfl hChanged

theorem beforeStore_setting
    (hBefore : pc.beforeStore = true) :
    pc.setting = true := by
  cases pc <;> first | rfl | contradiction

/- After the store the thread is inside until it is done. -/
theorem setting_inside
    (hSetting : pc.setting = true)
    (hAfter : pc.beforeStore = false) :
    pc.inside = true := by
  cases pc <;> first | rfl | contradiction

theorem entry_setting
    (hCall : choice.otherCall = false)
    (hEntry : choice.entry = some pc) :
    pc.setting = true := by
  cases choice <;> cases hEntry <;> first | rfl | contradiction

theorem set_of_entry_setting
    (hEntry : choice.entry = some pc)
    (hSetting : pc.setting = true) :
    choice = .set := by
  cases choice <;> cases hEntry <;> first | rfl | contradiction

end Posix

end CxPlat

------------------------------------------------------------
-- Steps and Runs
------------------------------------------------------------

namespace CxPlat

namespace Posix

variable {Th : Type} [DecidableEq Th]
variable {e e' : Event Th} {th q : Th} {pc pc' : Pc}
variable {c d : Threads.Config (Event Th) Thread Th}
variable {choice : Choice} {sets : Nat}
variable {manualReset initialState : Bool}
variable {moves : List (Th × Choice)}

/- Where one more call has been made. -/
theorem OneSet.call
    (hOne : OneSet sets c)
    (hOthers : ∀ q, q ≠ th → d.locals q = c.locals q)
    (hShared : d.shared = c.shared)
    (hEntry : choice.entry = some (d.locals th).pc) :
    OneSet (sets + (isSet (th, choice)).toNat) d := by
  have hSetting :
      ∀ q, (d.locals q).pc.setting = true →
        q = th ∧ choice = .set ∨
          (c.locals q).pc.setting = true ∧
            d.locals q = c.locals q := by
    intro q hNow
    by_cases hEq : q = th
    · subst hEq
      exact Or.inl ⟨rfl, set_of_entry_setting hEntry hNow⟩
    · rw [hOthers q hEq] at hNow
      exact Or.inr ⟨hNow, hOthers q hEq⟩
  by_cases hSet : choice = .set
  · -- The first call, so nobody else is in one.
    subst hSet
    constructor
    · intro hZero
      simp [isSet] at hZero
    · intro hLe r q hFirst hSecond
      have hNone := hOne.none (by simp [isSet] at hLe; omega)
      rcases hSetting r hFirst with ⟨hR, _⟩ | ⟨hBusy, _⟩
      · rcases hSetting q hSecond with ⟨hQ, _⟩ | ⟨hBusy, _⟩
        · rw [hR, hQ]
        · rw [hNone.1 q] at hBusy
          cases hBusy
      · rw [hNone.1 r] at hBusy
        cases hBusy
    · intro hLe q _
      have hNone := hOne.none (by simp [isSet] at hLe; omega)
      rw [hShared]
      exact ⟨hNone.2.2, fun _ => hNone.2.1⟩
  · have hCount : sets + (isSet (th, choice)).toNat = sets := by
      simp [isSet, hSet]
    rw [hCount]
    constructor
    · intro hZero
      have hNone := hOne.none hZero
      refine ⟨?_, by rw [hShared]; exact hNone.2⟩
      intro q
      by_contra hNow
      rcases hSetting q (by simpa using hNow)
        with ⟨_, hChoice⟩ | ⟨hBusy, _⟩
      · exact hSet hChoice
      · rw [hNone.1 q] at hBusy
        cases hBusy
    · intro hLe r q hFirst hSecond
      rcases hSetting r hFirst with ⟨_, hChoice⟩ | ⟨hR, _⟩
      · exact absurd hChoice hSet
      rcases hSetting q hSecond with ⟨_, hChoice⟩ | ⟨hQ, _⟩
      · exact absurd hChoice hSet
      exact hOne.alone hLe r q hR hQ
    · intro hLe q hNow
      rcases hSetting q hNow with ⟨_, hChoice⟩ | ⟨hQ, hSame⟩
      · exact absurd hChoice hSet
      rw [hShared, hSame]
      exact hOne.early hLe q hQ

omit [DecidableEq Th] in
/-
  A wait cannot take the signal while a thread is in `Set`:
  before the store there is none, and after it the mutex is
  not free.
-/
theorem not_taking
    (hAnnotated :
      Threads.Annotated
        (Global manualReset initialState) Local c)
    {timed : Bool}
    (hTake : (c.locals th).pc = .waitTake timed)
    (hSetting : (c.locals q).pc.setting = true)
    (hBefore :
      (c.locals q).pc.beforeStore = true →
        c.shared.signaled = false) :
    False := by
  have hInside : (c.locals th).pc.inside = true := by
    rw [hTake]
    rfl
  have hSignaled :=
    ((hAnnotated.2 th).critical hInside).signaled timed hTake
  cases hEarly : (c.locals q).pc.beforeStore with
  | true => simp [hBefore hEarly] at hSignaled
  | false =>
      have hOwner :=
        (hAnnotated.2 th).owns.mp hInside
      have hOther := (hAnnotated.2 q).owns.mp
        (setting_inside hSetting hEarly)
      rw [hOwner] at hOther
      cases hOther
      rw [hTake] at hSetting
      cases hSetting

/- Where a thread has gone on with its call. -/
theorem OneSet.goOn
    (hOne : OneSet sets c)
    (hAnnotated :
      Threads.Annotated
        (Global manualReset initialState) Local c)
    (hOthers : ∀ q, q ≠ th → d.locals q = c.locals q)
    (hBusy : (c.locals th).pc ≠ .idle)
    (hMoves :
      Moves c.shared th (c.locals th).pc
        d.shared (d.locals th).pc) :
    OneSet sets d := by
  have hSetting :
      ∀ q, (d.locals q).pc.setting = true →
        (c.locals q).pc.setting = true := by
    intro q hNow
    by_cases hEq : q = th
    · subst hEq
      exact hMoves.setting hBusy hNow
    · rwa [hOthers q hEq] at hNow
  constructor
  · intro hZero
    rcases hOne.none hZero with ⟨hNobody, hUnsignaled, hNot⟩
    refine ⟨?_, ?_, ?_⟩
    · intro q
      by_contra hNow
      have hBefore := hSetting q (by simpa using hNow)
      rw [hNobody q] at hBefore
      cases hBefore
    · by_contra hSignaled
      have hRaised :=
        hMoves.raised hUnsignaled (by simpa using hSignaled)
      have hBefore := hNobody th
      rw [hRaised.1] at hBefore
      cases hBefore
    · by_contra hTaken
      rcases hMoves.taken_changed (by rwa [hNot])
        with ⟨timed, hTake⟩
      have hInside : (c.locals th).pc.inside = true := by
        rw [hTake]
        rfl
      have hSignaled :=
        ((hAnnotated.2 th).critical hInside).signaled
          timed hTake
      simp [hUnsignaled] at hSignaled
  · intro hLe r q hFirst hSecond
    exact hOne.alone hLe r q (hSetting r hFirst)
      (hSetting q hSecond)
  · intro hLe q hNow
    rcases hOne.early hLe q (hSetting q hNow)
      with ⟨hNot, hBefore⟩
    refine ⟨?_, ?_⟩
    · by_contra hTaken
      rcases hMoves.taken_changed (by rwa [hNot])
        with ⟨timed, hTake⟩
      exact not_taking hAnnotated hTake (hSetting q hNow)
        hBefore
    · intro hEarly
      by_cases hEq : q = th
      · subst hEq
        have hSame := hMoves.beforeStore hBusy hEarly
        rw [hSame.2]
        exact hBefore hSame.1
      · rw [hOthers q hEq] at hEarly
        by_contra hSignaled
        have hRaised := hMoves.raised (hBefore hEarly)
          (by simpa using hSignaled)
        have hStore : (c.locals th).pc.setting = true := by
          rw [hRaised.1]
          rfl
        exact hEq (hOne.alone hLe q th
          (beforeStore_setting hEarly) hStore)

theorem OneSet.step
    (hOne : OneSet sets c)
    (hAnnotated :
      Threads.Annotated
        (Global manualReset initialState) Local c)
    (hStep : Threads.step program c (th, choice) = some d) :
    OneSet (sets + (isSet (th, choice)).toNat) d := by
  rcases step_call_or_moves hStep
    with ⟨hOthers, ⟨_, hShared, hEntry⟩ | ⟨hBusy, hNone⟩⟩
  · exact hOne.call hOthers hShared hEntry
  · have hSet : isSet (th, choice) = false := by
      cases choice <;> first | rfl | cases hNone
    rw [hSet]
    exact hOne.goOn hAnnotated hOthers hBusy
      (step_moves hStep)

/- Along a run, with the calls of `Set` counted. -/
theorem OneSet.run
    (hOne : OneSet sets c)
    (hAnnotated :
      Threads.Annotated
        (Global manualReset initialState) Local c)
    (hRun :
      Transition.run (Threads.step program) c moves =
        some d) :
    OneSet (sets + moves.countP isSet) d := by
  induction moves generalizing sets c with
  | nil =>
      cases hRun
      exact hOne
  | cons move moves ih =>
      rcases Transition.run_cons_some hRun
        with ⟨m, hStep, hRest⟩
      have hNext := ih (hOne.step hAnnotated hStep)
        (outline.step hAnnotated hStep) hRest
      rw [List.countP_cons]
      cases hSet : isSet move with
      | true =>
          simp only [hSet, Bool.toNat_true] at hNext
          rw [Nat.add_right_comm] at hNext
          exact hNext
      | false =>
          simpa [hSet] using hNext

omit [DecidableEq Th] in
theorem oneSet_start :
    OneSet 0
      (start manualReset false :
        Threads.Config (Event Th) Thread Th) where
  none := by
    intro _
    exact ⟨fun _ => rfl, rfl, rfl⟩
  alone := by
    intro _ th q hSetting
    cases hSetting
  early := by
    intro _ th hSetting
    cases hSetting

end Posix

end CxPlat

------------------------------------------------------------
-- Nobody Is Left
------------------------------------------------------------

namespace CxPlat

namespace Posix

variable {Th : Type} [DecidableEq Th]
variable {e e' : Event Th} {th q waiter : Th} {pc pc' : Pc}
variable {c d : Threads.Config (Event Th) Thread Th}
variable {choice : Choice}
variable {manualReset initialState : Bool}
variable {moves : List (Th × Choice)}

/- A thread enters the wait set only to fall asleep. -/
theorem Moves.enqueued_after
    (hMoves : Moves e th pc e' pc')
    (hAfter : q ∈ e'.cond) :
    q = th ∧ (∃ timed, pc' = .waitSleep timed) ∨
      q ∈ e.cond ∧
        (q = th → ∀ timed, pc ≠ .waitSleep timed) := by
  cases hMoves with
  | @sleep timed =>
      rcases List.mem_cons.mp hAfter with hEq | hOld
      · exact Or.inl ⟨hEq, timed, rfl⟩
      · exact Or.inr ⟨hOld, by simp⟩
  | wake =>
      have hOld := List.mem_filter.mp hAfter
      refine Or.inr ⟨hOld.1, ?_⟩
      intro hEq
      simp [hEq] at hOld
  | broadcast => simp at hAfter
  | lock _ hLocked =>
      refine Or.inr ⟨hAfter, ?_⟩
      intro _ timed hPc
      rw [hPc] at hLocked
      cases hLocked
  | unlock hPc =>
      refine Or.inr ⟨hAfter, ?_⟩
      intro _ timed hSleep
      simp [hSleep] at hPc
  | @waitUnlock timed satisfied =>
      refine Or.inr ⟨?_, by simp⟩
      cases timed <;> cases satisfied <;> exact hAfter
  | _ => exact Or.inr ⟨hAfter, by simp⟩

/- Whoever is in the wait set is asleep. -/
theorem asleep_outline :
    Threads.Outline
      (program : Threads.Program (Event Th) Thread Th Choice)
      (fun _ => True)
      (fun e th l => th ∈ e.cond →
        ∃ timed, l.pc = .waitSleep timed) where
  own := by
    intro e th l choice e' l' _ hBefore hProgram
    refine ⟨trivial, ?_⟩
    intro hAfter
    rcases (program_some hProgram).1.enqueued_after hAfter
      with ⟨_, hAsleep⟩ | ⟨hOld, hAwake⟩
    · exact hAsleep
    · rcases hBefore hOld with ⟨timed, hPc⟩
      exact absurd hPc (hAwake rfl timed)
  others := by
    intro e th l choice e' l' q m _ _ hNe hBefore hProgram
      hAfter
    rcases (program_some hProgram).1.enqueued_after hAfter
      with ⟨hEq, _⟩ | ⟨hOld, _⟩
    · exact absurd hEq hNe
    · exact hBefore hOld

theorem asleep_of_enqueued
    (hRun : Reaches manualReset initialState moves c)
    (hMem : th ∈ c.shared.cond) :
    ∃ timed, (c.locals th).pc = .waitSleep timed := by
  have hAnnotated := asleep_outline.run
    ⟨trivial, fun th hStart => by
      simp [start, eventInitialize] at hStart⟩ hRun
  exact hAnnotated.2 th hMem

/- Threads that only ever call `Set` are in it or idle. -/
theorem setting_or_idle
    (hStart :
      ∀ q, q ≠ waiter → (c.locals q).pc = .idle ∨
        (c.locals q).pc.setting = true)
    (hOthers :
      ∀ move ∈ moves, move.2.otherCall = true →
        move.1 = waiter)
    (hRun :
      Transition.run (Threads.step program) c moves =
        some d)
    (hNe : q ≠ waiter) :
    (d.locals q).pc = .idle ∨
      (d.locals q).pc.setting = true := by
  induction moves generalizing c with
  | nil =>
      cases hRun
      exact hStart q hNe
  | cons move moves ih =>
      rcases Transition.run_cons_some hRun
        with ⟨m, hStep, hRest⟩
      refine ih ?_ (fun move hMem =>
        hOthers move (List.mem_cons_of_mem _ hMem)) hRest
      intro r hOther
      rcases move with ⟨th, choice⟩
      rcases step_call_or_moves hStep with ⟨hSame, hCase⟩
      by_cases hEq : r = th
      · subst hEq
        rcases hCase with ⟨_, _, hEntry⟩ | ⟨hBusy, _⟩
        · have hSet : choice.otherCall = false := by
            by_contra hCall
            exact hOther (hOthers (r, choice)
              List.mem_cons_self (by simpa using hCall))
          exact Or.inr (entry_setting hSet hEntry)
        · rcases hStart r hOther with hIdle | hSetting
          · exact absurd hIdle hBusy
          · exact (step_moves hStep).setting_or_done hSetting
      · rw [hSame r hEq]
        exact hStart r hOther

omit [DecidableEq Th] in
theorem satisfied_le_taken
    (hAnnotated :
      Threads.Annotated
        (Global manualReset initialState) Local c) :
    c.shared.satisfied ≤ c.shared.taken := by
  rw [taken_eq_satisfied hAnnotated]
  exact Nat.le_add_right _ _

/- Nothing is in the way if nobody has a call under way. -/
theorem eventUninitialize_of_idle
    (hRun : Reaches manualReset initialState moves c)
    (hIdle : ∀ th, (c.locals th).pc = .idle) :
    eventUninitialize c.shared = .ok () := by
  have hAnnotated := annotated_reaches hRun
  have hFree : c.shared.owner = none := by
    by_contra hOwned
    rcases Option.ne_none_iff_exists'.mp hOwned
      with ⟨th, hOwner⟩
    have hInside := (hAnnotated.2 th).owns.mpr hOwner
    rw [hIdle th] at hInside
    cases hInside
  have hEmpty : c.shared.cond = [] := by
    apply List.eq_nil_iff_forall_not_mem.mpr
    intro th hMem
    rcases asleep_of_enqueued hRun hMem with ⟨timed, hPc⟩
    rw [hIdle th] at hPc
    cases hPc
  simp only [ eventUninitialize, hFree, hEmpty, ne_eq,
    not_true_eq_false, if_false]
  rfl

/-
  One thread waits, and the others set the event, once
  between them.  When a wait has been satisfied and the
  waiter has no call under way, nobody has, and nothing is
  in the way of taking the event down.
-/
theorem destroy_after_wait
    (hRun : Reaches manualReset false moves c)
    (hOneSet : moves.countP isSet ≤ 1)
    (waiter : Th)
    (hOthers :
      ∀ move ∈ moves, move.2.otherCall = true →
        move.1 = waiter)
    (hSatisfied : 0 < c.shared.satisfied)
    (hIdle : (c.locals waiter).pc = .idle) :
    (∀ th, (c.locals th).pc = .idle) ∧
      eventUninitialize c.shared = .ok () := by
  have hAnnotated := annotated_reaches hRun
  have hOne := oneSet_start.run annotated_start hRun
  rw [Nat.zero_add] at hOne
  have hTaken := satisfied_le_taken hAnnotated
  have hAll : ∀ th, (c.locals th).pc = .idle := by
    intro th
    by_cases hEq : th = waiter
    · rw [hEq]
      exact hIdle
    · rcases setting_or_idle (fun _ _ => Or.inl rfl) hOthers
        hRun hEq with hDone | hSetting
      · exact hDone
      · have hNot := (hOne.early hOneSet th hSetting).1
        omega
  exact ⟨hAll, eventUninitialize_of_idle hRun hAll⟩

/- A wait, the one signal it waits for, and its return. -/
def handOver : List (Bool × Choice) :=
  [(false, .waitForever), (false, .next), (false, .next),
    (false, .next), (true, .set), (true, .next),
    (true, .next), (true, .next), (true, .next),
    (false, .wake false), (false, .next), (false, .next),
    (false, .next), (false, .next)]

theorem destroy_after_wait_handOver :
    ∃ c,
      Reaches true false handOver c ∧
      (∀ th, (c.locals th).pc = .idle) ∧
      eventUninitialize c.shared = .ok () := by
  have hRun : Reaches true false handOver _ := rfl
  exact ⟨_, hRun, destroy_after_wait hRun (by decide) false
    (by decide) (by decide) rfl⟩

end Posix

end CxPlat
