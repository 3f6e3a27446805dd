import CxPlat.Posix.Event

/-
  A proof outline for events on POSIX platforms.

  The mutex makes `Signaled`, the wait set and the counters
  the property of the thread inside a section: the assertion
  of that thread says what it has found and done so far, and
  the global assertion says what holds once it has left.

  Key definitions include:
    * `Critical`
    * `Local`, `Global`

  Key theorems include:
    * `Moves.critical`
    * `Moves.balance`
    * `outline`
-/

------------------------------------------------------------
-- Assertions
------------------------------------------------------------

namespace CxPlat

namespace Posix

variable {Th : Type}

/- Between taking the mutex and giving it up. -/
def Pc.inside : Pc → Bool
  | .setStore | .setBroadcast | .setUnlock => true
  | .resetStore | .resetUnlock => true
  | .waitTest _ | .waitCall _ => true
  | .waitTake _ | .waitUnlock _ _ => true
  | _ => false

/- In a wait that has not taken the signal. -/
def Pc.waiting : Pc → Bool
  | .waitLock _ | .waitTest _ | .waitCall _ => true
  | .waitSleep _ | .waitRelock _ _ | .waitTake _ => true
  | .waitUnlock _ satisfied => !satisfied
  | _ => false

/- Only a timed wait expires. -/
def Pc.Timely : Pc → Prop
  | .waitRelock timed expired => expired = true → timed = true
  | .waitUnlock timed satisfied =>
      satisfied = false → timed = true
  | _ => True

/- A wait that has taken the signal is about to return. -/
def Pc.returning : Pc → Nat
  | .waitUnlock _ true => 1
  | _ => 0

/- The waits that have returned satisfied. -/
def Event.satisfied
    (e : Event Th) : Nat :=
  e.foreverReturns + e.trueReturns

/-
  Whoever waits in the wait set has been notified, except
  between the two statements of `Set`.
-/
structure Critical
    (e : Event Th)
    (pc : Pc) : Prop where
  unsignaled :
    ∀ timed, pc = .waitCall timed → e.signaled = false
  signaled :
    ∀ timed, pc = .waitTake timed → e.signaled = true
  notified :
    pc ≠ .setBroadcast → e.signaled = true → e.cond = []
  counted : e.taken = e.satisfied + pc.returning

structure Local
    (e : Event Th)
    (th : Th)
    (l : Thread) : Prop where
  owns : l.pc.inside = true ↔ e.owner = some th
  critical : l.pc.inside = true → Critical e l.pc
  unchanged : l.pc.waiting = true → l.changed = false
  timely : l.pc.Timely

structure Global
    (manualReset initialState : Bool)
    (e : Event Th) : Prop where
  mode : e.autoReset = !manualReset
  balance :
    e.autoReset = true →
      e.taken + e.resetsSignaled + e.signaled.toNat =
        initialState.toNat + e.setsUnsignaled
  free :
    e.owner = none →
      (e.signaled = true → e.cond = []) ∧
        e.taken = e.satisfied

end Posix

end CxPlat

------------------------------------------------------------
-- The Outline Is Valid
------------------------------------------------------------

namespace CxPlat

namespace Posix

variable {Th : Type} [DecidableEq Th]
variable {e e' : Event Th} {th q : Th} {pc pc' : Pc}
variable {manualReset initialState : Bool}

omit [DecidableEq Th] in
/- At a statement that does not rely on `Signaled`. -/
theorem Critical.plain
    (hCall : ∀ timed, pc ≠ .waitCall timed)
    (hTake : ∀ timed, pc ≠ .waitTake timed)
    (hNotified :
      pc ≠ .setBroadcast → e.signaled = true → e.cond = [])
    (hCounted : e.taken = e.satisfied + pc.returning) :
    Critical e pc where
  unsignaled := by
    intro timed hPc
    exact absurd hPc (hCall timed)
  signaled := by
    intro timed hPc
    exact absurd hPc (hTake timed)
  notified := hNotified
  counted := hCounted

theorem entry_outside
    (hEntry : pc.entry = true) :
    pc.inside = false := by
  cases pc <;> trivial

/- The statements that follow taking the mutex. -/
theorem locked_first
    (hLocked : pc.locked = some pc') :
    pc' = .setStore ∨ pc' = .resetStore ∨
      (∃ timed, pc' = .waitTest timed) ∨
        ∃ timed, pc' = .waitUnlock timed false := by
  cases pc with
  | setLock => cases hLocked; simp
  | resetLock => cases hLocked; simp
  | waitLock timed => cases hLocked; simp
  | waitRelock timed expired =>
      cases hLocked
      cases expired <;> simp
  | _ => contradiction

theorem locked_inside
    (hLocked : pc.locked = some pc') :
    pc'.inside = true := by
  rcases locked_first hLocked with h | h | ⟨_, h⟩ | ⟨_, h⟩
  all_goals
    subst h
    rfl

omit [DecidableEq Th] in
/- Entering gives what holds while the mutex is free. -/
theorem critical_locked
    (hGlobal : Global manualReset initialState e)
    (hFree : e.owner = none)
    (hLocked : pc.locked = some pc') :
    Critical { e with owner := some th } pc' := by
  rcases hGlobal.free hFree with ⟨hNotified, hCounted⟩
  rcases locked_first hLocked with
    h | h | ⟨_, h⟩ | ⟨_, h⟩
  all_goals
    subst h
    apply Critical.plain
    · simp
    · simp
    · exact fun _ => hNotified
    · exact hCounted

/- A thread owns the mutex exactly inside the sections. -/
theorem Moves.owns
    (hMoves : Moves e th pc e' pc')
    (hOwns : pc.inside = true ↔ e.owner = some th) :
    pc'.inside = true ↔ e'.owner = some th := by
  cases hMoves with
  | call hEntry =>
      rw [entry_outside hEntry]
      exact hOwns
  | lock hFree hLocked =>
      simp [locked_inside hLocked]
  | unlock hPc => simp [mutexUnlock, Pc.inside]
  | @waitUnlock timed satisfied =>
      cases timed <;> cases satisfied <;>
        simp [countReturn, mutexUnlock, Pc.inside]
  | sleep => simp [mutexUnlock, Pc.inside]
  | _ =>
      simpa [Pc.inside, storeSet, storeReset, Posix.take]
        using hOwns

theorem Moves.critical
    (hMoves : Moves e th pc e' pc')
    (hGlobal : Global manualReset initialState e)
    (hCritical : pc.inside = true → Critical e pc)
    (hInside : pc'.inside = true) :
    Critical e' pc' := by
  cases hMoves with
  | call hEntry =>
      rw [entry_outside hEntry] at hInside
      contradiction
  | lock hFree hLocked =>
      exact critical_locked hGlobal hFree hLocked
  | setStore =>
      apply Critical.plain
      · simp
      · simp
      · simp
      · exact (hCritical rfl).counted
  | broadcast =>
      apply Critical.plain
      · simp
      · simp
      · simp
      · exact (hCritical rfl).counted
  | resetStore =>
      apply Critical.plain
      · simp
      · simp
      · simp [storeReset]
      · exact (hCritical rfl).counted
  | found hSignaled =>
      have hNow := hCritical rfl
      constructor
      · simp
      · simp [hSignaled]
      · intro _
        exact hNow.notified (by simp)
      · exact hNow.counted
  | notFound hSignaled =>
      have hNow := hCritical rfl
      constructor
      · simp [hSignaled]
      · simp
      · simp [hSignaled]
      · exact hNow.counted
  | take =>
      have hNow := hCritical rfl
      apply Critical.plain
      · simp
      · simp
      · intro _ _
        apply hNow.notified (by simp)
        exact hNow.signaled _ rfl
      · have hCounted := hNow.counted
        simp only [Pc.returning, Event.satisfied]
          at hCounted ⊢
        simp only [Posix.take]
        omega
  | unlock => contradiction
  | sleep => contradiction
  | wake => contradiction
  | waitUnlock => contradiction

/- A wait changes `Signaled` only by taking the signal. -/
theorem Moves.unchanged
    (hMoves : Moves e th pc e' pc')
    (hWaiting : pc'.waiting = true) :
    pc = .idle ∨
      pc.waiting = true ∧ e'.signaled = e.signaled := by
  cases hMoves with
  | call => exact Or.inl rfl
  | lock hFree hLocked =>
      cases pc with
      | waitLock timed => exact Or.inr ⟨rfl, rfl⟩
      | waitRelock timed expired => exact Or.inr ⟨rfl, rfl⟩
      | setLock => cases hLocked; contradiction
      | resetLock => cases hLocked; contradiction
      | _ => contradiction
  | found => exact Or.inr ⟨rfl, rfl⟩
  | notFound => exact Or.inr ⟨rfl, rfl⟩
  | sleep => exact Or.inr ⟨rfl, rfl⟩
  | wake => exact Or.inr ⟨rfl, rfl⟩
  | _ => contradiction

theorem Moves.timely
    (hMoves : Moves e th pc e' pc')
    (hTimely : pc.Timely) :
    pc'.Timely := by
  cases hMoves with
  | call hEntry =>
      cases pc' <;> trivial
  | lock hFree hLocked =>
      cases pc with
      | waitRelock timed expired =>
          cases hLocked
          cases expired with
          | false => trivial
          | true =>
              intro _
              exact hTimely rfl
      | setLock => cases hLocked; trivial
      | resetLock => cases hLocked; trivial
      | waitLock => cases hLocked; trivial
      | _ => contradiction
  | wake hTimed => exact hTimed
  | take =>
      intro hFalse
      contradiction
  | _ => trivial

theorem Moves.balance
    (hMoves : Moves e th pc e' pc')
    (hGlobal : Global manualReset initialState e)
    (hCritical : pc.inside = true → Critical e pc)
    (hAuto : e'.autoReset = true) :
    e'.taken + e'.resetsSignaled + e'.signaled.toNat =
      initialState.toNat + e'.setsUnsignaled := by
  cases hMoves with
  | setStore =>
      have hBalance := hGlobal.balance hAuto
      cases hSignaled : e.signaled <;>
        simp [storeSet, hSignaled] at hBalance ⊢ <;> omega
  | resetStore =>
      have hBalance := hGlobal.balance hAuto
      cases hSignaled : e.signaled <;>
        simp [storeReset, hSignaled] at hBalance ⊢ <;> omega
  | take =>
      -- The wait found the event signaled: one for one.
      have hBalance := hGlobal.balance hAuto
      have hSignaled := (hCritical rfl).signaled _ rfl
      have hMode : e.autoReset = true := hAuto
      simp [Posix.take, hSignaled, hMode] at hBalance ⊢
      omega
  | @waitUnlock timed satisfied =>
      cases timed <;> cases satisfied <;>
        exact hGlobal.balance hAuto
  | _ => exact hGlobal.balance hAuto

/- The mutex is given up with nobody left unnotified. -/
theorem Moves.free
    (hMoves : Moves e th pc e' pc')
    (hGlobal : Global manualReset initialState e)
    (hOwns : pc.inside = true ↔ e.owner = some th)
    (hCritical : pc.inside = true → Critical e pc)
    (hTimely : pc.Timely)
    (hFree : e'.owner = none) :
    (e'.signaled = true → e'.cond = []) ∧
      e'.taken = e'.satisfied := by
  cases hMoves with
  | call hEntry => exact hGlobal.free hFree
  | lock => contradiction
  | unlock hPc =>
      have hLast :
          pc.inside = true ∧ pc ≠ .setBroadcast ∧
            pc.returning = 0 := by
        rcases hPc with h | h
        all_goals
          subst h
          simp [Pc.inside, Pc.returning]
      have hNow := hCritical hLast.1
      have hCounted := hNow.counted
      rw [hLast.2.2] at hCounted
      exact ⟨hNow.notified hLast.2.1, hCounted⟩
  | sleep =>
      have hNow := hCritical rfl
      constructor
      · intro hSignaled
        have hUnsignaled := hNow.unsignaled _ rfl
        simp [mutexUnlock, hUnsignaled] at hSignaled
      · exact hNow.counted
  | wake =>
      have hBefore := hGlobal.free hFree
      constructor
      · intro hSignaled
        simp [hBefore.1 hSignaled]
      · exact hBefore.2
  | @waitUnlock timed satisfied =>
      have hNow := hCritical rfl
      have hCounted := hNow.counted
      cases timed <;> cases satisfied
      · exact absurd (hTimely rfl) (by simp)
      all_goals
        constructor
        · exact hNow.notified (by simp)
        · simp [countReturn, mutexUnlock, Event.satisfied,
            Pc.returning] at hCounted ⊢
          omega
  | _ =>
      have hOwner : e.owner = some th := hOwns.mp rfl
      have hNone : e.owner = none := hFree
      simp [hOwner] at hNone

theorem Moves.mode
    (hMoves : Moves e th pc e' pc') :
    e'.autoReset = e.autoReset := by
  cases hMoves with
  | @waitUnlock timed satisfied =>
      cases timed <;> cases satisfied <;> rfl
  | _ => rfl

theorem Moves.global
    {l l' : Thread}
    (hMoves : Moves e th l.pc e' l'.pc)
    (hGlobal : Global manualReset initialState e)
    (hLocal : Local e th l) :
    Global manualReset initialState e' := by
  constructor
  · rw [hMoves.mode]
    exact hGlobal.mode
  · exact hMoves.balance hGlobal hLocal.critical
  · exact hMoves.free hGlobal hLocal.owns hLocal.critical
      hLocal.timely

/-
  While another thread owns the mutex, a thread can only
  make a call or wake up.
-/
theorem Moves.shut
    (hMoves : Moves e th pc e' pc')
    (hOwns : pc.inside = true ↔ e.owner = some th)
    (hNe : q ≠ th)
    (hOther : e.owner = some q) :
    e' = e ∨
      e' = { e with
        cond := e.cond.filter (fun p => p ≠ th) } := by
  have hOutside : ¬ pc.inside = true := by
    intro hInside
    rw [hOwns.mp hInside] at hOther
    cases hOther
    exact hNe rfl
  cases hMoves with
  | call => exact Or.inl rfl
  | lock hFree => simp [hFree] at hOther
  | wake => exact Or.inr rfl
  | unlock hPc =>
      rcases hPc with h | h
      all_goals
        subst h
        exact absurd rfl hOutside
  | _ => exact absurd rfl hOutside

omit [DecidableEq Th] in
/- A wait set that shrinks does not matter. -/
theorem Critical.shrink
    (hCritical : Critical e pc)
    {cond : List Th}
    (hShrink : e.cond = [] → cond = []) :
    Critical { e with cond := cond } pc := by
  constructor
  · exact hCritical.unsignaled
  · exact hCritical.signaled
  · intro hPc hSignaled
    exact hShrink (hCritical.notified hPc hSignaled)
  · exact hCritical.counted

/- No thread takes the mutex for another. -/
theorem Moves.owner_other
    (hMoves : Moves e th pc e' pc')
    (hNe : q ≠ th)
    (hOther : e'.owner = some q) :
    e.owner = some q := by
  cases hMoves with
  | lock => simp [Ne.symm hNe] at hOther
  | unlock => simp [mutexUnlock] at hOther
  | sleep => simp [mutexUnlock] at hOther
  | @waitUnlock timed satisfied =>
      cases timed <;> cases satisfied <;>
        simp [countReturn, mutexUnlock] at hOther
  | _ => exact hOther

theorem Moves.other
    (hMoves : Moves e th pc e' pc')
    (hOwns : pc.inside = true ↔ e.owner = some th)
    (hNe : q ≠ th)
    {m : Thread}
    (hLocal : Local e q m) :
    Local e' q m := by
  have hShut := hMoves.shut hOwns hNe
  constructor
  · constructor
    · intro hInside
      have hOwner := hLocal.owns.mp hInside
      rcases hShut hOwner with hSame | hSame
      all_goals
        subst hSame
        exact hOwner
    · intro hOwner
      exact hLocal.owns.mpr (hMoves.owner_other hNe hOwner)
  · intro hInside
    have hCritical := hLocal.critical hInside
    rcases hShut (hLocal.owns.mp hInside) with hSame | hSame
    · subst hSame
      exact hCritical
    · subst hSame
      apply hCritical.shrink
      intro hEmpty
      simp [hEmpty]
  · exact hLocal.unchanged
  · exact hLocal.timely

/- The assertions are valid for any number of threads. -/
theorem outline :
    Threads.Outline
      (program : Threads.Program (Event Th) Thread Th Choice)
      (Global manualReset initialState) Local where
  own := by
    intro e th l choice e' l' hGlobal hLocal hProgram
    rcases program_some hProgram with ⟨hMoves, hChanged⟩
    constructor
    · exact hMoves.global hGlobal hLocal
    · constructor
      · exact hMoves.owns hLocal.owns
      · exact hMoves.critical hGlobal hLocal.critical
      · intro hWaiting
        rw [hChanged]
        rcases hMoves.unchanged hWaiting with hIdle | hSame
        · simp [hIdle]
        · simp [hLocal.unchanged hSame.1, hSame.2]
      · exact hMoves.timely hLocal.timely
  others := by
    intro e th l choice e' l' q m hGlobal hLocal hNe hOther
      hProgram
    rcases program_some hProgram with ⟨hMoves, _⟩
    exact hMoves.other hLocal.owns hNe hOther

omit [DecidableEq Th] in
theorem annotated_start :
    Threads.Annotated
      (Global manualReset initialState) Local
      (start manualReset initialState :
        Threads.Config (Event Th) Thread Th) := by
  constructor
  · constructor
    · rfl
    · intro _
      simp [start, eventInitialize]
    · intro _
      simp [start, eventInitialize, Event.satisfied]
  · intro th
    constructor
    · simp [start, eventInitialize, Pc.inside]
    · intro hInside
      contradiction
    · intro hWaiting
      contradiction
    · trivial

end Posix

end CxPlat
