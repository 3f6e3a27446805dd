import CxPlat.Lib.Progress
import CxPlat.Posix.EventSafety

/-
  Calls on a POSIX event come back.

  Left to themselves, with no new calls and no spurious
  wake-ups, the threads soon have nothing left to do, in
  whatever order they run: every call has returned, except
  for waits without a time-out on an event that is not
  signaled.

  Key definitions include:
    * `Unprompted`
    * `pendingWork`
    * `Settled`

  Key theorems include:
    * `pendingWork_lt`
    * `settled_or_step`
    * `pending_calls_settle`
-/

------------------------------------------------------------
-- Work That Is Left
------------------------------------------------------------

namespace CxPlat

namespace Posix

variable {Th : Type} [DecidableEq Th]

/-
  A step that a thread takes by itself.  A thread that sleeps
  wakes up because it has been notified, and so has left the
  wait set, or because its time is up.
-/
def Choice.Unprompted
    (e : Event Th)
    (th : Th) : Choice → Prop
  | .next => True
  | .wake expired => expired = true ∨ th ∉ e.cond
  | _ => False

instance
    (e : Event Th)
    (th : Th) :
    (choice : Choice) → Decidable (choice.Unprompted e th)
  | .next => .isTrue trivial
  | .wake _ => inferInstanceAs (Decidable (_ ∨ _))
  | .set | .reset | .waitForever | .waitWithTimeout =>
      .isFalse id

def Unprompted
    (c : Threads.Config (Event Th) Thread Th)
    (move : Th × Choice) : Prop :=
  move.2.Unprompted c.shared move.1

instance
    (c : Threads.Config (Event Th) Thread Th)
    (move : Th × Choice) :
    Decidable (Unprompted c move) :=
  inferInstanceAs (Decidable (move.2.Unprompted _ _))

/-
  How many steps a thread may take before it returns or goes
  to sleep for good.  A broadcast may send every thread back
  to the test, which is up to seven steps for each of them.
-/
def Pc.work
    (threads : Nat)
    (asleep : Bool) : Pc → Nat
  | .idle => 0
  | .setLock => 7 * threads + 4
  | .setStore => 7 * threads + 3
  | .setBroadcast => 7 * threads + 2
  | .setUnlock => 1
  | .resetLock => 3
  | .resetStore => 2
  | .resetUnlock => 1
  | .waitLock _ => 6
  | .waitTest _ => 5
  | .waitCall _ => 4
  | .waitSleep timed =>
      if asleep then (if timed then 3 else 0) else 7
  | .waitRelock _ expired => if expired then 2 else 6
  | .waitTake _ => 2
  | .waitUnlock _ _ => 1

def threadWork
    [Fintype Th]
    (e : Event Th)
    (th : Th)
    (pc : Pc) : Nat :=
  pc.work (Fintype.card Th) (th ∈ e.cond)

def pendingWork
    [Fintype Th]
    (c : Threads.Config (Event Th) Thread Th) : Nat :=
  ∑ th, threadWork c.shared th (c.locals th).pc

/-
  Nobody has anything left to do but to wait, without a
  time-out, for an event that is not signaled.
-/
structure Settled
    (c : Threads.Config (Event Th) Thread Th) : Prop where
  resting :
    ∀ th, (c.locals th).pc = .idle ∨
      (c.locals th).pc = .waitSleep false
  unsignaled :
    ∀ th, (c.locals th).pc = .waitSleep false →
      c.shared.signaled = false

end Posix

end CxPlat

------------------------------------------------------------
-- Every Step Gets Work Done
------------------------------------------------------------

namespace CxPlat

namespace Posix

variable {Th : Type} [DecidableEq Th] [Fintype Th]
variable {e e' : Event Th} {th q : Th} {pc pc' : Pc}
variable {c d : Threads.Config (Event Th) Thread Th}
variable {choice : Choice} {move : Th × Choice}

/- A thread that is not asleep does not look at the set. -/
theorem threadWork_congr
    (hSame : q ∈ e'.cond ↔ q ∈ e.cond) :
    threadWork e' q pc = threadWork e q pc := by
  simp only [threadWork, hSame]

/- Leaving the set makes at most seven steps of work. -/
theorem threadWork_le
    (e e' : Event Th)
    (q : Th)
    (pc : Pc) :
    threadWork e' q pc ≤ threadWork e q pc + 7 := by
  unfold threadWork
  cases pc with
  | waitSleep timed =>
      simp only [Pc.work]
      split <;> split <;> omega
  | _ => exact Nat.le_add_right _ _

omit [Fintype Th] in
/- Only broadcasts change what the other threads have left. -/
theorem Moves.cond_others
    (hMoves : Moves e th pc e' pc')
    (hPc : pc ≠ .setBroadcast)
    (hNe : q ≠ th) :
    q ∈ e'.cond ↔ q ∈ e.cond := by
  cases hMoves with
  | broadcast => exact absurd rfl hPc
  | sleep => simp [hNe]
  | wake => simp [hNe]
  | @waitUnlock timed satisfied =>
      cases timed <;> cases satisfied <;> exact Iff.rfl
  | _ => exact Iff.rfl

/-
  What a thread does itself counts, and the broadcast pays
  for the threads it notifies.
-/
theorem threadWork_lt
    (hUnprompted : choice.Unprompted e th)
    (hStatement :
      statement e th pc choice = some (e', pc')) :
    threadWork e' th pc' < threadWork e th pc ∧
      (pc = .setBroadcast →
        threadWork e' th pc' + 7 * Fintype.card Th <
          threadWork e th pc) := by
  unfold statement at hStatement
  split at hStatement
  case h_1 | h_2 | h_3 | h_4 => cases hUnprompted
  case h_5 | h_9 | h_12 =>
    rcases mutexLock_some hStatement with ⟨_, hEvent, hPc⟩
    subst hEvent hPc
    simp [threadWork, Pc.work]
  case h_6 | h_8 | h_10 | h_11 | h_17 =>
    cases hStatement
    simp [threadWork, Pc.work]
  case h_7 =>
    cases hStatement
    simp only [threadWork, Pc.work]
    omega
  case h_13 timed =>
    cases hStatement
    cases hSignaled : e.signaled <;>
      simp [threadWork, Pc.work]
  case h_14 timed =>
    cases hStatement
    cases timed <;> simp [threadWork, Pc.work]
  case h_15 timed expired =>
    split at hStatement
    next => contradiction
    next hTimed =>
      cases hStatement
      cases expired with
      | true =>
          cases timed with
          | false => simp at hTimed
          | true =>
              by_cases hAsleep : th ∈ e.cond <;>
                simp [threadWork, Pc.work, hAsleep]
      | false =>
          have hAwake : th ∉ e.cond := by
            simpa [Choice.Unprompted] using hUnprompted
          simp [threadWork, Pc.work, hAwake]
  case h_16 timed expired =>
    rcases mutexLock_some hStatement with ⟨_, hEvent, hPc⟩
    subst hEvent hPc
    cases expired <;> simp [threadWork, Pc.work]
  case h_18 timed satisfied =>
    cases hStatement
    simp [threadWork, Pc.work]
  case h_19 => contradiction

theorem pendingWork_lt
    (hUnprompted : Unprompted c move)
    (hStep : Threads.step program c move = some d) :
    pendingWork d < pendingWork c := by
  rcases move with ⟨th, choice⟩
  have hMoves := step_moves hStep
  rcases Threads.step_some hStep with
    ⟨e, l, hProgram, hNext⟩
  subst hNext
  simp only [Function.update_self] at hMoves
  simp only [program] at hProgram
  split at hProgram
  next e' pc' hStatement =>
    cases hProgram
    have hOwn := threadWork_lt hUnprompted hStatement
    by_cases hPc : (c.locals th).pc = .setBroadcast
    · apply Transition.sum_lt_of_one_falls (i := th)
      · intro q hNe
        simp only [Function.update_of_ne hNe]
        exact threadWork_le _ _ _ _
      · simp only [Function.update_self]
        exact hOwn.2 hPc
    · apply Transition.sum_lt_of_one_falls (i := th) (r := 0)
      · intro q hNe
        simp only [Function.update_of_ne hNe]
        rw [threadWork_congr (hMoves.cond_others hPc hNe)]
        exact Nat.le_add_right _ _
      · simp only [Function.update_self, Nat.zero_mul]
        exact hOwn.1
  next => contradiction

/- No thread has more to do than this. -/
theorem threadWork_bound
    (e : Event Th)
    (th : Th)
    (pc : Pc) :
    threadWork e th pc ≤ 7 * Fintype.card Th + 7 := by
  unfold threadWork
  cases pc with
  | waitSleep timed =>
      simp only [Pc.work]
      split
      · split <;> omega
      · omega
  | waitRelock timed expired =>
      cases expired <;> simp [Pc.work]
  | _ =>
      simp only [Pc.work]
      omega

theorem pendingWork_bound
    (c : Threads.Config (Event Th) Thread Th) :
    pendingWork c ≤
      Fintype.card Th * (7 * Fintype.card Th + 7) := by
  unfold pendingWork
  calc
    ∑ th, threadWork c.shared th (c.locals th).pc
      ≤ ∑ _th : Th, (7 * Fintype.card Th + 7) :=
        Finset.sum_le_sum
          (fun th _ => threadWork_bound _ th _)
    _ = Fintype.card Th * (7 * Fintype.card Th + 7) := by
        rw [Finset.sum_const, Finset.card_univ,
          Nat.nsmul_eq_mul]

end Posix

end CxPlat

------------------------------------------------------------
-- Some Step Is Possible
------------------------------------------------------------

namespace CxPlat

namespace Posix

variable {Th : Type} [DecidableEq Th]
variable {e : Event Th} {th : Th} {pc : Pc}
variable {c d : Threads.Config (Event Th) Thread Th}
variable {choice : Choice}
variable {manualReset initialState : Bool}
variable {moves : List (Th × Choice)}

theorem step_of_statement
    {r : Event Th × Pc}
    (hStatement :
      statement c.shared th (c.locals th).pc choice =
        some r) :
    ∃ d, Threads.step program c (th, choice) = some d := by
  simp only [Threads.step, program, hStatement]
  exact ⟨_, rfl⟩

/- The owner of the mutex never has to wait. -/
theorem statement_inside
    (e : Event Th)
    (th : Th)
    (hInside : pc.inside = true) :
    ∃ r, statement e th pc .next = some r := by
  cases pc <;> first | exact ⟨_, rfl⟩ | contradiction

/- And whoever wants the mutex gets it while it is free. -/
theorem statement_locked
    (th : Th)
    (hFree : e.owner = none)
    {first : Pc}
    (hLocked : pc.locked = some first) :
    ∃ r, statement e th pc .next = some r := by
  cases pc <;> first
    | contradiction
    | simp [statement, mutexLock, hFree]

/- Where a thread can be. -/
theorem Pc.where
    (pc : Pc) :
    pc.inside = true ∨ (∃ first, pc.locked = some first) ∨
      pc = .idle ∨ ∃ timed, pc = .waitSleep timed := by
  cases pc <;> simp [Pc.inside, Pc.locked]

/- A sleeping thread wakes up, unless it waits for a signal. -/
theorem statement_asleep
    (e : Event Th)
    (th : Th)
    (timed : Bool) :
    timed = false ∧ th ∈ e.cond ∨
      ∃ choice r, choice.Unprompted e th ∧
        statement e th (.waitSleep timed) choice =
          some r := by
  by_cases hWaits : timed = false ∧ th ∈ e.cond
  · exact Or.inl hWaits
  · refine Or.inr ⟨.wake timed, ?_⟩
    have hPrompted : timed = true ∨ th ∉ e.cond := by
      cases timed with
      | true => exact Or.inl rfl
      | false =>
          exact Or.inr (fun hMem => hWaits ⟨rfl, hMem⟩)
    simp [statement, Choice.Unprompted, hPrompted]

/-
  Without a thread inside, a thread that can do nothing is
  idle or sleeps, without a time-out, in the wait set.
-/
theorem resting_or_step
    (hFree : c.shared.owner = none)
    (hOwns :
      (c.locals th).pc.inside = true ↔
        c.shared.owner = some th) :
    (c.locals th).pc = .idle ∨
      (c.locals th).pc = .waitSleep false ∧
        th ∈ c.shared.cond ∨
      ∃ choice d, Unprompted c (th, choice) ∧
        Threads.step program c (th, choice) = some d := by
  rcases (c.locals th).pc.where
    with hInside | ⟨first, hLocked⟩ | hIdle | ⟨timed, hAsleep⟩
  · rw [hOwns, hFree] at hInside
    cases hInside
  · rcases statement_locked th hFree hLocked
      with ⟨r, hStatement⟩
    rcases step_of_statement hStatement with ⟨d, hStep⟩
    exact Or.inr (Or.inr ⟨.next, d, trivial, hStep⟩)
  · exact Or.inl hIdle
  · rcases statement_asleep c.shared th timed
      with ⟨hForever, hMem⟩ | ⟨choice, r, hOwn, hStatement⟩
    · rw [hForever] at hAsleep
      exact Or.inr (Or.inl ⟨hAsleep, hMem⟩)
    · rw [← hAsleep] at hStatement
      rcases step_of_statement hStatement with ⟨d, hStep⟩
      exact Or.inr (Or.inr ⟨choice, d, hOwn, hStep⟩)

/- In every reachable state, all rest or one has a step. -/
theorem settled_or_step
    (hRun : Reaches manualReset initialState moves c) :
    Settled c ∨
      ∃ move d, Unprompted c move ∧
        Threads.step program c move = some d := by
  have hAnnotated := annotated_reaches hRun
  rcases hAnnotated with ⟨hGlobal, hLocal⟩
  cases hOwner : c.shared.owner with
  | some th =>
      have hInside := (hLocal th).owns.mpr hOwner
      rcases statement_inside c.shared th hInside
        with ⟨r, hStatement⟩
      rcases step_of_statement hStatement with ⟨d, hStep⟩
      exact Or.inr ⟨(th, .next), d, trivial, hStep⟩
  | none =>
      by_cases hStep :
          ∃ move d, Unprompted c move ∧
            Threads.step program c move = some d
      · exact Or.inr hStep
      have hResting :
          ∀ th, (c.locals th).pc = .idle ∨
            (c.locals th).pc = .waitSleep false ∧
              th ∈ c.shared.cond := by
        intro th
        rcases resting_or_step hOwner (hLocal th).owns
          with hIdle | hAsleep | ⟨choice, d, hOwn, hNext⟩
        · exact Or.inl hIdle
        · exact Or.inr hAsleep
        · exact absurd ⟨_, d, hOwn, hNext⟩ hStep
      refine Or.inl ⟨?_, ?_⟩
      · intro th
        exact (hResting th).imp_right And.left
      · intro th hPc
        have hMem : th ∈ c.shared.cond := by
          rcases hResting th with hIdle | hAsleep
          · rw [hIdle] at hPc
            cases hPc
          · exact hAsleep.2
        by_contra hSignaled
        have hEmpty := (hGlobal.free hOwner).1
          (by simpa using hSignaled)
        simp [hEmpty] at hMem

/-
  However the threads are scheduled: they run out of steps,
  within a bound on their number, and are settled then.
-/
theorem pending_calls_settle
    [Fintype Th]
    (hRun : Reaches manualReset initialState moves c)
    (more : List (Th × Choice))
    (hMore :
      Transition.run (Threads.step program) c more = some d)
    (hUnprompted :
      Transition.Meets (Threads.step program) Unprompted c
        more) :
    more.length ≤
        Fintype.card Th * (7 * Fintype.card Th + 7) ∧
      (Settled d ∨
        ∃ move d', Unprompted d move ∧
          Threads.step program d move = some d') := by
  constructor
  · have hLength := Transition.length_add_le
      (fun _ _ _ hOwn hStep => pendingWork_lt hOwn hStep)
      hUnprompted hMore
    have hBound := pendingWork_bound c
    omega
  · have hLater :
        Reaches manualReset initialState (moves ++ more) d := by
      unfold Reaches
      rw [Transition.run_append _ _ hRun]
      exact hMore
    exact settled_or_step hLater

/-
  After `sleepThenSet` the event is signaled, the waiter is
  notified, and both calls return.
-/
def wakeAndReturn : List (Bool × Choice) :=
  [(true, .next), (true, .next), (false, .wake false),
    (false, .next), (false, .next), (false, .next),
    (false, .next)]

theorem pending_calls_settle_wakeAndReturn :
    ∃ c d,
      Reaches false false sleepThenSet c ∧
      Transition.run (Threads.step program) c
        wakeAndReturn = some d ∧
      d.shared.foreverReturns = 1 ∧
      wakeAndReturn.length ≤ 2 * (7 * 2 + 7) ∧
      (Settled d ∨
        ∃ move d', Unprompted d move ∧
          Threads.step program d move = some d') := by
  have hRun : Reaches false false sleepThenSet _ := rfl
  refine ⟨_, _, hRun, rfl, rfl, ?_⟩
  exact pending_calls_settle hRun wakeAndReturn rfl
    (by decide)

end Posix

end CxPlat
