import CxPlat.WinKernel.PushLock
import Mathlib.Data.Nat.Basic
import Mathlib.Order.Basic
import Mathlib.Tactic.Push

/-
  Push locks that are acquired in a fixed order.

  A thread that holds a push lock is never suspended, so a
  lock can always be given back by its holders.  If all
  threads acquire their locks in the order of some rank, no
  cycle of threads waits for each other either, and whoever
  waits can be served by steps of threads that run already:
  none has to be resumed, and none has to begin another
  acquire.

  Key definitions include:
    * `Ordered`
    * `Calm`
    * `Reaches`, `GivesBack`

  Key theorems include:
    * `inv_step`
    * `holder_releases`
    * `lock_freed`
    * `waiter_served`
-/

------------------------------------------------------------
-- The Order Of The Locks
------------------------------------------------------------

namespace CxPlat

namespace PushLock

open RwLock (Mode grants)

variable {T Lock : Type} [DecidableEq T] [DecidableEq Lock]
variable {rank : Lock → Nat}
variable {c d e : Config T Lock}

/- A lock is acquired after those of lower rank only. -/
def Above
    (rank : Lock → Nat)
    (held : List (Lock × Mode)) : Statement Lock → Prop
  | .exAcquirePushLock lock _ =>
      ∀ h ∈ held, rank h.1 < rank lock
  | _ => True

instance
    (rank : Lock → Nat)
    (held : List (Lock × Mode))
    (statement : Statement Lock) :
    Decidable (Above rank held statement) :=
  match statement with
  | .exAcquirePushLock lock _ =>
      inferInstanceAs
        (Decidable (∀ h ∈ held, rank h.1 < rank lock))
  | .exReleasePushLock _ _ => inferInstanceAs (Decidable True)
  | .keEnterCriticalRegion => inferInstanceAs (Decidable True)
  | .keLeaveCriticalRegion => inferInstanceAs (Decidable True)

/- The discipline of the callers. -/
def Ordered
    (rank : Lock → Nat)
    (c : Config T Lock)
    (move : T × Action Lock) : Prop :=
  match move.2 with
  | .call call lock =>
      ∀ st ∈ call.body lock,
        Above rank (c.locals move.1).held st
  | _ => True

instance
    (rank : Lock → Nat)
    (c : Config T Lock)
    (move : T × Action Lock) :
    Decidable (Ordered rank c move) := by
  unfold Ordered
  split
  · infer_instance
  · infer_instance

/- Only what is left of the macros, and releases. -/
def Calm : Action Lock → Prop
  | .call call lock => ∃ mode, call.body lock = release lock mode
  | .next => True
  | _ => False

def Climbs
    (rank : Lock → Nat)
    (l : Thread Lock) : Prop :=
  ∀ st ∈ l.todo, Above rank l.held st

structure Inv
    (rank : Lock → Nat)
    (c : Config T Lock) : Prop where
  sound : Sound c
  climbs : ∀ p, Climbs rank (c.locals p)

omit [DecidableEq T] [DecidableEq Lock] in
theorem ordered_of_calm
    {move : T × Action Lock}
    (hCalm : Calm move.2) :
    Ordered rank c move := by
  unfold Ordered
  split
  next call lock hMove =>
    rw [hMove] at hCalm
    rcases hCalm with ⟨mode, hBody⟩
    rw [hBody]
    simp [release, Above]
  next => trivial

/- Only the last statement of a macro takes a lock. -/
theorem climbs_statement
    {s s' : Locks T Lock}
    {p : T}
    {l l' : Thread Lock}
    {a : Action Lock}
    (hOwns : Owns s p l)
    (hClimbs : Climbs rank l)
    (hOrdered :
      ∀ call lock, a = .call call lock →
        ∀ st ∈ call.body lock, Above rank l.held st)
    (hStep : statement s p l a = some (s', l')) :
    Climbs rank l' := by
  have hWithin := hOwns.within
  unfold Climbs at hClimbs
  cases moves_of_statement hStep with
  | call => exact hOrdered _ _ rfl
  | enterRegion hRuns hTodo =>
      intro st hMem
      apply hClimbs
      rw [hTodo]
      exact List.mem_cons_of_mem _ hMem
  | leaveRegion hRuns hTodo =>
      intro st hMem
      apply hClimbs
      rw [hTodo]
      exact List.mem_cons_of_mem _ hMem
  | acquire hRuns hTodo =>
      rw [hTodo] at hWithin
      cases hWithin
      simp [Climbs]
  | release hRuns hTodo =>
      rw [hTodo] at hWithin
      cases hWithin
      simp [Climbs, Above]
  | enter => exact hClimbs
  | leave => exact hClimbs
  | suspend => exact hClimbs
  | resume => exact hClimbs

theorem inv_start
    (own : T → Nat) :
    Inv rank (start own : Config T Lock) where
  sound := sound_start own
  climbs := by
    intro p
    simp [start, Climbs]

theorem inv_step
    {move : T × Action Lock}
    (hInv : Inv rank c)
    (hOrdered : Ordered rank c move)
    (hStep : step c move = some d) :
    Inv rank d := by
  refine ⟨outline.step hInv.sound hStep, ?_⟩
  rcases move with ⟨p, a⟩
  rcases Threads.step_some hStep with
    ⟨s, l, hStatement, hNext⟩
  subst hNext
  intro q
  by_cases hSame : q = p
  · subst hSame
    simp only [Function.update_self]
    apply climbs_statement (hInv.sound.2 q) (hInv.climbs q)
      _ hStatement
    intro call lock hCall
    subst hCall
    exact hOrdered
  · simp only [Function.update_of_ne hSame]
    exact hInv.climbs q

end PushLock

end CxPlat

------------------------------------------------------------
-- Runs That Finish What Has Begun
------------------------------------------------------------

namespace CxPlat

namespace PushLock

open RwLock (Mode grants)
open Transition (run run_append run_cons run_nil)

variable {T Lock : Type} [DecidableEq T] [DecidableEq Lock]
variable {rank : Lock → Nat} {low low' : Nat}
variable {c d e : Config T Lock}

/-
  A calm run in which only threads with a lock of rank `low`
  or higher move, and no lock up to that rank gets another
  holder.
-/
def Reaches
    (rank : Lock → Nat)
    (low : Nat)
    (c d : Config T Lock) : Prop :=
  (∃ rest,
    (∀ move ∈ rest, Calm move.2) ∧
      run step c rest = some d) ∧
    (∀ lock, rank lock ≤ low →
      (d.shared lock).length ≤ (c.shared lock).length) ∧
    ∀ q, (∀ h ∈ (c.locals q).held, rank h.1 < low) →
      d.locals q = c.locals q

theorem Reaches.refl
    (rank : Lock → Nat)
    (low : Nat)
    (c : Config T Lock) :
    Reaches rank low c c :=
  ⟨⟨[], by simp, rfl⟩, fun _ _ => le_rfl, fun _ _ => rfl⟩

theorem Reaches.trans
    (hFirst : Reaches rank low c d)
    (hSecond : Reaches rank low d e) :
    Reaches rank low c e := by
  rcases hFirst with
    ⟨⟨first, hCalm, hRun⟩, hShared, hLocals⟩
  rcases hSecond with
    ⟨⟨second, hCalm', hRun'⟩, hShared', hLocals'⟩
  refine ⟨⟨first ++ second, ?_, ?_⟩, ?_, ?_⟩
  · intro move hMem
    rcases List.mem_append.mp hMem with hMem | hMem
    · exact hCalm move hMem
    · exact hCalm' move hMem
  · rw [run_append first second hRun]
    exact hRun'
  · intro lock hLow
    exact (hShared' lock hLow).trans (hShared lock hLow)
  · intro q hHeld
    have hSame := hLocals q hHeld
    rw [← hSame]
    apply hLocals'
    rw [hSame]
    exact hHeld

theorem Reaches.mono
    (hReaches : Reaches rank low' c d)
    (hLow : low ≤ low') :
    Reaches rank low c d := by
  rcases hReaches with ⟨hRun, hShared, hLocals⟩
  refine ⟨hRun, ?_, ?_⟩
  · intro lock hLock
    exact hShared lock (hLock.trans hLow)
  · intro q hHeld
    apply hLocals
    intro h hMem
    exact (hHeld h hMem).trans_le hLow

theorem Reaches.inv
    (hReaches : Reaches rank low c d)
    (hInv : Inv rank c) :
    Inv rank d := by
  rcases hReaches with ⟨⟨rest, hCalm, hRun⟩, -⟩
  induction rest generalizing c with
  | nil =>
      cases hRun
      exact hInv
  | cons move rest hRest =>
      rcases Transition.run_cons_some hRun with
        ⟨m, hStep, hTail⟩
      have hFirst := hCalm move List.mem_cons_self
      apply hRest _ _ hTail
      · exact inv_step hInv (ordered_of_calm hFirst) hStep
      · intro move' hMem
        exact hCalm move' (List.mem_cons_of_mem _ hMem)

/- What one thread does on the locks and on its own state. -/
abbrev alone
    (p : T)
    (x : Locks T Lock × Thread Lock)
    (a : Action Lock) :
    Option (Locks T Lock × Thread Lock) :=
  statement x.1 p x.2 a

/- A holder moves by itself. -/
theorem Reaches.of_alone
    {p : T}
    {actions : List (Action Lock)}
    {s : Locks T Lock}
    {l : Thread Lock}
    (hCalm : ∀ a ∈ actions, Calm a)
    (hRun :
      run (alone p) (c.shared, c.locals p) actions =
        some (s, l))
    (hShared :
      ∀ lock, rank lock ≤ low →
        (s lock).length ≤ (c.shared lock).length)
    {h : Lock × Mode}
    (hHeld : h ∈ (c.locals p).held)
    (hLow : low ≤ rank h.1) :
    Reaches rank low c
      { shared := s
        locals := Function.update c.locals p l } := by
  refine ⟨⟨actions.map (Prod.mk p), ?_, ?_⟩, hShared, ?_⟩
  · intro move hMem
    rcases List.mem_map.mp hMem with ⟨a, hAction, rfl⟩
    exact hCalm a hAction
  · exact Threads.run_of_alone hRun
  · intro q hBelow
    apply Function.update_of_ne
    rintro rfl
    exact absurd (hBelow h hHeld) (Nat.not_lt.mpr hLow)

end PushLock

end CxPlat

------------------------------------------------------------
-- Holders Release
------------------------------------------------------------

namespace CxPlat

namespace PushLock

open RwLock (Mode grants)
open Transition (run run_append run_cons run_nil)

variable {T Lock : Type} [DecidableEq T] [DecidableEq Lock]
variable {rank : Lock → Nat}
variable {s : Locks T Lock} {p : T} {l : Thread Lock}
variable {lock : Lock} {mode : Mode}

/- The macro that gives back a lock held in the mode. -/
def releaseCall : Mode → Call
  | .shared => .rwLockReleaseShared
  | .exclusive => .rwLockReleaseExclusive

omit [DecidableEq Lock] in
theorem body_releaseCall
    (lock : Lock)
    (mode : Mode) :
    (releaseCall mode).body lock = release lock mode := by
  cases mode with
  | shared => rfl
  | exclusive => rfl

/- The locks without one entry of a thread. -/
def without
    (s : Locks T Lock)
    (p : T)
    (lock : Lock)
    (mode : Mode) : Locks T Lock :=
  Function.update s lock ((s lock).erase (p, mode))

theorem length_without_le
    (s : Locks T Lock)
    (p : T)
    (lock k : Lock)
    (mode : Mode) :
    (without s p lock mode k).length ≤ (s k).length := by
  unfold without
  by_cases hLock : k = lock
  · subst hLock
    rw [Function.update_self]
    exact List.erase_sublist.length_le
  · rw [Function.update_of_ne hLock]

theorem length_without_lt
    (hMem : (p, mode) ∈ s lock) :
    (without s p lock mode lock).length <
      (s lock).length := by
  have hPos := List.length_pos_of_mem hMem
  unfold without
  rw [Function.update_self, List.length_erase_of_mem hMem]
  omega

/- The rest of a release. -/
theorem run_release
    (s : Locks T Lock)
    (p : T)
    (hRuns : l.suspended = false)
    (hTodo : l.todo = release lock mode) :
    run (alone p) (s, l) [.next, .next] =
      some
        (without s p lock mode,
         { l with
           regions := l.regions - 1
           held := l.held.erase (lock, mode)
           todo := [] }) := by
  simp [run, alone, statement, perform, hTodo, hRuns, release,
    without]

/- A whole release. -/
theorem run_releaseCall
    (s : Locks T Lock)
    (p : T)
    {call : Call}
    (hBody : call.body lock = release lock mode)
    (hRuns : l.suspended = false)
    (hTodo : l.todo = [])
    (hHeld : (lock, mode) ∈ l.held) :
    run (alone p) (s, l) [.call call lock, .next, .next] =
      some
        (without s p lock mode,
         { l with
           regions := l.regions - 1
           held := l.held.erase (lock, mode)
           todo := [] }) := by
  have hPermitted :
      ∀ st ∈ call.body lock, Permitted l.held st := by
    rw [hBody]
    simp [release, Permitted, hHeld]
  have hCall :
      alone p (s, l) (.call call lock) =
        some (s, { l with todo := release lock mode }) := by
    simp only [alone, statement]
    rw [if_pos ⟨hRuns, hTodo, hPermitted⟩, hBody]
  rw [run_cons _ hCall]
  exact run_release s p hRuns rfl

omit [DecidableEq Lock] in
theorem calm_releaseCall
    (lock : Lock)
    (mode : Mode) :
    ∀ a ∈ ([.call (releaseCall mode) lock, .next, .next] :
        List (Action Lock)),
      Calm a := by
  simp [Calm, body_releaseCall]

/-
  The thread can give the lock back by itself, and no lock up
  to its rank gets another holder.
-/
def GivesBack
    (rank : Lock → Nat)
    (s : Locks T Lock)
    (p : T)
    (l : Thread Lock)
    (lock : Lock) : Prop :=
  ∃ actions s' l',
    (∀ a ∈ actions, Calm a) ∧
      run (alone p) (s, l) actions = some (s', l') ∧
      (∀ k, rank k ≤ rank lock →
        (s' k).length ≤ (s k).length) ∧
      (s' lock).length < (s lock).length

/- It can do something else before. -/
theorem GivesBack.after
    {s' : Locks T Lock}
    {l' : Thread Lock}
    {first : List (Action Lock)}
    (hCalm : ∀ a ∈ first, Calm a)
    (hFirst : run (alone p) (s, l) first = some (s', l'))
    (hLe :
      ∀ k, rank k ≤ rank lock →
        (s' k).length ≤ (s k).length)
    (hGives : GivesBack rank s' p l' lock) :
    GivesBack rank s p l lock := by
  obtain ⟨rest, t, m, hCalm', hRest, hLe', hLt⟩ := hGives
  refine ⟨first ++ rest, t, m, ?_, ?_, ?_, ?_⟩
  · intro a hMem
    rcases List.mem_append.mp hMem with hMem | hMem
    · exact hCalm a hMem
    · exact hCalm' a hMem
  · rw [run_append _ _ hFirst]
    exact hRest
  · intro k hRank
    exact (hLe' k hRank).trans (hLe k hRank)
  · exact hLt.trans_le (hLe lock le_rfl)

/- The rest of a release of the lock itself. -/
theorem givesBack_releasing
    (hRuns : l.suspended = false)
    (hTodo : l.todo = release lock mode)
    (hMem : (p, mode) ∈ s lock) :
    GivesBack rank s p l lock :=
  ⟨_, _, _, by simp [Calm], run_release s p hRuns hTodo,
    fun k _ => length_without_le s p lock k mode,
    length_without_lt hMem⟩

theorem givesBack_outside
    (hRuns : l.suspended = false)
    (hTodo : l.todo = [])
    (hHeld : (lock, mode) ∈ l.held)
    (hMem : (p, mode) ∈ s lock) :
    GivesBack rank s p l lock :=
  ⟨_, _, _, calm_releaseCall lock mode,
    run_releaseCall s p (body_releaseCall lock mode) hRuns
      hTodo hHeld,
    fun k _ => length_without_le s p lock k mode,
    length_without_lt hMem⟩

/-
  A holder that is not about to acquire finishes the macro it
  is in and then releases the lock, unless it just did.
-/
theorem holder_releases
    (hOwns : Owns s p l)
    (hHeld : (lock, mode) ∈ l.held)
    (hReady :
      ∀ k m, .exAcquirePushLock k m ∉ l.todo) :
    GivesBack rank s p l lock := by
  have hRuns := hOwns.runs_of_mem hHeld
  have hMem := (hOwns.mem_iff lock mode).mpr hHeld
  have hWithin := hOwns.within
  cases hTodo : l.todo with
  | nil => exact givesBack_outside hRuns hTodo hHeld hMem
  | cons first rest =>
      rw [hTodo] at hWithin hReady
      cases hWithin with
      | acquiring k m =>
          exact absurd (by simp) (hReady k m)
      | waiting k m =>
          exact absurd (by simp) (hReady k m)
      | leaving =>
          have hLeave :
              run (alone p) (s, l) [.next] =
                some (s, { l with
                           regions := l.regions - 1
                           todo := [] }) := by
            simp [run, alone, statement, perform, hTodo,
              hRuns]
          apply GivesBack.after _ hLeave (fun _ _ => le_rfl)
          · exact givesBack_outside hRuns rfl hHeld hMem
          · simp [Calm]
      | releasing k m hOther =>
          by_cases hLock : k = lock
          · subst hLock
            exact givesBack_releasing hRuns hTodo
              ((hOwns.mem_iff k m).mpr hOther)
          · have hStill :
                (lock, mode) ∈ l.held.erase (k, m) := by
              rw [List.mem_erase_of_ne (by simp [Ne.symm hLock])]
              exact hHeld
            have hMem' : (p, mode) ∈ without s p k m lock := by
              unfold without
              rw [Function.update_of_ne (Ne.symm hLock)]
              exact hMem
            apply GivesBack.after _
              (run_release s p hRuns hTodo)
              (fun k' _ => length_without_le s p k k' m)
            · exact givesBack_outside hRuns rfl hStill hMem'
            · simp [Calm]

/- A free lock is taken by a thread that waits for it. -/
theorem alone_take
    (p : T)
    (hRuns : l.suspended = false)
    (hTodo : l.todo = [.exAcquirePushLock lock mode])
    (hFree : s lock = []) :
    alone p (s, l) .next =
      some
        (Function.update s lock [(p, mode)],
         { l with
           held := (lock, mode) :: l.held
           todo := [] }) := by
  cases mode with
  | shared =>
      simp [alone, statement, perform, hTodo, hRuns, hFree,
        grants]
  | exclusive =>
      simp [alone, statement, perform, hTodo, hRuns, hFree,
        grants]

/-
  A holder that waits for another lock takes that one, if it
  is free, and releases the first.
-/
theorem waiter_releases
    (hOwns : Owns s p l)
    (hHeld : (lock, mode) ∈ l.held)
    {other : Lock}
    {mode' : Mode}
    (hRank : rank lock < rank other)
    (hTodo : l.todo = [.exAcquirePushLock other mode'])
    (hFree : s other = []) :
    GivesBack rank s p l lock := by
  have hRuns := hOwns.runs_of_mem hHeld
  have hKept :
      ∀ k, rank k ≤ rank lock →
        Function.update s other [(p, mode')] k = s k := by
    intro k hLow
    apply Function.update_of_ne
    rintro rfl
    exact absurd hRank (Nat.not_lt.mpr hLow)
  have hTake :
      run (alone p) (s, l) [.next] = some (_, _) :=
    run_cons [] (alone_take p hRuns hTodo hFree)
  apply GivesBack.after _ hTake
  · intro k hLow
    rw [hKept k hLow]
  · refine givesBack_outside ?_ rfl
      (List.mem_cons_of_mem _ hHeld) ?_
    · exact hRuns
    · rw [hKept lock le_rfl]
      exact (hOwns.mem_iff lock mode).mpr hHeld
  · simp [Calm]

end PushLock

end CxPlat

------------------------------------------------------------
-- Every Lock Can Be Freed
------------------------------------------------------------

namespace CxPlat

namespace PushLock

open RwLock (Mode grants)
open Transition (run run_append run_cons run_nil Meets
  invariant_meets)

variable {T Lock : Type} [DecidableEq T] [DecidableEq Lock]
variable {rank : Lock → Nat} {bound : Nat}
variable {c d : Config T Lock}

def Frees
    (rank : Lock → Nat)
    (lock : Lock)
    (c : Config T Lock) : Prop :=
  ∃ d, Reaches rank (rank lock) c d ∧ d.shared lock = []

def Relieves
    (rank : Lock → Nat)
    (lock : Lock)
    (c : Config T Lock) : Prop :=
  ∃ d, Reaches rank (rank lock) c d ∧
    (d.shared lock).length < (c.shared lock).length

/- What a waiting thread holds has a lower rank. -/
theorem Inv.below
    {p : T}
    {lock : Lock}
    {mode : Mode}
    (hInv : Inv rank c)
    (hWaits :
      (c.locals p).todo = [.exAcquirePushLock lock mode]) :
    ∀ h ∈ (c.locals p).held, rank h.1 < rank lock := by
  have hClimbs := hInv.climbs p
  unfold Climbs at hClimbs
  rw [hWaits] at hClimbs
  exact hClimbs _ List.mem_cons_self

/- A thread in an acquire comes to wait for the lock. -/
theorem reaches_waiting
    {p : T}
    {lock other : Lock}
    {mode mode' : Mode}
    (hInv : Inv rank c)
    (hHeld : (lock, mode) ∈ (c.locals p).held)
    (hTodo :
      .exAcquirePushLock other mode' ∈ (c.locals p).todo) :
    ∃ d, Reaches rank (rank lock) c d ∧
      d.shared = c.shared ∧
      (d.locals p).held = (c.locals p).held ∧
      (d.locals p).todo =
        [.exAcquirePushLock other mode'] := by
  have hOwns := hInv.sound.2 p
  have hRuns := hOwns.runs_of_mem hHeld
  have hWithin := hOwns.within
  generalize hRest : (c.locals p).todo = todo
    at hTodo hWithin
  cases hWithin with
  | outside => contradiction
  | acquiring k m =>
      obtain ⟨rfl, rfl⟩ : other = k ∧ mode' = m := by
        simpa [acquire] using hTodo
      have hEnter :
          run (alone p) (c.shared, c.locals p) [.next] =
            some
              (c.shared,
               { c.locals p with
                 regions := (c.locals p).regions + 1
                 todo :=
                   [.exAcquirePushLock other mode'] }) := by
        simp [run, alone, statement, perform, hRest, hRuns,
          acquire]
      refine
        ⟨_, .of_alone (by simp [Calm]) hEnter
          (fun _ _ => le_rfl) hHeld le_rfl, rfl, ?_, ?_⟩
      · simp only [Function.update_self]
      · simp only [Function.update_self]
  | waiting k m =>
      obtain ⟨rfl, rfl⟩ : other = k ∧ mode' = m := by
        simpa using hTodo
      exact ⟨c, .refl rank _ c, rfl, rfl, hRest⟩
  | releasing k m hOther => simp [release] at hTodo
  | leaving => simp at hTodo

theorem GivesBack.relieves
    {p : T}
    {lock : Lock}
    {mode : Mode}
    (hGives :
      GivesBack rank c.shared p (c.locals p) lock)
    (hHeld : (lock, mode) ∈ (c.locals p).held) :
    Relieves rank lock c := by
  obtain ⟨actions, s, l, hCalm, hRun, hLe, hLt⟩ := hGives
  exact ⟨_, .of_alone hCalm hRun hLe hHeld le_rfl, hLt⟩

/-
  One holder less.  A holder that itself waits for a lock is
  served first; that lock has a higher rank.
-/
theorem lock_relieved
    {lock : Lock}
    (hInv : Inv rank c)
    (hHigher :
      ∀ (other : Lock) (d : Config T Lock),
        rank lock < rank other → Inv rank d →
          Frees rank other d)
    (hTaken : c.shared lock ≠ []) :
    Relieves rank lock c := by
  obtain ⟨⟨p, mode⟩, hMem⟩ :=
    List.exists_mem_of_ne_nil _ hTaken
  have hHeld :=
    ((hInv.sound.2 p).mem_iff lock mode).mp hMem
  by_cases hReady :
      ∀ k m, .exAcquirePushLock k m ∉ (c.locals p).todo
  · exact
      (holder_releases (hInv.sound.2 p) hHeld hReady).relieves
        hHeld
  · push Not at hReady
    obtain ⟨other, mode', hTodo⟩ := hReady
    obtain ⟨d, hToWait, hShared, hSame, hWaits⟩ :=
      reaches_waiting hInv hHeld hTodo
    have hInvD := hToWait.inv hInv
    have hBelow := hInvD.below hWaits
    rw [← hSame] at hHeld
    have hRank : rank lock < rank other := hBelow _ hHeld
    obtain ⟨e, hFreed, hFree⟩ := hHigher other d hRank hInvD
    have hInvE := hFreed.inv hInvD
    -- the waiting holder has not moved meanwhile
    have hStill : e.locals p = d.locals p :=
      hFreed.2.2 p hBelow
    rw [← hStill] at hHeld hWaits
    obtain ⟨f, hLast, hLt⟩ :=
      (waiter_releases (hInvE.sound.2 p) hHeld hRank hWaits
        hFree).relieves hHeld
    refine
      ⟨f, hToWait.trans ((hFreed.mono hRank.le).trans hLast),
        hLt.trans_le ?_⟩
    rw [← hShared]
    exact hFreed.2.1 lock hRank.le

/- By induction on the number of holders. -/
theorem lock_freed_of_higher
    {lock : Lock}
    (hInv : Inv rank c)
    (hHigher :
      ∀ (other : Lock) (d : Config T Lock),
        rank lock < rank other → Inv rank d →
          Frees rank other d) :
    Frees rank lock c := by
  generalize hHolders : (c.shared lock).length = holders
  induction holders using Nat.strong_induction_on
    generalizing c with
  | _ holders hFewer =>
      by_cases hTaken : c.shared lock = []
      · exact ⟨c, .refl rank _ c, hTaken⟩
      · obtain ⟨d, hReaches, hLt⟩ :=
          lock_relieved hInv hHigher hTaken
        rw [hHolders] at hLt
        obtain ⟨e, hRest, hFree⟩ :=
          hFewer _ hLt (hReaches.inv hInv) rfl
        exact ⟨e, hReaches.trans hRest, hFree⟩

/- By induction on the ranks above that of the lock. -/
theorem lock_freed
    (hBound : ∀ lock, rank lock ≤ bound)
    (lock : Lock)
    (hInv : Inv rank c) :
    Frees rank lock c := by
  generalize hAbove : bound - rank lock = above
  induction above using Nat.strong_induction_on
    generalizing c lock with
  | _ above hLess =>
      apply lock_freed_of_higher hInv
      intro other d hRank hInvD
      have hOther := hBound other
      exact hLess (bound - rank other) (by omega) other hInvD
        rfl

omit [DecidableEq T] [DecidableEq Lock] in
/- The ranks of the locks that a run names are bounded. -/
theorem exists_bound
    (rank : Lock → Nat)
    (moves : List (T × Action Lock)) :
    ∃ bound, ∀ move ∈ moves, ∀ call lock,
      move.2 = .call call lock → rank lock ≤ bound := by
  induction moves with
  | nil => exact ⟨0, by simp⟩
  | cons move moves ih =>
      obtain ⟨bound, hBound⟩ := ih
      obtain ⟨first, hFirst⟩ :
          ∃ first, ∀ call lock,
            move.2 = .call call lock → rank lock ≤ first := by
        cases hMove : move.2 with
        | call call lock =>
            refine ⟨rank lock, ?_⟩
            rintro _ _ ⟨⟩
            exact Nat.le_refl _
        | _ => exact ⟨0, by simp⟩
      refine ⟨max first bound, ?_⟩
      intro other hMem call lock hCall
      rcases List.mem_cons.mp hMem with rfl | hMem
      · exact (hFirst call lock hCall).trans
          (Nat.le_max_left _ _)
      · exact (hBound other hMem call lock hCall).trans
          (Nat.le_max_right _ _)

omit [DecidableEq T] [DecidableEq Lock] in
/-
  Ranks above those of the locks that are acquired do not
  matter.
-/
theorem ordered_capped
    {move : T × Action Lock}
    (hBound :
      ∀ call lock, move.2 = .call call lock →
        rank lock ≤ bound)
    (hOrdered : Ordered rank c move) :
    Ordered (fun lock => min (rank lock) bound) c move := by
  unfold Ordered at hOrdered ⊢
  split
  next call lock hMove =>
    simp only [hMove] at hOrdered
    have hLock := hBound call lock hMove
    rcases call.body_cases lock with ⟨mode, hBody | hBody⟩
    · rw [hBody] at hOrdered ⊢
      simp only [acquire, List.mem_cons, List.not_mem_nil,
        or_false, forall_eq_or_imp, forall_eq, Above,
        true_and] at hOrdered ⊢
      -- What is held ranks below the lock, so below the cap.
      intro held hMem
      have hLess := hOrdered held hMem
      omega
    · rw [hBody]
      simp [release, Above]
  next => trivial

/-
  Any number of threads that acquire their locks by rank, in
  any interleaving, with any of them suspended.
-/
theorem waiter_served
    (rank : Lock → Nat)
    (own : T → Nat)
    (moves : List (T × Action Lock))
    (c : Config T Lock)
    (hOrdered : Meets step (Ordered rank) (start own) moves)
    (hRun : run step (start own) moves = some c)
    (th : T)
    (lock : Lock)
    (mode : Mode)
    (hWaits :
      (c.locals th).todo = [.exAcquirePushLock lock mode]) :
    ∃ rest d,
      (∀ move ∈ rest, Calm move.2) ∧
        run step c rest = some d ∧
        (d.locals th).held =
          (lock, mode) :: (c.locals th).held ∧
        (d.locals th).todo = [] := by
  obtain ⟨bound, hBound⟩ := exists_bound rank moves
  have hInv : Inv (fun lock => min (rank lock) bound) c :=
    invariant_meets
      (fun _ _ _ hInv hOrdered hStep =>
        inv_step hInv hOrdered hStep)
      (inv_start own)
      (hOrdered.mono
        (fun _ move hMem =>
          ordered_capped (hBound move hMem)))
      hRun
  obtain ⟨d, hReaches, hFree⟩ :=
    lock_freed (fun _ => Nat.min_le_right _ _) lock hInv
  have hStill := hReaches.2.2 th (hInv.below hWaits)
  obtain ⟨⟨rest, hCalm, hRest⟩, -⟩ := hReaches
  have hRuns : (c.locals th).suspended = false := by
    apply (hInv.sound.2 th).runs
    rw [hWaits]
    simp [pending]
  have hTake :
      run (alone th) (d.shared, d.locals th) [.next] =
        some
          (Function.update d.shared lock [(th, mode)],
           { c.locals th with
             held := (lock, mode) :: (c.locals th).held
             todo := [] }) := by
    rw [hStill]
    exact run_cons [] (alone_take th hRuns hWaits hFree)
  refine
    ⟨rest ++ [Action.next].map (Prod.mk th), _, ?_,
      (run_append _ _ hRest).trans
        (Threads.run_of_alone hTake), ?_, ?_⟩
  · intro move hMem
    rcases List.mem_append.mp hMem with hMem | hMem
    · exact hCalm move hMem
    · rw [List.mem_singleton.mp hMem]
      trivial
  · simp only [Function.update_self]
  · simp only [Function.update_self]

/-
  Thread 2 waits for thread 0, which waits for thread 1, and
  thread 3 is suspended.
-/
def waitingChain : List (Nat × Action Bool) :=
  [(1, .call .lockAcquire true), (1, .next), (1, .next),
    (0, .call .lockAcquire false), (0, .next), (0, .next),
    (0, .call .rwLockAcquireShared true), (0, .next),
    (2, .call .lockAcquire false), (2, .next), (3, .suspend)]

theorem waiter_served_waitingChain :
    ∃ (c : Config Nat Bool) (rest : _) (d : _),
      run step (start (fun _ => 0)) waitingChain = some c ∧
        (∀ move ∈ rest, Calm move.2) ∧
        run step c rest = some d ∧
        (d.locals 2).held = [(false, .exclusive)] := by
  obtain ⟨rest, d, hCalm, hRest, hHeld, -⟩ :=
    waiter_served Bool.toNat (fun _ => 0) waitingChain _
      (by decide) rfl 2 false .exclusive rfl
  exact ⟨_, rest, d, rfl, hCalm, hRest, hHeld⟩

end PushLock

end CxPlat
