import CxPlat.AllocFailure
import CxPlat.Lib.Threads
import CxPlat.Lib.Tickets

/-
  Threads that allocate while failures are injected, in the
  debug builds of `cxplat_posix.c` and `cxplat_winuser.c`.

  Each thread goes through the condition in `CxPlatAlloc` one
  access to the shared fields at a time; only the increment
  of the counter is atomic.  `CxPlatSetAllocFailDenominator`
  is not called while an allocation is under way.

  The shared state has a history besides the fields: how many
  allocations have been counted since the latest call of
  `CxPlatSetAllocFailDenominator`, and what those that have
  returned returned, each with its place in that order.

  Key definitions include:
    * `Point`, `Shared`
    * `statement`, `step`
    * `Quiet`
    * `Right`

  Key theorems include:
    * `run_alloc`
    * `outline_statement`
    * `sound_goOn`
    * `failuresUpTo_of_sound`
    * `nthFailure_exact`
-/

------------------------------------------------------------
-- Threads
------------------------------------------------------------

namespace CxPlat

namespace AllocFailure

/-
  An allocation that returns: its place among those counted,
  if it was counted, and whether it returns NULL.
-/
structure Outcome where
  order : Option Nat
  null : Bool
deriving DecidableEq, Repr

/- Where a thread is in `CxPlatAlloc`. -/
inductive Point (w : Nat) where
  | idle
  | testPositive
  | random
  | testRandom (rand : BitVec 32)
  | testNegative
  | increment
  | testCount (order : Nat) (count : BitVec w)
  | malloc (order : Option Nat)
  | returning (outcome : Outcome)
deriving DecidableEq, Repr

/- The fields, and the history since the latest call. -/
structure Shared (w : Nat) where
  platform : Platform w
  counted : Nat
  returned : List Outcome
deriving DecidableEq, Repr

variable {w : Nat} {Th : Type}

/-
  One statement of `CxPlatAlloc`.  The number is what the
  call of `CxPlatRandom` leaves in `Rand`, and `malloc`
  always succeeds.
-/
def statement
    (w : Nat)
    (Th : Type) :
    Threads.Program (Shared w) (Point w) Th (BitVec 32) :=
  fun s _ point rand =>
    let denominator := s.platform.allocFailDenominator
    match point with
    | .idle => some (s, .testPositive)
    | .testPositive =>
        if denominator.toInt > 0 then some (s, .random)
        else some (s, .testNegative)
    | .random => some (s, .testRandom rand)
    | .testRandom rand =>
        if randomFails denominator rand then
          some (s, .returning ⟨none, true⟩)
        else
          some (s, .testNegative)
    | .testNegative =>
        if denominator.toInt < 0 then some (s, .increment)
        else some (s, .malloc none)
    | .increment =>
        let counted := Interlocked.interlockedIncrement
          s.platform.allocCounter
        some
          ({ s with
              platform :=
                { s.platform with allocCounter := counted.cell }
              counted := s.counted + 1 },
            .testCount (s.counted + 1) counted.result)
    | .testCount order count =>
        if countFails denominator count then
          some (s, .returning ⟨some order, true⟩)
        else
          some (s, .malloc (some order))
    | .malloc order => some (s, .returning ⟨order, false⟩)
    | .returning outcome =>
        some
          ({ s with returned := outcome :: s.returned }, .idle)

/-
  A move: a thread goes on, or some thread calls
  `CxPlatSetAllocFailDenominator`.
-/
inductive Move (Th : Type) where
  | goOn (th : Th) (rand : BitVec 32)
  | setAllocFailDenominator (value : BitVec 32)

abbrev Config (w : Nat) (Th : Type) :=
  Threads.Config (Shared w) (Point w) Th

/- The history starts anew. -/
def Shared.restart
    (s : Shared w)
    (value : BitVec 32) : Shared w where
  platform := AllocFailure.setAllocFailDenominator
    s.platform value
  counted := 0
  returned := []

def step
    [DecidableEq Th]
    (c : Config w Th) : Move Th → Option (Config w Th)
  | .goOn th rand =>
      Threads.step (statement w Th) c (th, rand)
  | .setAllocFailDenominator value =>
      some { c with shared := c.shared.restart value }

/- No thread is in `CxPlatAlloc`. -/
def Idle
    (c : Config w Th) : Prop :=
  ∀ th, c.locals th = .idle

/- The denominator is set while no thread allocates. -/
def Quiet
    (c : Config w Th) : Move Th → Prop
  | .goOn _ _ => True
  | .setAllocFailDenominator _ => Idle c

/- The fields are zero at first. -/
def start
    (w : Nat)
    (Th : Type) : Config w Th where
  shared :=
    { platform := { allocFailDenominator := 0, allocCounter := 0 }
      counted := 0
      returned := [] }
  locals := fun _ => .idle

/- The value that was set last. -/
def latestSet
    (value : BitVec 32) : List (Move Th) → BitVec 32
  | [] => value
  | .goOn _ _ :: moves => latestSet value moves
  | .setAllocFailDenominator value :: moves =>
      latestSet value moves

end AllocFailure

end CxPlat

------------------------------------------------------------
-- A Thread on Its Own
------------------------------------------------------------

namespace CxPlat

namespace AllocFailure

open Transition

variable {w : Nat} {Th : Type}

/- Some statements of one thread and nothing else. -/
def alone
    (th : Th)
    (rand : BitVec 32) :
    Nat → Shared w × Point w → Option (Shared w × Point w)
  | 0, now => some now
  | n + 1, (s, point) =>
      match statement w Th s th point rand with
      | some next => alone th rand n next
      | none => none

theorem run_alone
    [DecidableEq Th]
    {th : Th}
    {rand : BitVec 32}
    {n : Nat}
    {c : Config w Th}
    {s : Shared w}
    {point : Point w}
    (hAlone :
      alone th rand n (c.shared, c.locals th) =
        some (s, point)) :
    run step c (List.replicate n (.goOn th rand)) =
      some
        { shared := s
          locals := Function.update c.locals th point } := by
  induction n generalizing c with
  | zero =>
      cases hAlone
      rw [Function.update_eq_self]
      rfl
  | succ n ih =>
      unfold alone at hAlone
      split at hAlone
      next next hNext =>
        have hStep :
            step c (.goOn th rand) =
              some
                { shared := next.1
                  locals :=
                    Function.update c.locals th next.2 } := by
          simp only [step, Threads.step, hNext]
        have hHere :
            Function.update c.locals th next.2 th = next.2 :=
          Function.update_self _ _ _
        rw [List.replicate_succ, run_cons _ hStep, ih]
        · rw [Function.update_idem]
        · simp only [hHere]
          exact hAlone
      next => cases hAlone

/- The shared state after a call of `CxPlatAlloc`. -/
def Shared.afterAlloc
    (s : Shared w)
    (rand : BitVec 32) : Shared w :=
  let (null, platform) := injects s.platform rand
  if s.platform.allocFailDenominator.toInt < 0 then
    { platform
      counted := s.counted + 1
      returned := ⟨some (s.counted + 1), null⟩ :: s.returned }
  else
    { s with
      platform
      returned := ⟨none, null⟩ :: s.returned }

/- A thread on its own does what `CxPlatAlloc` does. -/
theorem alone_alloc
    (th : Th)
    (s : Shared w)
    (rand : BitVec 32) :
    ∃ n,
      alone th rand n (s, .idle) =
        some (s.afterAlloc rand, .idle) := by
  rcases Int.lt_trichotomy
    s.platform.allocFailDenominator.toInt 0 with
    hNegative | hZero | hPositive
  · -- counted, and the counter decides
    have hNot :
        ¬ s.platform.allocFailDenominator.toInt > 0 := by
      omega
    cases hFails :
        countFails s.platform.allocFailDenominator
          (Interlocked.interlockedIncrement
            s.platform.allocCounter).result with
    | true =>
        refine ⟨6, ?_⟩
        simp [alone, statement, Shared.afterAlloc, injects,
          hNegative, hNot, hFails]
    | false =>
        refine ⟨7, ?_⟩
        simp [alone, statement, Shared.afterAlloc, injects,
          hNegative, hNot, hFails]
  · -- neither test is made
    refine ⟨5, ?_⟩
    simp [alone, statement, Shared.afterAlloc, injects, hZero]
  · -- the random number decides
    have hNot :
        ¬ s.platform.allocFailDenominator.toInt < 0 := by
      omega
    cases hFails :
        randomFails s.platform.allocFailDenominator rand with
    | true =>
        refine ⟨5, ?_⟩
        simp [alone, statement, Shared.afterAlloc, injects,
          hPositive, hNot, hFails]
    | false =>
        refine ⟨7, ?_⟩
        simp [alone, statement, Shared.afterAlloc, injects,
          hPositive, hNot, hFails]

/- The moves of one call, and what the other threads see. -/
theorem run_alloc
    [DecidableEq Th]
    {c : Config w Th}
    {th : Th}
    (rand : BitVec 32)
    (hIdle : c.locals th = .idle) :
    ∃ n,
      run step c (List.replicate n (.goOn th rand)) =
        some
          { c with shared := c.shared.afterAlloc rand } := by
  rcases alone_alloc th c.shared rand with ⟨n, hAlone⟩
  refine ⟨n, ?_⟩
  rw [← hIdle] at hAlone
  rw [run_alone hAlone, Function.update_eq_self]

end AllocFailure

end CxPlat

------------------------------------------------------------
-- What Is Returned
------------------------------------------------------------

namespace CxPlat

namespace AllocFailure

variable {w : Nat} {Th : Type}

/- The denominator has the number `k` fail or not. -/
structure CountedAs
    (s : Shared w)
    (k : Nat)
    (fails : Bool) : Prop where
  negative : s.platform.allocFailDenominator.toInt < 0
  fails :
    fails =
      countFails s.platform.allocFailDenominator
        (BitVec.ofNat w k)

/-
  An allocation that was counted fails by its number; one
  that was not only fails if the denominator is positive.
-/
def Right
    (s : Shared w)
    (outcome : Outcome) : Prop :=
  match outcome.order with
  | some k => CountedAs s k outcome.null
  | none =>
      0 ≤ s.platform.allocFailDenominator.toInt ∧
        (outcome.null = true →
          0 < s.platform.allocFailDenominator.toInt)

/- What a thread knows at each point. -/
def At
    (s : Shared w) : Point w → Prop
  | .idle => True
  | .testPositive => True
  | .random => 0 < s.platform.allocFailDenominator.toInt
  | .testRandom _ =>
      0 < s.platform.allocFailDenominator.toInt
  | .testNegative => True
  | .increment =>
      s.platform.allocFailDenominator.toInt < 0
  | .testCount order count =>
      s.platform.allocFailDenominator.toInt < 0 ∧
        count = BitVec.ofNat w order
  | .malloc order => Right s ⟨order, false⟩
  | .returning outcome => Right s outcome

/- The counter counts, and all results were right. -/
structure Exact
    (s : Shared w) : Prop where
  counter :
    s.platform.allocCounter = BitVec.ofNat w s.counted
  returned : ∀ outcome ∈ s.returned, Right s outcome

/- The knowledge is about the denominator only. -/
theorem Right.congr
    {s t : Shared w}
    {outcome : Outcome}
    (hRight : Right s outcome)
    (hSame :
      t.platform.allocFailDenominator =
        s.platform.allocFailDenominator) :
    Right t outcome := by
  rcases outcome with ⟨order, null⟩
  cases order with
  | none => simpa only [Right, hSame] using hRight
  | some k =>
      rcases hRight with ⟨hNegative, hFails⟩
      rw [← hSame] at hNegative hFails
      exact ⟨hNegative, hFails⟩

theorem at_congr
    {s t : Shared w}
    (hSame :
      t.platform.allocFailDenominator =
        s.platform.allocFailDenominator)
    {point : Point w}
    (hAt : At s point) :
    At t point := by
  cases point with
  | idle => trivial
  | testPositive => trivial
  | testNegative => trivial
  | random => simpa only [At, hSame] using hAt
  | testRandom rand => simpa only [At, hSame] using hAt
  | increment => simpa only [At, hSame] using hAt
  | testCount order count =>
      simpa only [At, hSame] using hAt
  | malloc order => exact Right.congr hAt hSame
  | returning outcome => exact Right.congr hAt hSame

/- No statement changes the denominator. -/
theorem denominator_statement
    {s s' : Shared w}
    {th : Th}
    {point point' : Point w}
    {rand : BitVec 32}
    (hStep :
      statement w Th s th point rand = some (s', point')) :
    s'.platform.allocFailDenominator =
      s.platform.allocFailDenominator := by
  cases point <;> simp only [statement] at hStep
  all_goals
    first
      | split at hStep <;> cases hStep <;> rfl
      | cases hStep; rfl

/- The statements of a thread, point by point. -/
theorem exact_statement
    {s s' : Shared w}
    {th : Th}
    {point point' : Point w}
    {rand : BitVec 32}
    (hExact : Exact s)
    (hAt : At s point)
    (hStep :
      statement w Th s th point rand = some (s', point')) :
    Exact s' ∧ At s' point' := by
  cases point with
  | idle =>
      cases hStep
      exact ⟨hExact, trivial⟩
  | testPositive =>
      simp only [statement] at hStep
      split at hStep
      next hPositive =>
        cases hStep
        exact ⟨hExact, hPositive⟩
      next =>
        cases hStep
        exact ⟨hExact, trivial⟩
  | random =>
      cases hStep
      exact ⟨hExact, hAt⟩
  | testRandom rand =>
      simp only [statement] at hStep
      split at hStep
      next =>
        cases hStep
        exact ⟨hExact, Int.le_of_lt hAt, fun _ => hAt⟩
      next =>
        cases hStep
        exact ⟨hExact, trivial⟩
  | testNegative =>
      simp only [statement] at hStep
      split at hStep
      next hNegative =>
        cases hStep
        exact ⟨hExact, hNegative⟩
      next hNegative =>
        cases hStep
        refine ⟨hExact, Int.not_lt.mp hNegative, ?_⟩
        intro hNull
        cases hNull
  | increment =>
      cases hStep
      have hCount :
          s.platform.allocCounter + 1 =
            BitVec.ofNat w (s.counted + 1) := by
        rw [hExact.counter, BitVec.ofNat_add]
        rfl
      refine ⟨⟨hCount, ?_⟩, hAt, hCount⟩
      intro outcome hMem
      apply (hExact.returned outcome hMem).congr
      rfl
  | testCount order count =>
      rcases hAt with ⟨hNegative, hCount⟩
      subst hCount
      simp only [statement] at hStep
      split at hStep
      next hFails =>
        cases hStep
        exact ⟨hExact, hNegative, hFails.symm⟩
      next hFails =>
        cases hStep
        refine ⟨hExact, hNegative, ?_⟩
        simpa using hFails
  | malloc order =>
      cases hStep
      exact ⟨hExact, hAt⟩
  | returning outcome =>
      cases hStep
      refine ⟨⟨hExact.counter, ?_⟩, trivial⟩
      intro other hMem
      rcases List.mem_cons.mp hMem with hEq | hOld
      · subst hEq
        apply Right.congr hAt
        rfl
      · apply (hExact.returned other hOld).congr
        rfl

/- A thread does not disturb the others. -/
theorem outline_statement :
    Threads.Outline (statement w Th) Exact
      (fun s _ point => At s point) := by
  constructor
  · intro s th point rand s' point' hExact hAt hStep
    exact exact_statement hExact hAt hStep
  · intro s th point rand s' point' th' other _ _ _ hOther
      hStep
    exact at_congr (denominator_statement hStep) hOther

end AllocFailure

end CxPlat

------------------------------------------------------------
-- The Order of the Increments
------------------------------------------------------------

namespace CxPlat

namespace AllocFailure

variable {w : Nat} {Th : Type}

/- The number of the allocation that a thread is in. -/
def orderOf : Point w → Option Nat
  | .testCount order _ => some order
  | .malloc order => order
  | .returning outcome => outcome.order
  | _ => none

/- The numbers are tickets, drawn by the increments. -/
def tickets
    (c : Config w Th) : Tickets Th where
  drawn := c.shared.counted
  held := orderOf ∘ c.locals
  handedIn := c.shared.returned.filterMap Outcome.order

/- What a statement does to the history. -/
inductive Effect
    (s : Shared w)
    (point : Point w) :
    Shared w → Point w → Prop where
  | silent
      {point' : Point w}
      (hSame : orderOf point' = orderOf point) :
      Effect s point s point'
  | counts
      {s' : Shared w}
      {point' : Point w}
      (hCounted : s'.counted = s.counted + 1)
      (hReturned : s'.returned = s.returned)
      (hBefore : orderOf point = none)
      (hAfter : orderOf point' = some (s.counted + 1)) :
      Effect s point s' point'
  | returns
      {s' : Shared w}
      {point' : Point w}
      (outcome : Outcome)
      (hCounted : s'.counted = s.counted)
      (hReturned : s'.returned = outcome :: s.returned)
      (hBefore : orderOf point = outcome.order)
      (hAfter : orderOf point' = none) :
      Effect s point s' point'

theorem effect_statement
    {s s' : Shared w}
    {th : Th}
    {point point' : Point w}
    {rand : BitVec 32}
    (hStep :
      statement w Th s th point rand = some (s', point')) :
    Effect s point s' point' := by
  cases point with
  | increment =>
      cases hStep
      exact .counts rfl rfl rfl rfl
  | returning outcome =>
      cases hStep
      exact .returns outcome rfl rfl rfl rfl
  | idle =>
      cases hStep
      exact .silent rfl
  | random =>
      cases hStep
      exact .silent rfl
  | malloc order =>
      cases hStep
      exact .silent rfl
  | testPositive =>
      simp only [statement] at hStep
      split at hStep <;> cases hStep <;> exact .silent rfl
  | testRandom rand =>
      simp only [statement] at hStep
      split at hStep <;> cases hStep <;> exact .silent rfl
  | testNegative =>
      simp only [statement] at hStep
      split at hStep <;> cases hStep <;> exact .silent rfl
  | testCount order count =>
      simp only [statement] at hStep
      split at hStep <;> cases hStep <;> exact .silent rfl

variable [DecidableEq Th]
variable {c d : Config w Th}

theorem tickets_update
    (c : Config w Th)
    (s : Shared w)
    (th : Th)
    (point : Point w) :
    tickets
        { shared := s
          locals := Function.update c.locals th point } =
      { drawn := s.counted
        held :=
          Function.update (tickets c).held th (orderOf point)
        handedIn := s.returned.filterMap Outcome.order } := by
  unfold tickets
  rw [Function.comp_update]

/- A statement draws a ticket, hands it in, or neither. -/
theorem sound_goOn
    {th : Th}
    {rand : BitVec 32}
    (hSound : (tickets c).Sound)
    (hStep :
      Threads.step (statement w Th) c (th, rand) = some d) :
    (tickets d).Sound := by
  rcases Threads.step_some hStep with
    ⟨s', point', hStatement, hNext⟩
  subst hNext
  -- a thread that keeps its number changes nothing
  have hKeep :
      Function.update (tickets c).held th
          (orderOf (c.locals th)) =
        (tickets c).held :=
    Function.update_eq_self th (tickets c).held
  rw [tickets_update]
  cases effect_statement hStatement with
  | silent hSame =>
      rw [hSame, hKeep]
      exact hSound
  | counts hCounted hReturned hBefore hAfter =>
      rw [hAfter, hCounted, hReturned]
      exact hSound.draw hBefore
  | returns outcome hCounted hReturned hBefore hAfter =>
      rw [hAfter, hCounted, hReturned]
      cases hOrder : outcome.order with
      | none =>
          rw [hOrder] at hBefore
          rw [List.filterMap_cons_none hOrder, ← hBefore,
            hKeep]
          exact hSound
      | some k =>
          rw [hOrder] at hBefore
          rw [List.filterMap_cons_some hOrder]
          exact hSound.handIn hBefore

end AllocFailure

end CxPlat

------------------------------------------------------------
-- Runs
------------------------------------------------------------

namespace CxPlat

namespace AllocFailure

open Transition

variable {w : Nat} {Th : Type}
variable {c d : Config w Th} {moves : List (Move Th)}

/- What holds in every state of every quiet run. -/
structure Invariant
    (c : Config w Th) : Prop where
  annotated :
    Threads.Annotated Exact (fun s _ point => At s point) c
  tickets : (tickets c).Sound

/- Nothing under way and nothing remembered. -/
theorem invariant_fresh
    (hIdle : Idle c)
    (hCounter : c.shared.platform.allocCounter = 0)
    (hCounted : c.shared.counted = 0)
    (hReturned : c.shared.returned = []) :
    Invariant c := by
  constructor
  · refine ⟨⟨?_, ?_⟩, ?_⟩
    · rw [hCounter, hCounted]
      rfl
    · rw [hReturned]
      intro outcome hMem
      cases hMem
    · intro th
      rw [hIdle th]
      trivial
  · have hNone : AllocFailure.tickets c = Tickets.none := by
      unfold AllocFailure.tickets Tickets.none
      rw [hCounted, hReturned]
      congr 1
      funext th
      simp [hIdle th, orderOf]
    rw [hNone]
    exact Tickets.sound_none

variable [DecidableEq Th]

/- One move. -/
theorem invariant_step
    {move : Move Th}
    (hInv : Invariant c)
    (hQuiet : Quiet c move)
    (hStep : step c move = some d) :
    Invariant d := by
  cases move with
  | goOn th rand =>
      exact ⟨outline_statement.step hInv.annotated hStep,
        sound_goOn hInv.tickets hStep⟩
  | setAllocFailDenominator value =>
      cases hStep
      exact invariant_fresh hQuiet rfl rfl rfl

theorem invariant_run
    (hQuiet : Meets step Quiet (start w Th) moves)
    (hRun : run step (start w Th) moves = some c) :
    Invariant c := by
  have hStart : Invariant (start w Th) :=
    invariant_fresh (fun _ => rfl) rfl rfl rfl
  exact invariant_meets
    (fun _ _ _ hInv hNow hStep =>
      invariant_step hInv hNow hStep)
    hStart hQuiet hRun

/- The denominator to get is the one that was set last. -/
theorem denominator_run
    (hRun : run step c moves = some d) :
    getAllocFailDenominator d.shared.platform =
      latestSet
        (getAllocFailDenominator c.shared.platform)
        moves := by
  unfold getAllocFailDenominator
  induction moves generalizing c with
  | nil =>
      cases hRun
      rfl
  | cons move moves ih =>
      rcases run_cons_some hRun with ⟨m, hStep, hRest⟩
      rw [ih hRest]
      cases move with
      | goOn th rand =>
          rcases Threads.step_some hStep with
            ⟨s', point', hStatement, hNext⟩
          subst hNext
          simp only [latestSet]
          rw [denominator_statement hStatement]
      | setAllocFailDenominator value =>
          cases hStep
          rfl

end AllocFailure

end CxPlat

------------------------------------------------------------
-- Failures in Order
------------------------------------------------------------

namespace CxPlat

namespace AllocFailure

open Transition

variable {w : Nat} {Th : Type}
variable {outcomes : List Outcome} {n d : Nat}

/- The multiples of `d` among the first numbers. -/
theorem countP_dvd_range
    (d n : Nat) :
    (List.range' 1 n).countP (fun k => d ∣ k) = n / d := by
  induction n with
  | zero => simp
  | succ n ih =>
      rw [List.range'_concat, List.countP_append, ih,
        Nat.succ_div]
      simp [Nat.add_comm 1 n, List.countP_singleton]

/- The failures among the first so many allocations. -/
def failuresUpTo
    (outcomes : List Outcome)
    (n : Nat) : Nat :=
  outcomes.countP (fun outcome =>
    outcome.null &&
      match outcome.order with
      | some k => k ≤ n
      | none => false)

/- The first so many allocations have all returned. -/
def AllBack
    (outcomes : List Outcome)
    (n : Nat) : Prop :=
  ∀ k, 1 ≤ k → k ≤ n →
    ∃ outcome ∈ outcomes, outcome.order = some k

/- Every `d`-th allocation fails. -/
def EveryNth
    (outcomes : List Outcome)
    (d n : Nat) : Prop :=
  ∀ outcome ∈ outcomes, ∀ k, outcome.order = some k →
    k ≤ n → (outcome.null = true ↔ d ∣ k)

/- Failures are counted by their numbers. -/
theorem failuresUpTo_eq
    (hNth : EveryNth outcomes d n) :
    failuresUpTo outcomes n =
      ((outcomes.filterMap Outcome.order).filter
        (fun k => k ≤ n)).countP (fun k => d ∣ k) := by
  unfold failuresUpTo
  induction outcomes with
  | nil => rfl
  | cons outcome outcomes ih =>
      have hRest : EveryNth outcomes d n := by
        intro other hMem
        exact hNth other (List.mem_cons_of_mem outcome hMem)
      rw [List.countP_cons, ih hRest]
      cases hOrder : outcome.order with
      | none =>
          rw [List.filterMap_cons_none hOrder]
          simp
      | some k =>
          rw [List.filterMap_cons_some hOrder,
            List.filter_cons]
          by_cases hLe : k ≤ n
          · have hIff := hNth outcome List.mem_cons_self k
              hOrder hLe
            simp [hLe, List.countP_cons, hIff]
          · simp [hLe]

/- One in `d` of the first allocations has failed. -/
theorem failuresUpTo_of_sound
    {c : Config w Th}
    (hSound : (tickets c).Sound)
    (hNth : EveryNth c.shared.returned d n)
    (hBack : AllBack c.shared.returned n) :
    failuresUpTo c.shared.returned n = n / d := by
  have hAll :
      ∀ k, 1 ≤ k → k ≤ n → k ∈ (tickets c).handedIn := by
    intro k hFirst hLast
    rcases hBack k hFirst hLast with ⟨outcome, hMem, hOrder⟩
    exact List.mem_filterMap.mpr ⟨outcome, hMem, hOrder⟩
  have hPerm := hSound.perm_upTo hAll
  rw [failuresUpTo_eq hNth, ← countP_dvd_range d n]
  exact hPerm.countP_eq _

/- Without a thread under way all have returned. -/
theorem allBack_of_idle
    {c : Config w Th}
    (hSound : (tickets c).Sound)
    (hIdle : Idle c) :
    AllBack c.shared.returned c.shared.counted := by
  intro k hFirst hLast
  have hFree : ∀ th, (tickets c).held th = none := by
    intro th
    simp [tickets, hIdle th, orderOf]
  have hMem := hSound.all_back hFree hFirst hLast
  exact List.mem_filterMap.mp hMem

/-
  After the denominator has been set to `-d`: every
  allocation that has returned has a number of its own, and
  failed if `d` divides the number.
-/
structure NthFailures
    (d : Nat)
    (c : Config w Th) : Prop where
  numbered :
    ∀ outcome ∈ c.shared.returned,
      ∃ k, outcome.order = some k ∧
        1 ≤ k ∧ k ≤ c.shared.counted
  once : (c.shared.returned.map Outcome.order).Nodup
  exact :
    ∀ outcome ∈ c.shared.returned, ∀ k,
      outcome.order = some k → k < 2 ^ (w - 1) →
        (outcome.null = true ↔ d ∣ k)
  share :
    ∀ n, n < 2 ^ (w - 1) → AllBack c.shared.returned n →
      failuresUpTo c.shared.returned n = n / d
  complete :
    Idle c → AllBack c.shared.returned c.shared.counted

/- A negative denominator counts every allocation. -/
theorem Invariant.numbered
    {c : Config w Th}
    (hInv : Invariant c)
    (hNegative :
      c.shared.platform.allocFailDenominator.toInt < 0)
    {outcome : Outcome}
    (hMem : outcome ∈ c.shared.returned) :
    ∃ k, outcome.order = some k ∧
      1 ≤ k ∧ k ≤ c.shared.counted ∧
      outcome.null =
        countFails c.shared.platform.allocFailDenominator
          (BitVec.ofNat w k) := by
  have hRight := hInv.annotated.1.returned outcome hMem
  cases hOrder : outcome.order with
  | none =>
      simp only [Right, hOrder] at hRight
      omega
  | some k =>
      simp only [Right, hOrder] at hRight
      have hBack : k ∈ (AllocFailure.tickets c).handedIn :=
        List.mem_filterMap.mpr ⟨outcome, hMem, hOrder⟩
      rcases hInv.tickets.range k hBack with ⟨hFirst, hLast⟩
      exact ⟨k, rfl, hFirst, hLast, hRight.fails⟩

theorem Invariant.nthFailures
    {c : Config w Th}
    (hInv : Invariant c)
    (hWidth : 32 ≤ w)
    (hPos : 1 ≤ d)
    (hDenominator :
      c.shared.platform.allocFailDenominator.toInt =
        -(d : Int)) :
    NthFailures d c := by
  have hNegative :
      c.shared.platform.allocFailDenominator.toInt < 0 := by
    omega
  have hExact :
      ∀ outcome ∈ c.shared.returned, ∀ k,
        outcome.order = some k → k < 2 ^ (w - 1) →
          (outcome.null = true ↔ d ∣ k) := by
    intro outcome hMem k hOrder hLess
    rcases hInv.numbered hNegative hMem with
      ⟨j, hOrder', _, _, hNull⟩
    rw [hOrder, Option.some_inj] at hOrder'
    subst hOrder'
    rw [hNull]
    exact countFails_iff hWidth hDenominator hLess
  constructor
  · intro outcome hMem
    rcases hInv.numbered hNegative hMem with
      ⟨k, hOrder, hFirst, hLast, _⟩
    exact ⟨k, hOrder, hFirst, hLast⟩
  · have hNodup :=
      List.pairwise_filterMap.mp hInv.tickets.nodup
    unfold List.Nodup
    rw [List.pairwise_map]
    refine hNodup.imp_of_mem ?_
    intro first second hFirst _ hApart hSame
    rcases hInv.numbered hNegative hFirst with
      ⟨k, hOrder, _⟩
    exact hApart k hOrder k (hSame ▸ hOrder) rfl
  · exact hExact
  · intro n hLess hBack
    apply failuresUpTo_of_sound hInv.tickets _ hBack
    intro outcome hMem k hOrder hLe
    exact hExact outcome hMem k hOrder (by omega)
  · intro hIdle
    exact allBack_of_idle hInv.tickets hIdle

/-
  Whatever the threads do, and whatever was done before: the
  denominator that was set last decides, by the number of the
  allocation, whether it fails.
-/
theorem nthFailure_exact
    [DecidableEq Th]
    (hWidth : 32 ≤ w)
    {moves : List (Move Th)}
    {c : Config w Th}
    (hQuiet : Meets step Quiet (start w Th) moves)
    (hRun : run step (start w Th) moves = some c) :
    (∀ d : Nat, 1 ≤ d → d ≤ 2 ^ 31 →
      (latestSet 0 moves).toInt = -(d : Int) →
        NthFailures d c) ∧
    (latestSet 0 moves = 0 →
      ∀ outcome ∈ c.shared.returned,
        outcome.null = false) ∧
    (∀ (moves' : List (Move Th)) (c' : Config w Th),
      Meets step Quiet (start w Th) moves' →
        run step (start w Th) moves' = some c' →
          latestSet 0 moves' = latestSet 0 moves →
            (latestSet 0 moves).toInt < 0 →
              ∀ outcome ∈ c.shared.returned,
                ∀ outcome' ∈ c'.shared.returned,
                  outcome.order = outcome'.order →
                    outcome.null = outcome'.null) := by
  have hInv := invariant_run hQuiet hRun
  have hLatest :
      c.shared.platform.allocFailDenominator =
        latestSet 0 moves := denominator_run hRun
  refine ⟨?_, ?_, ?_⟩
  · intro d hPos _ hSet
    apply hInv.nthFailures hWidth hPos
    rw [hLatest]
    exact hSet
  · intro hSet outcome hMem
    have hRight := hInv.annotated.1.returned outcome hMem
    rw [hSet] at hLatest
    by_contra hNull
    have hZero :
        c.shared.platform.allocFailDenominator.toInt = 0 := by
      rw [hLatest]
      rfl
    cases hOrder : outcome.order with
    | none =>
        simp only [Right, hOrder] at hRight
        have hMore := hRight.2 (by simpa using hNull)
        omega
    | some k =>
        simp only [Right, hOrder] at hRight
        have hLess := hRight.negative
        omega
  · intro moves' c' hQuiet' hRun' hSame hNegative outcome hMem
      outcome' hMem' hOrder
    have hInv' := invariant_run hQuiet' hRun'
    have hLatest' :
        c'.shared.platform.allocFailDenominator =
          latestSet 0 moves' := denominator_run hRun'
    rcases hInv.numbered (by rw [hLatest]; exact hNegative)
      hMem with ⟨k, hFirst, _, _, hNull⟩
    rcases hInv'.numbered
      (by rw [hLatest', hSame]; exact hNegative) hMem' with
      ⟨k', hSecond, _, _, hNull'⟩
    rw [hFirst, hSecond, Option.some_inj] at hOrder
    subst hOrder
    rw [hNull, hNull', hLatest, hLatest', hSame]

/- A run without a call that sets the denominator is quiet. -/
theorem meets_goOn
    [DecidableEq Th]
    (c : Config w Th)
    (turns : List (Th × BitVec 32)) :
    Meets step Quiet c
      (turns.map (fun turn => .goOn turn.1 turn.2)) := by
  induction turns generalizing c with
  | nil => trivial
  | cons turn turns ih =>
      refine ⟨trivial, ?_⟩
      split
      next t hStep => exact ih t
      next => trivial

/-
  Every second allocation fails.  Two threads are counted one
  after the other, and the second one returns first.
-/
def twoThreads : List (Bool × BitVec 32) :=
  List.replicate 4 (false, 0) ++ List.replicate 6 (true, 0) ++
    List.replicate 3 (false, 0)

def everySecond : List (Move Bool) :=
  .setAllocFailDenominator (-2) ::
    twoThreads.map (fun turn => .goOn turn.1 turn.2)

theorem nthFailure_exact_everySecond :
    ∃ c : Config 64 Bool,
      run step (start 64 Bool) everySecond = some c ∧
        NthFailures 2 c ∧
        c.shared.returned =
          [⟨some 1, false⟩, ⟨some 2, true⟩] := by
  have hQuiet :
      Meets step Quiet (start 64 Bool) everySecond :=
    ⟨fun _ => rfl, meets_goOn _ twoThreads⟩
  have hReturned :
      (run step (start 64 Bool) everySecond).map
          (fun c => c.shared.returned) =
        some [⟨some 1, false⟩, ⟨some 2, true⟩] := by
    decide
  rcases Option.map_eq_some_iff.mp hReturned with
    ⟨c, hRun, hOutcomes⟩
  refine ⟨c, hRun, ?_, hOutcomes⟩
  exact (nthFailure_exact (by decide) hQuiet hRun).1 2
    (by decide) (by decide) (by decide)

end AllocFailure

end CxPlat
