import CxPlat.AllocFailure
import CxPlat.Lib.Comp

/-
  `CxPlatTestMemoryFailureInjection` of `MemoryTest.cpp`, the
  test of the failures that `CxPlatAlloc` injects, on POSIX
  platforms.

  The test has three loops: nothing is injected, failures
  come at random, and every sixth allocation fails.  In the
  third one the test counts from zero and the library from
  one: the test looks for the failure one allocation after
  it has been injected.  So the test logs a failure whatever
  the system does, and which one it is depends on the memory
  and the random numbers it got.

  The case of that name in `cxplat_gtest.cpp` does not show
  it, because it runs `CxPlatTestMemoryBasic`.

  Key definitions include:
    * `failureInjection`
    * `verdict`

  Key theorems include:
    * `returns_plainLoop`
    * `returns_randomLoop`
    * `returns_nthLoop`
    * `failureInjection_never_passes`
-/

------------------------------------------------------------
-- The Test
------------------------------------------------------------

namespace CxPlat

namespace MemoryTest

open AllocFailure (Platform setAllocFailDenominator
  getAllocFailDenominator)

/-
  What the system has for a call of `CxPlatAlloc`: a number
  for `Rand`, and a block or NULL from `malloc`.
-/
structure Answer where
  rand : BitVec 32
  malloc : Option Nat
deriving DecidableEq, Repr

/- The checks of the test, in the order of the source. -/
inductive Check where
  | noInjection
  | someFailed
  | fewFailed
  | nthInjected
  | nthSpared
deriving DecidableEq, Repr

/-
  The library, the calls of `CxPlatAlloc` so far, the blocks
  that have not been freed, the variables of the test and the
  checks that have failed.
-/
structure State (w : Nat) where
  platform : Platform w
  calls : Nat
  held : List Nat
  buffer : Option Nat
  allocsFailed : BitVec 32
  failures : List Check
deriving DecidableEq, Repr

inductive Fault where
  | notAllocated
  | stuck
deriving DecidableEq, Repr

variable {w : Nat}

def setDenominator
    (value : BitVec 32) : Comp Fault (State w) Unit :=
  modify (fun s => { s with
    platform := setAllocFailDenominator s.platform value })

/- `Buffer = CXPLAT_ALLOC_NONPAGED(...)`. -/
def allocBuffer
    (answers : Nat → Answer) :
    Comp Fault (State w) Unit := do
  let s ← get
  let answer := answers s.calls
  let (block, platform) :=
    AllocFailure.alloc s.platform answer.rand answer.malloc
  set { s with
    platform
    calls := s.calls + 1
    held := block.toList ++ s.held
    buffer := block }

/- `CXPLAT_FREE(Buffer, ...)`. -/
def freeBuffer : Comp Fault (State w) Unit := do
  let s ← get
  match s.buffer with
  | none => pure ()
  | some block =>
      if block ∈ s.held then
        set { s with held := s.held.erase block }
      else
        throw .notAllocated

/- `Buffer = NULL`. -/
def clearBuffer : Comp Fault (State w) Unit :=
  modify (fun s => { s with buffer := none })

/-
  `TEST_TRUE_GOTO`: a check that fails is logged, and the
  test jumps to `Failure`.
-/
def testTrueGoto
    (check : Check)
    (condition : Bool) :
    Comp Fault (State w) (Option Unit) := do
  if condition then
    return none
  else
    modify (fun s => { s with
      failures := s.failures ++ [check] })
    return some ()

/- What comes next, unless there has been a jump. -/
def andThen
    (first rest : Comp Fault (State w) (Option Unit)) :
    Comp Fault (State w) (Option Unit) := do
  match ← first with
  | some jump => return some jump
  | none => rest

/- `for (int i = 0; i < n; i++)`. -/
def forBelow
    (n : Nat)
    (body : Nat → Comp Fault (State w) (Option Unit)) :
    Comp Fault (State w) (Option Unit) :=
  Comp.searchLoop .stuck (fun i => decide (i < n))
    (fun i => i + 1) body n 0

def release : Comp Fault (State w) (Option Unit) := do
  freeBuffer
  clearBuffer
  return none

/- The body of the loop without failures. -/
def plainRound
    (answers : Nat → Answer)
    (_i : Nat) : Comp Fault (State w) (Option Unit) := do
  allocBuffer answers
  let s ← get
  andThen (testTrueGoto .noInjection s.buffer.isSome) release

/- The body of the loop with failures at random. -/
def randomRound
    (answers : Nat → Answer)
    (_i : Nat) : Comp Fault (State w) (Option Unit) := do
  allocBuffer answers
  let s ← get
  if s.buffer = none then
    set { s with allocsFailed := s.allocsFailed + 1 }
    return none
  else
    release

/- `FailureIter`. -/
def failureIter : Nat := 6

/- The body of the loop with a failure every so often. -/
def nthRound
    (answers : Nat → Answer)
    (i : Nat) : Comp Fault (State w) (Option Unit) := do
  allocBuffer answers
  let s ← get
  if i = failureIter then
    testTrueGoto .nthInjected s.buffer.isNone
  else
    andThen (testTrueGoto .nthSpared s.buffer.isSome)
      release

/- The part that may jump to `Failure`. -/
def loops
    (answers : Nat → Answer) :
    Comp Fault (State w) (Option Unit) := do
  setDenominator 0
  andThen (forBelow 100 (plainRound answers)) do
    setDenominator 4
    andThen (forBelow 100 (randomRound answers)) do
      let s ← get
      andThen (testTrueGoto .someFailed
        (0 < s.allocsFailed)) do
        andThen (testTrueGoto .fewFailed
          (s.allocsFailed < 50)) do
          setDenominator
            (BitVec.ofInt 32 (-1 * failureIter))
          forBelow 10 (nthRound answers)

/- The code from the label `Failure` on. -/
def failure
    (original : BitVec 32) :
    Comp Fault (State w) Unit := do
  let s ← get
  if s.buffer ≠ none then
    freeBuffer
  setDenominator original

/- `CxPlatTestMemoryFailureInjection`. -/
def failureInjection
    (answers : Nat → Answer) :
    Comp Fault (State w) Unit := do
  let s ← get
  let original := getAllocFailDenominator s.platform
  let _ ← loops answers
  failure original

/- Before the test. -/
def start
    (p : Platform w) : State w where
  platform := p
  calls := 0
  held := []
  buffer := none
  allocsFailed := 0
  failures := []

end MemoryTest

end CxPlat

------------------------------------------------------------
-- What the Test Finds
------------------------------------------------------------

namespace CxPlat

namespace MemoryTest

/- An allocation of the second loop returns NULL. -/
def Answer.refuses
    (answer : Answer) : Bool :=
  AllocFailure.randomFails 4 answer.rand ||
    answer.malloc.isNone

/- How many of the first `n` allocations of that loop do. -/
def refused
    (answers : Nat → Answer)
    (n : Nat) : Nat :=
  (List.range n).countP
    (fun i => (answers (100 + i)).refuses)

/- `malloc` has blocks for the whole of the first loop. -/
def Supplied
    (answers : Nat → Answer)
    (n : Nat) : Prop :=
  ∀ i < n, (answers i).malloc ≠ none

instance
    (answers : Nat → Answer)
    (n : Nat) :
    Decidable (Supplied answers n) :=
  inferInstanceAs (Decidable (∀ i < n, _))

/- The check that fails. -/
def verdict
    (answers : Nat → Answer) : Check :=
  if Supplied answers 100 then
    if refused answers 100 = 0 then
      .someFailed
    else if 50 ≤ refused answers 100 then
      .fewFailed
    else
      .nthSpared
  else
    .noInjection

theorem refused_succ
    (answers : Nat → Answer)
    (n : Nat) :
    refused answers (n + 1) =
      refused answers n +
        if (answers (100 + n)).refuses then 1 else 0 := by
  unfold refused
  rw [List.range_succ, List.countP_append,
    List.countP_singleton]

theorem refused_le
    (answers : Nat → Answer)
    (n : Nat) :
    refused answers n ≤ n := by
  have hLe :=
    List.countP_le_length
      (p := fun i => (answers (100 + i)).refuses)
      (l := List.range n)
  rwa [List.length_range] at hLe

theorem supplied_succ
    {answers : Nat → Answer}
    {n : Nat}
    (hBefore : Supplied answers n)
    (hNow : (answers n).malloc ≠ none) :
    Supplied answers (n + 1) := by
  intro i hLess
  rcases Nat.lt_succ_iff_lt_or_eq.mp hLess with
    hEarlier | hLast
  · exact hBefore i hEarlier
  · rwa [hLast]

end MemoryTest

end CxPlat

------------------------------------------------------------
-- Allocations in Each Mode
------------------------------------------------------------

namespace CxPlat

namespace MemoryTest

open AllocFailure (Platform)

variable {w : Nat}

/- Nothing is injected. -/
theorem alloc_plain
    (answer : Answer) :
    AllocFailure.alloc (Platform.mk 0#32 0#w) answer.rand
        answer.malloc =
      (answer.malloc, Platform.mk 0#32 0#w) := by
  simp [AllocFailure.alloc, AllocFailure.injects]

/- Failures at random. -/
theorem alloc_random
    (answer : Answer) :
    AllocFailure.alloc (Platform.mk 4#32 0#w) answer.rand
        answer.malloc =
      (if answer.refuses then none else answer.malloc,
        Platform.mk 4#32 0#w) := by
  unfold AllocFailure.alloc AllocFailure.injects
    Answer.refuses
  cases hRand : AllocFailure.randomFails 4#32 answer.rand with
  | true => simp [hRand]
  | false =>
      cases hMalloc : answer.malloc with
      | none => simp [hRand]
      | some block => simp [hRand]

/- The library after `n` allocations of the third loop. -/
def counting
    (w n : Nat) : Platform w where
  allocFailDenominator := BitVec.ofInt 32 (-1 * failureIter)
  allocCounter := BitVec.ofNat w n

/- Every sixth allocation fails. -/
theorem alloc_counting
    (hWidth : 32 ≤ w)
    {n : Nat}
    (hFew : n < 10)
    (answer : Answer) :
    AllocFailure.alloc (counting w n) answer.rand
        answer.malloc =
      (if failureIter ∣ n + 1 then none else answer.malloc,
        counting w (n + 1)) := by
  have hValue :
      (BitVec.ofInt 32 (-1 * failureIter)).toInt =
        -(failureIter : Int) := by
    decide
  have hBound : n + 1 < 2 ^ (w - 1) := by
    calc n + 1
      _ < 2 ^ 31 := by omega
      _ ≤ 2 ^ (w - 1) :=
          Nat.pow_le_pow_right (by omega) (by omega)
  have hFails :=
    AllocFailure.countFails_iff hWidth hValue hBound
  have hCount :
      BitVec.ofNat w n + 1 = BitVec.ofNat w (n + 1) :=
    (BitVec.ofNat_add n 1).symm
  have hNotPos :
      ¬ (BitVec.ofInt 32 (-1 * failureIter)).toInt > 0 := by
    decide
  have hNeg :
      (BitVec.ofInt 32 (-1 * failureIter)).toInt < 0 := by
    decide
  unfold AllocFailure.alloc AllocFailure.injects counting
  simp only [Interlocked.interlockedIncrement,
    Interlocked.syncOpAndFetch, hCount]
  rw [if_neg (fun h => hNotPos h.1), if_pos hNeg]
  by_cases hDivides : failureIter ∣ n + 1
  · rw [if_pos hDivides, hFails.mpr hDivides]
  · rw [if_neg hDivides,
      Bool.eq_false_iff.mpr (fun h => hDivides (hFails.mp h))]

end MemoryTest

end CxPlat

------------------------------------------------------------
-- Rules for Code That Jumps
------------------------------------------------------------

namespace CxPlat

namespace MemoryTest

variable {w : Nat} {Next Later Jump : State w → Prop}

/- Where the code gets to, with and without a jump. -/
def Goes
    (Next Jump : State w → Prop) :
    Option Unit → State w → Prop
  | none, t => Next t
  | some _, t => Jump t

theorem Goes.imp
    {r : Option Unit}
    {t : State w}
    (hImp : ∀ t, Next t → Later t)
    (hGoes : Goes Next Jump r t) :
    Goes Later Jump r t := by
  cases r with
  | none => exact hImp t hGoes
  | some jump => exact hGoes

theorem returns_andThen
    {first rest : Comp Fault (State w) (Option Unit)}
    {s : State w}
    (hFirst : Comp.Returns first s (Goes Next Jump))
    (hRest :
      ∀ t, Next t →
        Comp.Returns rest t (Goes Later Jump)) :
    Comp.Returns (andThen first rest) s
      (Goes Later Jump) := by
  refine hFirst.bind ?_
  intro r t hThere
  cases r with
  | none => exact hRest t hThere
  | some jump => exact (Comp.returns_pure _ _ _).mpr hThere

/- By the rule for searching loops. -/
theorem returns_forBelow
    (Inv : Nat → State w → Prop)
    {n : Nat}
    {body : Nat → Comp Fault (State w) (Option Unit)}
    (hBody :
      ∀ i s, i < n → Inv i s →
        Comp.Returns (body i) s (Goes (Inv (i + 1)) Jump))
    {s : State w}
    (hInv : Inv 0 s) :
    Comp.Returns (forBelow n body) s
      (Goes (Inv n) Jump) := by
  refine Comp.returns_searchLoop
    (fun i t => i ≤ n ∧ Inv i t) (fun i => n - i) ?_ ?_
    (Nat.le_refl _) ⟨Nat.zero_le n, hInv⟩
  · rintro i t ⟨_, hNow⟩ hCond
    have hLess : i < n := of_decide_eq_true hCond
    refine ⟨by omega, (hBody i t hLess hNow).mono ?_⟩
    intro r u hThere
    cases r with
    | none => exact ⟨fun _ => ⟨hLess, hThere⟩, by simp⟩
    | some jump => exact ⟨by simp, fun _ => hThere⟩
  · rintro i t ⟨hLe, hNow⟩ hCond
    have hEnd : i = n := by
      have hNot := of_decide_eq_false hCond
      omega
    rwa [hEnd] at hNow

theorem returns_testTrueGoto
    {check : Check}
    {condition : Bool}
    {s : State w}
    (hHolds : condition = true → Next s)
    (hFails :
      condition = false →
        Jump { s with failures := s.failures ++ [check] }) :
    Comp.Returns (testTrueGoto check condition) s
      (Goes Next Jump) := by
  unfold testTrueGoto
  cases condition with
  | true =>
      exact (Comp.returns_pure _ _ _).mpr (hHolds rfl)
  | false => simpa [Goes] using hFails rfl

end MemoryTest

end CxPlat

------------------------------------------------------------
-- The Three Loops
------------------------------------------------------------

namespace CxPlat

namespace MemoryTest

open AllocFailure (Platform)

variable {w : Nat} {answers : Nat → Answer}

/- Between two rounds, before any check has failed. -/
def ready
    (p : Platform w)
    (calls failed : Nat) : State w where
  platform := p
  calls := calls
  held := []
  buffer := none
  allocsFailed := BitVec.ofNat 32 failed
  failures := []

/- At `Failure`, after the check that was bound to fail. -/
structure Logged
    (answers : Nat → Answer)
    (t : State w) : Prop where
  failures : t.failures = [verdict answers]
  held : t.held = t.buffer.toList
  calls : t.calls ≤ 200 + failureIter

/- After an allocation, with the block it got. -/
def allocated
    (s : State w)
    (p : Platform w)
    (block : Option Nat) : State w :=
  { s with
    platform := p
    calls := s.calls + 1
    held := block.toList
    buffer := block }

theorem exec_allocBuffer
    {p p' : Platform w}
    {calls failed : Nat}
    {block : Option Nat}
    (hAlloc :
      AllocFailure.alloc p (answers calls).rand
        (answers calls).malloc = (block, p')) :
    Comp.exec (allocBuffer answers) (ready p calls failed) =
      .ok ((),
        allocated (ready p calls failed) p' block) := by
  unfold allocBuffer
  simp only [Comp.exec_bind, Comp.exec_get]
  simp only [ready, hAlloc, Comp.exec_set, List.append_nil,
    allocated]

/- A block that has been allocated can be freed. -/
theorem returns_release
    {p p' : Platform w}
    {calls failed block : Nat}
    {Next Jump : State w → Prop}
    (hNext : Next (ready p' (calls + 1) failed)) :
    Comp.Returns release
      (allocated (ready p calls failed) p' (some block))
      (Goes Next Jump) := by
  simpa [release, freeBuffer, clearBuffer, allocated, ready,
    Goes] using hNext

/- The check that there is a block, which is then freed. -/
theorem returns_checkedRelease
    {check : Check}
    {p p' : Platform w}
    {calls failed : Nat}
    {block : Option Nat}
    {Next Jump : State w → Prop}
    (hBlock :
      block ≠ none → Next (ready p' (calls + 1) failed))
    (hNull :
      block = none →
        Jump
          { allocated (ready p calls failed) p' none with
            failures := [check] }) :
    Comp.Returns
      (andThen (testTrueGoto check block.isSome) release)
      (allocated (ready p calls failed) p' block)
      (Goes Next Jump) := by
  cases block with
  | none =>
      have hCheck :
          Comp.Returns (testTrueGoto check false)
            (allocated (ready p calls failed) p' none)
            (Goes (fun _ => False) Jump) :=
        returns_testTrueGoto nofun (fun _ => hNull rfl)
      exact returns_andThen hCheck (fun _ h => h.elim)
  | some block =>
      have hCheck :
          Comp.Returns (testTrueGoto check true)
            (allocated (ready p calls failed) p' (some block))
            (Goes
              (fun t =>
                t = allocated (ready p calls failed) p'
                  (some block))
              Jump) :=
        returns_testTrueGoto (fun _ => rfl) nofun
      refine returns_andThen hCheck ?_
      rintro t rfl
      exact returns_release (hBlock nofun)

/- The verdict is logged after an allocation got nothing. -/
theorem logged_of_null
    {check : Check}
    {p p' : Platform w}
    {calls failed : Nat}
    (hCheck : verdict answers = check)
    (hCalls : calls < 200 + failureIter) :
    Logged answers
      { allocated (ready p calls failed) p' none with
        failures := [check] } where
  failures := by rw [hCheck]
  held := rfl
  calls := hCalls

theorem returns_plainLoop :
    Comp.Returns (forBelow 100 (plainRound answers))
      (ready (Platform.mk 0#32 0#w) 0 0)
      (Goes
        (fun t =>
          t = ready (Platform.mk 0#32 0#w) 100 0 ∧
            Supplied answers 100)
        (Logged answers)) := by
  refine returns_forBelow
    (fun i t =>
      t = ready (Platform.mk 0#32 0#w) i 0 ∧
        Supplied answers i)
    ?_ ⟨rfl, fun i hLess => absurd hLess (Nat.not_lt_zero i)⟩
  rintro i s hLess ⟨rfl, hSupplied⟩
  unfold plainRound
  rw [Comp.returns_bind_of_exec
    (exec_allocBuffer (alloc_plain (answers i))),
    Comp.returns_bind_of_exec (Comp.exec_get _)]
  apply returns_checkedRelease
  · intro hBlock
    exact ⟨rfl, supplied_succ hSupplied hBlock⟩
  · intro hNull
    have hNot : ¬ Supplied answers 100 :=
      fun h => h i hLess hNull
    apply logged_of_null
    · rw [verdict, if_neg hNot]
    · omega

theorem returns_randomLoop :
    Comp.Returns (forBelow 100 (randomRound answers))
      (ready (Platform.mk 4#32 0#w) 100 0)
      (Goes
        (fun t =>
          t = ready (Platform.mk 4#32 0#w) 200
            (refused answers 100))
        (Logged answers)) := by
  refine returns_forBelow
    (fun i t =>
      t = ready (Platform.mk 4#32 0#w) (100 + i)
        (refused answers i))
    ?_ rfl
  rintro i s _ rfl
  unfold randomRound
  rw [Comp.returns_bind_of_exec
    (exec_allocBuffer (alloc_random (answers (100 + i)))),
    Comp.returns_bind_of_exec (Comp.exec_get _),
    refused_succ]
  cases hRefuses : (answers (100 + i)).refuses with
  | true =>
      simp [allocated, ready, Goes, BitVec.ofNat_add,
        Nat.add_assoc]
  | false =>
      have hBlock : (answers (100 + i)).malloc ≠ none := by
        intro hNone
        simp [Answer.refuses, hNone] at hRefuses
      obtain ⟨block, hMalloc⟩ :=
        Option.ne_none_iff_exists'.mp hBlock
      rw [hMalloc]
      exact returns_release rfl

/-
  The round in which the library injects the failure is not
  the one in which the test looks for it.
-/
theorem returns_nthLoop
    (hWidth : 32 ≤ w)
    (hVerdict : verdict answers = .nthSpared)
    (failed : Nat) :
    Comp.Returns (forBelow 10 (nthRound answers))
      (ready (counting w 0) 200 failed)
      (Goes (fun _ => False) (Logged answers)) := by
  have hLoop :
      Comp.Returns (forBelow 10 (nthRound answers))
        (ready (counting w 0) 200 failed)
        (Goes
          (fun t =>
            t = ready (counting w 10) 210 failed ∧
              10 < failureIter)
          (Logged answers)) := by
    refine returns_forBelow
      (fun i t =>
        t = ready (counting w i) (200 + i) failed ∧
          i < failureIter)
      ?_ ⟨rfl, by decide⟩
    rintro i s hLess ⟨rfl, hEarly⟩
    unfold nthRound
    rw [Comp.returns_bind_of_exec
      (exec_allocBuffer
        (alloc_counting hWidth hLess (answers (200 + i)))),
      Comp.returns_bind_of_exec (Comp.exec_get _),
      if_neg (Nat.ne_of_lt hEarly)]
    apply returns_checkedRelease
    · intro hBlock
      refine ⟨rfl, ?_⟩
      by_contra hLate
      have hSixth : i + 1 = failureIter := by omega
      exact hBlock (if_pos ⟨1, by omega⟩)
    · intro _
      exact logged_of_null hVerdict (by omega)
  apply hLoop.mono
  intro r t
  exact Goes.imp (fun _ hPast => absurd hPast.2 (by decide))

end MemoryTest

end CxPlat

------------------------------------------------------------
-- The Verdict
------------------------------------------------------------

namespace CxPlat

namespace MemoryTest

open AllocFailure (Platform setAllocFailDenominator)

variable {w : Nat} {answers : Nat → Answer}

theorem exec_setDenominator
    (p : Platform w)
    (calls failed : Nat)
    (value : BitVec 32) :
    Comp.exec (setDenominator value) (ready p calls failed) =
      .ok ((), ready (Platform.mk value 0#w) calls failed) :=
  rfl

/- A check of the number of failures. -/
theorem logged_of_count
    {check : Check}
    {p : Platform w}
    {failed : Nat}
    (hCheck : verdict answers = check) :
    Logged answers
      { ready p 200 failed with failures := [check] } where
  failures := by rw [hCheck]
  held := rfl
  calls := Nat.le_add_right 200 failureIter

/- Both checks of the number of failures, and what follows. -/
theorem returns_countChecks
    (hSupplied : Supplied answers 100)
    {p : Platform w}
    {rest : Comp Fault (State w) (Option Unit)}
    (hRest :
      verdict answers = .nthSpared →
        Comp.Returns rest
          (ready p 200 (refused answers 100))
          (Goes (fun _ => False) (Logged answers))) :
    let s := ready p 200 (refused answers 100)
    Comp.Returns
      (andThen
        (testTrueGoto .someFailed (0 < s.allocsFailed))
        (andThen
          (testTrueGoto .fewFailed (s.allocsFailed < 50))
          rest))
      s (Goes (fun _ => False) (Logged answers)) := by
  intro s
  have hLe := refused_le answers 100
  have hCount :
      s.allocsFailed.toNat = refused answers 100 :=
    Nat.mod_eq_of_lt (by omega)
  have hSome :
      0 < s.allocsFailed ↔ 0 < refused answers 100 := by
    rw [BitVec.lt_def, hCount]
    rfl
  have hFew :
      s.allocsFailed < 50 ↔ refused answers 100 < 50 := by
    rw [BitVec.lt_def, hCount]
    rfl
  have hFirst :
      Comp.Returns
        (testTrueGoto .someFailed (0 < s.allocsFailed)) s
        (Goes (fun t => t = s ∧ 0 < refused answers 100)
          (Logged answers)) := by
    apply returns_testTrueGoto
    · intro hHolds
      exact ⟨rfl, hSome.mp (of_decide_eq_true hHolds)⟩
    · intro hFails
      have hNone := of_decide_eq_false hFails
      rw [hSome] at hNone
      apply logged_of_count
      rw [verdict, if_pos hSupplied, if_pos (by omega)]
  have hSecond :
      Comp.Returns
        (testTrueGoto .fewFailed (s.allocsFailed < 50)) s
        (Goes (fun t => t = s ∧ refused answers 100 < 50)
          (Logged answers)) := by
    apply returns_testTrueGoto
    · intro hHolds
      exact ⟨rfl, hFew.mp (of_decide_eq_true hHolds)⟩
    · intro hFails
      have hMany := of_decide_eq_false hFails
      rw [hFew] at hMany
      apply logged_of_count
      rw [verdict, if_pos hSupplied, if_neg (by omega),
        if_pos (by omega)]
  refine returns_andThen hFirst ?_
  rintro t ⟨rfl, hPositive⟩
  refine returns_andThen hSecond ?_
  rintro t ⟨rfl, hBelow⟩
  apply hRest
  rw [verdict, if_pos hSupplied, if_neg (by omega),
    if_neg (by omega)]

/- The code before `Failure` always jumps there. -/
theorem returns_loops
    (hWidth : 32 ≤ w)
    (p : Platform w) :
    Comp.Returns (loops answers) (ready p 0 0)
      (Goes (fun _ => False) (Logged answers)) := by
  unfold loops
  rw [Comp.returns_bind_of_exec (exec_setDenominator ..)]
  refine returns_andThen returns_plainLoop ?_
  rintro _ ⟨rfl, hSupplied⟩
  rw [Comp.returns_bind_of_exec (exec_setDenominator ..)]
  refine returns_andThen returns_randomLoop ?_
  rintro _ rfl
  rw [Comp.returns_bind_of_exec (Comp.exec_get _)]
  apply returns_countChecks hSupplied
  intro hVerdict
  rw [Comp.returns_bind_of_exec (exec_setDenominator ..)]
  exact returns_nthLoop hWidth hVerdict _

theorem returns_failure
    {t : State w}
    (hLogged : Logged answers t)
    (original : BitVec 32) :
    Comp.Returns (failure original) t
      (fun _ u =>
        u.failures = [verdict answers] ∧
          u.calls ≤ 200 + failureIter ∧
          u.held = [] ∧
          u.platform = Platform.mk original 0#w) := by
  rcases hLogged with ⟨hFailures, hHeld, hCalls⟩
  cases hBuffer : t.buffer with
  | none =>
      rw [hBuffer] at hHeld
      simp [failure, setDenominator, setAllocFailDenominator,
        hBuffer, hFailures, hCalls, hHeld]
  | some block =>
      rw [hBuffer] at hHeld
      simp [failure, freeBuffer, setDenominator,
        setAllocFailDenominator, hBuffer, hFailures, hCalls,
        hHeld]

/-
  The test fails with exactly one check, never the one of the
  injected failure, frees all it has allocated and leaves the
  denominator as it was.
-/
theorem failureInjection_never_passes
    (model : Interlocked.DataModel)
    (answers : Nat → Answer)
    (p : Platform model.bits) :
    Comp.Returns (failureInjection answers) (start p)
      (fun _ t =>
        t.failures = [verdict answers] ∧
          t.calls ≤ 200 + failureIter ∧
          t.held = [] ∧
          t.platform =
            setAllocFailDenominator p
              p.allocFailDenominator) := by
  have hWidth : 32 ≤ model.bits := by
    cases model <;> decide
  unfold failureInjection
  rw [Comp.returns_bind_of_exec (Comp.exec_get _)]
  refine (returns_loops hWidth p).bind ?_
  intro r t hThere
  cases r with
  | none => exact hThere.elim
  | some jump => exact returns_failure hThere _

/-
  With memory for everything and some failures at random it
  is the third loop that fails.
-/
example :
    verdict (fun n => ⟨BitVec.ofNat 32 n, some n⟩) =
      .nthSpared := by
  decide

end MemoryTest

end CxPlat
