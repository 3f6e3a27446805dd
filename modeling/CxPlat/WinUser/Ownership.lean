import CxPlat.WinUser.Processors

/-
  Who owns the memory of the processor tables.

  At any time the blocks that exist are those of the tables,
  each once, on top of what existed before.  All functions
  but one keep to that: `CxPlatGetProcessorGroupInfo` hands
  out a block that it has freed when its second query fails.

  Key definitions include:
    * `Owns`
    * `Built`, `Settled`
    * `Clean`
    * `QueriesSound`

  Key theorems include:
    * `returns_buildTables`
    * `returns_cleanUp_some`
    * `returns_processorInfoInit`
    * `clean_iff_queriesSound`
-/

------------------------------------------------------------
-- Ownership
------------------------------------------------------------

namespace CxPlat

namespace WinUser

open Comp

variable {s t : State} {base : List Block} {b : Block}

/- The blocks of the tables. -/
def State.held
    (s : State) : List Block :=
  s.processorGroupInfo.toList.map (fun t => t.block) ++
    s.processorInfo.toList.map (fun t => t.block)

/- The tables, and nothing else on top of `base`. -/
structure Owns
    (base : List Block)
    (s : State) : Prop where
  live : s.live = s.held ++ base
  nodup : s.live.Nodup
  fresh : ∀ b ∈ s.live, b.id < s.next

/- The heap is not touched. -/
def SameHeap
    (s t : State) : Prop :=
  t.heap = s.heap ∧ t.heaps = s.heaps

theorem SameHeap.trans
    {u : State}
    (hFirst : SameHeap s t)
    (hSecond : SameHeap t u) :
    SameHeap s u := by
  exact ⟨hSecond.1.trans hFirst.1, hSecond.2.trans hFirst.2⟩

theorem held_none
    (hGroups : s.processorGroupInfo = none)
    (hProcessors : s.processorInfo = none) :
    s.held = [] := by
  simp [State.held, hGroups, hProcessors]

/- A block that is in use is freed. -/
theorem returns_free
    {Q : Unit → State → Prop}
    (hLive : b ∈ s.live)
    (hPost : Q () { s with live := s.live.erase b }) :
    Returns (free b) s Q := by
  unfold free
  rw [returns_bind, returns_get, if_pos hLive, returns_set]
  exact hPost

/- What is left when one of the blocks goes. -/
theorem Owns.erase
    (hOwns : Owns base s)
    {rest : List Block}
    (hPerm : s.live.erase b = t.held ++ rest)
    (hLive : t.live = s.live.erase b)
    (hNext : t.next = s.next) :
    Owns rest t := by
  constructor
  · rw [hLive, hPerm]
  · rw [hLive]
    exact hOwns.nodup.erase b
  · intro c hMem
    rw [hLive] at hMem
    rw [hNext]
    exact hOwns.fresh c (List.mem_of_mem_erase hMem)

/- The temporary block is freed. -/
theorem returns_free_base
    (hOwns : Owns (b :: base) s) :
    Returns (free b) s
      (fun _ t =>
        Owns base t ∧ SameHeap s t ∧
          t.processorInfo = s.processorInfo ∧
          t.processorGroupInfo = s.processorGroupInfo) := by
  have hLive := hOwns.live
  have hNotHeld : b ∉ s.held := by
    intro hHeld
    have hNodup := hOwns.nodup
    rw [hLive] at hNodup
    exact (List.nodup_append.mp hNodup).2.2 b hHeld b
      List.mem_cons_self rfl
  apply returns_free
  · rw [hLive]
    simp
  · refine ⟨?_, ⟨rfl, rfl⟩, rfl, rfl⟩
    apply hOwns.erase (b := b)
    · rw [hLive, List.erase_append_right _ hNotHeld,
        List.erase_cons_head]
      rfl
    · rfl
    · rfl

theorem returns_freeGroupTable
    (hOwns : Owns base s) :
    Returns freeGroupTable s
      (fun _ t =>
        Owns base t ∧ SameHeap s t ∧
          t.processorInfo = s.processorInfo ∧
          t.processorGroupInfo = none) := by
  unfold freeGroupTable
  rw [returns_bind, returns_get]
  split
  next hTable =>
    rw [returns_pure]
    exact ⟨hOwns, ⟨rfl, rfl⟩, rfl, hTable⟩
  next table hTable =>
    have hLive : s.live = table.block ::
        (s.processorInfo.toList.map (fun t => t.block) ++
          base) := by
      rw [hOwns.live]
      simp [State.held, hTable]
    rw [returns_bind]
    apply returns_free
    · rw [hLive]
      exact List.mem_cons_self
    · rw [returns_modify]
      refine ⟨?_, ⟨rfl, rfl⟩, rfl, rfl⟩
      apply hOwns.erase (b := table.block)
      · rw [hLive, List.erase_cons_head]
        rfl
      · rfl
      · rfl

theorem returns_freeProcessorTable
    (hOwns : Owns base s)
    (hGroups : s.processorGroupInfo = none) :
    Returns freeProcessorTable s
      (fun _ t =>
        Owns base t ∧ SameHeap s t ∧
          t.processorInfo = none ∧
          t.processorGroupInfo = none) := by
  unfold freeProcessorTable
  rw [returns_bind, returns_get]
  split
  next hTable =>
    rw [returns_pure]
    exact ⟨hOwns, ⟨rfl, rfl⟩, hTable, hGroups⟩
  next table hTable =>
    have hLive : s.live = table.block :: base := by
      rw [hOwns.live]
      simp [State.held, hTable, hGroups]
    rw [returns_bind]
    apply returns_free
    · rw [hLive]
      exact List.mem_cons_self
    · rw [returns_modify]
      refine ⟨?_, ⟨rfl, rfl⟩, rfl, hGroups⟩
      apply hOwns.erase (b := table.block)
      · rw [hLive, List.erase_cons_head]
        simp [State.held, hGroups]
      · rfl
      · rfl

/- Both tables go, each once. -/
theorem returns_freeTables
    (hOwns : Owns base s) :
    Returns freeTables s
      (fun _ t =>
        Owns base t ∧ SameHeap s t ∧
          t.processorInfo = none ∧
          t.processorGroupInfo = none) := by
  unfold freeTables
  apply (returns_freeGroupTable hOwns).bind
  rintro _ t ⟨hLater, hHeap, _, hGroups⟩
  apply (returns_freeProcessorTable hLater hGroups).mono
  rintro _ u ⟨hEnd, hHeap', hProcessors, hGroups'⟩
  exact ⟨hEnd, hHeap.trans hHeap', hProcessors, hGroups'⟩

end WinUser

end CxPlat

------------------------------------------------------------
-- Building the Tables
------------------------------------------------------------

namespace CxPlat

namespace WinUser

open Comp

variable {s t : State} {base : List Block} {b : Block}
variable {heap : Nat} {answers : Answers} {status : Status}

/- An allocation takes a block with a new number. -/
theorem returns_alloc
    (hHeap : s.heap = some heap)
    (succeeds : Bool)
    (Q : Option Block → State → Prop) :
    Returns (alloc succeeds) s Q ↔
      if succeeds then
        Q (some { heap := heap, id := s.next })
          { s with
            live := { heap := heap, id := s.next } :: s.live
            next := s.next + 1 }
      else
        Q none s := by
  cases succeeds <;> simp [alloc, hHeap]

/- A new block, wherever it belongs. -/
theorem Owns.cons
    (hOwns : Owns base s)
    {rest : List Block}
    (hId : b.id = s.next)
    (hLive : t.live = b :: s.live)
    (hSplit : t.live = t.held ++ rest)
    (hNext : t.next = s.next + 1) :
    Owns rest t := by
  constructor
  · exact hSplit
  · rw [hLive, List.nodup_cons]
    refine ⟨?_, hOwns.nodup⟩
    intro hMem
    have hLess := hOwns.fresh b hMem
    omega
  · intro c hMem
    rw [hNext]
    rw [hLive, List.mem_cons] at hMem
    rcases hMem with hNew | hOld
    · subst hNew
      omega
    · have hLess := hOwns.fresh c hOld
      omega

theorem held_fillTables
    (groups : List SystemGroup)
    (s : State) :
    (fillTables groups s).held = s.held := by
  cases hProcessors : s.processorInfo <;>
    cases hGroups : s.processorGroupInfo <;>
      simp [fillTables, State.held, hProcessors, hGroups]

/- Tables are owned, and a success has both of them. -/
structure Built
    (base : List Block)
    (heap : Option Nat)
    (heaps : List Nat)
    (status : Status)
    (t : State) : Prop where
  owns : Owns base t
  sameHeap : t.heap = heap ∧ t.heaps = heaps
  both :
    failed status = false →
      t.processorInfo.isSome = true ∧
        t.processorGroupInfo.isSome = true

/- A failure that has changed nothing. -/
theorem built_refused
    (hOwns : Owns base s)
    (hStatus : failed status = true) :
    Built base s.heap s.heaps status s := by
  constructor
  · exact hOwns
  · exact ⟨rfl, rfl⟩
  · intro hSuccess
    rw [hStatus] at hSuccess
    contradiction

theorem returns_buildGroupTable
    (hOwns : Owns base s)
    (hHeap : s.heap = some heap)
    (hProcessors : s.processorInfo.isSome = true)
    (hGroups : s.processorGroupInfo = none)
    (groups : List SystemGroup) :
    Returns (buildGroupTable answers groups) s
      (Built base s.heap s.heaps) := by
  unfold buildGroupTable
  rw [returns_bind, returns_alloc hHeap]
  split
  · simp only [returns_bind, returns_modify, returns_pure]
    constructor
    · apply hOwns.cons (b := { heap := heap, id := s.next })
      · rfl
      · rfl
      · rw [held_fillTables]
        simp [fillTables, State.held, hOwns.live, hGroups]
      · rfl
    · exact ⟨rfl, rfl⟩
    · intro _
      simpa [fillTables] using hProcessors
  · rw [returns_pure]
    apply built_refused hOwns
    decide

theorem returns_buildTables
    (hOwns : Owns base s)
    (hHeap : s.heap = some heap)
    (hProcessors : s.processorInfo = none)
    (hGroups : s.processorGroupInfo = none)
    (hInfo : b ∈ s.live) :
    Returns (buildTables answers (some b)) s
      (Built base s.heap s.heaps) := by
  unfold buildTables readInfo
  simp only [returns_bind, returns_get, hInfo, if_true,
    returns_pure]
  split
  · rw [returns_pure]
    exact built_refused hOwns (by decide)
  split
  · rw [returns_pure]
    exact built_refused hOwns (by decide)
  rw [returns_bind, returns_get]
  simp only [hProcessors, Option.isSome_none,
    Bool.false_eq_true, if_false]
  rw [returns_bind, returns_alloc hHeap]
  split
  · simp only [returns_bind, returns_modify]
    apply returns_buildGroupTable
    · apply hOwns.cons (b := { heap := heap, id := s.next })
      · rfl
      · rfl
      · simp [State.held, hOwns.live, hGroups, hProcessors]
      · rfl
    · exact hHeap
    · rfl
    · exact hGroups
  · rw [returns_pure]
    exact built_refused hOwns (by decide)

end WinUser

end CxPlat

------------------------------------------------------------
-- The Error Label
------------------------------------------------------------

namespace CxPlat

namespace WinUser

open Comp

variable {s t : State} {base : List Block} {b : Block}
variable {heap : Option Nat} {heaps : List Nat}
variable {answers : Answers} {status : Status}

/- And a failure has none of them. -/
structure Settled
    (base : List Block)
    (heap : Option Nat)
    (heaps : List Nat)
    (status : Status)
    (t : State) : Prop extends
      Built base heap heaps status t where
  neither :
    failed status = true →
      t.processorInfo = none ∧ t.processorGroupInfo = none

/- The temporary block goes, and the tables of a failure. -/
theorem returns_cleanUp_some
    (hBuilt : Built (b :: base) heap heaps status s) :
    Returns (cleanUp (some b) status) s
      (fun status' t =>
        status' = status ∧
          Settled base heap heaps status t) := by
  unfold cleanUp freeInfo
  apply (returns_free_base hBuilt.owns).bind
  rintro _ t ⟨hOwns, hHeap, hProcessors, hGroups⟩
  have hHeaps : t.heap = heap ∧ t.heaps = heaps :=
    ⟨hHeap.1.trans hBuilt.sameHeap.1,
      hHeap.2.trans hBuilt.sameHeap.2⟩
  split
  next hFailed =>
    apply (returns_freeTables hOwns).bind
    rintro _ u ⟨hEnd, hHeap', hNone⟩
    rw [returns_pure]
    refine ⟨rfl, ⟨hEnd, ?_, ?_⟩, fun _ => hNone⟩
    · exact ⟨hHeap'.1.trans hHeaps.1,
        hHeap'.2.trans hHeaps.2⟩
    · intro hSuccess
      rw [hFailed] at hSuccess
      contradiction
  next hFailed =>
    rw [returns_pure]
    refine ⟨rfl, ⟨hOwns, hHeaps, ?_⟩, ?_⟩
    · rw [hProcessors, hGroups]
      exact hBuilt.both
    · intro hFailure
      exact absurd hFailure hFailed

/- There is nothing to free but the status fails. -/
theorem returns_cleanUp_none
    (hOwns : Owns base s)
    (hFailed : failed status = true) :
    Returns (cleanUp none status) s
      (fun status' t =>
        status' = status ∧
          Settled base s.heap s.heaps status t) := by
  unfold cleanUp freeInfo
  rw [returns_bind, returns_pure, if_pos hFailed]
  apply (returns_freeTables hOwns).bind
  rintro _ u ⟨hEnd, hHeap, hNone⟩
  rw [returns_pure]
  refine ⟨rfl, ⟨hEnd, hHeap, ?_⟩, fun _ => hNone⟩
  intro hSuccess
  rw [hFailed] at hSuccess
  contradiction

/- A block that was freed before is freed again. -/
theorem not_returns_cleanUp_freed
    (hFreed : b ∉ s.live)
    (Q : Status → State → Prop) :
    ¬ Returns (cleanUp (some b) status) s Q := by
  unfold cleanUp freeInfo free
  simp [hFreed]

/- Or its contents are read. -/
theorem not_returns_buildTables_freed
    (hFreed : b ∉ s.live)
    (Q : Status → State → Prop) :
    ¬ Returns (buildTables answers (some b)) s Q := by
  unfold buildTables readInfo
  simp [hFreed]

theorem not_returns_buildTables_null
    (Q : Status → State → Prop) :
    ¬ Returns (buildTables answers none) s Q := by
  unfold buildTables readInfo
  simp

/- Every error code but zero makes a failure. -/
theorem failed_hresultFromWin32
    (error : BitVec 32) :
    failed (hresultFromWin32 error) = true ↔ error ≠ 0 := by
  unfold failed hresultFromWin32
  split
  next hError =>
    rw [decide_eq_true_iff, ne_eq, ← BitVec.toInt_inj]
    simp
    omega
  next hError =>
    have hSign :
        ((error &&& 0x0000FFFF) ||| 0x80070000 :
          Status).msb = true := by
      rw [BitVec.msb_or, Bool.or_eq_true]
      right
      decide
    rw [BitVec.msb_eq_toInt] at hSign
    constructor
    · intro _ hZero
      subst hZero
      exact hError (by decide)
    · intro _
      exact hSign

end WinUser

end CxPlat

------------------------------------------------------------
-- One Initialisation
------------------------------------------------------------

namespace CxPlat

namespace WinUser

open Comp

variable {s t : State} {base : List Block} {b : Block}
variable {heap : Option Nat} {heaps : List Nat}
variable {answers : Answers} {status : Status}

/- The heap is there and the tables are not. -/
structure Ready
    (s : State) : Prop where
  heap : s.heap.isSome = true
  processors : s.processorInfo = none
  groups : s.processorGroupInfo = none
  nodup : s.live.Nodup
  fresh : ∀ b ∈ s.live, b.id < s.next

/-
  A failure leaves the memory as it was, and a success leaves
  two more blocks, those of the tables.
-/
structure Clean
    (before : State)
    (status : Status)
    (after : State) : Prop where
  failure :
    failed status = true →
      after.processorInfo = none ∧
        after.processorGroupInfo = none ∧
        after.live = before.live
  success :
    failed status = false →
      ∃ processors groups,
        after.processorInfo = some processors ∧
        after.processorGroupInfo = some groups ∧
        after.live =
          groups.block :: processors.block :: before.live ∧
        after.live.Nodup

/-
  An empty answer comes with an error code, and the second
  query, where it is made, succeeds.
-/
def QueriesSound
    (answers : Answers) : Prop :=
  if answers.firstLength = 0 then
    answers.firstError ≠ 0
  else
    answers.allocInfo = true → answers.secondSucceeds = true

instance
    (answers : Answers) :
    Decidable (QueriesSound answers) :=
  inferInstanceAs (Decidable
    (if answers.firstLength = 0 then _ else _))

theorem Ready.owns
    (hReady : Ready s) :
    Owns s.live s := by
  constructor
  · rw [held_none hReady.groups hReady.processors]
    rfl
  · exact hReady.nodup
  · exact hReady.fresh

/- The description on top of what was there. -/
theorem Ready.owns_alloc
    (hReady : Ready s)
    (heap : Nat) :
    Owns ({ heap := heap, id := s.next } :: s.live)
      { s with
        live := { heap := heap, id := s.next } :: s.live
        next := s.next + 1 } := by
  apply hReady.owns.cons (b := { heap := heap, id := s.next })
  · rfl
  · rfl
  · simp [State.held, hReady.groups, hReady.processors]
  · rfl

theorem Settled.clean
    (hSettled : Settled s.live heap heaps status t) :
    Clean s status t := by
  constructor
  · intro hFailed
    rcases hSettled.neither hFailed with
      ⟨hProcessors, hGroups⟩
    refine ⟨hProcessors, hGroups, ?_⟩
    rw [hSettled.owns.live, held_none hGroups hProcessors]
    rfl
  · intro hSuccess
    rcases hSettled.both hSuccess with ⟨hProcessors, hGroups⟩
    rcases Option.isSome_iff_exists.mp hProcessors with
      ⟨processors, hProcessors⟩
    rcases Option.isSome_iff_exists.mp hGroups with
      ⟨groups, hGroups⟩
    refine ⟨processors, groups, hProcessors, hGroups, ?_,
      hSettled.owns.nodup⟩
    rw [hSettled.owns.live]
    simp [State.held, hProcessors, hGroups]

/- The four ways the description may come out. -/
theorem returns_getProcessorGroupInfo
    {heap : Nat}
    (hHeap : s.heap = some heap)
    (Q : Status × Option Block → State → Prop) :
    Returns (getProcessorGroupInfo answers) s Q ↔
      if answers.firstLength = 0 then
        Q (hresultFromWin32 answers.firstError, none) s
      else if answers.allocInfo then
        if answers.secondSucceeds then
          Q (statusSuccess,
              some { heap := heap, id := s.next })
            { s with
              live := { heap := heap, id := s.next } :: s.live
              next := s.next + 1 }
        else
          Q (hresultFromWin32 answers.secondError,
              some { heap := heap, id := s.next })
            { s with next := s.next + 1 }
      else
        Q (statusOutOfMemory, none) s := by
  unfold getProcessorGroupInfo
  split
  · rw [returns_pure]
  · rw [returns_bind, returns_alloc hHeap]
    cases hAlloc : answers.allocInfo with
    | false => simp
    | true =>
        cases hSecond : answers.secondSucceeds with
        | false => simp [free]
        | true => simp

/- With sound queries everything is settled. -/
theorem returns_processorInfoInit
    (hReady : Ready s)
    (hSound : QueriesSound answers) :
    Returns (processorInfoInit answers) s
      (Settled s.live s.heap s.heaps) := by
  have hOwns := hReady.owns
  rcases Option.isSome_iff_exists.mp hReady.heap with
    ⟨heap, hHeap⟩
  have hNone : ∀ status, failed status = true →
      Returns (cleanUp none status) s
        (Settled s.live s.heap s.heaps) := by
    intro status hFailed
    apply (returns_cleanUp_none hOwns hFailed).mono
    rintro status' t ⟨rfl, hSettled⟩
    exact hSettled
  unfold QueriesSound at hSound
  unfold processorInfoInit
  rw [returns_bind, returns_getProcessorGroupInfo hHeap]
  split at hSound
  next hLength =>
    have hFailed :
        failed (hresultFromWin32 answers.firstError) = true :=
      (failed_hresultFromWin32 _).mpr hSound
    rw [if_pos hLength, if_pos hFailed]
    exact hNone _ hFailed
  next hLength =>
    rw [if_neg hLength]
    split
    next hAlloc =>
      have hSuccess : ¬ failed statusSuccess = true := by
        decide
      rw [if_pos (hSound hAlloc), if_neg hSuccess]
      apply Returns.bind
      · apply returns_buildTables (hReady.owns_alloc heap)
        · exact hHeap
        · exact hReady.processors
        · exact hReady.groups
        · exact List.mem_cons_self
      · intro status t hBuilt
        apply (returns_cleanUp_some hBuilt).mono
        rintro status' u ⟨rfl, hSettled⟩
        exact hSettled
    next hAlloc =>
      rw [if_pos (by decide)]
      exact hNone _ (by decide)

/- Without them, memory is misused. -/
theorem not_returns_processorInfoInit
    (hReady : Ready s)
    (hSound : ¬ QueriesSound answers)
    (Q : Status → State → Prop) :
    ¬ Returns (processorInfoInit answers) s Q := by
  rcases Option.isSome_iff_exists.mp hReady.heap with
    ⟨heap, hHeap⟩
  unfold QueriesSound at hSound
  unfold processorInfoInit
  rw [returns_bind, returns_getProcessorGroupInfo hHeap]
  split at hSound
  next hLength =>
    have hSuccess :
        ¬ failed (hresultFromWin32 answers.firstError) =
          true := by
      rw [failed_hresultFromWin32]
      exact hSound
    rw [if_pos hLength, if_neg hSuccess, returns_bind]
    exact not_returns_buildTables_null _
  next hLength =>
    rw [Classical.not_imp] at hSound
    rw [if_neg hLength, if_pos hSound.1, if_neg hSound.2]
    have hFreed :
        ({ heap := heap, id := s.next } : Block) ∉ s.live := by
      intro hMem
      exact Nat.lt_irrefl _ (hReady.fresh _ hMem)
    split
    · apply not_returns_cleanUp_freed
      exact hFreed
    · rw [returns_bind]
      apply not_returns_buildTables_freed
      exact hFreed

/- An initialisation is clean exactly with sound queries. -/
theorem clean_iff_queriesSound
    (hReady : Ready s) :
    Returns (processorInfoInit answers) s (Clean s) ↔
      QueriesSound answers := by
  constructor
  · intro hReturns
    by_contra hSound
    exact not_returns_processorInfoInit hReady hSound _
      hReturns
  · intro hSound
    apply (returns_processorInfoInit hReady hSound).mono
    intro status t hSettled
    exact hSettled.clean

end WinUser

end CxPlat
