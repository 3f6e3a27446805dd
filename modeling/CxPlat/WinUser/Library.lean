import CxPlat.Lib.Transition
import CxPlat.WinUser.Ownership

/-
  Whole runs of the library in user mode on Windows.

  Between calls the library holds a heap and two tables, if
  it is initialised, and nothing at all otherwise.

  Key definitions include:
    * `Empty`, `Loaded`
    * `Serialised`

  Key theorems include:
    * `returns_cxPlatInitialize`
    * `returns_cxPlatUninitialize`
    * `library_leaves_nothing`
-/

------------------------------------------------------------
-- Initialising and Uninitialising
------------------------------------------------------------

namespace CxPlat

namespace WinUser

open Comp

variable {s t : State} {heap : Nat}
variable {answers : Answers} {status : Status}

/- No heap, no tables, no memory. -/
structure Empty
    (s : State) : Prop where
  heap : s.heap = none
  heaps : s.heaps = []
  processors : s.processorInfo = none
  groups : s.processorGroupInfo = none
  live : s.live = []

/- One heap, and in it the two tables. -/
structure Loaded
    (s : State) : Prop where
  heap : ∃ heap, s.heap = some heap ∧ s.heaps = [heap]
  processors : s.processorInfo.isSome = true
  groups : s.processorGroupInfo.isSome = true
  owns : Owns [] s

/- The heap goes when nothing is left in it. -/
theorem returns_heapDestroy
    (hHeap : s.heap = some heap)
    (hHeaps : s.heaps = [heap])
    (hProcessors : s.processorInfo = none)
    (hGroups : s.processorGroupInfo = none)
    (hOwns : Owns [] s) :
    Returns heapDestroy s (fun _ t => Empty t) := by
  have hLive : s.live = [] := by
    rw [hOwns.live, held_none hGroups hProcessors]
    rfl
  unfold heapDestroy
  simp only [returns_bind, returns_get, hHeap, hHeaps,
    List.mem_singleton, if_true, returns_set]
  constructor
  · rfl
  · simp
  · exact hProcessors
  · exact hGroups
  · simp [hLive]

theorem ready_heapCreate
    (hEmpty : Empty s) :
    Ready
      { s with
        heap := some s.next
        heaps := s.next :: s.heaps
        next := s.next + 1 } := by
  constructor
  · rfl
  · exact hEmpty.processors
  · exact hEmpty.groups
  · simp [hEmpty.live]
  · simp [hEmpty.live]

theorem returns_cxPlatInitialize
    (hEmpty : Empty s)
    (hSound :
      answers.heapCreate = true → QueriesSound answers) :
    Returns (cxPlatInitialize answers) s
      (fun status t =>
        (failed status = true → Empty t) ∧
          (failed status = false → Loaded t)) := by
  unfold cxPlatInitialize heapCreate
  simp only [returns_bind, returns_modify, returns_get]
  cases hCreate : answers.heapCreate with
  | false =>
      simp only [Bool.false_eq_true, if_false, returns_pure]
      constructor
      · intro _
        exact ⟨rfl, hEmpty.heaps, hEmpty.processors,
          hEmpty.groups, hEmpty.live⟩
      · intro hSuccess
        contradiction
  | true =>
      simp only [if_true, returns_bind]
      have hReady := ready_heapCreate hEmpty
      apply (returns_processorInfoInit hReady
        (hSound hCreate)).mono
      intro status t hSettled
      have hOwns : Owns [] t := by
        have hOwns := hSettled.owns
        rw [hEmpty.live] at hOwns
        exact hOwns
      have hHeap := hSettled.sameHeap.1
      have hHeaps := hSettled.sameHeap.2
      rw [hEmpty.heaps] at hHeaps
      split
      next hFailed =>
        rcases hSettled.neither hFailed with
          ⟨hProcessors, hGroups⟩
        apply (returns_heapDestroy hHeap hHeaps hProcessors
          hGroups hOwns).bind
        intro _ u hEnd
        rw [returns_pure]
        constructor
        · intro _
          exact hEnd
        · intro hSuccess
          rw [hFailed] at hSuccess
          contradiction
      next hFailed =>
        rw [returns_pure]
        have hSuccess : failed status = false := by
          simpa using hFailed
        rcases hSettled.both hSuccess with
          ⟨hProcessors, hGroups⟩
        constructor
        · intro hFailure
          contradiction
        · intro _
          exact ⟨⟨_, hHeap, hHeaps⟩, hProcessors, hGroups,
            hOwns⟩

/- It comes back only if the queries were sound. -/
theorem queriesSound_of_cxPlatInitialize
    (hEmpty : Empty s)
    (hExec :
      exec (cxPlatInitialize answers) s = .ok (status, t))
    (hCreate : answers.heapCreate = true) :
    QueriesSound answers := by
  by_contra hSound
  have hReturns :
      Returns (cxPlatInitialize answers) s
        (fun _ _ => True) :=
    returns_of_exec hExec trivial
  unfold cxPlatInitialize heapCreate at hReturns
  simp only [returns_bind, returns_modify, returns_get,
    hCreate, if_true] at hReturns
  exact not_returns_processorInfoInit
    (ready_heapCreate hEmpty) hSound _ hReturns

theorem returns_cxPlatUninitialize
    (hLoaded : Loaded s) :
    Returns cxPlatUninitialize s (fun _ t => Empty t) := by
  rcases hLoaded.heap with ⟨heap, hHeap, hHeaps⟩
  unfold cxPlatUninitialize processorInfoUnInit
  apply (returns_freeTables hLoaded.owns).bind
  rintro _ t ⟨hOwns, hSame, hProcessors, hGroups⟩
  apply returns_heapDestroy _ _ hProcessors hGroups hOwns
  · exact heap
  · exact hSame.1.trans hHeap
  · exact hSame.2.trans hHeaps

end WinUser

end CxPlat

------------------------------------------------------------
-- Runs
------------------------------------------------------------

namespace CxPlat

namespace WinUser

open Comp

variable {lib : Library}

/-
  The library is initialised when it is not, with queries
  that are sound, and uninitialised when it is.
-/
def Serialised
    (lib : Library) : Op → Prop
  | .init answers =>
      lib.initialized = false ∧
        (answers.heapCreate = true → QueriesSound answers)
  | .uninit => lib.initialized = true

instance
    (lib : Library)
    (op : Op) :
    Decidable (Serialised lib op) :=
  match op with
  | .init _ => inferInstanceAs (Decidable (_ ∧ _))
  | .uninit => inferInstanceAs (Decidable (_ = _))

/- What the library holds, and that nothing has gone wrong. -/
structure Balanced
    (lib : Library) : Prop where
  fault : lib.fault = none
  empty : lib.initialized = false → Empty lib.state
  loaded : lib.initialized = true → Loaded lib.state

theorem balanced_load :
    Balanced load := by
  constructor
  · rfl
  · intro _
    exact ⟨rfl, rfl, rfl, rfl, rfl⟩
  · intro hLoaded
    contradiction

/- One call. -/
theorem balanced_step
    (hBalanced : Balanced lib)
    {op : Op}
    (hSerialised : Serialised lib op) :
    ∃ lib', step lib op = some lib' ∧ Balanced lib' := by
  have hNoFault : ¬ lib.fault.isSome = true := by
    simp [hBalanced.fault]
  unfold step
  rw [if_neg hNoFault]
  cases op with
  | init answers =>
      have hEmpty := hBalanced.empty hSerialised.1
      rcases returns_cxPlatInitialize hEmpty hSerialised.2
        with ⟨status, t, hExec, hFailure, hSuccess⟩
      simp only [hExec]
      refine ⟨_, rfl, hBalanced.fault, ?_, ?_⟩
      · intro hStatus
        exact hFailure (by simpa using hStatus)
      · intro hStatus
        exact hSuccess (by simpa using hStatus)
  | uninit =>
      have hLoaded := hBalanced.loaded hSerialised
      rcases returns_cxPlatUninitialize hLoaded
        with ⟨_, t, hExec, hEmpty⟩
      simp only [hExec]
      refine ⟨_, rfl, hBalanced.fault, fun _ => hEmpty, ?_⟩
      intro hInitialized
      contradiction

/-
  One initialisation of the tables is clean exactly if the
  queries are sound; and a serialised run, however long, of
  calls with sound queries comes to its end without a fault
  and with nothing held that is not in use.
-/
theorem library_leaves_nothing
    {s : State}
    (hReady : Ready s)
    (answers : Answers)
    (ops : List Op) :
    (Returns (processorInfoInit answers) s (Clean s) ↔
      QueriesSound answers) ∧
    (Transition.Meets step Serialised load ops →
      ∃ lib,
        Transition.run step load ops = some lib ∧
          Balanced lib) := by
  constructor
  · exact clean_iff_queriesSound hReady
  · intro hMeets
    apply Transition.progress_meets _ balanced_load hMeets
    intro lib op hBalanced hSerialised
    exact balanced_step hBalanced hSerialised

/- Four processors in one group. -/
def fourProcessors : Answers where
  heapCreate := true
  firstLength := 80
  firstError := 122
  allocInfo := true
  secondSucceeds := true
  secondError := 0
  activeGroups :=
    [{ activeProcessorCount := 4
       activeProcessorMask := 15 }]
  allocProcessors := true
  allocGroups := true

/- It also comes up after an allocation has failed. -/
theorem library_leaves_nothing_afterFailure :
    Ready heapOnly ∧
    Returns (processorInfoInit fourProcessors) heapOnly
      (Clean heapOnly) ∧
    ∃ lib,
      Transition.run step load
          [.init fourProcessors, .uninit,
            .init { fourProcessors with allocGroups := false },
            .init fourProcessors] = some lib ∧
        Balanced lib := by
  have hEmpty : Empty unloaded := ⟨rfl, rfl, rfl, rfl, rfl⟩
  have hReady : Ready heapOnly := ready_heapCreate hEmpty
  constructor
  · exact hReady
  constructor
  · apply (library_leaves_nothing hReady _ []).1.mpr
    decide
  · apply (library_leaves_nothing hReady fourProcessors _).2
    decide

/-
  The second query fails: the description is freed twice.
  And with no length and no error code there is none at all,
  but it is read.
-/
theorem secondQuery_freed_twice :
    (∃ lib,
      Transition.run step load
          [.init { fourProcessors with
            secondSucceeds := false
            secondError := 8 }] = some lib ∧
        lib.fault = some .doubleFree ∧ ¬ Balanced lib) ∧
    (∃ lib,
      Transition.run step load
          [.init { fourProcessors with
            firstLength := 0
            firstError := 0 }] = some lib ∧
        lib.fault = some .nullInfo ∧ ¬ Balanced lib) := by
  constructor
  · refine ⟨_, rfl, rfl, ?_⟩
    intro hBalanced
    cases hBalanced.fault
  · refine ⟨_, rfl, rfl, ?_⟩
    intro hBalanced
    cases hBalanced.fault

end WinUser

end CxPlat
