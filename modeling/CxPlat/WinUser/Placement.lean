import CxPlat.WinUser.Thread

/-
  Where affinitised threads run in user mode on Windows, from
  `cxplat_winuser.c` and `cxplat_winuser.h`.

  `CxPlatProcessorInfoInit` numbers the processors by the
  count of each group and does not look at the mask of those
  that are active.  `CxPlatThreadCreate` turns a number into
  a mask, and `CxPlatProcCurrentNumber` goes back.  The three
  fit together just when the active processors of each group
  are its first ones.

  Key definitions include:
    * `Active`
    * `Counted`, `Compact`
    * `Pinned`, `ThreadsPinned`
    * `OwnNumbers`

  Key theorems include:
    * `returns_threadCreate_affinity`
    * `Filled.pinned`
    * `Filled.compact_of_threadsPinned`
    * `threads_placed_iff`
-/

------------------------------------------------------------
-- Groups and Their Masks
------------------------------------------------------------

namespace CxPlat

namespace WinUser

/- The numbers in the group of the active processors. -/
def SystemGroup.activeNumbers
    (group : SystemGroup) : Finset Nat :=
  (Finset.range 64).filter (fun i =>
    group.activeProcessorMask.getLsbD i = true)

/- The system counts the processors that are active. -/
def SystemGroup.Counted
    (group : SystemGroup) : Prop :=
  group.activeNumbers.card = group.activeProcessorCount.toNat

instance
    (group : SystemGroup) :
    Decidable group.Counted :=
  inferInstanceAs (Decidable (_ = _))

/- The active processors are the first ones of the group. -/
def SystemGroup.Compact
    (group : SystemGroup) : Prop :=
  group.activeNumbers =
    Finset.range group.activeProcessorCount.toNat

instance
    (group : SystemGroup) :
    Decidable group.Compact :=
  inferInstanceAs (Decidable (_ = _))

/- A processor on which threads run. -/
def Active
    (groups : List SystemGroup)
    (proc : ProcessorNumber) : Prop :=
  ∃ group,
    groups[proc.group.toNat]? = some group ∧
      proc.number.toNat ∈ group.activeNumbers

/- The mask names the processor. -/
def GroupAffinity.Allows
    (affinity : GroupAffinity)
    (proc : ProcessorNumber) : Prop :=
  affinity.group = proc.group.toNat ∧
    affinity.mask.getLsbD proc.number.toNat = true

/-
  `SetThreadGroupAffinity` takes a mask that is not empty and
  names active processors only.
-/
def GroupAffinity.Accepted
    (affinity : GroupAffinity)
    (groups : List SystemGroup) : Prop :=
  affinity.mask ≠ 0 ∧
    ∃ group,
      groups[affinity.group]? = some group ∧
        ∀ i,
          affinity.mask.getLsbD i = true →
            i ∈ group.activeNumbers

def Setting.affinity? : Setting → Option GroupAffinity
  | .groupAffinity affinity => some affinity
  | _ => none

/- The affinities that the call has asked for. -/
def Creation.affinities
    (c : Creation) : List GroupAffinity :=
  c.settings.filterMap Setting.affinity?

/-
  The system takes the affinity of the thread, and wherever
  the thread then runs, the number of the current processor
  is `p`.
-/
def Pinned
    (groups : List SystemGroup)
    (p : Nat)
    (c : Creation) : Prop :=
  ∃ affinity,
    c.affinities = [affinity] ∧
      affinity.Accepted groups ∧
      ∀ proc,
        affinity.Allows proc →
          Comp.Returns (procCurrentNumber proc) c.state
            (fun n s => n = p ∧ s = c.state)

/-
  Every thread that is started with an affinity for a
  processor of the table is pinned to it.
-/
def ThreadsPinned
    (groups : List SystemGroup)
    (s : State) : Prop :=
  ∀ build answers config,
    Starts build answers →
      config.has threadFlagSetAffinitize = true →
        config.idealProcessor.toNat < s.processorCount →
          Comp.Returns (threadCreate build answers config)
            (enter s)
            (fun _ c =>
              Pinned groups config.idealProcessor.toNat c)

end WinUser

end CxPlat

------------------------------------------------------------
-- The Affinity of a Thread
------------------------------------------------------------

namespace CxPlat

namespace WinUser

open Comp

variable {c : Creation} {s : State}
variable {groups : List SystemGroup}
variable {answers : ThreadAnswers} {config : ThreadConfig}

/- What is set after the affinity is something else. -/
theorem returns_configure_affinity
    {info : ProcessorInfo}
    (hInfo :
      entryAt c.state.processorInfo
        config.idealProcessor.toNat = some info)
    (hFlag : config.has threadFlagSetAffinitize = true) :
    Returns (configure config) c
      (fun _ d =>
        d.state = c.state ∧
          d.affinities =
            c.affinities ++
              [{ mask := 1#64 <<< info.index
                 group := info.group }]) := by
  unfold configure onLibrary readProcessorInfo threadAffinity
  rw [returns_bind, returns_focus, returns_readEntry hInfo,
    returns_bind, returns_focus, if_pos hFlag, returns_pure]
  unfold setOnThread Creation.affinities
  cases config.has threadFlagSetIdealProc <;>
    cases config.has threadFlagHighPriority <;>
      cases config.name <;> simp [Setting.affinity?]

/- Nothing is set before the thread is there. -/
theorem preserves_startThread_settings
    (build : Build)
    (answers : ThreadAnswers)
    (config : ThreadConfig) :
    Preserves (fun c => c.settings = [])
      (startThread build answers config) := by
  have hCreate :
      ∀ start, Preserves (fun c => c.settings = [])
        (createThread answers.createThread start) := by
    intro start
    apply preserves_modify
    intro c hNone
    split
    · exact hNone
    · exact hNone
  have hLibrary :
      ∀ {α : Type} (k : Comp Fault State α),
        Preserves (fun c => c.settings = [])
          (onLibrary k) := by
    intro α k
    apply preserves_focus
    intro c s hNone
    exact hNone
  cases build with
  | plain =>
      refine (hCreate _).bind (fun _ => ?_)
      refine (preserves_get _).bind (fun c => ?_)
      split
      · exact preserves_pure _ _
      · exact preserves_pure _ _
  | customContext =>
      refine (hLibrary _).bind (fun block => ?_)
      split
      · exact preserves_pure _ _
      · refine (hCreate _).bind (fun _ => ?_)
        refine (preserves_get _).bind (fun c => ?_)
        split
        · exact (hLibrary _).bind
            (fun _ => preserves_pure _ _)
        · exact preserves_pure _ _

/-
  A thread that is started for a processor of the table asks
  for the mask of the index, in the group of the processor.
-/
theorem returns_threadCreate_affinity
    {build : Build}
    {info : ProcessorInfo}
    (hInit : Initialized s)
    (hStarts : Starts build answers)
    (hFlag : config.has threadFlagSetAffinitize = true)
    (hInfo :
      entryAt s.processorInfo
        config.idealProcessor.toNat = some info) :
    Returns (threadCreate build answers config) (enter s)
      (fun _ c =>
        SameTables s c.state ∧
          c.affinities =
            [{ mask := 1#64 <<< info.index
               group := info.group }]) := by
  rcases returns_startThread hInit build with
    ⟨result, c, hExec, hStarted⟩
  have hNone : c.settings = [] :=
    preserves_startThread_settings build answers config _ _ _
      hExec rfl
  have hGoesOn : result = none := by
    rw [hStarted.result, if_pos hStarts]
  subst hGoesOn
  have hHere :
      entryAt c.state.processorInfo
        config.idealProcessor.toNat = some info := by
    rw [hStarted.tables.1]
    exact hInfo
  unfold threadCreate
  rw [returns_bind_of_exec hExec, returns_bind]
  apply (returns_configure_affinity hHere hFlag).mono
  rintro _ d ⟨hState, hAffinities⟩
  rw [returns_pure, hState, hAffinities]
  refine ⟨hStarted.tables, ?_⟩
  unfold Creation.affinities
  rw [hNone]
  rfl

end WinUser

end CxPlat

------------------------------------------------------------
-- Compact Groups
------------------------------------------------------------

namespace CxPlat

namespace WinUser

variable {group : SystemGroup} {i : Nat}

theorem SystemGroup.Counted.count_le
    (hCounted : group.Counted) :
    group.activeProcessorCount.toNat ≤ 64 := by
  rw [← hCounted, ← Finset.card_range 64]
  exact Finset.card_filter_le _ _

/-
  If the count is right, it is enough that the processors
  below it are active: there are no others.
-/
theorem SystemGroup.Counted.compact
    (hCounted : group.Counted)
    (hLow :
      ∀ i < group.activeProcessorCount.toNat,
        i ∈ group.activeNumbers) :
    group.Compact := by
  apply Eq.symm
  apply Finset.eq_of_subset_of_card_le
  · intro i hLess
    exact hLow i (Finset.mem_range.mp hLess)
  · rw [hCounted, Finset.card_range]

/- The only bit of a mask with one bit. -/
theorem getLsbD_one_shiftLeft_iff
    {j : Nat}
    (hLess : i < 64) :
    (1#64 <<< i).getLsbD j = true ↔ j = i := by
  simp only [BitVec.getLsbD_shiftLeft, BitVec.getLsbD_one,
    Bool.and_eq_true, Bool.not_eq_true',
    decide_eq_false_iff_not, decide_eq_true_eq]
  omega

end WinUser

end CxPlat

------------------------------------------------------------
-- When Threads Are Pinned
------------------------------------------------------------

namespace CxPlat

namespace WinUser

open Comp

variable {groups : List SystemGroup} {s t : State}
variable {c : Creation}

/- The tables put the processor into a group of the system. -/
theorem Filled.group_of_entry
    (hFilled : Filled groups s)
    {p : Nat}
    {info : ProcessorInfo}
    (hInfo : entryAt s.processorInfo p = some info) :
    ∃ group,
      groups[info.group]? = some group ∧
        info.index < group.activeProcessorCount.toNat := by
  rcases hFilled.entry_iff.mp hInfo with
    ⟨n, hSize, hLess, _⟩
  unfold groupCounts at hSize
  rw [List.getElem?_map, Option.map_eq_some_iff] at hSize
  rcases hSize with ⟨group, hGroup, hCount⟩
  exact ⟨group, hGroup, by omega⟩

/- The number of the processor that an entry describes. -/
theorem Filled.returns_procCurrentNumber_entry
    (hFilled : Filled groups s)
    {p : Nat}
    {info : ProcessorInfo}
    {proc : ProcessorNumber}
    (hInfo : entryAt s.processorInfo p = some info)
    (hGroup : proc.group.toNat = info.group)
    (hNumber : proc.number.toNat = info.index) :
    Returns (procCurrentNumber proc) s
      (fun n t => n = p ∧ t = s) := by
  have hLies := hFilled.entry_iff.mp hInfo
  rcases hFilled.lies_iff.mp hLies with
    ⟨entry, hEntry, hLess, hPlace⟩
  rw [← hGroup] at hEntry
  apply (returns_procCurrentNumber hFilled hEntry
    (by omega)).mono
  rintro n t ⟨hState, hThere⟩
  -- An index in the group is not changed by the modulus.
  rw [hNumber, Nat.mod_eq_of_lt hLess, hGroup] at hThere
  rcases hThere with ⟨_, _, _, hFirst⟩
  rcases hLies with ⟨_, _, _, hSecond⟩
  exact ⟨by omega, hState⟩

/- In a compact group the mask is that of the processor. -/
theorem Filled.pinned
    (hFilled : Filled groups c.state)
    {p : Nat}
    {info : ProcessorInfo}
    (hInfo : entryAt c.state.processorInfo p = some info)
    (hCounted : ∀ group ∈ groups, group.Counted)
    (hCompact : ∀ group ∈ groups, group.Compact)
    (hAffinities :
      c.affinities =
        [{ mask := 1#64 <<< info.index
           group := info.group }]) :
    Pinned groups p c := by
  rcases hFilled.group_of_entry hInfo with
    ⟨group, hGroup, hIndex⟩
  have hMem := List.mem_of_getElem? hGroup
  have hLess : info.index < 64 :=
    hIndex.trans_le (hCounted group hMem).count_le
  refine ⟨_, hAffinities, ⟨?_, group, hGroup, ?_⟩, ?_⟩
  · intro hZero
    have hBit := (getLsbD_one_shiftLeft_iff hLess).mpr rfl
    simp only at hZero
    rw [hZero] at hBit
    simp at hBit
  · intro i hBit
    rw [(getLsbD_one_shiftLeft_iff hLess).mp hBit,
      hCompact group hMem]
    exact Finset.mem_range.mpr hIndex
  · rintro proc ⟨hThere, hBit⟩
    exact hFilled.returns_procCurrentNumber_entry hInfo
      hThere.symm ((getLsbD_one_shiftLeft_iff hLess).mp hBit)

/- What the affinity of a pinned thread says of the group. -/
theorem Pinned.active
    {p : Nat}
    {info : ProcessorInfo}
    {group : SystemGroup}
    (hPinned : Pinned groups p c)
    (hAffinities :
      c.affinities =
        [{ mask := 1#64 <<< info.index
           group := info.group }])
    (hGroup : groups[info.group]? = some group)
    (hLess : info.index < 64) :
    info.index ∈ group.activeNumbers := by
  rcases hPinned with
    ⟨affinity, hHas, ⟨_, found, hFound, hBits⟩, _⟩
  rw [hAffinities, List.singleton_inj] at hHas
  subst hHas
  rw [hGroup, Option.some_inj] at hFound
  subst hFound
  exact hBits _ ((getLsbD_one_shiftLeft_iff hLess).mpr rfl)

theorem Filled.threadsPinned
    (hFilled : Filled groups s)
    (hInit : Initialized s)
    (hCounted : ∀ group ∈ groups, group.Counted)
    (hCompact : ∀ group ∈ groups, group.Compact) :
    ThreadsPinned groups s := by
  intro build answers config hStarts hFlag hProc
  rcases hFilled.numbers.processorInfo _ hProc with
    ⟨info, _, hInfo, _, _, _⟩
  apply (returns_threadCreate_affinity hInit hStarts hFlag
    hInfo).mono
  rintro _ c ⟨hTables, hAffinities⟩
  have hThere :
      entryAt c.state.processorInfo
        config.idealProcessor.toNat = some info := by
    rw [hTables.1]
    exact hInfo
  exact (hFilled.congr hTables).pinned hThere hCounted
    hCompact hAffinities

/- A configuration that affinitises to a processor. -/
def pinnedTo
    (p : Nat) : ThreadConfig where
  flags := threadFlagSetAffinitize
  idealProcessor := BitVec.ofNat 16 p
  name := none
  callback := 0
  context := 0

theorem pinnedTo_has
    (p : Nat) :
    (pinnedTo p).has threadFlagSetAffinitize = true := by
  simp only [ThreadConfig.has, pinnedTo]
  decide

/- A thread for each of the first numbers of a group. -/
theorem Filled.compact_of_threadsPinned
    (hFilled : Filled groups s)
    (hInit : Initialized s)
    (hCounted : ∀ group ∈ groups, group.Counted)
    (hPinned : ThreadsPinned groups s) :
    ∀ group ∈ groups, group.Compact := by
  intro group hMem
  apply (hCounted group hMem).compact
  intro i hLess
  rcases List.getElem?_of_mem hMem with ⟨g, hGroup⟩
  have hSize :
      (groupCounts groups)[g]? =
        some group.activeProcessorCount.toNat := by
    simp [groupCounts, hGroup]
  have hLies :
      Ranges.Lies (groupCounts groups)
        (Ranges.offset (groupCounts groups) g + i) g i :=
    ⟨_, hSize, hLess, rfl⟩
  generalize hPlace :
    Ranges.offset (groupCounts groups) g + i = p at hLies
  have hProc : p < s.processorCount := by
    rw [hFilled.count]
    exact hLies.lt_sum
  have hNumber : (pinnedTo p).idealProcessor.toNat = p := by
    have hTotal := hFilled.total.2
    rw [← hFilled.count] at hTotal
    simp only [pinnedTo, BitVec.toNat_ofNat]
    omega
  have hInfo :
      entryAt s.processorInfo
          (pinnedTo p).idealProcessor.toNat =
        some { index := i, group := g } := by
    rw [hNumber]
    exact hFilled.entry_iff.mpr hLies
  have hStarts :
      Starts .plain
        { allocContext := true
          createThread := true
          lastError := 0 } := by
    decide
  have hThread :=
    (hPinned _ _ _ hStarts (pinnedTo_has p)
      (hNumber.symm ▸ hProc)).and
      (returns_threadCreate_affinity hInit hStarts
        (pinnedTo_has p) hInfo)
  rcases hThread with ⟨_, c, _, hThere, _, hAffinities⟩
  have hBound : i < 64 :=
    hLess.trans_le (hCounted group hMem).count_le
  exact hThere.active hAffinities hGroup hBound

/- The entry of an active processor of a compact group. -/
theorem Filled.entry_of_active
    (hFilled : Filled groups s)
    (hCompact : ∀ group ∈ groups, group.Compact)
    {proc : ProcessorNumber}
    (hActive : Active groups proc) :
    ∃ p < s.processorCount,
      entryAt s.processorInfo p =
        some
          { index := proc.number.toNat
            group := proc.group.toNat } := by
  rcases hActive with ⟨group, hGroup, hNumber⟩
  rw [hCompact group (List.mem_of_getElem? hGroup),
    Finset.mem_range] at hNumber
  have hLies :
      Ranges.Lies (groupCounts groups)
        (Ranges.offset (groupCounts groups)
          proc.group.toNat + proc.number.toNat)
        proc.group.toNat proc.number.toNat :=
    ⟨group.activeProcessorCount.toNat,
      by simp [groupCounts, hGroup], hNumber, rfl⟩
  refine ⟨_, ?_, hFilled.entry_iff.mpr hLies⟩
  rw [hFilled.count]
  exact hLies.lt_sum

/- Every active processor has a number of its own. -/
def OwnNumbers
    (groups : List SystemGroup)
    (s : State) : Prop :=
  ∃ number : ProcessorNumber → Nat,
    Set.InjOn number (Set.ofPred (Active groups)) ∧
      ∀ proc,
        Active groups proc →
          number proc < s.processorCount ∧
            Returns (procCurrentNumber proc) s
              (fun n t => n = number proc ∧ t = s)

theorem Filled.ownNumbers
    (hFilled : Filled groups s)
    (hCompact : ∀ group ∈ groups, group.Compact) :
    OwnNumbers groups s := by
  choose! number hBound hEntry using
    fun proc (hActive : Active groups proc) =>
      hFilled.entry_of_active hCompact hActive
  refine ⟨number, ?_, ?_⟩
  · intro proc hActive other hOther hSame
    have hFirst := hEntry proc hActive
    rw [hSame, hEntry other hOther, Option.some_inj] at hFirst
    cases proc
    cases other
    simp only [ProcessorInfo.mk.injEq] at hFirst
    simp only [ProcessorNumber.mk.injEq]
    exact ⟨BitVec.eq_of_toNat_eq hFirst.2.symm,
      BitVec.eq_of_toNat_eq hFirst.1.symm⟩
  · intro proc hActive
    exact ⟨hBound proc hActive,
      hFilled.returns_procCurrentNumber_entry
        (hEntry proc hActive) rfl rfl⟩

/-
  Once the library is initialised, every affinitised thread
  runs on the processor with the number that was asked for
  just when the active processors of each group are its first
  ones, and then no two active processors share a number.
-/
theorem threads_placed_iff
    {answers : Answers}
    {status : Status}
    (hEmpty : Empty s)
    (hCounted :
      ∀ group ∈ answers.activeGroups, group.Counted)
    (hExec :
      exec (cxPlatInitialize answers) s = .ok (status, t))
    (hSuccess : failed status = false) :
    (ThreadsPinned answers.activeGroups t ↔
        ∀ group ∈ answers.activeGroups, group.Compact) ∧
      (ThreadsPinned answers.activeGroups t →
        OwnNumbers answers.activeGroups t) := by
  have hFilled := filled_of_cxPlatInitialize hExec hSuccess
  have hInit : Initialized t :=
    (returns_cxPlatInitialize_initialized hEmpty
      (queriesSound_of_cxPlatInitialize hEmpty hExec)).post
      hExec hSuccess
  have hPlaced :
      ThreadsPinned answers.activeGroups t ↔
        ∀ group ∈ answers.activeGroups, group.Compact := by
    constructor
    · exact hFilled.compact_of_threadsPinned hInit hCounted
    · exact hFilled.threadsPinned hInit hCounted
  refine ⟨hPlaced, ?_⟩
  intro hPinned
  exact hFilled.ownNumbers (hPlaced.mp hPinned)

/- A group whose second processor is not active. -/
def holeAnswers : Answers :=
  { gapAnswers with
    activeGroups :=
      [{ activeProcessorCount := 2
         activeProcessorMask := 5 }] }

/-
  An empty group is harmless.  A hole is not: the thread for
  the number 1 asks for the processor that is not active.
-/
theorem threads_placed_iff_gapAndHole :
    (∃ t,
      exec (cxPlatInitialize gapAnswers) unloaded =
          .ok (statusSuccess, t) ∧
        ThreadsPinned gapAnswers.activeGroups t) ∧
    ∃ t,
      exec (cxPlatInitialize holeAnswers) unloaded =
          .ok (statusSuccess, t) ∧
        ¬ ThreadsPinned holeAnswers.activeGroups t := by
  have hEmpty : Empty unloaded := ⟨rfl, rfl, rfl, rfl, rfl⟩
  constructor
  · refine ⟨_, rfl, ?_⟩
    rw [(threads_placed_iff hEmpty (by decide) rfl rfl).1]
    decide
  · refine ⟨_, rfl, ?_⟩
    rw [(threads_placed_iff hEmpty (by decide) rfl rfl).1]
    decide

end WinUser

end CxPlat
