import CxPlat.Lib.Ranges
import CxPlat.ThreadConfig
import CxPlat.WinUser.Processors

/-
  The numbers of the processors in user mode on Windows, from
  `cxplat_winuser.c` and `cxplat_winuser.h`.

  The groups are ranges of processors, laid out one after the
  other.  `CxPlatProcessorInfoInit` writes down where each
  group starts, and for each processor where it lies;
  `CxPlatProcCurrentNumber` goes from the group and the
  number in the group back to the processor.

  Key definitions include:
    * `procCurrentNumber`
    * `threadAffinity`
    * `Numbers`

  Key theorems include:
    * `filled_of_processorInfoInit`
    * `Filled.numbers`
    * `returns_procCurrentNumber`
    * `processorInfoInit_numbers`
-/

------------------------------------------------------------
-- Reading the Tables
------------------------------------------------------------

namespace CxPlat

namespace WinUser

variable {α : Type}

/- The entry of a table, if it is there and has been set. -/
def entryAt
    (table : Option (Table α))
    (i : Nat) : Option α :=
  match table with
  | none => none
  | some t =>
      match t.entries[i]? with
      | some entry => entry
      | none => none

/- An entry is read, which for no entry has no meaning. -/
def readEntry
    (table : State → Option (Table α))
    (i : Nat) : Comp Fault State α := do
  let s ← get
  match entryAt (table s) i with
  | some entry => return entry
  | none => throw .offTable

/- `CxPlatProcessorInfo[proc]`. -/
def readProcessorInfo
    (proc : Nat) : Comp Fault State ProcessorInfo :=
  readEntry (fun s => s.processorInfo) proc

/- `CxPlatProcessorGroupInfo[group]`. -/
def readProcessorGroupInfo
    (group : Nat) : Comp Fault State ProcessorGroupInfo :=
  readEntry (fun s => s.processorGroupInfo) group

/- `PROCESSOR_NUMBER`. -/
structure ProcessorNumber where
  group : BitVec 16
  number : BitVec 8
deriving DecidableEq, Repr

/-
  `CxPlatProcCurrentNumber`, where `procNumber` is what
  `GetCurrentProcessorNumberEx` stores.
-/
def procCurrentNumber
    (procNumber : ProcessorNumber) :
    Comp Fault State Nat := do
  let group ← readProcessorGroupInfo procNumber.group.toNat
  if group.count = 0 then
    throw .zeroDivide
  else
    return group.offset + procNumber.number.toNat % group.count

/- `GROUP_AFFINITY`. -/
structure GroupAffinity where
  mask : BitVec 64
  group : Nat
deriving DecidableEq, Repr

/-
  In `CxPlatThreadCreate`: the processors that the thread may
  run on.
-/
def threadAffinity
    (config : ThreadConfig)
    (procInfo : ProcessorInfo) :
    Comp Fault State GroupAffinity := do
  if config.has threadFlagSetAffinitize then
    return {
      mask := 1#64 <<< procInfo.index
      group := procInfo.group }
  else
    let group ← readProcessorGroupInfo procInfo.group
    return { mask := group.mask, group := procInfo.group }

end WinUser

end CxPlat

------------------------------------------------------------
-- The Entries
------------------------------------------------------------

namespace CxPlat

namespace WinUser

variable {groups : List SystemGroup} {s : State}

/- The sizes of the groups. -/
def groupCounts
    (groups : List SystemGroup) : List Nat :=
  groups.map (fun g => g.activeProcessorCount.toNat)

theorem activeProcessorCount_eq
    (groups : List SystemGroup) :
    activeProcessorCount groups =
      (groupCounts groups).sum := rfl

/-
  The loop over the groups, by induction from any offset: a
  group starts behind those before it.
-/
theorem getElem?_groupEntries
    (groups : List SystemGroup)
    (start g : Nat) :
    (groupEntries start groups)[g]? =
      groups[g]?.map (fun group =>
        { mask := group.activeProcessorMask
          count := group.activeProcessorCount.toNat
          offset :=
            start + Ranges.offset (groupCounts groups) g }) := by
  induction groups generalizing start g with
  | nil => rfl
  | cons group groups ih =>
      cases g with
      | zero => rfl
      | succ g =>
          unfold groupEntries
          rw [List.getElem?_cons_succ,
            List.getElem?_cons_succ, ih]
          simp only [groupCounts, List.map_cons,
            Ranges.offset_cons_succ, Nat.add_assoc]

/- The processor lies in the range of the group. -/
abbrev Covers
    (entry : ProcessorGroupInfo)
    (proc : Nat) : Prop :=
  entry.offset ≤ proc ∧ proc < entry.offset + entry.count

/-
  The inner search loop, by induction over the groups left:
  if one of them covers the processor, it finds one.
-/
theorem processorEntry_of_covers
    {entries : List ProcessorGroupInfo}
    {proc : Nat}
    (first : Nat)
    (hSome : ∃ entry ∈ entries, Covers entry proc) :
    ∃ g entry,
      entries[g]? = some entry ∧
        Covers entry proc ∧
        processorEntry proc first entries =
          some
            { index := proc - entry.offset
              group := first + g } := by
  induction entries generalizing first with
  | nil => simp at hSome
  | cons entry entries ih =>
      unfold processorEntry
      by_cases hHere : Covers entry proc
      · refine ⟨0, entry, rfl, hHere, ?_⟩
        rw [if_pos hHere]
        rfl
      · rcases hSome with ⟨other, hMem, hCovers⟩
        rcases List.mem_cons.mp hMem with hEq | hLater
        · subst hEq
          exact absurd hCovers hHere
        · rcases ih (first + 1) ⟨other, hLater, hCovers⟩ with
            ⟨g, found, hGet, hFound, hEntry⟩
          refine ⟨g + 1, found, hGet, hFound, ?_⟩
          rw [if_neg hHere, hEntry, Nat.add_assoc,
            Nat.add_comm 1 g]

/- What a group entry covers lies in the group's range. -/
theorem Covers.lies
    {g proc : Nat}
    {entry : ProcessorGroupInfo}
    (hEntry : (groupEntries 0 groups)[g]? = some entry)
    (hCovers : Covers entry proc) :
    Ranges.Lies (groupCounts groups) proc g
      (proc - entry.offset) := by
  rw [getElem?_groupEntries] at hEntry
  cases hGroup : groups[g]? with
  | none => simp [hGroup] at hEntry
  | some group =>
      rw [hGroup, Option.map_some, Option.some_inj] at hEntry
      subst hEntry
      refine ⟨group.activeProcessorCount.toNat, ?_, ?_, ?_⟩
      · simp [groupCounts, hGroup]
      · simp only [Covers] at hCovers ⊢
        omega
      · simp only [Covers] at hCovers ⊢
        omega

/- Some group covers every processor. -/
theorem exists_covers
    {proc : Nat}
    (hProc : proc < activeProcessorCount groups) :
    ∃ entry ∈ groupEntries 0 groups, Covers entry proc := by
  rw [activeProcessorCount_eq] at hProc
  rcases Ranges.exists_lies hProc with
    ⟨g, i, n, hSize, hIn, hPlace⟩
  have hGroups := hSize
  unfold groupCounts at hGroups
  rw [List.getElem?_map, Option.map_eq_some_iff] at hGroups
  rcases hGroups with ⟨group, hGroup, hCount⟩
  have hEntry := getElem?_groupEntries groups 0 g
  rw [hGroup, Option.map_some] at hEntry
  refine ⟨_, List.mem_of_getElem? hEntry, ?_⟩
  simp only [Covers]
  omega

/- Every processor is found where it lies. -/
theorem processorEntry_lies
    {proc : Nat}
    (hProc : proc < activeProcessorCount groups) :
    ∃ info,
      processorEntry proc 0 (groupEntries 0 groups) =
          some info ∧
        Ranges.Lies (groupCounts groups) proc info.group
          info.index := by
  rcases processorEntry_of_covers 0 (exists_covers hProc) with
    ⟨g, entry, hGet, hCovers, hInfo⟩
  refine ⟨_, hInfo, ?_⟩
  rw [Nat.zero_add]
  exact Covers.lies hGet hCovers

end WinUser

end CxPlat

------------------------------------------------------------
-- A Successful Initialisation
------------------------------------------------------------

namespace CxPlat

namespace WinUser

open Comp

variable {groups : List SystemGroup} {s t : State}
variable {answers : Answers} {status : Status}

/- The tables are as the two loops leave them. -/
structure Filled
    (groups : List SystemGroup)
    (s : State) : Prop where
  total :
    1 ≤ activeProcessorCount groups ∧
      activeProcessorCount groups ≤ 65535
  count : s.processorCount = activeProcessorCount groups
  groupEntry :
    ∀ g, entryAt s.processorGroupInfo g =
      (groupEntries 0 groups)[g]?
  processorEntry :
    ∀ proc, entryAt s.processorInfo proc =
      if proc < activeProcessorCount groups then
        processorEntry proc 0 (groupEntries 0 groups)
      else
        none

/- The tables and their length, which `Filled` is about. -/
def SameTables
    (s t : State) : Prop :=
  t.processorInfo = s.processorInfo ∧
    t.processorGroupInfo = s.processorGroupInfo ∧
    t.processorCount = s.processorCount

theorem Filled.congr
    (hFilled : Filled groups s)
    (hSame : SameTables s t) :
    Filled groups t := by
  rcases hSame with ⟨hProcessors, hGroups, hCount⟩
  constructor
  · exact hFilled.total
  · rw [hCount]
    exact hFilled.count
  · rw [hGroups]
    exact hFilled.groupEntry
  · rw [hProcessors]
    exact hFilled.processorEntry

/- Both loops, on tables that are there. -/
theorem filled_fillTables
    (hTotal :
      1 ≤ activeProcessorCount groups ∧
        activeProcessorCount groups ≤ 65535)
    (hProcessors : s.processorInfo.isSome = true)
    (hGroups : s.processorGroupInfo.isSome = true) :
    Filled groups (fillTables groups s) := by
  rcases Option.isSome_iff_exists.mp hProcessors with
    ⟨processors, hProcessors⟩
  rcases Option.isSome_iff_exists.mp hGroups with
    ⟨table, hGroups⟩
  constructor
  · exact hTotal
  · rfl
  · intro g
    simp only [fillTables, hGroups, Option.map_some, entryAt,
      List.getElem?_map]
    cases (groupEntries 0 groups)[g]? with
    | none => rfl
    | some entry => rfl
  · intro proc
    simp only [fillTables, hProcessors, Option.map_some,
      entryAt, List.getElem?_map]
    by_cases hProc : proc < activeProcessorCount groups
    · rw [List.getElem?_range hProc, if_pos hProc,
        Option.map_some]
    · have hOff :
          (List.range (activeProcessorCount groups))[proc]? =
            none := by
        rw [List.getElem?_eq_none_iff, List.length_range]
        omega
      rw [hOff, if_neg hProc, Option.map_none]

theorem sameTables_alloc
    {succeeds : Bool}
    {b : Option Block}
    (hExec : exec (alloc succeeds) s = .ok (b, t)) :
    SameTables s t := by
  unfold alloc at hExec
  simp only [exec_bind, exec_get] at hExec
  split at hExec
  next => cases hExec
  next =>
    cases succeeds with
    | true =>
        cases hExec
        exact ⟨rfl, rfl, rfl⟩
    | false =>
        cases hExec
        exact ⟨rfl, rfl, rfl⟩

theorem sameTables_free
    {b : Block}
    {u : Unit}
    (hExec : exec (free b) s = .ok (u, t)) :
    SameTables s t := by
  unfold free at hExec
  simp only [exec_bind, exec_get] at hExec
  split at hExec
  next =>
    cases hExec
    exact ⟨rfl, rfl, rfl⟩
  next => cases hExec

theorem filled_of_buildGroupTable
    (hTotal :
      1 ≤ activeProcessorCount groups ∧
        activeProcessorCount groups ≤ 65535)
    (hProcessors : s.processorInfo.isSome = true)
    (hExec :
      exec (buildGroupTable answers groups) s =
        .ok (status, t))
    (hSuccess : failed status = false) :
    Filled groups t := by
  unfold buildGroupTable at hExec
  rcases exec_bind_ok.mp hExec with ⟨b, u, hAlloc, hRest⟩
  have hSame := sameTables_alloc hAlloc
  cases b with
  | none =>
      cases hRest
      cases hSuccess
  | some b =>
      simp only [exec_bind, exec_modify, exec_pure] at hRest
      cases hRest
      apply filled_fillTables hTotal
      · rw [← hSame.1] at hProcessors
        exact hProcessors
      · rfl

theorem filled_of_buildTables
    {info : Option Block}
    (hExec :
      exec (buildTables answers info) s =
        .ok (status, t))
    (hSuccess : failed status = false) :
    Filled answers.activeGroups t := by
  unfold buildTables at hExec
  rcases exec_bind_ok.mp hExec with ⟨groups, u, hRead, hRest⟩
  have hGroups : groups = answers.activeGroups := by
    unfold readInfo at hRead
    simp only [exec_bind, exec_get] at hRead
    split at hRead
    next => cases hRead
    next =>
      split at hRead
      next =>
        cases hRead
        rfl
      next => cases hRead
  subst hGroups
  simp only at hRest
  split at hRest
  next =>
    cases hRest
    cases hSuccess
  next =>
    split at hRest
    next =>
      cases hRest
      cases hSuccess
    next hTotal =>
      rcases exec_bind_ok.mp hRest with ⟨v, w, hGet, hRest⟩
      cases hGet
      split at hRest
      next => cases hRest
      next =>
        rcases exec_bind_ok.mp hRest with
          ⟨b, w, hAlloc, hRest⟩
        cases b with
        | none =>
            cases hRest
            cases hSuccess
        | some b =>
            rcases exec_bind_ok.mp hRest with
              ⟨_, w, hModify, hRest⟩
            cases hModify
            exact filled_of_buildGroupTable (by omega) rfl
              hRest hSuccess

/- From the label `Error` on a success keeps the tables. -/
theorem cleanUp_success
    {info : Option Block}
    {status' : Status}
    (hExec :
      exec (cleanUp info status) s = .ok (status', t)) :
    status' = status ∧
      (failed status = false → SameTables s t) := by
  unfold cleanUp at hExec
  rcases exec_bind_ok.mp hExec with ⟨_, u, hFree, hRest⟩
  have hSame : SameTables s u := by
    cases info with
    | none =>
        cases hFree
        exact ⟨rfl, rfl, rfl⟩
    | some b => exact sameTables_free hFree
  split at hRest
  next hFailed =>
    rcases exec_bind_ok.mp hRest with ⟨_, v, _, hRest⟩
    cases hRest
    refine ⟨rfl, ?_⟩
    intro hSuccess
    rw [hFailed] at hSuccess
    cases hSuccess
  next =>
    cases hRest
    exact ⟨rfl, fun _ => hSame⟩

theorem filled_of_processorInfoInit
    (hExec :
      exec (processorInfoInit answers) s = .ok (status, t))
    (hSuccess : failed status = false) :
    Filled answers.activeGroups t := by
  unfold processorInfoInit at hExec
  rcases exec_bind_ok.mp hExec with ⟨found, u, _, hRest⟩
  split at hRest
  next hFailed =>
    have hStatus := (cleanUp_success hRest).1
    rw [← hStatus, hSuccess] at hFailed
    cases hFailed
  next =>
    rcases exec_bind_ok.mp hRest with
      ⟨built, v, hBuild, hRest⟩
    rcases cleanUp_success hRest with ⟨hStatus, hSame⟩
    subst hStatus
    exact (filled_of_buildTables hBuild hSuccess).congr
      (hSame hSuccess)

end WinUser

end CxPlat

------------------------------------------------------------
-- The Numbering
------------------------------------------------------------

namespace CxPlat

namespace WinUser

open Comp

variable {groups : List SystemGroup} {s : State}

/-
  Processors below the count and places in the groups are in
  one-to-one correspondence.
-/
structure Numbers
    (groups : List SystemGroup)
    (s : State) : Prop where
  count :
    s.processorCount = activeProcessorCount groups
  groupInfo :
    ∀ g,
      entryAt s.processorGroupInfo g =
        groups[g]?.map (fun group =>
          { mask := group.activeProcessorMask
            count := group.activeProcessorCount.toNat
            offset :=
              activeProcessorCount (groups.take g) })
  processorInfo :
    ∀ p, p < s.processorCount →
      ∃ info entry,
        entryAt s.processorInfo p = some info ∧
          entryAt s.processorGroupInfo info.group =
            some entry ∧
          info.index < entry.count ∧
          entry.offset + info.index = p
  unique :
    ∀ g i entry,
      entryAt s.processorGroupInfo g = some entry →
        i < entry.count →
          ∃! p, p < s.processorCount ∧
            entryAt s.processorInfo p =
              some { index := i, group := g }

theorem Filled.groupInfo
    (hFilled : Filled groups s)
    (g : Nat) :
    entryAt s.processorGroupInfo g =
      groups[g]?.map (fun group =>
        { mask := group.activeProcessorMask
          count := group.activeProcessorCount.toNat
          offset := activeProcessorCount (groups.take g) }) := by
  rw [hFilled.groupEntry, getElem?_groupEntries]
  simp only [Nat.zero_add, Ranges.offset, groupCounts,
    activeProcessorCount, List.map_take]

/- A place in a group is a place in its range. -/
theorem Filled.lies_iff
    (hFilled : Filled groups s)
    {p g i : Nat} :
    Ranges.Lies (groupCounts groups) p g i ↔
      ∃ entry,
        entryAt s.processorGroupInfo g = some entry ∧
          i < entry.count ∧ entry.offset + i = p := by
  rw [hFilled.groupEntry, getElem?_groupEntries]
  unfold Ranges.Lies groupCounts
  cases hGroup : groups[g]? with
  | none => simp [hGroup]
  | some group => simp [hGroup]

/- The entry of a processor is where it lies. -/
theorem Filled.entry_iff
    (hFilled : Filled groups s)
    {p : Nat}
    {info : ProcessorInfo} :
    entryAt s.processorInfo p = some info ↔
      Ranges.Lies (groupCounts groups) p info.group
        info.index := by
  rw [hFilled.processorEntry]
  constructor
  · intro hEntry
    split at hEntry
    next hProc =>
      rcases processorEntry_lies hProc with
        ⟨found, hFound, hLies⟩
      rw [hFound, Option.some_inj] at hEntry
      subst hEntry
      exact hLies
    next => cases hEntry
  · intro hLies
    have hProc : p < activeProcessorCount groups :=
      hLies.lt_sum
    rcases processorEntry_lies hProc with
      ⟨found, hFound, hThere⟩
    rw [if_pos hProc, hFound, Option.some_inj]
    rcases hThere.unique hLies with ⟨hGroup, hIndex⟩
    cases found
    cases info
    simp_all

theorem Filled.numbers
    (hFilled : Filled groups s) :
    Numbers groups s := by
  constructor
  · exact hFilled.count
  · exact hFilled.groupInfo
  · intro p hProc
    rw [hFilled.count] at hProc
    rcases processorEntry_lies hProc with
      ⟨info, _, hLies⟩
    rcases hFilled.lies_iff.mp hLies with
      ⟨entry, hEntry, hIn, hPlace⟩
    exact ⟨info, entry, hFilled.entry_iff.mpr hLies, hEntry,
      hIn, hPlace⟩
  · intro g i entry hEntry hIn
    have hLies :
        Ranges.Lies (groupCounts groups) (entry.offset + i)
          g i :=
      hFilled.lies_iff.mpr ⟨entry, hEntry, hIn, rfl⟩
    refine ⟨entry.offset + i, ⟨?_, ?_⟩, ?_⟩
    · rw [hFilled.count]
      exact hLies.lt_sum
    · exact hFilled.entry_iff.mpr hLies
    · rintro q ⟨_, hOther⟩
      rcases hFilled.entry_iff.mp hOther with
        ⟨n, hSize, _, hPlace⟩
      rcases hLies with ⟨m, _, _, hPlace'⟩
      simp only at hPlace
      omega

theorem returns_readEntry
    {α : Type}
    {table : State → Option (Table α)}
    {i : Nat}
    {entry : α}
    (hEntry : entryAt (table s) i = some entry)
    (Q : α → State → Prop) :
    Returns (readEntry table i) s Q ↔ Q entry s := by
  unfold readEntry
  rw [returns_bind, returns_get, hEntry, returns_pure]

/- From a place in a group back to the processor. -/
theorem returns_procCurrentNumber
    (hFilled : Filled groups s)
    {procNumber : ProcessorNumber}
    {entry : ProcessorGroupInfo}
    (hEntry :
      entryAt s.processorGroupInfo procNumber.group.toNat =
        some entry)
    (hCount : 0 < entry.count) :
    Returns (procCurrentNumber procNumber) s
      (fun n t =>
        t = s ∧
          Ranges.Lies (groupCounts groups) n
            procNumber.group.toNat
            (procNumber.number.toNat % entry.count)) := by
  unfold procCurrentNumber readProcessorGroupInfo
  rw [returns_bind, returns_readEntry hEntry,
    if_neg (by omega), returns_pure]
  refine ⟨rfl, hFilled.lies_iff.mpr ⟨entry, hEntry, ?_, rfl⟩⟩
  exact Nat.mod_lt _ hCount

/-
  A successful initialisation numbers the processors of the
  groups, whatever the groups are.  The number of the current
  processor is one of them, and the one of the entry that
  describes it, which is also the processor that a thread is
  affinitised to.
-/
theorem processorInfoInit_numbers
    {answers : Answers}
    {s s' : State}
    {status : Status}
    (hInit :
      exec (processorInfoInit answers) s = .ok (status, s'))
    (hSuccess : failed status = false) :
    Numbers answers.activeGroups s' ∧
      (1 ≤ s'.processorCount ∧
        s'.processorCount ≤ 65535) ∧
      (∀ procNumber entry,
        entryAt s'.processorGroupInfo
            procNumber.group.toNat = some entry →
          0 < entry.count →
            Returns (procCurrentNumber procNumber) s'
              (fun n t =>
                t = s' ∧ n < s'.processorCount ∧
                  ∀ p info,
                    entryAt s'.processorInfo p =
                        some info →
                      procNumber.group.toNat =
                          info.group →
                        procNumber.number.toNat =
                            info.index →
                          n = p)) ∧
      (∀ config info,
        entryAt s'.processorInfo
            config.idealProcessor.toNat = some info →
          config.has threadFlagSetAffinitize = true →
            Returns (threadAffinity config info) s'
              (fun affinity t =>
                t = s' ∧ affinity.group = info.group ∧
                  ∀ i, i < 64 →
                    (affinity.mask.getLsbD i = true ↔
                      i = info.index))) := by
  have hFilled := filled_of_processorInfoInit hInit hSuccess
  refine ⟨hFilled.numbers, ?_, ?_, ?_⟩
  · rw [hFilled.count]
    exact hFilled.total
  · intro procNumber entry hEntry hCount
    apply (returns_procCurrentNumber hFilled hEntry
      hCount).mono
    rintro n t ⟨hState, hLies⟩
    refine ⟨hState, ?_, ?_⟩
    · rw [hFilled.count]
      exact hLies.lt_sum
    · intro p info hInfo hGroup hNumber
      have hThere := hFilled.entry_iff.mp hInfo
      rcases hFilled.lies_iff.mp hThere with
        ⟨entry', hEntry', hIn, hPlace⟩
      rw [← hGroup, hEntry, Option.some_inj] at hEntry'
      subst hEntry'
      -- An index in the group is not changed by the modulus.
      rw [hNumber, Nat.mod_eq_of_lt hIn, hGroup] at hLies
      rcases hLies with ⟨_, _, _, hFirst⟩
      rcases hThere with ⟨_, _, _, hSecond⟩
      omega
  · intro config info _ hFlag
    unfold threadAffinity
    rw [if_pos hFlag, returns_pure]
    refine ⟨rfl, rfl, ?_⟩
    intro i hLess
    simp only [BitVec.getLsbD_shiftLeft, hLess,
      BitVec.getLsbD_one, decide_true, Bool.true_and,
      Bool.and_eq_true, Bool.not_eq_true',
      decide_eq_false_iff_not, decide_eq_true_eq]
    omega

/- Three groups, the second one without processors. -/
def gapAnswers : Answers where
  heapCreate := true
  firstLength := 64
  firstError := 0
  allocInfo := true
  secondSucceeds := true
  secondError := 0
  activeGroups :=
    [{ activeProcessorCount := 2, activeProcessorMask := 3 },
      { activeProcessorCount := 0, activeProcessorMask := 0 },
      { activeProcessorCount := 3, activeProcessorMask := 7 }]
  allocProcessors := true
  allocGroups := true

/- The tables of the three groups. -/
def gapState : State :=
  { heapOnly with
    processorInfo := some
      { block := { heap := 0, id := 2 }
        entries :=
          [some { index := 0, group := 0 },
            some { index := 1, group := 0 },
            some { index := 0, group := 2 },
            some { index := 1, group := 2 },
            some { index := 2, group := 2 }] }
    processorGroupInfo := some
      { block := { heap := 0, id := 3 }
        entries :=
          [some { mask := 3, count := 2, offset := 0 },
            some { mask := 0, count := 0, offset := 2 },
            some { mask := 7, count := 3, offset := 2 }] }
    processorCount := 5
    live := [{ heap := 0, id := 3 }, { heap := 0, id := 2 }]
    next := 4 }

theorem processorInfoInit_numbers_gap :
    exec (processorInfoInit gapAnswers) heapOnly =
        .ok (statusSuccess, gapState) ∧
      Numbers gapAnswers.activeGroups gapState ∧
      Returns
        (procCurrentNumber { group := 2, number := 1 })
        gapState (fun n t => t = gapState ∧ n = 3) := by
  have hInit :
      exec (processorInfoInit gapAnswers) heapOnly =
        .ok (statusSuccess, gapState) := rfl
  rcases processorInfoInit_numbers hInit rfl with
    ⟨hNumbers, _, hCurrent, _⟩
  refine ⟨hInit, hNumbers, ?_⟩
  apply (hCurrent { group := 2, number := 1 } _ rfl
    (by decide)).mono
  rintro n t ⟨hState, _, hEntry⟩
  exact ⟨hState,
    hEntry 3 { index := 1, group := 2 } rfl rfl rfl⟩

end WinUser

end CxPlat
