import CxPlat.Posix.Library
import CxPlat.Posix.Random

/-
  The global variables of the library on POSIX, and the
  functions of `cxplat_posix.c` that use them between
  `CxPlatInitialize` and `CxPlatUninitialize`, or after.

  `CxPlatUninitialize` resets none of the variables.  So the
  count of the nodes, the pointer to their masks and the
  descriptor of the random device stay what the last
  initialisation has made them, while the masks are freed and
  the descriptor is closed.

  Key definitions include:
    * `createThread`, `procCurrentNumber`, `random`
    * `Phase`, `phaseAfter`
    * `Matches`

  Key theorems include:
    * `matches_step`, `matches_run`
    * `createThread_ok_iff`
    * `session_uses_iff`
-/

------------------------------------------------------------
-- Uses of the Variables
------------------------------------------------------------

namespace CxPlat

namespace PosixLibrary

open PosixThread (Build Status statusSuccess)
open PosixRandom (Memory Read)

/- What is wrong with a use of a variable. -/
inductive Misuse where
  | thread (fault : PosixThread.Fault)
  | nullMasks
  | freedMasks
  | offMasks
  | closedRandom
  | zeroDivide
deriving DecidableEq, Repr

/- `CxPlatNumaNodeMasks[node]`. -/
def readMask
    (s : State)
    (node : Int) : Except Misuse CpuSet :=
  match s.numaNodeMasks with
  | none => .error .nullMasks
  | some masks =>
      if masks ∉ s.arrays.held then
        .error .freedMasks
      else if node < 0 then
        .error .offMasks
      else
        match s.nodeMasks node.toNat with
        | some cpus => .ok cpus
        | none => .error .offMasks

/-
  Whether `CxPlatThreadCreate` hands the mask of a node to
  `pthread_setaffinity_np`, which reads it.
-/
def passesMask
    (build : Build)
    (nodes : BitVec 32)
    (config : ThreadConfig)
    (status : Status) : Bool :=
  !build.android && status = statusSuccess &&
    !config.has threadFlagSetAffinitize &&
    build.numaAware && nodes ≠ 0

/- The mask that it hands over, if it does. -/
def passMask
    (build : Build)
    (s : State)
    (answers : PosixThread.Answers)
    (config : ThreadConfig)
    (status : Status) : Except Misuse (Option CpuSet) :=
  if passesMask build s.numaNodeCount config status then
    match readMask s
      (answers.numaNodeOfCpu config.idealProcessor) with
    | .ok cpus => .ok (some cpus)
    | .error misuse => .error misuse
  else
    .ok none

/-
  `CxPlatThreadCreate`, with the count of the nodes and their
  masks from the library: its status, what it leaves, and the
  mask that it has handed over.
-/
def createThread
    (build : Build)
    (s : State)
    (answers : PosixThread.Answers)
    (config : ThreadConfig) :
    Except Misuse
      (Status × PosixThread.State × Option CpuSet) :=
  match Comp.exec
    (PosixThread.threadCreate build
      { answers with numaNodeCount := s.numaNodeCount.toNat }
      config) PosixThread.begin with
  | .error fault => .error (.thread fault)
  | .ok (status, t) =>
      match passMask build s answers config status with
      | .error misuse => .error misuse
      | .ok mask => .ok (status, t, mask)

/-
  `CxPlatProcCurrentNumber` on Linux, where `cpu` is what
  `sched_getcpu` returns.
-/
def procCurrentNumber
    (s : State)
    (cpu : BitVec 32) : Except Misuse (BitVec 32) :=
  if s.processorCount = 0 then
    .error .zeroDivide
  else
    .ok (cpu % s.processorCount)

/- `EBADF`. -/
def badDescriptor : BitVec 32 := 9

/-
  `CxPlatRandom`, with the descriptor from the library.  The
  number of a descriptor that is closed may be that of any
  other file by now.
-/
def random
    {n : Nat}
    (s : State)
    (m : Memory n)
    (outcome : Read) : Except Misuse (Status × Memory n) :=
  match s.randomFd with
  | none => .ok (PosixRandom.random m (.error badDescriptor))
  | some fd =>
      if fd ∈ s.descriptors.held then
        .ok (PosixRandom.random m outcome)
      else
        .error .closedRandom

end PosixLibrary

end CxPlat

------------------------------------------------------------
-- Phases
------------------------------------------------------------

namespace CxPlat

namespace PosixLibrary

/-
  Where the library is in its life, with what the system has
  answered to the last initialisation.
-/
inductive Phase where
  | loaded
  | standing (answers : Answers)
  | gone (answers : Answers)

def Phase.next : Phase → Op → Phase
  | _, .init answers => .standing answers
  | .standing answers, .uninit => .gone answers
  | phase, .uninit => phase

def phaseAfter
    (ops : List Op) : Phase :=
  ops.foldl Phase.next .loaded

def Phase.answers? : Phase → Option Answers
  | .loaded => none
  | .standing answers => some answers
  | .gone answers => some answers

/- How many nodes an initialisation has found. -/
def Answers.nodes
    (answers : Answers) : BitVec 32 :=
  if 0 ≤ answers.numaAvailable then answers.configuredNodes
  else 0

def Phase.nodes
    (phase : Phase) : BitVec 32 :=
  match phase.answers? with
  | some answers => answers.nodes
  | none => 0

/- The processors of a node, while there are masks. -/
def Phase.mask
    (node : Int) : Phase → Option CpuSet
  | .standing answers =>
      if 0 ≤ node ∧ node.toNat < answers.nodes.toNat then
        answers.nodeToCpus node.toNat
      else none
  | _ => none

/- The masks are there as long as the library stands. -/
structure MasksMatch
    (answers : Answers)
    (standing : Bool)
    (s : State) : Prop where
  pointer :
    ∃ masks,
      s.numaNodeMasks = some masks ∧
        (masks ∈ s.arrays.held ↔ standing = true)
  entries :
    ∀ n,
      s.nodeMasks n =
        if n < answers.configuredNodes.toNat then
          answers.nodeToCpus n
        else none

/- And so is the descriptor. -/
def RandomMatches
    (standing : Bool)
    (s : State) : OpenAnswer → Prop
  | .opened =>
      ∃ fd,
        s.randomFd = some fd ∧
          (fd ∈ s.descriptors.held ↔ standing = true)
  | .failed _ => s.randomFd = none

/- What an initialisation has left of its answers. -/
structure AnswersMatch
    (answers : Answers)
    (standing : Bool)
    (s : State) : Prop where
  processors : s.processorCount = answers.processors
  nodes : s.numaNodeCount = answers.nodes
  masks :
    0 ≤ answers.numaAvailable →
      MasksMatch answers standing s
  random : RandomMatches standing s answers.openRandom

/- Before the first initialisation. -/
structure LoadedMatch
    (s : State) : Prop where
  processors : s.processorCount = 0
  nodes : s.numaNodeCount = 0
  masks : s.numaNodeMasks = none
  random : s.randomFd = none

/- The variables and the books are those of the phase. -/
structure Matches
    (phase : Phase)
    (s : State) : Prop where
  arrays : s.arrays.Sound
  descriptors : s.descriptors.Sound
  globals :
    match phase with
    | .loaded => LoadedMatch s
    | .standing answers => AnswersMatch answers true s
    | .gone answers => AnswersMatch answers false s

end PosixLibrary

end CxPlat

------------------------------------------------------------
-- One Call of the Library
------------------------------------------------------------

namespace CxPlat

namespace PosixLibrary

open Comp

variable {s t : State} {lib lib' : Library}
variable {answers : Answers} {phase : Phase}

/- Closing: there was nothing to close, or it was open. -/
theorem exec_closeRandom_ok
    (hExec : exec closeRandom s = .ok ((), t)) :
    (s.randomFd = none ∧ t = s) ∨
      ∃ fd descriptors,
        s.randomFd = some fd ∧
          s.descriptors.release fd = some descriptors ∧
          t = { s with descriptors := descriptors } := by
  unfold closeRandom at hExec
  simp only [exec_bind, exec_get] at hExec
  cases hFd : s.randomFd with
  | none =>
      rw [hFd] at hExec
      cases hExec
      exact Or.inl ⟨rfl, rfl⟩
  | some fd =>
      rw [hFd] at hExec
      cases hRelease : s.descriptors.release fd with
      | none => simp [hRelease] at hExec
      | some descriptors =>
          simp only [hRelease, exec_set] at hExec
          cases hExec
          exact Or.inr ⟨fd, descriptors, rfl, hRelease, rfl⟩

/- Freeing: the same for the masks. -/
theorem exec_freeMasks_ok
    (hExec : exec freeMasks s = .ok ((), t)) :
    (s.numaNodeMasks = none ∧ t = s) ∨
      ∃ masks arrays,
        s.numaNodeMasks = some masks ∧
          s.arrays.release masks = some arrays ∧
          t = { s with arrays := arrays } := by
  unfold freeMasks at hExec
  simp only [exec_bind, exec_get] at hExec
  cases hMasks : s.numaNodeMasks with
  | none =>
      rw [hMasks] at hExec
      cases hExec
      exact Or.inl ⟨rfl, rfl⟩
  | some masks =>
      rw [hMasks] at hExec
      cases hRelease : s.arrays.release masks with
      | none => simp [hRelease] at hExec
      | some arrays =>
          simp only [hRelease, exec_set] at hExec
          cases hExec
          exact Or.inr ⟨masks, arrays, rfl, hRelease, rfl⟩

/- The masks are not there after they have been freed. -/
theorem MasksMatch.free
    {standing : Bool}
    (hMatch : MasksMatch answers standing s)
    (hSound : s.arrays.Sound)
    (hExec : exec freeMasks s = .ok ((), t)) :
    MasksMatch answers false t := by
  rcases hMatch.pointer with ⟨masks, hMasks, _⟩
  rcases exec_freeMasks_ok hExec with
    ⟨hNone, _⟩ | ⟨masks', arrays, hSome, hRelease, hAfter⟩
  · rw [hNone] at hMasks
    cases hMasks
  · rw [hSome, Option.some_inj] at hMasks
    subst hMasks hAfter
    constructor
    · refine ⟨masks', hSome, ?_⟩
      simp [hSound.not_mem_release hRelease]
    · exact hMatch.entries

theorem RandomMatches.close
    {standing : Bool}
    {answer : OpenAnswer}
    (hMatch : RandomMatches standing s answer)
    (hSound : s.descriptors.Sound)
    (hExec : exec closeRandom s = .ok ((), t)) :
    RandomMatches false t answer := by
  rcases exec_closeRandom_ok hExec with
    ⟨hNone, hAfter⟩ |
      ⟨fd, descriptors, hSome, hRelease, hAfter⟩
  · subst hAfter
    cases answer with
    | opened =>
        rcases hMatch with ⟨fd, hFd, _⟩
        rw [hNone] at hFd
        cases hFd
    | failed errno => exact hMatch
  · subst hAfter
    cases answer with
    | opened =>
        refine ⟨fd, hSome, ?_⟩
        simp [hSound.not_mem_release hRelease]
    | failed errno =>
        rw [RandomMatches, hSome] at hMatch
        cases hMatch

/- Closing leaves everything else alone. -/
theorem closeRandom_frame
    (hSound : s.descriptors.Sound)
    (hExec : exec closeRandom s = .ok ((), t)) :
    ∃ descriptors : Ledger,
      descriptors.Sound ∧
        t = { s with descriptors := descriptors } := by
  rcases exec_closeRandom_ok hExec with
    ⟨_, hAfter⟩ | ⟨fd, descriptors, _, hRelease, hAfter⟩
  · exact ⟨s.descriptors, hSound, hAfter⟩
  · exact ⟨descriptors, hSound.release hRelease, hAfter⟩

theorem freeMasks_frame
    (hSound : s.arrays.Sound)
    (hExec : exec freeMasks s = .ok ((), t)) :
    ∃ arrays : Ledger,
      arrays.Sound ∧ t = { s with arrays := arrays } := by
  rcases exec_freeMasks_ok hExec with
    ⟨_, hAfter⟩ | ⟨masks, arrays, _, hRelease, hAfter⟩
  · exact ⟨s.arrays, hSound, hAfter⟩
  · exact ⟨arrays, hSound.release hRelease, hAfter⟩

/- The two in turn, each with books in order. -/
theorem cxPlatUninitialize_frame
    (hArrays : s.arrays.Sound)
    (hDescriptors : s.descriptors.Sound)
    (hExec : exec cxPlatUninitialize s = .ok ((), t)) :
    ∃ descriptors arrays : Ledger,
      descriptors.Sound ∧ arrays.Sound ∧
        exec closeRandom s =
          .ok ((), { s with descriptors := descriptors }) ∧
        exec freeMasks { s with descriptors := descriptors } =
          .ok ((), t) ∧
        t =
          { s with
            descriptors := descriptors
            arrays := arrays } := by
  rcases exec_bind_ok.mp hExec with ⟨_, u, hClose, hFree⟩
  rcases closeRandom_frame hDescriptors hClose with
    ⟨descriptors, hClosed, hMiddle⟩
  have hHeld : u.arrays.Sound := by
    rw [hMiddle]
    exact hArrays
  rcases freeMasks_frame hHeld hFree with
    ⟨arrays, hFreed, hAfter⟩
  subst hMiddle
  exact ⟨descriptors, arrays, hClosed, hFreed, hClose, hFree,
    hAfter⟩

/- The variables stay, and what they stand for is gone. -/
theorem AnswersMatch.uninit
    {standing : Bool}
    (hMatch : AnswersMatch answers standing s)
    (hArrays : s.arrays.Sound)
    (hDescriptors : s.descriptors.Sound)
    (hExec : exec cxPlatUninitialize s = .ok ((), t)) :
    AnswersMatch answers false t := by
  rcases cxPlatUninitialize_frame hArrays hDescriptors
    hExec with
    ⟨descriptors, arrays, _, _, hClose, hFree, hAfter⟩
  have hRandom := hMatch.random.close hDescriptors hClose
  have hMasks :
      0 ≤ answers.numaAvailable →
        MasksMatch answers false t := by
    intro hAvailable
    have hBefore := hMatch.masks hAvailable
    have hMiddle :
        MasksMatch answers standing
          { s with descriptors := descriptors } :=
      ⟨hBefore.pointer, hBefore.entries⟩
    exact hMiddle.free hArrays hFree
  subst hAfter
  constructor
  · exact hMatch.processors
  · exact hMatch.nodes
  · exact hMasks
  · cases hOpen : answers.openRandom with
    | opened =>
        rw [hOpen] at hRandom
        exact hRandom
    | failed errno =>
        rw [hOpen] at hRandom
        exact hRandom

/- With nothing to close and to free, nothing changes. -/
theorem LoadedMatch.uninit
    (hMatch : LoadedMatch s)
    (hExec : exec cxPlatUninitialize s = .ok ((), t)) :
    t = s := by
  rcases exec_bind_ok.mp hExec with ⟨_, u, hClose, hFree⟩
  rcases exec_closeRandom_ok hClose with
    ⟨_, hClosed⟩ | ⟨fd, _, hSome, _⟩
  · subst hClosed
    rcases exec_freeMasks_ok hFree with
      ⟨_, hFreed⟩ | ⟨masks, _, hSome, _⟩
    · exact hFreed
    · rw [hMatch.masks] at hSome
      cases hSome
  · rw [hMatch.random] at hSome
    cases hSome

theorem Matches.uninit
    (hMatches : Matches phase s)
    (hExec : exec cxPlatUninitialize s = .ok ((), t)) :
    Matches (phase.next .uninit) t := by
  have hBooks : t.arrays.Sound ∧ t.descriptors.Sound := by
    rcases cxPlatUninitialize_frame hMatches.arrays
      hMatches.descriptors hExec with
      ⟨descriptors, arrays, hClosed, hFreed, _, _, hAfter⟩
    subst hAfter
    exact ⟨hFreed, hClosed⟩
  refine ⟨hBooks.1, hBooks.2, ?_⟩
  have hGlobals := hMatches.globals
  cases phase with
  | loaded =>
      rw [hGlobals.uninit hExec]
      exact hGlobals
  | standing answers =>
      exact hGlobals.uninit hMatches.arrays
        hMatches.descriptors hExec
  | gone answers =>
      exact hGlobals.uninit hMatches.arrays
        hMatches.descriptors hExec

/- Opening the random device concerns nothing else. -/
theorem withRandom_frame
    (s : State)
    (answer : OpenAnswer) :
    ∃ fd descriptors,
      s.withRandom answer =
        { s with
          randomFd := fd
          descriptors := descriptors } := by
  cases answer with
  | opened => exact ⟨_, _, rfl⟩
  | failed errno => exact ⟨_, _, rfl⟩

theorem withRandom_matches
    (s : State)
    (answer : OpenAnswer) :
    RandomMatches true (s.withRandom answer) answer := by
  cases answer with
  | opened =>
      refine ⟨s.descriptors.next, rfl, ?_⟩
      simp [State.withRandom, Ledger.acquire]
  | failed errno => rfl

theorem withNodes_matches
    (s : State)
    (hAvailable : 0 ≤ answers.numaAvailable) :
    MasksMatch answers true (s.withNodes answers) := by
  unfold State.withNodes
  rw [if_pos hAvailable]
  constructor
  · refine ⟨s.arrays.next, rfl, ?_⟩
    simp [State.withMasks, Ledger.acquire]
  · intro n
    simp [State.withMasks]

/-
  An initialisation makes the variables, whatever they were
  before.
-/
theorem Matches.init
    (hMatches : Matches phase s)
    (answers : Answers) :
    Matches (phase.next (.init answers))
      ((s.withNodes answers).withRandom
        answers.openRandom) := by
  have hRandom := withRandom_matches (s.withNodes answers)
    answers.openRandom
  have hDescriptors :
      ((s.withNodes answers).withRandom
        answers.openRandom).descriptors.Sound := by
    have hBefore : (s.withNodes answers).descriptors.Sound := by
      rw [withNodes_descriptors]
      exact hMatches.descriptors
    cases answers.openRandom with
    | opened => exact hBefore.acquire
    | failed errno => exact hBefore
  have hNodes :
      (s.withNodes answers).arrays.Sound ∧
        (s.withNodes answers).processorCount =
          answers.processors ∧
        (s.withNodes answers).numaNodeCount =
          answers.nodes := by
    unfold State.withNodes Answers.nodes
    split
    · exact ⟨hMatches.arrays.acquire, rfl, rfl⟩
    · exact ⟨hMatches.arrays, rfl, rfl⟩
  have hMasks :
      0 ≤ answers.numaAvailable →
        MasksMatch answers true (s.withNodes answers) :=
    withNodes_matches s
  rcases withRandom_frame (s.withNodes answers)
    answers.openRandom with ⟨fd, descriptors, hFrame⟩
  refine ⟨?_, hDescriptors, ?_⟩
  · rw [hFrame]
    exact hNodes.1
  · show AnswersMatch answers true _
    constructor
    · rw [hFrame]
      exact hNodes.2.1
    · rw [hFrame]
      exact hNodes.2.2
    · intro hAvailable
      rw [hFrame]
      exact ⟨(hMasks hAvailable).pointer,
        (hMasks hAvailable).entries⟩
    · exact hRandom

/- There is no call after a fault. -/
theorem fault_of_step
    {op : Op}
    (hStep : step lib op = some lib') :
    lib.fault = none := by
  unfold step at hStep
  cases hOld : lib.fault with
  | none => rfl
  | some fault => simp [hOld] at hStep

theorem fault_of_run
    {ops : List Op}
    (hRun : Transition.run step lib ops = some lib')
    (hFault : lib'.fault = none) :
    lib.fault = none := by
  cases ops with
  | nil =>
      cases hRun
      exact hFault
  | cons op ops =>
      rcases Transition.run_cons_some hRun with
        ⟨middle, hStep, _⟩
      exact fault_of_step hStep

/- A call moves the library on by one phase. -/
theorem matches_step
    {op : Op}
    (hMatches : Matches phase lib.state)
    (hStep : step lib op = some lib')
    (hFault : lib'.fault = none) :
    Matches (phase.next op) lib'.state := by
  have hBefore := fault_of_step hStep
  cases op with
  | init answers =>
      rw [step_init hBefore] at hStep
      split at hStep
      next => cases hStep
      next =>
        cases hStep
        exact hMatches.init answers
  | uninit =>
      unfold step at hStep
      simp only [hBefore, Option.isSome_none,
        Bool.false_eq_true, if_false] at hStep
      cases hExec : exec cxPlatUninitialize lib.state with
      | error fault =>
          simp only [hExec] at hStep
          cases fault with
          | abort => cases hStep
          | doubleFree =>
              cases hStep
              cases hFault
          | doubleClose =>
              cases hStep
              cases hFault
      | ok r =>
          simp only [hExec] at hStep
          cases hStep
          exact hMatches.uninit hExec

/- A run goes through the phases of its calls. -/
theorem matches_run
    {ops : List Op}
    (hMatches : Matches phase lib.state)
    (hRun : Transition.run step lib ops = some lib')
    (hFault : lib'.fault = none) :
    Matches (ops.foldl Phase.next phase) lib'.state := by
  induction ops generalizing lib phase with
  | nil =>
      cases hRun
      exact hMatches
  | cons op ops ih =>
      rcases Transition.run_cons_some hRun with
        ⟨middle, hStep, hRest⟩
      have hMiddle := fault_of_run hRest hFault
      exact ih (matches_step hMatches hStep hMiddle) hRest

theorem matches_load :
    Matches .loaded load.state := by
  refine ⟨Ledger.sound_empty, Ledger.sound_empty, ?_⟩
  exact ⟨rfl, rfl, rfl, rfl⟩

end PosixLibrary

end CxPlat

------------------------------------------------------------
-- When a Use Is Right
------------------------------------------------------------

namespace CxPlat

namespace PosixLibrary

open Comp
open PosixThread (Build Status statusSuccess)
open PosixRandom (Memory Read)

variable {s : State} {phase : Phase}

theorem Matches.numaNodeCount
    (hMatches : Matches phase s) :
    s.numaNodeCount = phase.nodes := by
  cases phase with
  | loaded => exact hMatches.globals.nodes
  | standing answers => exact hMatches.globals.nodes
  | gone answers => exact hMatches.globals.nodes

/- There are nodes only where there is NUMA. -/
theorem Answers.available_of_nodes
    {answers : Answers}
    (hNodes : answers.nodes ≠ 0) :
    0 ≤ answers.numaAvailable ∧
      answers.nodes = answers.configuredNodes := by
  unfold Answers.nodes at hNodes ⊢
  split
  next hAvailable => exact ⟨hAvailable, rfl⟩
  next hAvailable =>
    rw [if_neg hAvailable] at hNodes
    contradiction

/- Only the masks of a library that stands can be read. -/
theorem Matches.readMask_ok_iff
    (hMatches : Matches phase s)
    (hNodes : phase.nodes ≠ 0)
    (node : Int)
    (cpus : CpuSet) :
    readMask s node = .ok cpus ↔
      phase.mask node = some cpus := by
  cases phase with
  | loaded => contradiction
  | standing answers =>
      rcases Answers.available_of_nodes hNodes with
        ⟨hAvailable, hCount⟩
      have hMasks := hMatches.globals.masks hAvailable
      rcases hMasks.pointer with ⟨masks, hSome, hHeld⟩
      have hLive : ¬ masks ∉ s.arrays.held := by
        simp [hHeld]
      unfold readMask Phase.mask
      simp only [hSome, if_neg hLive, hMasks.entries, hCount]
      by_cases hNegative : node < 0
      · have hNot : ¬ 0 ≤ node := by omega
        simp [hNegative, hNot]
      · have hNot : 0 ≤ node := by omega
        rw [if_neg hNegative]
        simp only [hNot, true_and]
        generalize
          (if node.toNat < answers.configuredNodes.toNat then
            answers.nodeToCpus node.toNat else none) = entry
        cases entry with
        | none => simp
        | some found => simp
  | gone answers =>
      rcases Answers.available_of_nodes hNodes with
        ⟨hAvailable, _⟩
      rcases (hMatches.globals.masks hAvailable).pointer with
        ⟨masks, hSome, hHeld⟩
      have hFreed : masks ∉ s.arrays.held := by
        simp [hHeld]
      unfold readMask
      simp [hSome, hFreed, Phase.mask]

/-
  A mask is handed over just where one has to be, and it is
  that of the node which the ideal processor belongs to.
-/
def MaskFits
    (phase : Phase)
    (build : Build)
    (answers : PosixThread.Answers)
    (config : ThreadConfig)
    (status : Status)
    (mask : Option CpuSet) : Prop :=
  if passesMask build phase.nodes config status then
    mask.isSome = true ∧
      mask =
        phase.mask
          (answers.numaNodeOfCpu config.idealProcessor)
  else
    mask = none

theorem Matches.passMask_ok_iff
    (hMatches : Matches phase s)
    (build : Build)
    (answers : PosixThread.Answers)
    (config : ThreadConfig)
    (status : Status)
    (mask : Option CpuSet) :
    passMask build s answers config status = .ok mask ↔
      MaskFits phase build answers config status mask := by
  unfold passMask MaskFits
  rw [hMatches.numaNodeCount]
  by_cases hPasses :
      passesMask build phase.nodes config status = true
  · have hNodes : phase.nodes ≠ 0 := by
      intro hZero
      simp [passesMask, hZero] at hPasses
    have hRead := hMatches.readMask_ok_iff hNodes
      (answers.numaNodeOfCpu config.idealProcessor)
    rw [if_pos hPasses, if_pos hPasses]
    cases hMask : readMask s
      (answers.numaNodeOfCpu config.idealProcessor) with
    | ok cpus =>
        rw [(hRead cpus).mp hMask, Except.ok.injEq]
        constructor
        · intro hSame
          subst hSame
          exact ⟨rfl, rfl⟩
        · rintro ⟨_, hSame⟩
          exact hSame.symm
    | error misuse =>
        simp only [reduceCtorEq, false_iff, not_and]
        intro hSome hFits
        rcases Option.isSome_iff_exists.mp hSome with
          ⟨cpus, hCpus⟩
        rw [hFits] at hCpus
        rw [(hRead cpus).mpr hCpus] at hMask
        cases hMask
  · rw [if_neg hPasses, if_neg hPasses, Except.ok.injEq]
    exact eq_comm

theorem Matches.createThread_ok_iff
    (hMatches : Matches phase s)
    (build : Build)
    (answers : PosixThread.Answers)
    (config : ThreadConfig)
    (status : Status)
    (t : PosixThread.State)
    (mask : Option CpuSet) :
    createThread build s answers config =
        .ok (status, t, mask) ↔
      exec
          (PosixThread.threadCreate build
            { answers with
              numaNodeCount := phase.nodes.toNat }
            config) PosixThread.begin = .ok (status, t) ∧
        MaskFits phase build answers config status mask := by
  rw [← hMatches.passMask_ok_iff]
  unfold createThread
  rw [hMatches.numaNodeCount]
  generalize hExec :
    exec
      (PosixThread.threadCreate build
        { answers with numaNodeCount := phase.nodes.toNat }
        config) PosixThread.begin = result
  cases result with
  | error fault => simp
  | ok r =>
      rcases r with ⟨status', t'⟩
      simp only [Except.ok.injEq, Prod.mk.injEq]
      constructor
      · intro hCreate
        split at hCreate
        next => cases hCreate
        next mask' hMask =>
          cases hCreate
          exact ⟨⟨rfl, rfl⟩, hMask⟩
      · rintro ⟨⟨hStatus, hState⟩, hMask⟩
        subst hStatus hState
        rw [hMask]

theorem Matches.procCurrentNumber_ok_iff
    (hMatches : Matches phase s)
    (cpu number : BitVec 32) :
    procCurrentNumber s cpu = .ok number ↔
      ∃ answers,
        phase.answers? = some answers ∧
          answers.processors ≠ 0 ∧
          number = cpu % answers.processors := by
  have hStored :
      s.processorCount =
        match phase.answers? with
        | some answers => answers.processors
        | none => 0 := by
    cases phase with
    | loaded => exact hMatches.globals.processors
    | standing answers => exact hMatches.globals.processors
    | gone answers => exact hMatches.globals.processors
  unfold procCurrentNumber
  rw [hStored]
  cases phase.answers? with
  | none => simp
  | some answers =>
      simp only [Option.some.injEq, exists_eq_left']
      split
      next hZero => simp [hZero]
      next hSome =>
        rw [Except.ok.injEq, and_iff_right hSome]
        exact eq_comm

theorem Matches.random_closed_iff
    (hMatches : Matches phase s)
    {n : Nat}
    (m : Memory n)
    (outcome : Read) :
    random s m outcome = .error .closedRandom ↔
      ∃ answers,
        phase = .gone answers ∧
          answers.openRandom = .opened := by
  unfold random
  cases phase with
  | loaded => simp [hMatches.globals.random]
  | standing answers =>
      have hRandom := hMatches.globals.random
      cases hOpen : answers.openRandom with
      | opened =>
          rw [hOpen] at hRandom
          rcases hRandom with ⟨fd, hFd, hHeld⟩
          simp [hFd, hHeld]
      | failed errno =>
          rw [hOpen, RandomMatches] at hRandom
          simp [hRandom]
  | gone answers =>
      have hRandom := hMatches.globals.random
      cases hOpen : answers.openRandom with
      | opened =>
          rw [hOpen] at hRandom
          rcases hRandom with ⟨fd, hFd, hHeld⟩
          simp [hFd, hHeld, hOpen]
      | failed errno =>
          rw [hOpen, RandomMatches] at hRandom
          simp [hRandom, hOpen]

/-
  After any calls of the library, and whatever they have
  left: a new thread gets the mask of its node as the last
  initialisation has found it, or none, and never a mask from
  outside; the number of the processor can be computed from
  the first initialisation on; and the random device is used
  after it is closed just once the library is gone.
-/
theorem session_uses_iff
    (ops : List Op)
    {lib : Library}
    (hRun : Transition.run step load ops = some lib)
    (hFault : lib.fault = none) :
    (∀ build answers config status t mask,
      createThread build lib.state answers config =
          .ok (status, t, mask) ↔
        exec
            (PosixThread.threadCreate build
              { answers with
                numaNodeCount :=
                  (phaseAfter ops).nodes.toNat }
              config) PosixThread.begin = .ok (status, t) ∧
          MaskFits (phaseAfter ops) build answers config
            status mask) ∧
    (∀ cpu number,
      procCurrentNumber lib.state cpu = .ok number ↔
        ∃ answers,
          (phaseAfter ops).answers? = some answers ∧
            answers.processors ≠ 0 ∧
            number = cpu % answers.processors) ∧
    (∀ (n : Nat) (m : Memory n) (outcome : Read),
      random lib.state m outcome = .error .closedRandom ↔
        ∃ answers,
          phaseAfter ops = .gone answers ∧
            answers.openRandom = .opened) := by
  have hMatches : Matches (phaseAfter ops) lib.state :=
    matches_run matches_load hRun hFault
  exact ⟨hMatches.createThread_ok_iff,
    hMatches.procCurrentNumber_ok_iff,
    fun _ => hMatches.random_closed_iff⟩

/- A build that is aware of NUMA. -/
def numaBuild : Build :=
  { PosixThread.plainBuild with numaAware := true }

/- A thread that is created, for the second node. -/
def created : PosixThread.Answers :=
  { PosixThread.refused with
    create := 0
    numaNodeOfCpu := fun _ => 1 }

/-
  A thread of the second node gets its processors.  Once the
  library is gone, the same call reads masks that are freed.
-/
theorem session_uses_iff_secondNode :
    (∃ lib t,
      Transition.run step load [.init twoNodes] = some lib ∧
        createThread numaBuild lib.state created
            PosixThread.plainConfig =
          .ok (statusSuccess, t, some [2, 3])) ∧
    (∃ lib,
      Transition.run step load [.init twoNodes, .uninit] =
          some lib ∧
        ∀ t mask,
          createThread numaBuild lib.state created
              PosixThread.plainConfig ≠
            .ok (statusSuccess, t, mask)) := by
  constructor
  · have hStands :
        ∃ lib,
          Transition.run step load [.init twoNodes] =
              some lib ∧
            lib.fault = none :=
      ⟨_, rfl, rfl⟩
    rcases hStands with ⟨lib, hRun, hFault⟩
    have hUses := (session_uses_iff _ hRun hFault).1
    exact ⟨lib, _, hRun,
      (hUses _ _ _ _ _ _).mpr ⟨rfl, rfl, rfl⟩⟩
  · have hGone :
        ∃ lib,
          Transition.run step load
              [.init twoNodes, .uninit] = some lib ∧
            lib.fault = none :=
      ⟨_, rfl, rfl⟩
    rcases hGone with ⟨lib, hRun, hFault⟩
    refine ⟨lib, hRun, ?_⟩
    intro t mask hCreate
    rw [(session_uses_iff _ hRun hFault).1] at hCreate
    rcases hCreate.2 with ⟨hSome, hMask⟩
    rw [hMask] at hSome
    cases hSome

end PosixLibrary

end CxPlat
