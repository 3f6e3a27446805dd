import CxPlat.Lib.Ledger
import CxPlat.Lib.Transition
import CxPlat.Posix.Thread

/-
  `CxPlatInitialize` and `CxPlatUninitialize` on POSIX, from
  `cxplat_posix.c`, in the build that is aware of NUMA.

  Initialising allocates the masks of the nodes and then
  opens the random device.  If that fails the masks stay
  allocated, and a pointer to masks that have been freed
  stays until masks are allocated again.

  Which runs are spared both is said in terms of the calls
  and of what the system answers to them.

  Key definitions include:
    * `cxPlatInitialize`, `cxPlatUninitialize`
    * `step`
    * `Balanced`
    * `Masks`, `Spares`

  Key theorems include:
    * `exec_cxPlatInitialize`
    * `balanced_init_iff`, `balanced_uninit_iff`
    * `leavesBalanced_iff`, `tracks_step`
    * `library_balanced_iff`
-/

------------------------------------------------------------
-- The Two Functions
------------------------------------------------------------

namespace CxPlat

namespace PosixLibrary

open PosixThread (Status statusSuccess failed)

/- `cpu_set_t`, as a list of the processors in the set. -/
abbrev CpuSet := List Nat

/- `open` succeeds, or it fails and `errno` is returned. -/
inductive OpenAnswer where
  | opened
  | failed (errno : BitVec 32)
deriving DecidableEq, Repr

/-
  What the system answers.  `nodeToCpus` has none for a node
  at which `numa_node_to_cpus_compat` fails.
-/
structure Answers where
  processors : BitVec 32
  numaAvailable : Int
  configuredNodes : BitVec 32
  alloc : Bool
  nodeToCpus : Nat → Option CpuSet
  openRandom : OpenAnswer

/-
  The global variables, with a null pointer and a descriptor
  of -1 as none, what the array of masks holds, and the books
  about arrays and descriptors, which no code reads.
-/
structure State where
  processorCount : BitVec 32
  numaNodeCount : BitVec 32
  numaNodeMasks : Option Nat
  nodeMasks : Nat → Option CpuSet
  randomFd : Option Nat
  arrays : Ledger
  descriptors : Ledger

inductive Fault where
  | abort
  | doubleFree
  | doubleClose
deriving DecidableEq, Repr

/- `CXPLAT_ALLOC_NONPAGED` of the masks. -/
def allocMasks
    (succeeds : Bool) : Comp Fault State Unit :=
  modify fun s =>
    if succeeds then
      { s with
        numaNodeMasks := some s.arrays.next
        nodeMasks := fun _ => none
        arrays := s.arrays.acquire }
    else
      { s with numaNodeMasks := none }

/- The loop over the nodes. -/
def fillMasks
    (nodeToCpus : Nat → Option CpuSet) :
    List Nat → Comp Fault State Unit
  | [] => pure ()
  | n :: nodes => do
      modify fun s =>
        { s with
          nodeMasks := Function.update s.nodeMasks n (some []) }
      match nodeToCpus n with
      | none => throw .abort
      | some cpus =>
          modify fun s =>
            { s with
              nodeMasks :=
                Function.update s.nodeMasks n (some cpus) }
          fillMasks nodeToCpus nodes

/- The part of `CxPlatInitialize` about NUMA. -/
def numaInitialize
    (answers : Answers) : Comp Fault State Unit := do
  if 0 ≤ answers.numaAvailable then
    modify fun s =>
      { s with numaNodeCount := answers.configuredNodes }
    allocMasks answers.alloc
    let s ← get
    if s.numaNodeMasks = none then
      throw .abort
    fillMasks answers.nodeToCpus
      (List.range s.numaNodeCount.toNat)
  else
    modify fun s => { s with numaNodeCount := 0 }

/- `open` of the random device, and what follows it. -/
def openRandom
    (answer : OpenAnswer) : Comp Fault State Status :=
  match answer with
  | .opened => do
      modify fun s =>
        { s with
          randomFd := some s.descriptors.next
          descriptors := s.descriptors.acquire }
      return statusSuccess
  | .failed errno => do
      modify fun s => { s with randomFd := none }
      return errno

/- `CxPlatInitialize`. -/
def cxPlatInitialize
    (answers : Answers) : Comp Fault State Status := do
  modify fun s =>
    { s with processorCount := answers.processors }
  numaInitialize answers
  openRandom answers.openRandom

/- `close`, which does nothing for -1. -/
def closeRandom : Comp Fault State Unit := do
  let s ← get
  match s.randomFd with
  | none => pure ()
  | some fd =>
      match s.descriptors.release fd with
      | none => throw .doubleClose
      | some descriptors =>
          set { s with descriptors := descriptors }

/- `CXPLAT_FREE`, which does nothing for a null pointer. -/
def freeMasks : Comp Fault State Unit := do
  let s ← get
  match s.numaNodeMasks with
  | none => pure ()
  | some masks =>
      match s.arrays.release masks with
      | none => throw .doubleFree
      | some arrays => set { s with arrays := arrays }

/- `CxPlatUninitialize`. -/
def cxPlatUninitialize : Comp Fault State Unit := do
  closeRandom
  freeMasks

end PosixLibrary

end CxPlat

------------------------------------------------------------
-- Runs
------------------------------------------------------------

namespace CxPlat

namespace PosixLibrary

open PosixThread (Status statusSuccess failed)

inductive Op where
  | init (answers : Answers)
  | uninit

/-
  The library, whether the last call has left it initialised,
  and the fault that it has run into.
-/
structure Library where
  state : State
  initialized : Bool
  fault : Option Fault

/- What is left of a call that has stopped with a fault. -/
def stopped
    (lib : Library) : Fault → Option Library
  | .abort => none
  | fault => some { lib with fault := some fault }

/-
  One call.  There is none after a fault, and a call that
  aborts the process does not return.
-/
def step
    (lib : Library)
    (op : Op) : Option Library :=
  if lib.fault.isSome then
    none
  else
    match op with
    | .init answers =>
        match Comp.exec (cxPlatInitialize answers)
          lib.state with
        | .ok (status, s) =>
            some { lib with
              state := s
              initialized := !failed status }
        | .error fault => stopped lib fault
    | .uninit =>
        match Comp.exec cxPlatUninitialize lib.state with
        | .ok (_, s) =>
            some { lib with state := s, initialized := false }
        | .error fault => stopped lib fault

def load : Library where
  state :=
    { processorCount := 0
      numaNodeCount := 0
      numaNodeMasks := none
      nodeMasks := fun _ => none
      randomFd := none
      arrays := Ledger.empty
      descriptors := Ledger.empty }
  initialized := false
  fault := none

/-
  The library is initialised when it is not, and
  uninitialised when it is.
-/
def Serialised
    (lib : Library) : Op → Prop
  | .init _ => lib.initialized = false
  | .uninit => lib.initialized = true

instance
    (lib : Library)
    (op : Op) :
    Decidable (Serialised lib op) :=
  match op with
  | .init _ => inferInstanceAs (Decidable (_ = _))
  | .uninit => inferInstanceAs (Decidable (_ = _))

/-
  Nothing has been freed or closed that was not held, each
  array and each descriptor is held or has been released
  once, and none is held but by an initialised library, which
  has at most those that it can find again.
-/
structure Balanced
    (lib : Library) : Prop where
  fault : lib.fault = none
  arrays : lib.state.arrays.Sound
  descriptors : lib.state.descriptors.Sound
  noArrays :
    lib.initialized = false → lib.state.arrays.held = []
  noDescriptors :
    lib.initialized = false →
      lib.state.descriptors.held = []
  heldArrays :
    lib.initialized = true →
      lib.state.arrays.held = [] ∨
        ∃ masks,
          lib.state.numaNodeMasks = some masks ∧
            lib.state.arrays.held = [masks]
  heldDescriptors :
    lib.initialized = true →
      lib.state.descriptors.held =
        lib.state.randomFd.toList

/- If the call returns, it leaves the library balanced. -/
def LeavesBalanced
    (lib : Library)
    (op : Op) : Prop :=
  ∀ lib', step lib op = some lib' → Balanced lib'

/- Every node is found. -/
def NodesFound
    (answers : Answers) : Prop :=
  ∀ n < answers.configuredNodes.toNat,
    (answers.nodeToCpus n).isSome = true

instance
    (answers : Answers) :
    Decidable (NodesFound answers) :=
  inferInstanceAs (Decidable (∀ n < _, _))

/- NUMA is available, and the masks are set up. -/
def Allocates
    (answers : Answers) : Prop :=
  0 ≤ answers.numaAvailable ∧
    answers.alloc = true ∧ NodesFound answers

instance
    (answers : Answers) :
    Decidable (Allocates answers) :=
  inferInstanceAs (Decidable (_ ∧ _))

/- The status that the answer of `open` leads to. -/
def OpenAnswer.status : OpenAnswer → Status
  | .opened => statusSuccess
  | .failed errno => errno

/- NUMA is available, but the masks cannot be set up. -/
def Op.Aborts : Op → Prop
  | .init answers =>
      0 ≤ answers.numaAvailable ∧ ¬ Allocates answers
  | .uninit => False

instance
    (op : Op) :
    Decidable op.Aborts :=
  match op with
  | .init _ => inferInstanceAs (Decidable (_ ∧ _))
  | .uninit => inferInstanceAs (Decidable False)

/-
  Which initialisation has set up masks: none so far, the
  last one, or only an earlier one.
-/
inductive Masks where
  | never
  | last
  | earlier
deriving DecidableEq, Repr

def Masks.next : Masks → Op → Masks
  | masks, .init answers =>
      if 0 ≤ answers.numaAvailable then .last
      else if masks = .never then .never
      else .earlier
  | masks, .uninit => masks

/- The calls as far as the process gets. -/
def Masks.step
    (masks : Masks)
    (op : Op) : Option Masks :=
  if op.Aborts then none else some (masks.next op)

/-
  An initialisation that sets up masks opens the random
  device as well, and one without NUMA that comes after it is
  not uninitialised.
-/
def Spares
    (masks : Masks) : Op → Prop
  | .init answers =>
      Allocates answers →
        failed answers.openRandom.status = false
  | .uninit => masks ≠ .earlier

instance
    (masks : Masks)
    (op : Op) :
    Decidable (Spares masks op) :=
  match op with
  | .init _ => inferInstanceAs (Decidable (_ → _))
  | .uninit => inferInstanceAs (Decidable (_ ≠ _))

end PosixLibrary

end CxPlat

------------------------------------------------------------
-- What a Call Does
------------------------------------------------------------

namespace CxPlat

namespace PosixLibrary

open Comp
open PosixThread (Status statusSuccess failed)

variable {s : State} {lib : Library} {answers : Answers}

/- All masks are set, or the process is aborted. -/
theorem exec_fillMasks
    (nodeToCpus : Nat → Option CpuSet)
    (nodes : List Nat)
    (s : State) :
    exec (fillMasks nodeToCpus nodes) s =
      if ∀ n ∈ nodes, (nodeToCpus n).isSome = true then
        .ok ((),
          { s with
            nodeMasks := fun n =>
              if n ∈ nodes then nodeToCpus n
              else s.nodeMasks n })
      else
        .error .abort := by
  induction nodes generalizing s with
  | nil => simp [fillMasks]
  | cons n nodes ih =>
      unfold fillMasks
      simp only [exec_bind, exec_modify, List.forall_mem_cons]
      cases hCpus : nodeToCpus n with
      | none => simp
      | some cpus =>
          simp only [exec_bind, exec_modify, ih,
            Option.isSome_some, true_and]
          congr 4
          funext m
          by_cases hMem : m ∈ nodes
          · simp [hMem]
          · by_cases hSame : m = n
            · subst hSame
              simp [hMem, hCpus]
            · simp [hMem, hSame, Function.update_of_ne]

/- The state with the masks of all nodes in place. -/
def State.withMasks
    (s : State)
    (answers : Answers) : State :=
  { s with
    numaNodeCount := answers.configuredNodes
    numaNodeMasks := some s.arrays.next
    nodeMasks := fun n =>
      if n ∈ List.range answers.configuredNodes.toNat then
        answers.nodeToCpus n
      else none
    arrays := s.arrays.acquire }

theorem exec_numaInitialize_allocates
    (hAllocates : Allocates answers)
    (s : State) :
    exec (numaInitialize answers) s =
      .ok ((), s.withMasks answers) := by
  obtain ⟨hAvailable, hAlloc, hNodes⟩ := hAllocates
  have hAll :
      ∀ n ∈ List.range answers.configuredNodes.toNat,
        (answers.nodeToCpus n).isSome = true := by
    intro n hMem
    exact hNodes n (List.mem_range.mp hMem)
  unfold numaInitialize allocMasks
  simp only [hAvailable, if_true, exec_bind, exec_modify,
    exec_get, hAlloc, reduceCtorEq, if_false,
    exec_fillMasks, if_pos hAll]
  rfl

theorem exec_numaInitialize_abort
    (hAvailable : 0 ≤ answers.numaAvailable)
    (hNot : ¬ Allocates answers)
    (s : State) :
    exec (numaInitialize answers) s = .error .abort := by
  unfold numaInitialize allocMasks
  simp only [hAvailable, if_true, exec_bind, exec_modify,
    exec_get]
  cases hAlloc : answers.alloc with
  | false => simp [exec_bind]
  | true =>
      have hSome :
          ¬ ∀ n ∈ List.range answers.configuredNodes.toNat,
            (answers.nodeToCpus n).isSome = true := by
        intro hAll
        apply hNot
        refine ⟨hAvailable, hAlloc, ?_⟩
        intro n hLt
        exact hAll n (List.mem_range.mpr hLt)
      simp only [if_true, reduceCtorEq, if_false,
        exec_fillMasks, if_neg hSome]

theorem exec_numaInitialize_unavailable
    (hUnavailable : ¬ 0 ≤ answers.numaAvailable)
    (s : State) :
    exec (numaInitialize answers) s =
      .ok ((), { s with numaNodeCount := 0 }) := by
  unfold numaInitialize
  simp only [hUnavailable, if_false, exec_modify]

/- The state after `open`. -/
def State.withRandom
    (s : State) : OpenAnswer → State
  | .opened =>
      { s with
        randomFd := some s.descriptors.next
        descriptors := s.descriptors.acquire }
  | .failed _ => { s with randomFd := none }

theorem exec_openRandom
    (answer : OpenAnswer)
    (s : State) :
    exec (openRandom answer) s =
      .ok (answer.status, s.withRandom answer) := by
  cases answer with
  | opened => rfl
  | failed errno => rfl

/- The state after what comes before `open`. -/
def State.withNodes
    (s : State)
    (answers : Answers) : State :=
  if 0 ≤ answers.numaAvailable then
    { s with processorCount := answers.processors }.withMasks
      answers
  else
    { s with
      processorCount := answers.processors
      numaNodeCount := 0 }

/-
  Initialising aborts if NUMA is available and the masks
  cannot be set up.
-/
theorem exec_cxPlatInitialize
    (answers : Answers)
    (s : State) :
    exec (cxPlatInitialize answers) s =
      if 0 ≤ answers.numaAvailable ∧ ¬ Allocates answers then
        .error .abort
      else
        .ok (answers.openRandom.status,
          (s.withNodes answers).withRandom
            answers.openRandom) := by
  unfold cxPlatInitialize State.withNodes
  simp only [exec_bind, exec_modify]
  by_cases hAvailable : 0 ≤ answers.numaAvailable
  · by_cases hAllocates : Allocates answers
    · simp only [exec_numaInitialize_allocates hAllocates,
        exec_openRandom, hAvailable, hAllocates, not_true,
        and_false, if_true, if_false]
    · simp only [hAvailable, hAllocates, not_false_eq_true,
        exec_numaInitialize_abort hAvailable hAllocates,
        and_true, if_true]
  · simp only [hAvailable, false_and, if_false,
      exec_numaInitialize_unavailable hAvailable,
      exec_openRandom]

theorem step_init
    (hFault : lib.fault = none)
    (answers : Answers) :
    step lib (.init answers) =
      if 0 ≤ answers.numaAvailable ∧ ¬ Allocates answers then
        none
      else
        some
          { lib with
            state :=
              (lib.state.withNodes answers).withRandom
                answers.openRandom
            initialized :=
              !failed answers.openRandom.status } := by
  unfold step
  rw [hFault]
  simp only [Option.isSome_none, Bool.false_eq_true, if_false,
    exec_cxPlatInitialize]
  by_cases hAbort :
      0 ≤ answers.numaAvailable ∧ ¬ Allocates answers
  · simp only [if_pos hAbort, stopped]
  · simp only [if_neg hAbort]

/- Closing the descriptor of an initialised library. -/
theorem returns_closeRandom
    (hSound : s.descriptors.Sound)
    (hHeld : s.descriptors.held = s.randomFd.toList) :
    Returns closeRandom s
      (fun _ t =>
        t.descriptors.Sound ∧ t.descriptors.held = [] ∧
          t.arrays = s.arrays ∧
          t.numaNodeMasks = s.numaNodeMasks) := by
  unfold closeRandom
  simp only [returns_bind, returns_get]
  cases hFd : s.randomFd with
  | none =>
      rw [hFd] at hHeld
      simp only [returns_pure, and_true]
      exact ⟨hSound, hHeld⟩
  | some fd =>
      rw [hFd] at hHeld
      have hMem : fd ∈ s.descriptors.held := by
        simp [hHeld]
      have hRelease := Ledger.release_held hMem
      simp only [hRelease, returns_set, and_true]
      refine ⟨hSound.release hRelease, ?_⟩
      simp [hHeld]

/- Freeing the masks, if they are null or allocated. -/
theorem returns_freeMasks
    (hSound : s.arrays.Sound)
    (hHeld :
      s.arrays.held = [] ∨
        ∃ masks,
          s.numaNodeMasks = some masks ∧
            s.arrays.held = [masks])
    (hThere :
      ∀ masks ∈ s.numaNodeMasks, masks ∈ s.arrays.held) :
    Returns freeMasks s
      (fun _ t =>
        t.arrays.Sound ∧ t.arrays.held = [] ∧
          t.descriptors = s.descriptors ∧
          t.numaNodeMasks = s.numaNodeMasks) := by
  unfold freeMasks
  simp only [returns_bind, returns_get]
  cases hMasks : s.numaNodeMasks with
  | none =>
      have hNone : s.arrays.held = [] := by
        rcases hHeld with hNone | ⟨masks, hSome, _⟩
        · exact hNone
        · rw [hMasks] at hSome
          contradiction
      simp only [returns_pure]
      exact ⟨hSound, hNone, trivial, hMasks⟩
  | some masks =>
      have hMem := hThere masks hMasks
      have hOne : s.arrays.held = [masks] := by
        rcases hHeld with hNone | ⟨other, hSome, hOne⟩
        · rw [hNone] at hMem
          contradiction
        · rw [hMasks, Option.some.injEq] at hSome
          rw [hOne, hSome]
      have hRelease := Ledger.release_held hMem
      simp only [hRelease, returns_set, and_true]
      refine ⟨hSound.release hRelease, ?_⟩
      simp [hOne]

theorem exec_freeMasks_stale
    {masks : Nat}
    (hMasks : s.numaNodeMasks = some masks)
    (hStale : masks ∉ s.arrays.held) :
    exec freeMasks s = .error .doubleFree := by
  have hRelease : s.arrays.release masks = none := by
    unfold Ledger.release
    rw [if_neg hStale]
  unfold freeMasks
  simp only [exec_bind, exec_get, hMasks, hRelease,
    exec_throw]

end PosixLibrary

end CxPlat

------------------------------------------------------------
-- Balanced Runs
------------------------------------------------------------

namespace CxPlat

namespace PosixLibrary

open Comp
open PosixThread (Status statusSuccess failed)

variable {lib : Library} {answers : Answers}

theorem balanced_load :
    Balanced load := by
  constructor
  · rfl
  · exact Ledger.sound_empty
  · exact Ledger.sound_empty
  · intro _
    rfl
  · intro _
    rfl
  · intro hLoaded
    contradiction
  · intro hLoaded
    contradiction

/- `open` leaves a descriptor that can be found again. -/
theorem withRandom_descriptors
    {s : State}
    (hSound : s.descriptors.Sound)
    (hNone : s.descriptors.held = [])
    (answer : OpenAnswer) :
    (s.withRandom answer).descriptors.Sound ∧
      (s.withRandom answer).descriptors.held =
        (s.withRandom answer).randomFd.toList ∧
      (failed answer.status = true →
        (s.withRandom answer).descriptors.held = []) := by
  cases answer with
  | opened =>
      refine ⟨hSound.acquire, ?_, ?_⟩
      · simp [State.withRandom, Ledger.acquire, hNone]
      · intro hFailed
        contradiction
  | failed errno =>
      exact ⟨hSound, hNone, fun _ => hNone⟩

/- And so does setting up the masks. -/
theorem withNodes_arrays
    {s : State}
    (hSound : s.arrays.Sound)
    (hNone : s.arrays.held = [])
    (answers : Answers) :
    (s.withNodes answers).arrays.Sound ∧
      ((s.withNodes answers).arrays.held = [] ∨
        ∃ masks,
          (s.withNodes answers).numaNodeMasks = some masks ∧
            (s.withNodes answers).arrays.held = [masks]) := by
  unfold State.withNodes
  split
  next =>
    refine ⟨hSound.acquire, Or.inr ⟨s.arrays.next, rfl, ?_⟩⟩
    simp [State.withMasks, Ledger.acquire, hNone]
  next => exact ⟨hSound, Or.inl hNone⟩

theorem withNodes_descriptors
    (s : State)
    (answers : Answers) :
    (s.withNodes answers).descriptors = s.descriptors := by
  unfold State.withNodes State.withMasks
  split
  · rfl
  · rfl

theorem withRandom_arrays
    (s : State)
    (answer : OpenAnswer) :
    (s.withRandom answer).arrays = s.arrays ∧
      (s.withRandom answer).numaNodeMasks =
        s.numaNodeMasks := by
  cases answer with
  | opened => exact ⟨rfl, rfl⟩
  | failed errno => exact ⟨rfl, rfl⟩

/-
  What a failed call leaves is balanced if it has allocated
  nothing.
-/
theorem balanced_initialised_iff
    (hBalanced : Balanced lib)
    (hNew : lib.initialized = false)
    (answers : Answers) :
    Balanced
        { lib with
          state :=
            (lib.state.withNodes answers).withRandom
              answers.openRandom
          initialized :=
            !failed answers.openRandom.status } ↔
      (failed answers.openRandom.status = true →
        (lib.state.withNodes answers).arrays.held = []) := by
  have hSame := withRandom_arrays
    (lib.state.withNodes answers) answers.openRandom
  have hKept := withNodes_descriptors lib.state answers
  have hArrays := withNodes_arrays hBalanced.arrays
    (hBalanced.noArrays hNew) answers
  have hDescriptors := withRandom_descriptors
    (hKept ▸ hBalanced.descriptors)
    (hKept ▸ hBalanced.noDescriptors hNew) answers.openRandom
  constructor
  · intro hAfter hFailed
    rw [← hSame.1]
    apply hAfter.noArrays
    simp [hFailed]
  · intro hNothing
    constructor
    · exact hBalanced.fault
    · exact hSame.1 ▸ hArrays.1
    · exact hDescriptors.1
    · intro hStatus
      rw [hSame.1]
      apply hNothing
      simpa using hStatus
    · intro hStatus
      apply hDescriptors.2.2
      simpa using hStatus
    · intro _
      rw [hSame.1, hSame.2]
      exact hArrays.2
    · intro _
      exact hDescriptors.2.1

/-
  Initialising: when masks have been allocated, the library
  has to be left initialised.
-/
theorem balanced_init_iff
    (hBalanced : Balanced lib)
    (hNew : lib.initialized = false)
    (answers : Answers) :
    LeavesBalanced lib (.init answers) ↔
      (Allocates answers →
        failed answers.openRandom.status = false) := by
  unfold LeavesBalanced
  rw [step_init hBalanced.fault]
  by_cases hAvailable : 0 ≤ answers.numaAvailable
  · by_cases hAllocates : Allocates answers
    · have hHeld :
          (lib.state.withNodes answers).arrays.held ≠ [] := by
        simp [State.withNodes, hAvailable, State.withMasks,
          Ledger.acquire]
      simp [hAllocates, hHeld,
        balanced_initialised_iff hBalanced hNew]
    · simp [hAvailable, hAllocates]
  · have hHeld :
        (lib.state.withNodes answers).arrays.held = [] := by
      simp [State.withNodes, hAvailable,
        hBalanced.noArrays hNew]
    simp [hAvailable, Allocates, hHeld,
      balanced_initialised_iff hBalanced hNew]

/- Uninitialising with masks that are allocated, or none. -/
theorem step_uninit
    (hBalanced : Balanced lib)
    (hLoaded : lib.initialized = true)
    (hThere :
      ∀ masks ∈ lib.state.numaNodeMasks,
        masks ∈ lib.state.arrays.held) :
    ∃ lib', step lib .uninit = some lib' ∧ Balanced lib' ∧
      lib'.initialized = false ∧
      lib'.state.numaNodeMasks = lib.state.numaNodeMasks := by
  obtain ⟨_, t, hClose, hSound, hNone, hArrays, hMasks⟩ :=
    returns_closeRandom hBalanced.descriptors
      (hBalanced.heldDescriptors hLoaded)
  have hHeld := hBalanced.heldArrays hLoaded
  rw [← hArrays, ← hMasks] at hHeld hThere
  obtain ⟨_, u, hFree, hSound', hNone', hSame, hMasks'⟩ :=
    returns_freeMasks (hArrays ▸ hBalanced.arrays) hHeld
      hThere
  refine ⟨{ lib with state := u, initialized := false },
    ?_, ?_, rfl, hMasks'.trans hMasks⟩
  · simp only [step, hBalanced.fault, Option.isSome_none,
      Bool.false_eq_true, if_false, cxPlatUninitialize,
      exec_bind, hClose, hFree]
  · constructor
    · exact hBalanced.fault
    · exact hSound'
    · exact hSame ▸ hSound
    · intro _
      exact hNone'
    · intro _
      rw [hSame, hNone]
    · intro hInitialized
      contradiction
    · intro hInitialized
      contradiction

/- Uninitialising: the masks must not have been freed. -/
theorem balanced_uninit_iff
    (hBalanced : Balanced lib)
    (hLoaded : lib.initialized = true) :
    LeavesBalanced lib .uninit ↔
      ∀ masks ∈ lib.state.numaNodeMasks,
        masks ∈ lib.state.arrays.held := by
  constructor
  · intro hLeaves masks hSome
    by_contra hStale
    obtain ⟨_, t, hClose, _, _, hArrays, hMasks⟩ :=
      returns_closeRandom hBalanced.descriptors
        (hBalanced.heldDescriptors hLoaded)
    rw [← hMasks] at hSome
    rw [← hArrays] at hStale
    have hStep :
        step lib .uninit =
          some { lib with fault := some .doubleFree } := by
      simp only [step, hBalanced.fault, Option.isSome_none,
        Bool.false_eq_true, if_false, cxPlatUninitialize,
        exec_bind, hClose, exec_freeMasks_stale hSome hStale,
        stopped]
    cases (hLeaves _ hStep).fault
  · intro hThere lib' hStep
    obtain ⟨_, hReturns, hAfter, _⟩ :=
      step_uninit hBalanced hLoaded hThere
    rw [hReturns] at hStep
    cases hStep
    exact hAfter

/-
  The pointer to the masks is null, or that of masks which
  are there while the library is initialised, or that of
  masks which have been freed.
-/
def Tracks
    (lib : Library) : Masks → Prop
  | .never => lib.state.numaNodeMasks = none
  | .last =>
      ∃ masks,
        lib.state.numaNodeMasks = some masks ∧
          (lib.initialized = true →
            masks ∈ lib.state.arrays.held)
  | .earlier =>
      ∃ masks,
        lib.state.numaNodeMasks = some masks ∧
          masks ∉ lib.state.arrays.held

theorem tracks_load :
    Tracks load .never := rfl

theorem Masks.step_of_aborts
    (masks : Masks)
    {op : Op}
    (hAborts : op.Aborts) :
    masks.step op = none :=
  if_pos hAborts

theorem Masks.step_of_returns
    (masks : Masks)
    {op : Op}
    (hReturns : ¬ op.Aborts) :
    masks.step op = some (masks.next op) :=
  if_neg hReturns

theorem leavesBalanced_iff
    {masks : Masks}
    {op : Op}
    (hBalanced : Balanced lib)
    (hTracks : Tracks lib masks)
    (hSerialised : Serialised lib op) :
    LeavesBalanced lib op ↔ Spares masks op := by
  cases op with
  | init answers =>
      exact balanced_init_iff hBalanced hSerialised answers
  | uninit =>
      rw [balanced_uninit_iff hBalanced hSerialised]
      cases masks with
      | never =>
          have hNull : lib.state.numaNodeMasks = none :=
            hTracks
          simp [Spares, hNull]
      | last =>
          rcases hTracks with ⟨masks, hSome, hHeld⟩
          simp [Spares, hSome, hHeld hSerialised]
      | earlier =>
          rcases hTracks with ⟨masks, hSome, hFreed⟩
          simp [Spares, hSome, hFreed]

/- Initialising without NUMA leaves the pointer alone. -/
theorem tracks_unavailable
    {masks : Masks}
    (hBalanced : Balanced lib)
    (hTracks : Tracks lib masks)
    (hNew : lib.initialized = false)
    (hUnavailable : ¬ 0 ≤ answers.numaAvailable)
    {lib' : Library}
    (hPointer :
      lib'.state.numaNodeMasks = lib.state.numaNodeMasks)
    (hArrays : lib'.state.arrays = lib.state.arrays) :
    Tracks lib' (masks.next (.init answers)) := by
  have hNone := hBalanced.noArrays hNew
  cases masks with
  | never =>
      simp only [Masks.next, if_neg hUnavailable, if_true]
      exact hPointer.trans hTracks
  | last =>
      rcases hTracks with ⟨masks, hSome, _⟩
      simp only [Masks.next, if_neg hUnavailable,
        reduceCtorEq, if_false]
      refine ⟨masks, hPointer.trans hSome, ?_⟩
      simp [hArrays, hNone]
  | earlier =>
      rcases hTracks with ⟨masks, hSome, _⟩
      simp only [Masks.next, if_neg hUnavailable,
        reduceCtorEq, if_false]
      refine ⟨masks, hPointer.trans hSome, ?_⟩
      simp [hArrays, hNone]

theorem tracks_init
    {masks : Masks}
    (hBalanced : Balanced lib)
    (hTracks : Tracks lib masks)
    (hNew : lib.initialized = false)
    (answers : Answers) :
    Tracks
      { lib with
        state :=
          (lib.state.withNodes answers).withRandom
            answers.openRandom
        initialized := !failed answers.openRandom.status }
      (masks.next (.init answers)) := by
  have hSame := withRandom_arrays
    (lib.state.withNodes answers) answers.openRandom
  by_cases hAvailable : 0 ≤ answers.numaAvailable
  · simp only [Masks.next, if_pos hAvailable]
    refine ⟨lib.state.arrays.next, ?_, ?_⟩
    · rw [hSame.2]
      simp [State.withNodes, hAvailable, State.withMasks]
    · intro _
      rw [hSame.1]
      simp [State.withNodes, hAvailable, State.withMasks,
        Ledger.acquire]
  · apply tracks_unavailable hBalanced hTracks hNew hAvailable
    · rw [hSame.2]
      simp [State.withNodes, hAvailable]
    · rw [hSame.1]
      simp [State.withNodes, hAvailable]

/- The masks and the library go on, or stop, together. -/
theorem tracks_step
    {masks : Masks}
    {op : Op}
    (hBalanced : Balanced lib)
    (hTracks : Tracks lib masks)
    (hSerialised : Serialised lib op)
    (hLeaves : LeavesBalanced lib op) :
    Option.Rel (fun lib' masks' => Balanced lib' ∧
        Tracks lib' masks')
      (step lib op) (masks.step op) := by
  cases op with
  | init answers =>
      unfold LeavesBalanced at hLeaves
      rw [step_init hBalanced.fault] at hLeaves ⊢
      by_cases hAborts :
          0 ≤ answers.numaAvailable ∧ ¬ Allocates answers
      · rw [if_pos hAborts,
          Masks.step_of_aborts masks
            (show (Op.init answers).Aborts from hAborts)]
        exact .none
      · rw [if_neg hAborts] at hLeaves ⊢
        rw [Masks.step_of_returns masks
          (show ¬ (Op.init answers).Aborts from hAborts)]
        exact .some ⟨hLeaves _ rfl,
          tracks_init hBalanced hTracks hSerialised answers⟩
  | uninit =>
      rw [balanced_uninit_iff hBalanced hSerialised]
        at hLeaves
      obtain ⟨lib', hStep, hAfter, hGone, hPointer⟩ :=
        step_uninit hBalanced hSerialised hLeaves
      rw [hStep,
        Masks.step_of_returns masks
          (show ¬ Op.uninit.Aborts from id)]
      refine .some ⟨hAfter, ?_⟩
      cases masks with
      | never => exact hPointer.trans hTracks
      | last =>
          rcases hTracks with ⟨masks, hSome, _⟩
          refine ⟨masks, hPointer.trans hSome, ?_⟩
          simp [hGone]
      | earlier =>
          rcases hTracks with ⟨masks, hSome, _⟩
          refine ⟨masks, hPointer.trans hSome, ?_⟩
          simp [hAfter.noArrays hGone]

/- What every call keeps balanced is balanced at the end. -/
theorem balanced_run
    {ops : List Op}
    (hLeaves : Transition.Meets step LeavesBalanced load ops)
    (hRun : Transition.run step load ops = some lib) :
    Balanced lib := by
  refine Transition.invariant_meets ?_ balanced_load hLeaves
    hRun
  intro lib op lib' _ hOp hStep
  exact hOp lib' hStep

/-
  In a serialised run every call leaves the library balanced
  exactly if the answers of the system spare it.  Once the
  library is uninitialised, each array has then been freed
  once, and each descriptor closed once.
-/
theorem library_balanced_iff
    (ops : List Op)
    (hSerialised :
      Transition.Meets step Serialised load ops) :
    (Transition.Meets step LeavesBalanced load ops ↔
      Transition.Meets Masks.step Spares .never ops) ∧
    (Transition.Meets Masks.step Spares .never ops →
      ∀ lib,
        Transition.run step load ops = some lib →
        lib.initialized = false →
          (∀ array < lib.state.arrays.next,
            lib.state.arrays.released.count array = 1) ∧
          (∀ fd < lib.state.descriptors.next,
            lib.state.descriptors.released.count fd = 1)) := by
  have hIff :
      Transition.Meets step LeavesBalanced load ops ↔
        Transition.Meets Masks.step Spares .never ops := by
    apply Transition.meets_iff_of_related
      (fun lib masks => Balanced lib ∧ Tracks lib masks)
      _ _ ⟨balanced_load, tracks_load⟩ hSerialised
    · rintro lib masks op ⟨hBalanced, hTracks⟩ hOp
      exact leavesBalanced_iff hBalanced hTracks hOp
    · rintro lib masks op ⟨hBalanced, hTracks⟩ hOp hLeaves
      exact tracks_step hBalanced hTracks hOp hLeaves
  refine ⟨hIff, ?_⟩
  intro hSpares lib hRun hEnd
  have hBalanced := balanced_run (hIff.mpr hSpares) hRun
  constructor
  · intro array hGiven
    exact hBalanced.arrays.released_once
      (hBalanced.noArrays hEnd) hGiven
  · intro fd hGiven
    exact hBalanced.descriptors.released_once
      (hBalanced.noDescriptors hEnd) hGiven

/- Two nodes, each with two processors. -/
def twoNodes : Answers where
  processors := 4
  numaAvailable := 0
  configuredNodes := 2
  alloc := true
  nodeToCpus n := some [2 * n, 2 * n + 1]
  openRandom := .opened

/- The library comes and goes, without NUMA at first. -/
def comesAndGoes : List Op :=
  [.init
      { twoNodes with
        numaAvailable := -1
        openRandom := .failed 24 },
    .init { twoNodes with numaAvailable := -1 }, .uninit,
    .init twoNodes, .uninit]

theorem library_balanced_comesAndGoes :
    Transition.Meets step Serialised load comesAndGoes ∧
      Transition.Meets step LeavesBalanced load
        comesAndGoes := by
  have hSerialised :
      Transition.Meets step Serialised load comesAndGoes := by
    decide
  refine ⟨hSerialised, ?_⟩
  apply (library_balanced_iff _ hSerialised).1.mpr
  decide

/-
  No descriptor is left for the random device: the masks stay
  allocated.  And masks are freed again if NUMA has become
  unavailable since.
-/
theorem masks_lost_and_freed_twice :
    (∃ lib,
      Transition.run step load
          [.init { twoNodes with openRandom := .failed 24 }] =
          some lib ∧
        lib.initialized = false ∧
        lib.state.arrays.held = [0] ∧ ¬ Balanced lib) ∧
    (∃ lib,
      Transition.run step load
          [.init twoNodes, .uninit,
            .init { twoNodes with numaAvailable := -1 },
            .uninit] = some lib ∧
        lib.fault = some .doubleFree ∧ ¬ Balanced lib) := by
  constructor
  · refine ⟨_, rfl, rfl, rfl, ?_⟩
    intro hBalanced
    cases hBalanced.noArrays rfl
  · refine ⟨_, rfl, rfl, ?_⟩
    intro hBalanced
    cases hBalanced.fault

end PosixLibrary

end CxPlat
