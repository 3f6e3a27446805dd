import CxPlat.Lib.Comp
import CxPlat.ThreadConfig

/-
  `CxPlatThreadCreate` in the Windows kernel, from
  `cxplat_winkernel.h`, without the debug assertions.

  `PsCreateSystemThread` starts the thread at once.  The
  calls that follow set it up, and some of their failures
  are returned to the caller, who then cannot tell that the
  thread runs.

  Key definitions include:
    * `Answers`, `State`
    * `threadCreate`
    * `AllOrNothing`
    * `Manageable`

  Key theorems include:
    * `returns_setProcessors`
    * `returns_configure`
    * `threadCreate_allOrNothing_iff`
-/

------------------------------------------------------------
-- Thread Objects
------------------------------------------------------------

namespace CxPlat

namespace KernelThread

/- `NTSTATUS`. -/
abbrev Status := BitVec 32

def statusSuccess : Status := 0

/- `CXPLAT_FAILED`, the negation of `NT_SUCCESS`. -/
def failed
    (status : Status) : Bool :=
  status.toInt < 0

/- What the called functions answer. -/
structure Answers where
  createSystemThread : Status
  referenceObject : Status
  processorNumber : Status
  setGroup : Status
  queryNumaNode : Status
  setNumaNode : Status
  setIdealProcessor : Status
  utf8ToUnicode : Status
  setName : Status
deriving DecidableEq, Repr

inductive Handle where
  | unopened
  | opened
  | closed
deriving DecidableEq, Repr

/- `*Thread`. -/
inductive Pointer where
  | undefined
  | null
  | object
deriving DecidableEq, Repr

/-
  What has been set on the thread.  A name may have been
  converted only in part.
-/
inductive Setting where
  | group
  | numaNode
  | idealProcessor
  | highPriority
  | name (converted : Bool)
deriving DecidableEq, Repr

/-
  The callbacks and contexts of the threads that have been
  started, the handle, `*Thread` and the references taken
  on the thread object.
-/
structure State where
  started : List (Nat × Nat)
  handle : Handle
  thread : Pointer
  references : Nat
  settings : List Setting
deriving DecidableEq, Repr

inductive Fault where
  | badHandle
  | nullThread
deriving DecidableEq, Repr

def begin : State where
  started := []
  handle := .unopened
  thread := .undefined
  references := 0
  settings := []

end KernelThread

end CxPlat

------------------------------------------------------------
-- Creating a Thread
------------------------------------------------------------

namespace CxPlat

namespace KernelThread

/- `*Thread = NULL`. -/
def clearThread : Comp Fault State Unit :=
  modify (fun s => { s with thread := .null })

/- `ZwSetInformationThread` that answers `status`. -/
def setInformationThread
    (status : Status)
    (setting : Setting) : Comp Fault State Status := do
  let s ← get
  if s.handle = .opened then
    if !failed status then
      set { s with settings := s.settings ++ [setting] }
    return status
  else
    throw .badHandle

/- `KeSetBasePriorityThread`, which reads `*Thread`. -/
def setBasePriorityThread : Comp Fault State Unit := do
  let s ← get
  if s.thread = .object then
    set { s with
      settings := s.settings ++ [Setting.highPriority] }
  else
    throw .nullThread

/- `ZwClose`. -/
def closeHandle : Comp Fault State Unit := do
  let s ← get
  if s.handle = .opened then
    set { s with handle := .closed }
  else
    throw .badHandle

/- The affinity, to the processor or to its NUMA node. -/
def setAffinity
    (answers : Answers)
    (config : ThreadConfig) : Comp Fault State Status :=
  if config.has threadFlagSetAffinitize then
    setInformationThread answers.setGroup .group
  else if failed answers.queryNumaNode then
    return answers.queryNumaNode
  else
    setInformationThread answers.setNumaNode .numaNode

/- The affinity and the ideal processor. -/
def setProcessors
    (answers : Answers)
    (config : ThreadConfig) : Comp Fault State Status := do
  let status ← setAffinity answers config
  if failed status then
    return status
  else if config.has threadFlagSetIdealProc then
    setInformationThread answers.setIdealProcessor
      .idealProcessor
  else
    return status

/- The name, if there is one. -/
def setName
    (answers : Answers)
    (config : ThreadConfig)
    (status : Status) : Comp Fault State Status := do
  if config.name.isSome then
    -- The source does not look at either of the answers.
    let _ ← setInformationThread answers.setName
      (.name (!failed answers.utf8ToUnicode))
    return statusSuccess
  else
    return status

/- From the label `SetPriority` on. -/
def setPriority
    (answers : Answers)
    (config : ThreadConfig)
    (status : Status) : Comp Fault State Status := do
  if config.has threadFlagHighPriority then
    setBasePriorityThread
  setName answers config status

/- The referenced thread is set up. -/
def setUp
    (answers : Answers)
    (config : ThreadConfig) : Comp Fault State Status := do
  if failed answers.processorNumber then
    -- The source does not treat this as fatal.
    setPriority answers config statusSuccess
  else
    let status ← setProcessors answers config
    if failed status then
      return status
    else
      setPriority answers config status

/- Between the creation and the label `Cleanup`. -/
def configure
    (answers : Answers)
    (config : ThreadConfig) : Comp Fault State Status := do
  if failed answers.referenceObject then
    clearThread
    return answers.referenceObject
  else
    modify (fun s => { s with
      thread := .object
      references := s.references + 1 })
    setUp answers config

/- `CxPlatThreadCreate`. -/
def threadCreate
    (answers : Answers)
    (config : ThreadConfig) : Comp Fault State Status := do
  if failed answers.createSystemThread then
    clearThread
    return answers.createSystemThread
  else
    modify (fun s => { s with
      started := s.started ++
        [(config.callback, config.context)]
      handle := .opened })
    let status ← configure answers config
    closeHandle
    return status

end KernelThread

end CxPlat

------------------------------------------------------------
-- All or Nothing
------------------------------------------------------------

namespace CxPlat

namespace KernelThread

/-
  On success there is one thread and one reference to it, and
  on failure there is neither.
-/
structure AllOrNothing
    (config : ThreadConfig)
    (status : Status)
    (s : State) : Prop where
  success :
    failed status = false →
      s.started = [(config.callback, config.context)] ∧
        s.thread = .object ∧ s.references = 1
  failure :
    failed status = true →
      s.started = [] ∧ s.thread = .null ∧ s.references = 0

/- The calls that set up the processors all succeed. -/
def ProcessorsSet
    (answers : Answers)
    (config : ThreadConfig) : Prop :=
  (if config.has threadFlagSetAffinitize then
    failed answers.setGroup = false
  else
    failed answers.queryNumaNode = false ∧
      failed answers.setNumaNode = false) ∧
  (config.has threadFlagSetIdealProc = true →
    failed answers.setIdealProcessor = false)

/-
  The thread is not even created, or it is referenced and no
  call that sets it up fails in a way that is reported.
-/
def Manageable
    (answers : Answers)
    (config : ThreadConfig) : Prop :=
  failed answers.createSystemThread = true ∨
    failed answers.referenceObject = false ∧
      (failed answers.processorNumber = true ∨
        ProcessorsSet answers config)

end KernelThread

end CxPlat

------------------------------------------------------------
-- Step by Step
------------------------------------------------------------

namespace CxPlat

namespace KernelThread

open Comp

variable {answers : Answers} {config : ThreadConfig}
variable {s t : State} {status : Status}

/- Only the settings of the thread differ. -/
def SameBut
    (s t : State) : Prop :=
  t = { s with settings := t.settings }

theorem SameBut.refl
    (s : State) :
    SameBut s s := rfl

theorem SameBut.trans
    {u : State}
    (hFirst : SameBut s t)
    (hSecond : SameBut t u) :
    SameBut s u := by
  unfold SameBut at hFirst hSecond ⊢
  rw [hSecond, hFirst]

theorem SameBut.handle
    (hSame : SameBut s t) :
    t.handle = s.handle := by
  rw [hSame]

theorem SameBut.thread
    (hSame : SameBut s t) :
    t.thread = s.thread := by
  rw [hSame]

theorem returns_setInformationThread
    (hHandle : s.handle = .opened)
    (status : Status)
    (setting : Setting) :
    Returns (setInformationThread status setting) s
      (fun status' t => status' = status ∧ SameBut s t) := by
  cases hFailed : failed status with
  | true =>
      simp [setInformationThread, hHandle, hFailed,
        SameBut.refl]
  | false =>
      simp [setInformationThread, hHandle, hFailed, SameBut]

theorem returns_setAffinity
    (hHandle : s.handle = .opened) :
    Returns (setAffinity answers config) s
      (fun status t =>
        (failed status = false ↔
          if config.has threadFlagSetAffinitize then
            failed answers.setGroup = false
          else
            failed answers.queryNumaNode = false ∧
              failed answers.setNumaNode = false) ∧
        SameBut s t) := by
  unfold setAffinity
  split
  · apply (returns_setInformationThread hHandle _ _).mono
    rintro status t ⟨rfl, hSame⟩
    exact ⟨Iff.rfl, hSame⟩
  · split
    next hQuery =>
      rw [returns_pure]
      simp [hQuery, SameBut]
    next hQuery =>
      apply (returns_setInformationThread hHandle _ _).mono
      rintro status t ⟨rfl, hSame⟩
      simpa [hQuery] using hSame

theorem returns_setProcessors
    (hHandle : s.handle = .opened) :
    Returns (setProcessors answers config) s
      (fun status t =>
        (failed status = false ↔
          ProcessorsSet answers config) ∧
        SameBut s t) := by
  unfold setProcessors
  apply (returns_setAffinity hHandle).bind
  rintro status t ⟨hStatus, hSame⟩
  unfold ProcessorsSet
  rw [← hStatus]
  split
  next hFailed =>
    rw [returns_pure]
    simp [hFailed, hSame]
  next hFailed =>
    have hLater : t.handle = .opened :=
      hSame.handle.trans hHandle
    split
    next hIdeal =>
      apply (returns_setInformationThread hLater _ _).mono
      rintro status' u ⟨rfl, hNext⟩
      simpa [hFailed, hIdeal] using hSame.trans hNext
    next hIdeal =>
      rw [returns_pure]
      simpa [hFailed, hIdeal] using hSame

/- Neither the name nor the priority fails the call. -/
theorem returns_setName
    (hHandle : s.handle = .opened)
    (hStatus : failed status = false) :
    Returns (setName answers config status) s
      (fun status' t =>
        failed status' = false ∧ SameBut s t) := by
  unfold setName
  split
  · apply (returns_setInformationThread hHandle _ _).bind
    rintro _ t ⟨_, hSame⟩
    rw [returns_pure]
    exact ⟨rfl, hSame⟩
  · rw [returns_pure]
    exact ⟨hStatus, SameBut.refl s⟩

theorem returns_setBasePriorityThread
    (hThread : s.thread = .object) :
    Returns setBasePriorityThread s
      (fun _ t => SameBut s t) := by
  unfold setBasePriorityThread
  rw [returns_bind, returns_get, if_pos hThread, returns_set]
  rfl

theorem returns_setPriority
    (hHandle : s.handle = .opened)
    (hThread : s.thread = .object)
    (hStatus : failed status = false) :
    Returns (setPriority answers config status) s
      (fun status' t =>
        failed status' = false ∧ SameBut s t) := by
  unfold setPriority
  split
  · apply (returns_setBasePriorityThread hThread).bind
    intro _ t hSame
    have hLater := hSame.handle.trans hHandle
    apply (returns_setName hLater hStatus).mono
    rintro status' u ⟨hSuccess, hNext⟩
    exact ⟨hSuccess, hSame.trans hNext⟩
  · exact returns_setName hHandle hStatus

theorem returns_setUp
    (hHandle : s.handle = .opened)
    (hThread : s.thread = .object) :
    Returns (setUp answers config) s
      (fun status t =>
        (failed status = false ↔
          failed answers.processorNumber = true ∨
            ProcessorsSet answers config) ∧
        SameBut s t) := by
  unfold setUp
  split
  next hProcessor =>
    apply (returns_setPriority hHandle hThread rfl).mono
    rintro status t ⟨hStatus, hSame⟩
    exact ⟨by simp [hStatus, hProcessor], hSame⟩
  next hProcessor =>
    apply (returns_setProcessors hHandle).bind
    rintro status t ⟨hStatus, hSame⟩
    split
    next hFailed =>
      rw [returns_pure]
      exact ⟨by simp [← hStatus, hProcessor], hSame⟩
    next hFailed =>
      have hSuccess : failed status = false := by
        simpa using hFailed
      have hHandle' := hSame.handle.trans hHandle
      have hThread' := hSame.thread.trans hThread
      apply (returns_setPriority hHandle' hThread'
        hSuccess).mono
      rintro status' u ⟨hLater, hNext⟩
      refine ⟨?_, hSame.trans hNext⟩
      simp [hLater, hStatus.mp hSuccess]

/-
  Once the object is referenced the reference stays, with
  whatever status.
-/
theorem returns_configure
    (hHandle : s.handle = .opened) :
    Returns (configure answers config) s
      (fun status t =>
        t.started = s.started ∧ t.handle = .opened ∧
        (if failed answers.referenceObject then
          failed status = true
        else
          t.thread = .object ∧
            t.references = s.references + 1 ∧
            (failed status = false ↔
              failed answers.processorNumber = true ∨
                ProcessorsSet answers config))) := by
  unfold configure
  split
  next hReference =>
    simp [clearThread, hReference, hHandle]
  next hReference =>
    rw [returns_bind, returns_modify]
    apply (returns_setUp _ _).mono
    · rintro status t ⟨hStatus, hSame⟩
      rw [hSame]
      exact ⟨rfl, hHandle, rfl, rfl, hStatus⟩
    · exact hHandle
    · rfl

end KernelThread

end CxPlat

------------------------------------------------------------
-- When It Is All or Nothing
------------------------------------------------------------

namespace CxPlat

namespace KernelThread

open Comp

variable {answers : Answers} {config : ThreadConfig}
variable {s t : State} {status : Status}

/- A started thread is only right with a success. -/
theorem allOrNothing_started_iff
    (hStarted :
      s.started = [(config.callback, config.context)])
    (hObject :
      failed status = false →
        s.thread = .object ∧ s.references = 1) :
    AllOrNothing config status s ↔
      failed status = false := by
  constructor
  · intro hAll
    by_contra hFailed
    have hFailure := hAll.failure (by simpa using hFailed)
    rw [hStarted] at hFailure
    cases hFailure.1
  · intro hSuccess
    constructor
    · intro _
      exact ⟨hStarted, hObject hSuccess⟩
    · intro hFailed
      rw [hSuccess] at hFailed
      contradiction

/- What the setting up comes to, for a created thread. -/
theorem manageable_created
    (hCreate : ¬ failed answers.createSystemThread = true)
    (hOutcome :
      if failed answers.referenceObject then
        failed status = true
      else
        t.thread = .object ∧ t.references = 1 ∧
          (failed status = false ↔
            failed answers.processorNumber = true ∨
              ProcessorsSet answers config)) :
    (failed status = false →
      t.thread = .object ∧ t.references = 1) ∧
    (failed status = false ↔ Manageable answers config) := by
  unfold Manageable
  split at hOutcome
  next hReference => simp [hCreate, hReference, hOutcome]
  next hReference =>
    rcases hOutcome with ⟨hThread, hReferences, hStatus⟩
    constructor
    · intro _
      exact ⟨hThread, hReferences⟩
    · simp [hCreate, hReference, hStatus]

/-
  The call always comes back, with the handle closed if it
  was opened.  It is all or nothing exactly if no call after
  the creation of the thread fails in a way that it reports.
-/
theorem threadCreate_allOrNothing_iff :
    Returns (threadCreate answers config) begin
      (fun status s =>
        s.handle =
          (if failed answers.createSystemThread then
            .unopened else .closed) ∧
        (AllOrNothing config status s ↔
          Manageable answers config)) := by
  unfold threadCreate
  split
  next hCreate =>
    rw [returns_bind]
    simp only [clearThread, returns_modify, returns_pure]
    refine ⟨rfl, ?_⟩
    constructor
    · intro _
      exact Or.inl hCreate
    · intro _
      constructor
      · intro hSuccess
        rw [hCreate] at hSuccess
        contradiction
      · intro _
        exact ⟨rfl, rfl, rfl⟩
  next hCreate =>
    rw [returns_bind, returns_modify]
    apply (returns_configure rfl).bind
    rintro status t ⟨hStarted, hHandle, hOutcome⟩
    simp only [closeHandle, returns_bind, returns_get,
      hHandle, if_true, returns_set, returns_pure]
    refine ⟨trivial, ?_⟩
    rcases manageable_created hCreate hOutcome with
      ⟨hObject, hStatus⟩
    apply Iff.trans _ hStatus
    apply allOrNothing_started_iff
    · exact hStarted
    · exact hObject

/- The thread runs, but its group cannot be set. -/
def groupRefused : Answers where
  createSystemThread := 0
  referenceObject := 0
  processorNumber := 0
  setGroup := 0xC0000022
  queryNumaNode := 0
  setNumaNode := 0
  setIdealProcessor := 0
  utf8ToUnicode := 0
  setName := 0

def affinitizedConfig : ThreadConfig where
  flags := threadFlagSetAffinitize
  idealProcessor := 0
  name := none
  callback := 1000
  context := 2000

theorem groupRefused_leaves_thread :
    exec (threadCreate groupRefused affinitizedConfig) begin =
        .ok (0xC0000022,
          { started := [(1000, 2000)]
            handle := .closed
            thread := .object
            references := 1
            settings := [] }) ∧
      failed 0xC0000022 = true ∧
      ¬ AllOrNothing affinitizedConfig 0xC0000022
        { started := [(1000, 2000)]
          handle := .closed
          thread := .object
          references := 1
          settings := [] } := by
  refine ⟨rfl, by decide, ?_⟩
  intro hAll
  have hFailure := hAll.failure (by decide)
  cases hFailure.1

end KernelThread

end CxPlat
