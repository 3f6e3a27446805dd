import CxPlat.Lib.Comp
import CxPlat.ThreadConfig

/-
  `CxPlatThreadCreate` on Linux, from `cxplat_posix.c`.

  The functions of the pthread library return their error
  code and need not set `errno`, but it is `errno` that the
  failure paths return.  The build variants and everything
  the called functions may answer are parameters.

  Key definitions include:
    * `Build`, `Answers`, `State`
    * `threadCreate`
    * `Truthful`
    * `ErrnoTells`

  Key theorems include:
    * `returns_create_started`
    * `truthful_create_iff`
    * `threadCreate_truthful_iff`
-/

------------------------------------------------------------
-- Threads and Answers
------------------------------------------------------------

namespace CxPlat

namespace PosixThread

/- `CXPLAT_STATUS` is an `unsigned int`, as wide as `errno`. -/
abbrev Status := BitVec 32

def statusSuccess : Status := 0

def statusOutOfMemory : Status := 12

/- `CXPLAT_FAILED`. -/
def failed
    (status : Status) : Bool :=
  0 < status.toInt

/- Pthread functions return zero or an error code. -/
def isError
    (code : BitVec 32) : Bool :=
  code != 0

/- What the source is compiled with. -/
structure Build where
  useCustomThreadContext : Bool
  glibc : Bool
  android : Bool
  numaAware : Bool
deriving DecidableEq, Repr

/-
  What the called functions answer, and the values of `errno`
  that the failure paths read.
-/
structure Answers where
  attrInit : BitVec 32
  attrInitErrno : BitVec 32
  attrSetAffinity : BitVec 32
  attrSetSchedParam : BitVec 32
  alloc : Bool
  create : BitVec 32
  createAgain : BitVec 32
  createErrno : BitVec 32
  setAffinity : BitVec 32
  numaNodeCount : Nat
  numaNodeOfCpu : BitVec 16 → Int

/- A processor, or those of a NUMA node. -/
inductive Cpus where
  | processor (number : BitVec 16)
  | numaNode (node : Int)
deriving DecidableEq, Repr

/- `pthread_attr_t`, as far as it is set. -/
structure Attr where
  affinity : Option Cpus
  highPriority : Bool
deriving DecidableEq, Repr

/- `CXPLAT_THREAD_CUSTOM_CONTEXT`, uninitialised at first. -/
structure CustomContext where
  callback : Option Nat
  context : Option Nat
deriving DecidableEq, Repr

/- The start routine of a thread and its argument. -/
inductive Start where
  | callback (function argument : Nat)
  | customStart
deriving DecidableEq, Repr

structure Created where
  start : Start
  attr : Option Attr
  affinity : Option Cpus
deriving DecidableEq, Repr

/-
  The attributes object while it is initialised, the threads
  that the call has created, which of them `*Thread` holds,
  and the custom context while it is allocated.
-/
structure State where
  attr : Option Attr
  threads : List Created
  thread : Option Nat
  customContext : Option CustomContext
deriving DecidableEq, Repr

inductive Fault where
  | nullContext
  | noThread
deriving DecidableEq, Repr

def begin : State where
  attr := none
  threads := []
  thread := none
  customContext := none

/- The function and argument a thread ends up calling. -/
def State.runs
    (s : State) : Start → Option (Nat × Nat)
  | .callback function argument => some (function, argument)
  | .customStart =>
      match s.customContext with
      | some { callback := some f, context := some c } =>
          some (f, c)
      | _ => none

end PosixThread

end CxPlat

------------------------------------------------------------
-- Creating a Thread
------------------------------------------------------------

namespace CxPlat

namespace PosixThread

/-
  The attributes before creation.  Setters that fail only
  leave a trace.
-/
def setAttributes
    (build : Build)
    (answers : Answers)
    (config : ThreadConfig) : Comp Fault State Unit := do
  if build.glibc && config.has threadFlagSetAffinitize &&
      !isError answers.attrSetAffinity then
    modify (fun s => { s with
      attr := s.attr.map (fun a => { a with
        affinity := some (.processor config.idealProcessor) })})
  if config.has threadFlagHighPriority &&
      !isError answers.attrSetSchedParam then
    modify (fun s => { s with
      attr := s.attr.map (fun a => { a with
        highPriority := true })})

/-
  `pthread_create` that answers `code`.  It leaves `*Thread`
  undefined if it fails.
-/
def pthreadCreate
    (code : BitVec 32)
    (attr : Option Attr)
    (start : Start) : Comp Fault State Unit :=
  modify (fun s =>
    if isError code then
      { s with thread := none }
    else
      { s with
        threads := s.threads ++
          [{ start := start, attr := attr, affinity := none }]
        thread := some s.threads.length })

/- `CustomContext->Callback = Config->Callback` and so on. -/
def storeContext
    (config : ThreadConfig) : Comp Fault State Unit := do
  let s ← get
  match s.customContext with
  | some _ =>
      set { s with
        customContext := some
          { callback := some config.callback
            context := some config.context } }
  | none => throw .nullContext

/- The branch for `CXPLAT_USE_CUSTOM_THREAD_CONTEXT`. -/
def createCustom
    (answers : Answers)
    (config : ThreadConfig) : Comp Fault State Status := do
  if answers.alloc then
    modify (fun s => { s with
      customContext := some
        { callback := none, context := none } })
  let status :=
    if answers.alloc then statusSuccess else statusOutOfMemory
  -- The source goes on although the allocation failed.
  storeContext config
  let s ← get
  pthreadCreate answers.create s.attr .customStart
  if isError answers.create then
    modify (fun s => { s with customContext := none })
    return answers.createErrno
  else
    return status

/- The other branch, with its second attempt. -/
def createDirect
    (answers : Answers)
    (config : ThreadConfig) : Comp Fault State Status := do
  let s ← get
  let start : Start :=
    .callback config.callback config.context
  pthreadCreate answers.create s.attr start
  if isError answers.create then
    pthreadCreate answers.createAgain none start
    if isError answers.createAgain then
      return answers.createErrno
    else
      return statusSuccess
  else
    return statusSuccess

def create
    (build : Build)
    (answers : Answers)
    (config : ThreadConfig) : Comp Fault State Status :=
  if build.useCustomThreadContext then
    createCustom answers config
  else
    createDirect answers config

/- `pthread_setaffinity_np`, which reads `*Thread`. -/
def pthreadSetAffinity
    (code : BitVec 32)
    (cpus : Cpus) : Comp Fault State Unit := do
  let s ← get
  match s.thread with
  | some th =>
      if !isError code then
        set { s with
          threads := s.threads.modify th (fun t =>
            { t with affinity := some cpus }) }
  | none => throw .noThread

def affinitize
    (build : Build)
    (answers : Answers)
    (config : ThreadConfig) : Comp Fault State Unit :=
  if config.has threadFlagSetAffinitize then
    pthreadSetAffinity answers.setAffinity
      (.processor config.idealProcessor)
  else if build.numaAware && answers.numaNodeCount ≠ 0 then
    pthreadSetAffinity answers.setAffinity
      (.numaNode (answers.numaNodeOfCpu config.idealProcessor))
  else
    pure ()

/- From the creation to the end. -/
def finish
    (build : Build)
    (answers : Answers)
    (config : ThreadConfig)
    (status : Status) : Comp Fault State Status := do
  if !build.android && status = statusSuccess then
    affinitize build answers config
  modify (fun s => { s with attr := none })
  return status

/- `CxPlatThreadCreate`. -/
def threadCreate
    (build : Build)
    (answers : Answers)
    (config : ThreadConfig) : Comp Fault State Status := do
  if isError answers.attrInit then
    return answers.attrInitErrno
  else
    modify (fun s => { s with
      attr := some { affinity := none, highPriority := false } })
    setAttributes build answers config
    let status ← create build answers config
    finish build answers config status

end PosixThread

end CxPlat

------------------------------------------------------------
-- The Truth About the Thread
------------------------------------------------------------

namespace CxPlat

namespace PosixThread

/- One thread runs the callback, and `*Thread` is that one. -/
def Started
    (config : ThreadConfig)
    (s : State) : Prop :=
  ∃ t, s.threads = [t] ∧ s.thread = some 0 ∧
    s.runs t.start = some (config.callback, config.context)

/- No thread, and no custom context. -/
def Nothing
    (s : State) : Prop :=
  s.threads = [] ∧ s.thread = none ∧ s.customContext = none

/- The status tells whether there is a thread. -/
structure Truthful
    (config : ThreadConfig)
    (status : Status)
    (s : State) : Prop where
  success : status = statusSuccess ↔ Started config s
  failure :
    status ≠ statusSuccess →
      failed status = true ∧
        s.threads = [] ∧ s.customContext = none

/- The thread cannot be created, with or without attributes. -/
def CreateFails
    (build : Build)
    (answers : Answers) : Prop :=
  isError answers.create = true ∧
    (build.useCustomThreadContext = false →
      isError answers.createAgain = true)

instance
    (build : Build)
    (answers : Answers) :
    Decidable (CreateFails build answers) :=
  inferInstanceAs (Decidable (_ ∧ _))

/-
  Where the status is taken from `errno`, that is a positive
  number, and a custom context can be allocated.
-/
def ErrnoTells
    (build : Build)
    (answers : Answers) : Prop :=
  if isError answers.attrInit then
    failed answers.attrInitErrno = true
  else
    (build.useCustomThreadContext = true →
      answers.alloc = true) ∧
    (CreateFails build answers →
      failed answers.createErrno = true)

end PosixThread

end CxPlat

------------------------------------------------------------
-- Step by Step
------------------------------------------------------------

namespace CxPlat

namespace PosixThread

open Comp

variable {build : Build} {answers : Answers}
variable {config : ThreadConfig} {s t : State}
variable {status : Status}

theorem not_started_of_nothing
    (hNothing : Nothing s) :
    ¬ Started config s := by
  rintro ⟨t, hThreads, _⟩
  rw [hNothing.1] at hThreads
  contradiction

/- Only the attributes change before the creation. -/
theorem exec_setAttributes
    (build : Build)
    (answers : Answers)
    (config : ThreadConfig)
    (s : State) :
    ∃ attr,
      exec (setAttributes build answers config) s =
        .ok ((), { s with attr := attr }) := by
  unfold setAttributes
  split
  · split
    · exact ⟨_, rfl⟩
    · exact ⟨_, rfl⟩
  · split
    · exact ⟨_, rfl⟩
    · exact ⟨s.attr, rfl⟩

/- A failed allocation is not noticed in time. -/
theorem exec_create_null
    (hNothing : Nothing s)
    (hCustom : build.useCustomThreadContext = true)
    (hAlloc : answers.alloc = false) :
    exec (create build answers config) s =
      .error .nullContext := by
  have hNull : s.customContext = none := hNothing.2.2
  simp [create, hCustom, createCustom, hAlloc, storeContext,
    exec_bind, hNull]

theorem returns_create_started
    (hNothing : Nothing s)
    (hAlloc :
      build.useCustomThreadContext = true →
        answers.alloc = true)
    (hCreate : ¬ CreateFails build answers) :
    Returns (create build answers config) s
      (fun status t =>
        status = statusSuccess ∧ Started config t) := by
  rcases hNothing with ⟨hThreads, _, _⟩
  cases hCustom : build.useCustomThreadContext with
  | true =>
      have hFirst : isError answers.create = false := by
        by_contra hFirst
        apply hCreate
        simpa [CreateFails, hCustom] using hFirst
      simp [create, hCustom, createCustom, hAlloc hCustom,
        storeContext, pthreadCreate, hFirst, hThreads,
        Started, State.runs]
  | false =>
      cases hFirst : isError answers.create with
      | false =>
          simp [create, hCustom, createDirect, pthreadCreate,
            hFirst, hThreads, Started, State.runs]
      | true =>
          have hAgain :
              isError answers.createAgain = false := by
            by_contra hAgain
            apply hCreate
            simpa [CreateFails, hCustom, hFirst] using hAgain
          simp [create, hCustom, createDirect, pthreadCreate,
            hFirst, hAgain, hThreads, Started, State.runs]

/- What was allocated for the thread is freed again. -/
theorem returns_create_nothing
    (hNothing : Nothing s)
    (hAlloc :
      build.useCustomThreadContext = true →
        answers.alloc = true)
    (hCreate : CreateFails build answers) :
    Returns (create build answers config) s
      (fun status t =>
        status = answers.createErrno ∧ Nothing t) := by
  rcases hNothing with ⟨hThreads, hThread, hContext⟩
  rcases hCreate with ⟨hFirst, hSecond⟩
  cases hCustom : build.useCustomThreadContext with
  | true =>
      simp [create, hCustom, createCustom, hAlloc hCustom,
        storeContext, pthreadCreate, hFirst, hThreads,
        Nothing]
  | false =>
      have hAgain := hSecond hCustom
      simp [create, hCustom, createDirect, pthreadCreate,
        hFirst, hAgain, hThreads, hContext, Nothing]

/- Setting the affinity does not change what the thread is. -/
theorem returns_pthreadSetAffinity
    (hStarted : Started config s)
    (code : BitVec 32)
    (cpus : Cpus) :
    Returns (pthreadSetAffinity code cpus) s
      (fun _ t => Started config t) := by
  rcases hStarted with ⟨th, hThreads, hThread, hRuns⟩
  cases hCode : isError code with
  | false =>
      simp only [pthreadSetAffinity, hCode, hThread, hThreads,
        returns_bind, returns_get, returns_set,
        Bool.not_false, if_true]
      exact ⟨{ th with affinity := some cpus }, rfl, rfl,
        hRuns⟩
  | true =>
      simp only [pthreadSetAffinity, hCode, hThread,
        returns_bind, returns_get, returns_pure,
        Bool.not_true, Bool.false_eq_true, if_false]
      exact ⟨th, hThreads, hThread, hRuns⟩

theorem returns_affinitize
    (hStarted : Started config s) :
    Returns (affinitize build answers config) s
      (fun _ t => Started config t) := by
  unfold affinitize
  split
  · exact returns_pthreadSetAffinity hStarted _ _
  · split
    · exact returns_pthreadSetAffinity hStarted _ _
    · rw [returns_pure]
      exact hStarted

theorem returns_finish_started
    (hStarted : Started config s)
    (status : Status) :
    Returns (finish build answers config status) s
      (fun status' t =>
        status' = status ∧ Started config t) := by
  unfold finish
  split
  · apply (returns_affinitize hStarted).bind
    intro _ t hLater
    simp only [returns_bind, returns_modify, returns_pure]
    exact ⟨trivial, hLater⟩
  · simp only [returns_bind, returns_modify, returns_pure]
    exact ⟨trivial, hStarted⟩

/- Without a thread, reading `*Thread` is a fault. -/
theorem affinitize_nothing
    (hNothing : Nothing s) :
    exec (affinitize build answers config) s =
        .error .noThread ∨
      exec (affinitize build answers config) s =
        .ok ((), s) := by
  have hThread : s.thread = none := hNothing.2.1
  unfold affinitize
  split
  · left
    simp [pthreadSetAffinity, exec_bind, hThread]
  · split
    · left
      simp [pthreadSetAffinity, exec_bind, hThread]
    · right
      rfl

/- A run that goes on without a thread still has none. -/
theorem finish_nothing
    (hNothing : Nothing s)
    {status' : Status}
    (hFinish :
      exec (finish build answers config status) s =
        .ok (status', t)) :
    status' = status ∧ Nothing t := by
  unfold finish at hFinish
  split at hFinish
  · rw [exec_bind] at hFinish
    rcases affinitize_nothing hNothing with hFault | hSame
    · rw [hFault] at hFinish
      contradiction
    · rw [hSame] at hFinish
      cases hFinish
      exact ⟨rfl, hNothing⟩
  · cases hFinish
    exact ⟨rfl, hNothing⟩

theorem failed_ne_success
    (hFailed : failed status = true) :
    status ≠ statusSuccess := by
  intro hStatus
  subst hStatus
  contradiction

/- Without a thread, the truth is a failure status. -/
theorem truthful_nothing_iff
    (hNothing : Nothing s) :
    Truthful config status s ↔ failed status = true := by
  have hNot : ¬ Started config s :=
    not_started_of_nothing hNothing
  constructor
  · intro hTruthful
    apply (hTruthful.failure _).1
    intro hSuccess
    exact hNot (hTruthful.success.mp hSuccess)
  · intro hFailed
    constructor
    · constructor
      · intro hSuccess
        exact absurd hSuccess (failed_ne_success hFailed)
      · intro hStarted
        exact absurd hStarted hNot
    · intro _
      exact ⟨hFailed, hNothing.1, hNothing.2.2⟩

theorem truthful_finish_iff
    (hNothing : Nothing s) :
    Returns (finish build answers config status) s
        (Truthful config) ↔
      failed status = true := by
  constructor
  · rintro ⟨status', t, hFinish, hTruthful⟩
    rcases finish_nothing hNothing hFinish with ⟨rfl, hLater⟩
    exact (truthful_nothing_iff hLater).mp hTruthful
  · intro hFailed
    have hStatus := failed_ne_success hFailed
    simp only [finish, hStatus, decide_false, Bool.and_false,
      Bool.false_eq_true, if_false, returns_bind,
      returns_modify, returns_pure]
    apply (truthful_nothing_iff _).mpr hFailed
    exact hNothing

/- A success with its thread is the truth. -/
theorem truthful_started
    (hStarted : Started config s) :
    Truthful config statusSuccess s := by
  constructor
  · exact ⟨fun _ => hStarted, fun _ => rfl⟩
  · intro hStatus
    exact absurd rfl hStatus

/- From the creation on. -/
theorem truthful_create_iff
    (hNothing : Nothing s) :
    Returns
        (create build answers config >>=
          finish build answers config)
        s (Truthful config) ↔
      (build.useCustomThreadContext = true →
        answers.alloc = true) ∧
      (CreateFails build answers →
        failed answers.createErrno = true) := by
  by_cases hAlloc :
      build.useCustomThreadContext = true →
        answers.alloc = true
  · by_cases hFails : CreateFails build answers
    · rcases returns_create_nothing hNothing hAlloc hFails
        with ⟨status, t, hCreate, rfl, hLater⟩
      rw [returns_bind]
      constructor
      · intro hReturns
        refine ⟨hAlloc, fun _ => ?_⟩
        exact (truthful_finish_iff hLater).mp
          (hReturns.post hCreate)
      · intro hTells
        apply returns_of_exec hCreate
        exact (truthful_finish_iff hLater).mpr
          (hTells.2 hFails)
    · constructor
      · intro _
        exact ⟨hAlloc, fun hLater => absurd hLater hFails⟩
      · intro _
        apply (returns_create_started hNothing hAlloc
          hFails).bind
        rintro status t ⟨rfl, hStarted⟩
        apply (returns_finish_started hStarted _).mono
        rintro status' t' ⟨rfl, hLater⟩
        exact truthful_started hLater
  · constructor
    · intro hReturns
      simp only [Classical.not_imp, Bool.not_eq_true] at hAlloc
      rw [returns_bind] at hReturns
      rcases hReturns with ⟨status, t, hCreate, _⟩
      rw [exec_create_null hNothing hAlloc.1 hAlloc.2]
        at hCreate
      contradiction
    · intro hTells
      exact absurd hTells.1 hAlloc

end PosixThread

end CxPlat

------------------------------------------------------------
-- What Comes of a Call
------------------------------------------------------------

namespace CxPlat

namespace PosixThread

open Comp

variable {build : Build} {answers : Answers}
variable {config : ThreadConfig} {s t : State}
variable {status : Status}

/- A custom context that is needed can be allocated. -/
def ContextFits
    (build : Build)
    (answers : Answers) : Prop :=
  isError answers.attrInit = false →
    build.useCustomThreadContext = true →
      answers.alloc = true

/- No thread comes of the call. -/
def CreatesNone
    (build : Build)
    (answers : Answers) : Prop :=
  isError answers.attrInit = true ∨ CreateFails build answers

instance
    (build : Build)
    (answers : Answers) :
    Decidable (CreatesNone build answers) :=
  inferInstanceAs (Decidable (_ ∨ _))

theorem CreatesNone.fails
    (hNone : CreatesNone build answers)
    (hInit : isError answers.attrInit = false) :
    CreateFails build answers := by
  rcases hNone with hError | hFails
  · rw [hInit] at hError
    contradiction
  · exact hFails

/- The value of `errno` that is then returned. -/
def reportedErrno
    (answers : Answers) : Status :=
  if isError answers.attrInit then
    answers.attrInitErrno
  else
    answers.createErrno

/- Only the attributes are set before the creation. -/
theorem returns_threadCreate_iff
    (build : Build)
    (config : ThreadConfig)
    (hInit : isError answers.attrInit = false)
    (Q : Status → State → Prop) :
    ∃ s, Nothing s ∧
      (Returns (threadCreate build answers config) begin Q ↔
        Returns
          (create build answers config >>=
            finish build answers config) s Q) := by
  rcases exec_setAttributes build answers config
      { begin with
        attr :=
          some { affinity := none, highPriority := false } }
    with ⟨attr, hSet⟩
  refine ⟨{ begin with attr := attr }, ?_, ?_⟩
  · exact ⟨rfl, rfl, rfl⟩
  · simp only [threadCreate, hInit, Bool.false_eq_true,
      if_false, returns_bind, returns_modify]
    constructor
    · intro hReturns
      exact hReturns.post hSet
    · intro hReturns
      exact returns_of_exec hSet hReturns

theorem returns_threadCreate_started
    (hFits : ContextFits build answers)
    (hCreates : ¬ CreatesNone build answers) :
    Returns (threadCreate build answers config) begin
      (fun status t =>
        status = statusSuccess ∧ Started config t) := by
  simp only [CreatesNone, not_or, Bool.not_eq_true]
    at hCreates
  rcases hCreates with ⟨hInit, hCreate⟩
  rcases returns_threadCreate_iff build config hInit _ with
    ⟨s, hNothing, hIff⟩
  apply hIff.mpr
  apply (returns_create_started hNothing (hFits hInit)
    hCreate).bind
  rintro status t ⟨rfl, hStarted⟩
  exact returns_finish_started hStarted statusSuccess

/- Without a thread, `errno` is what is returned, if at all. -/
theorem threadCreate_nothing
    (hNone : CreatesNone build answers)
    (hExec :
      exec (threadCreate build answers config) begin =
        .ok (status, t)) :
    status = reportedErrno answers ∧ Nothing t := by
  cases hInit : isError answers.attrInit with
  | true =>
      simp only [threadCreate, hInit, if_true] at hExec
      cases hExec
      simp only [reportedErrno, hInit, if_true]
      exact ⟨trivial, rfl, rfl, rfl⟩
  | false =>
      have hFails := hNone.fails hInit
      rcases returns_threadCreate_iff build config hInit
          (fun status' t' => status' = status ∧ t' = t) with
        ⟨s, hNothing, hIff⟩
      have hRest :=
        hIff.mp (returns_of_exec hExec ⟨rfl, rfl⟩)
      rw [returns_bind] at hRest
      by_cases hAlloc :
          build.useCustomThreadContext = true →
            answers.alloc = true
      · rcases returns_create_nothing hNothing hAlloc hFails
          with ⟨_, u, hCreate, rfl, hLater⟩
        rcases hRest.post hCreate with
          ⟨_, _, hFinish, rfl, rfl⟩
        simp only [reportedErrno, hInit, Bool.false_eq_true,
          if_false]
        exact finish_nothing hLater hFinish
      · simp only [Classical.not_imp, Bool.not_eq_true]
          at hAlloc
        rcases hRest with ⟨_, _, hCreate, _⟩
        rw [exec_create_null hNothing hAlloc.1 hAlloc.2]
          at hCreate
        contradiction

/- An `errno` that is not zero is returned. -/
theorem returns_threadCreate_nothing
    (hFits : ContextFits build answers)
    (hNone : CreatesNone build answers)
    (hErrno : reportedErrno answers ≠ statusSuccess) :
    Returns (threadCreate build answers config) begin
      (fun status t =>
        status = reportedErrno answers ∧ Nothing t) := by
  cases hInit : isError answers.attrInit with
  | true =>
      simp only [threadCreate, reportedErrno, hInit, if_true,
        returns_pure]
      exact ⟨trivial, rfl, rfl, rfl⟩
  | false =>
      have hFails := hNone.fails hInit
      simp only [reportedErrno, hInit, Bool.false_eq_true,
        if_false] at hErrno ⊢
      rcases returns_threadCreate_iff build config hInit _
        with ⟨s, hNothing, hIff⟩
      apply hIff.mpr
      apply (returns_create_nothing hNothing (hFits hInit)
        hFails).bind
      rintro status t ⟨rfl, hLater⟩
      simp only [finish, hErrno, decide_false,
        Bool.and_false, Bool.false_eq_true, if_false,
        returns_bind, returns_modify, returns_pure]
      exact ⟨trivial, hLater⟩

/- A context that does not fit is written to. -/
theorem not_returns_threadCreate_null
    (hFits : ¬ ContextFits build answers)
    (Q : Status → State → Prop) :
    ¬ Returns (threadCreate build answers config) begin
      Q := by
  simp only [ContextFits, Classical.not_imp,
    Bool.not_eq_true] at hFits
  rcases hFits with ⟨hInit, hCustom, hAlloc⟩
  rcases returns_threadCreate_iff build config hInit Q with
    ⟨s, hNothing, hIff⟩
  rw [hIff, returns_bind]
  rintro ⟨_, _, hCreate, _⟩
  rw [exec_create_null hNothing hCustom hAlloc] at hCreate
  contradiction

end PosixThread

end CxPlat

------------------------------------------------------------
-- When the Status Tells the Truth
------------------------------------------------------------

namespace CxPlat

namespace PosixThread

open Comp

variable {build : Build} {answers : Answers}
variable {config : ThreadConfig}

/-
  The call comes back without a fault and with a true status
  exactly if `errno` is positive wherever it is returned, and
  the custom context can be allocated.
-/
theorem threadCreate_truthful_iff :
    Returns (threadCreate build answers config) begin
        (Truthful config) ↔
      ErrnoTells build answers := by
  unfold ErrnoTells
  cases hInit : isError answers.attrInit with
  | true =>
      simp only [threadCreate, hInit, if_true, returns_pure]
      apply truthful_nothing_iff
      exact ⟨rfl, rfl, rfl⟩
  | false =>
      rcases returns_threadCreate_iff build config hInit
          (Truthful config) with ⟨s, hNothing, hIff⟩
      rw [hIff, truthful_create_iff hNothing]
      simp only [Bool.false_eq_true, if_false]

/-
  Both attempts are refused with EAGAIN and `errno` is zero:
  success is reported without a thread.  And a custom context
  that cannot be allocated is written to.
-/
def refused : Answers where
  attrInit := 0
  attrInitErrno := 0
  attrSetAffinity := 0
  attrSetSchedParam := 0
  alloc := false
  create := 11
  createAgain := 11
  createErrno := 0
  setAffinity := 0
  numaNodeCount := 0
  numaNodeOfCpu := fun _ => 0

def plainBuild : Build where
  useCustomThreadContext := false
  glibc := true
  android := false
  numaAware := false

def plainConfig : ThreadConfig where
  flags := 0
  idealProcessor := 0
  name := none
  callback := 1000
  context := 2000

theorem refused_reported_as_success :
    exec (threadCreate plainBuild refused plainConfig) begin =
        .ok (statusSuccess, begin) ∧
      ¬ Returns (threadCreate plainBuild refused plainConfig)
        begin (Truthful plainConfig) ∧
      exec
          (threadCreate
            { plainBuild with useCustomThreadContext := true }
            refused plainConfig) begin =
        .error .nullContext ∧
      exec
          (threadCreate plainBuild refused
            { plainConfig with
              flags := threadFlagSetAffinitize }) begin =
        .error .noThread := by
  refine ⟨rfl, ?_, rfl, rfl⟩
  intro hReturns
  have hTruthful := hReturns.post rfl
  have hNothing : Nothing begin := ⟨rfl, rfl, rfl⟩
  exact not_started_of_nothing hNothing
    (hTruthful.success.mp rfl)

end PosixThread

end CxPlat
