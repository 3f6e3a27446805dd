import CxPlat.WinUser.Library
import CxPlat.WinUser.Numbering

/-
  `CxPlatThreadCreate` in user mode on Windows, from
  `cxplat_winuser.h`, in its two builds.

  With custom thread contexts the new thread is handed a
  block with the callback and its context, which it frees.
  Where `CreateThread` fails, the code of the last error is
  returned as it is, although a status is an `HRESULT`.

  Key definitions include:
    * `Build`, `Creation`
    * `threadCreate`
    * `Initialized`
    * `Honest`
    * `Reliable`

  Key theorems include:
    * `returns_cxPlatInitialize_initialized`
    * `returns_startThread`
    * `returns_configure`
    * `threadCreate_honest_iff`
-/

------------------------------------------------------------
-- Threads and Contexts
------------------------------------------------------------

namespace CxPlat

namespace WinUser

/- Without and with `CXPLAT_USE_CUSTOM_THREAD_CONTEXT`. -/
inductive Build where
  | plain
  | customContext
deriving DecidableEq, Repr

/- What the called functions answer. -/
structure ThreadAnswers where
  allocContext : Bool
  createThread : Bool
  lastError : BitVec 32
deriving DecidableEq, Repr

/- `CXPLAT_THREAD_CUSTOM_CONTEXT`, in its block. -/
structure CustomContext where
  block : Block
  callback : Nat
  context : Nat
deriving DecidableEq, Repr

/-
  What a thread runs: the callback on its context, or
  `CxPlatThreadCustomStart` on a custom context.
-/
inductive Start where
  | callback (callback context : Nat)
  | customStart (context : CustomContext)
deriving DecidableEq, Repr

/- `*Thread`, where a handle is the number of a thread. -/
inductive ThreadHandle where
  | undefined
  | null
  | thread (n : Nat)
deriving DecidableEq, Repr

/- What is set on the thread, if the system agrees. -/
inductive Setting where
  | groupAffinity (affinity : GroupAffinity)
  | idealProcessor (index : Nat)
  | highPriority
  | name (name : String)
deriving DecidableEq, Repr

/- The library, the new threads and `*Thread`. -/
structure Creation where
  state : State
  started : List Start
  thread : ThreadHandle
  settings : List Setting
deriving DecidableEq, Repr

/- Before the call; `*Thread` is an output. -/
def enter
    (s : State) : Creation where
  state := s
  started := []
  thread := .undefined
  settings := []

/- `*Thread` is the handle of a thread that exists. -/
def Creation.LiveThread
    (c : Creation) : Prop :=
  ∃ n, c.thread = .thread n ∧ n < c.started.length

end WinUser

end CxPlat

------------------------------------------------------------
-- Creating a Thread
------------------------------------------------------------

namespace CxPlat

namespace WinUser

variable {α : Type}

/- Code that only works on the library. -/
def onLibrary
    (k : Comp Fault State α) : Comp Fault Creation α :=
  Comp.focus (fun c => c.state)
    (fun c s => { c with state := s }) k

/- `*Thread = CreateThread(...)`. -/
def createThread
    (succeeds : Bool)
    (start : Start) : Comp Fault Creation Unit :=
  modify (fun c =>
    if succeeds then
      { c with
        started := c.started ++ [start]
        thread := .thread c.started.length }
    else
      { c with thread := .null })

/-
  The thread is created.  A status is returned to the caller
  at once, and without one the function goes on.
-/
def startThread
    (build : Build)
    (answers : ThreadAnswers)
    (config : ThreadConfig) :
    Comp Fault Creation (Option Status) := do
  match build with
  | .plain =>
      createThread answers.createThread
        (.callback config.callback config.context)
      let c ← get
      if c.thread = .null then
        return some answers.lastError
      else
        return none
  | .customContext =>
      match ← onLibrary (alloc answers.allocContext) with
      | none => return some statusOutOfMemory
      | some block =>
          createThread answers.createThread
            (.customStart
              { block := block
                callback := config.callback
                context := config.context })
          let c ← get
          if c.thread = .null then
            onLibrary (free block)
            return some answers.lastError
          else
            return none

/- A call that sets something, with an answer not looked at. -/
def setOnThread
    (setting : Setting) : Comp Fault Creation Unit :=
  modify (fun c =>
    { c with settings := c.settings ++ [setting] })

/- The thread is set up. -/
def configure
    (config : ThreadConfig) : Comp Fault Creation Unit := do
  let procInfo ← onLibrary
    (readProcessorInfo config.idealProcessor.toNat)
  let affinity ← onLibrary (threadAffinity config procInfo)
  setOnThread (.groupAffinity affinity)
  if config.has threadFlagSetIdealProc then
    setOnThread (.idealProcessor procInfo.index)
  if config.has threadFlagHighPriority then
    setOnThread .highPriority
  match config.name with
  | some name => setOnThread (.name name)
  | none => pure ()

/- `CxPlatThreadCreate`. -/
def threadCreate
    (build : Build)
    (answers : ThreadAnswers)
    (config : ThreadConfig) :
    Comp Fault Creation Status := do
  match ← startThread build answers config with
  | some status => return status
  | none =>
      configure config
      return statusSuccess

end WinUser

end CxPlat

------------------------------------------------------------
-- Honest Results
------------------------------------------------------------

namespace CxPlat

namespace WinUser

/- `CXPLAT_SUCCEEDED`. -/
def succeeded
    (status : Status) : Bool :=
  0 ≤ status.toInt

/-
  A context belongs to the thread that was started on it, and
  without a thread there is none left.
-/
structure ContextOwned
    (s : State)
    (c : Creation) : Prop where
  thread :
    c.LiveThread →
      ∃ context,
        c.started = [.customStart context] ∧
          c.state.live = context.block :: s.live
  creator :
    ¬ c.LiveThread →
      c.started = [] ∧ c.state.live = s.live

/- The status says whether `*Thread` is a thread. -/
structure Honest
    (build : Build)
    (s : State)
    (status : Status)
    (c : Creation) : Prop where
  success : succeeded status = true ↔ c.LiveThread
  failure : failed status = true ↔ ¬ c.LiveThread
  context : build = .customContext → ContextOwned s c

/-
  The custom context is not allocated, or the thread is
  created, for a processor that exists.
-/
def Reliable
    (build : Build)
    (answers : ThreadAnswers)
    (config : ThreadConfig)
    (s : State) : Prop :=
  build = .customContext ∧ answers.allocContext = false ∨
    answers.createThread = true ∧
      config.idealProcessor.toNat < s.processorCount

instance
    (build : Build)
    (answers : ThreadAnswers)
    (config : ThreadConfig)
    (s : State) :
    Decidable (Reliable build answers config s) :=
  inferInstanceAs (Decidable (_ ∨ _))

end WinUser

end CxPlat

------------------------------------------------------------
-- The Initialised Library
------------------------------------------------------------

namespace CxPlat

namespace WinUser

open Comp

variable {s t : State}

/- There are a heap and filled tables. -/
structure Initialized
    (s : State) : Prop where
  heap : ∃ heap, s.heap = some heap
  tables : ∃ groups, Filled groups s

/- The tables are those of the groups that were answered. -/
theorem filled_of_cxPlatInitialize
    {answers : Answers}
    {status : Status}
    (hExec :
      exec (cxPlatInitialize answers) s = .ok (status, t))
    (hSuccess : failed status = false) :
    Filled answers.activeGroups t := by
  unfold cxPlatInitialize at hExec
  rcases exec_bind_ok.mp hExec with ⟨_, u, _, hRest⟩
  rcases exec_bind_ok.mp hRest with ⟨v, w, hGet, hRest⟩
  cases hGet
  split at hRest
  next =>
    cases hRest
    cases hSuccess
  next =>
    rcases exec_bind_ok.mp hRest with
      ⟨built, w, hBuild, hRest⟩
    split at hRest
    next hFailed =>
      rcases exec_bind_ok.mp hRest with ⟨_, w', _, hRest⟩
      cases hRest
      rw [hFailed] at hSuccess
      cases hSuccess
    next hFailed =>
      cases hRest
      exact filled_of_processorInfoInit hBuild
        (by simpa using hFailed)

/- An initialisation that starts from nothing ends in it. -/
theorem returns_cxPlatInitialize_initialized
    {answers : Answers}
    (hEmpty : Empty s)
    (hSound :
      answers.heapCreate = true → QueriesSound answers) :
    Returns (cxPlatInitialize answers) s
      (fun status t =>
        failed status = false → Initialized t) := by
  rcases returns_cxPlatInitialize hEmpty hSound with
    ⟨status, t, hExec, _, hLoaded⟩
  refine returns_of_exec hExec ?_
  intro hSuccess
  rcases (hLoaded hSuccess).heap with ⟨heap, hHeap, _⟩
  exact ⟨⟨heap, hHeap⟩, answers.activeGroups,
    filled_of_cxPlatInitialize hExec hSuccess⟩

end WinUser

end CxPlat

------------------------------------------------------------
-- Step by Step
------------------------------------------------------------

namespace CxPlat

namespace WinUser

open Comp

variable {c : Creation} {groups : List SystemGroup}
variable {answers : ThreadAnswers} {config : ThreadConfig}

/-
  What is left of the call once there is a thread: it reads
  the tables, and only adds settings.
-/
theorem returns_configure
    (hFilled : Filled groups c.state)
    (hProc :
      config.idealProcessor.toNat < c.state.processorCount) :
    Returns (configure config) c
      (fun _ d =>
        d.state = c.state ∧ d.started = c.started ∧
          d.thread = c.thread) := by
  rcases hFilled.numbers.processorInfo _ hProc with
    ⟨info, entry, hInfo, hEntry, _, _⟩
  have hAffinity :
      Returns (threadAffinity config info) c.state
        (fun _ s => s = c.state) := by
    unfold threadAffinity readProcessorGroupInfo
    split
    · rw [returns_pure]
    · rw [returns_bind, returns_readEntry hEntry,
        returns_pure]
  unfold configure onLibrary readProcessorInfo
  rw [returns_bind, returns_focus, returns_readEntry hInfo,
    returns_bind, returns_focus]
  apply hAffinity.mono
  rintro affinity s hSame
  subst hSame
  unfold setOnThread
  cases config.has threadFlagSetIdealProc <;>
    cases config.has threadFlagHighPriority <;>
      cases config.name <;> simp

/- Past the end of the table nothing can be read. -/
theorem not_returns_configure
    (hFilled : Filled groups c.state)
    (hProc :
      c.state.processorCount ≤ config.idealProcessor.toNat)
    (Q : Unit → Creation → Prop) :
    ¬ Returns (configure config) c Q := by
  have hNone :
      entryAt c.state.processorInfo
        config.idealProcessor.toNat = none := by
    rw [hFilled.processorEntry, ← hFilled.count,
      if_neg (by omega)]
  unfold configure onLibrary readProcessorInfo readEntry
  rw [returns_bind, returns_focus, returns_bind, returns_get,
    hNone]
  exact not_returns_throw _ _ _

/- A thread is started. -/
def Starts
    (build : Build)
    (answers : ThreadAnswers) : Prop :=
  (build = .plain ∨ answers.allocContext = true) ∧
    answers.createThread = true

instance
    (build : Build)
    (answers : ThreadAnswers) :
    Decidable (Starts build answers) :=
  inferInstanceAs (Decidable (_ ∧ _))

/- What is returned where none is. -/
def refusal
    (build : Build)
    (answers : ThreadAnswers) : Status :=
  if build = .customContext ∧
      answers.allocContext = false then
    statusOutOfMemory
  else
    answers.lastError

/-
  The thread is started or not, and in either case the
  context has its owner.
-/
structure Started
    (build : Build)
    (answers : ThreadAnswers)
    (s : State)
    (result : Option Status)
    (c : Creation) : Prop where
  tables : SameTables s c.state
  context : build = .customContext → ContextOwned s c
  result :
    result =
      if Starts build answers then none
      else some (refusal build answers)
  live : c.LiveThread ↔ Starts build answers

/- A thread has been created on the context. -/
theorem Started.of_thread
    {build : Build}
    {s : State}
    {start : Start}
    (hStarts : Starts build answers)
    (hTables : SameTables s c.state)
    (hStarted : c.started = [start])
    (hThread : c.thread = .thread 0)
    (hContext :
      build = .customContext →
        ∃ context,
          start = .customStart context ∧
            c.state.live = context.block :: s.live) :
    Started build answers s none c := by
  have hLive : c.LiveThread :=
    ⟨0, hThread, by simp [hStarted]⟩
  constructor
  · exact hTables
  · intro hBuild
    rcases hContext hBuild with ⟨context, hStart, hBlocks⟩
    constructor
    · intro _
      exact ⟨context, by rw [hStarted, hStart], hBlocks⟩
    · intro hNone
      exact absurd hLive hNone
  · rw [if_pos hStarts]
  · exact iff_of_true hLive hStarts

/- None has been, and nothing is left. -/
theorem Started.of_none
    {build : Build}
    {s : State}
    (hNot : ¬ Starts build answers)
    (hTables : SameTables s c.state)
    (hStarted : c.started = [])
    (hBlocks : c.state.live = s.live) :
    Started build answers s
      (some (refusal build answers)) c := by
  have hNone : ¬ c.LiveThread := by
    rintro ⟨n, _, hLess⟩
    simp [hStarted] at hLess
  constructor
  · exact hTables
  · intro _
    constructor
    · intro hLive
      exact absurd hLive hNone
    · intro _
      exact ⟨hStarted, hBlocks⟩
  · rw [if_neg hNot]
  · exact iff_of_false hNone hNot

theorem returns_startThread_plain
    (s : State) :
    Returns (startThread .plain answers config) (enter s)
      (Started .plain answers s) := by
  unfold startThread createThread
  simp only [returns_bind, returns_modify, returns_get]
  cases hCreate : answers.createThread with
  | true =>
      simp only [if_true, reduceCtorEq, if_false,
        returns_pure]
      apply Started.of_thread
      · exact ⟨Or.inl rfl, hCreate⟩
      · exact ⟨rfl, rfl, rfl⟩
      · rfl
      · rfl
      · intro hBuild
        cases hBuild
  | false =>
      simp only [Bool.false_eq_true, if_false, if_true,
        returns_pure]
      have hNot : ¬ Starts .plain answers := by
        simp [Starts, hCreate]
      exact Started.of_none hNot ⟨rfl, rfl, rfl⟩ rfl rfl

theorem returns_startThread_custom
    {s : State}
    {heap : Nat}
    (hHeap : s.heap = some heap) :
    Returns (startThread .customContext answers config)
      (enter s) (Started .customContext answers s) := by
  have hHere : (enter s).state.heap = some heap := hHeap
  unfold startThread createThread onLibrary
  rw [returns_bind, returns_focus, returns_alloc hHere]
  cases hAlloc : answers.allocContext with
  | false =>
      simp only [Bool.false_eq_true, if_false, returns_pure]
      have hNot : ¬ Starts .customContext answers := by
        simp [Starts, hAlloc]
      have hStatus :
          refusal .customContext answers =
            statusOutOfMemory := by
        simp [refusal, hAlloc]
      rw [← hStatus]
      exact Started.of_none hNot ⟨rfl, rfl, rfl⟩ rfl rfl
  | true =>
      simp only [if_true, returns_bind, returns_modify,
        returns_get]
      cases hCreate : answers.createThread with
      | true =>
          simp only [if_true, reduceCtorEq, if_false,
            returns_pure]
          apply Started.of_thread
          · exact ⟨Or.inr hAlloc, hCreate⟩
          · exact ⟨rfl, rfl, rfl⟩
          · rfl
          · rfl
          · intro _
            exact ⟨_, rfl, rfl⟩
      | false =>
          simp only [Bool.false_eq_true, if_false, if_true,
            returns_bind, returns_focus]
          have hNot : ¬ Starts .customContext answers := by
            simp [Starts, hCreate]
          have hStatus :
              refusal .customContext answers =
                answers.lastError := by
            simp [refusal, hAlloc]
          rw [← hStatus]
          apply returns_free
          · exact List.mem_cons_self
          · rw [returns_pure]
            apply Started.of_none hNot
            · exact ⟨rfl, rfl, rfl⟩
            · rfl
            · -- The context is freed again.
              exact List.erase_cons_head ..

theorem returns_startThread
    {s : State}
    (hInit : Initialized s)
    (build : Build) :
    Returns (startThread build answers config) (enter s)
      (Started build answers s) := by
  rcases hInit.heap with ⟨heap, hHeap⟩
  cases build with
  | plain => exact returns_startThread_plain s
  | customContext => exact returns_startThread_custom hHeap

/- An error code below `2 ^ 16` is not a failure. -/
theorem failed_lastError
    {error : BitVec 32}
    (hCode : error.toNat < 65536) :
    failed error = false := by
  have hInt : error.toInt = error.toNat := by
    apply BitVec.toInt_eq_toNat_of_lt
    omega
  unfold failed
  rw [hInt, decide_eq_false_iff_not]
  omega

theorem failed_refusal_iff
    {build : Build}
    (hCode : answers.lastError.toNat < 65536) :
    failed (refusal build answers) = true ↔
      build = .customContext ∧
        answers.allocContext = false := by
  unfold refusal
  split
  next hContext => exact iff_of_true rfl hContext
  next hContext =>
    rw [failed_lastError hCode]
    exact iff_of_false Bool.false_ne_true hContext

theorem succeeded_iff
    (status : Status) :
    succeeded status = true ↔ failed status = false := by
  simp [succeeded, failed]

end WinUser

end CxPlat

------------------------------------------------------------
-- When the Result Is Honest
------------------------------------------------------------

namespace CxPlat

namespace WinUser

open Comp

variable {s : State} {c : Creation}
variable {answers : ThreadAnswers} {config : ThreadConfig}
variable {build : Build}

theorem honest_iff
    {status : Status}
    (hContext : build = .customContext → ContextOwned s c) :
    Honest build s status c ↔
      (failed status = true ↔ ¬ c.LiveThread) := by
  constructor
  · intro hHonest
    exact hHonest.failure
  · intro hFailure
    constructor
    · rw [succeeded_iff, ← Bool.not_eq_true, hFailure,
        not_not]
    · exact hFailure
    · exact hContext

/- Once there is a thread, only the processor matters. -/
theorem honest_thread_iff
    {groups : List SystemGroup}
    (hFilled : Filled groups c.state)
    (hContext : build = .customContext → ContextOwned s c)
    (hLive : c.LiveThread) :
    Returns
        (do
          configure config
          return statusSuccess) c (Honest build s) ↔
      config.idealProcessor.toNat <
        c.state.processorCount := by
  by_cases hProc :
      config.idealProcessor.toNat < c.state.processorCount
  · refine iff_of_true ?_ hProc
    apply (returns_configure hFilled hProc).bind
    rintro _ d ⟨hState, hStarted, hThread⟩
    have hSame : d.LiveThread := by
      unfold Creation.LiveThread
      rw [hStarted, hThread]
      exact hLive
    rw [returns_pure, honest_iff]
    · exact iff_of_false Bool.false_ne_true
        (not_not.mpr hSame)
    · intro hBuild
      have hOwned := hContext hBuild
      constructor
      · intro _
        rw [hStarted, hState]
        exact hOwned.thread hLive
      · intro hNone
        exact absurd hSame hNone
  · refine iff_of_false ?_ hProc
    rw [returns_bind]
    exact not_returns_configure hFilled (by omega) _

/-
  The result is honest exactly if the custom context cannot
  be allocated or the thread is created, for a processor that
  exists.
-/
theorem threadCreate_honest_iff
    (build : Build)
    (answers : ThreadAnswers)
    (config : ThreadConfig)
    {s : State}
    (hInit : Initialized s)
    (hError :
      answers.lastError ≠ 0 ∧
        answers.lastError.toNat < 65536) :
    Returns (threadCreate build answers config) (enter s)
        (Honest build s) ↔
      Reliable build answers config s := by
  rcases hInit.tables with ⟨groups, hFilled⟩
  have hFirst : Returns (startThread build answers config)
      (enter s) (Started build answers s) :=
    returns_startThread hInit build
  rcases hFirst with ⟨result, c, hExec, hStarted⟩
  have hHere := hFilled.congr hStarted.tables
  have hCount := hStarted.tables.2.2
  unfold threadCreate
  rw [returns_bind_of_exec hExec, hStarted.result]
  by_cases hStarts : Starts build answers
  · rw [if_pos hStarts]
    simp only
    rw [honest_thread_iff hHere hStarted.context
      (hStarted.live.mpr hStarts), hCount]
    rcases hStarts with ⟨hAlloc, hCreate⟩
    constructor
    · intro hProc
      exact Or.inr ⟨hCreate, hProc⟩
    · rintro (⟨hBuild, hRefused⟩ | ⟨_, hProc⟩)
      · simp [hBuild, hRefused] at hAlloc
      · exact hProc
  · rw [if_neg hStarts]
    simp only
    have hNone : ¬ c.LiveThread := fun hLive =>
      hStarts (hStarted.live.mp hLive)
    rw [returns_pure, honest_iff hStarted.context,
      failed_refusal_iff hError.2]
    constructor
    · intro hIff
      exact Or.inl (hIff.mpr hNone)
    · rintro (hContext | ⟨hCreate, _⟩)
      · exact iff_of_true hContext hNone
      · -- Created, and yet not started: no context.
        have hRefused :
            build = .customContext ∧
              answers.allocContext = false := by
          cases build with
          | plain => exact absurd ⟨Or.inl rfl, hCreate⟩ hStarts
          | customContext =>
              refine ⟨rfl, ?_⟩
              by_contra hAlloc
              exact hStarts
                ⟨Or.inr (by simpa using hAlloc), hCreate⟩
        exact iff_of_true hRefused hNone

/- A thread with its own processor, at high priority. -/
def pinnedConfig : ThreadConfig where
  flags := 0x0006
  idealProcessor := 3
  name := some "worker"
  callback := 4096
  context := 8192

theorem initialized_gapState :
    Initialized gapState := by
  refine ⟨⟨0, rfl⟩, gapAnswers.activeGroups, ?_⟩
  have hInit :
      exec (processorInfoInit gapAnswers) heapOnly =
        .ok (statusSuccess, gapState) := rfl
  exact filled_of_processorInfoInit hInit rfl

theorem threadCreate_honest_pinned :
    Initialized gapState ∧
      Returns
        (threadCreate .customContext
          { allocContext := true
            createThread := true
            lastError := 8 } pinnedConfig)
        (enter gapState) (Honest .customContext gapState) := by
  refine ⟨initialized_gapState, ?_⟩
  rw [threadCreate_honest_iff _ _ _ initialized_gapState
    (by decide)]
  decide

/- `CreateThread` fails with `ERROR_NOT_ENOUGH_MEMORY`. -/
def refusedThread : ThreadAnswers where
  allocContext := true
  createThread := false
  lastError := 8

/- A success with a null handle is not honest. -/
theorem not_honest_of_exec
    (hExec :
      exec (threadCreate build answers config) (enter s) =
        .ok (8#32, c))
    (hNull : c.thread = .null) :
    ¬ Returns (threadCreate build answers config) (enter s)
      (Honest build s) := by
  intro hReturns
  have hHonest := hReturns.post hExec
  rcases hHonest.success.mp rfl with ⟨n, hThread, _⟩
  rw [hNull] at hThread
  cases hThread

/-
  A creation that has failed is reported as a success, in
  either build.
-/
theorem failedCreation_succeeds :
    (exec (threadCreate .plain refusedThread pinnedConfig)
        (enter gapState) =
      .ok (8#32, { enter gapState with thread := .null }) ∧
    exec
        (threadCreate .customContext refusedThread
          pinnedConfig) (enter gapState) =
      .ok (8#32,
        { enter gapState with
          state := { gapState with next := 5 }
          thread := .null })) ∧
    succeeded 8#32 = true ∧ failed 8#32 = false ∧
    ¬ Returns
      (threadCreate .plain refusedThread pinnedConfig)
      (enter gapState) (Honest .plain gapState) ∧
    ¬ Returns
      (threadCreate .customContext refusedThread pinnedConfig)
      (enter gapState) (Honest .customContext gapState) := by
  refine ⟨⟨rfl, rfl⟩, by decide, by decide, ?_, ?_⟩
  · exact not_honest_of_exec rfl rfl
  · exact not_honest_of_exec rfl rfl

end WinUser

end CxPlat
