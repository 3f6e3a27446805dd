import CxPlat.Lib.Comp
import CxPlat.Lib.Ledger

/-
  The environment of the tests in kernel mode:
  `CxPlatDriverService` and the start and end of
  `CxPlatDriverClient`, from `cxplat_driver_helpers.h`, and
  `CxPlatTestEnvironment`, from `cxplat_gtest.cpp`.

  Setting up opens the service manager, opens or creates the
  service of the driver, starts it and opens the device.  A
  service that exists but cannot be opened is looked up again.
  Tearing down closes what has been opened.  The tests can be
  repeated, each time with the same two objects.

  `CxPlatDriverService::Uninitialize` keeps both handles, and
  `CxPlatDriverService::Initialize` returns a variable that
  has not been set if the file of the driver is not found.

  Key definitions include:
    * `queryService`, `serviceInitialize`, `serviceStart`
    * `setUp`, `tearDown`, `cycles`
    * `Answers.ready`
    * `Fresh`

  Key theorems include:
    * `exec_queryService`
    * `returns_setUp`, `returns_tearDown`
    * `environment_sound_iff`
-/

------------------------------------------------------------
-- Services And Clients
------------------------------------------------------------

namespace CxPlat

namespace TestEnvironment

/- A code of `GetLastError` after a failure. -/
abbrev Error := { code : BitVec 32 // code ≠ 0 }

def errorInvalidHandle : BitVec 32 := 6

def errorServiceAlreadyRunning : BitVec 32 := 1056

def errorServiceExists : BitVec 32 := 1073

def maxPath : Nat := 260

/-
  What the system answers in one round from `QueryService` on:
  whether the service is opened, whether the path of the
  module has a separator, the result of `snprintf` for the
  path of the driver and the room for it, whether that file
  exists, and how creating the service fails, if it does.
-/
structure Attempt where
  openService : Bool
  separator : Bool
  pathResult : Int
  remainingLength : Nat
  fileFound : Bool
  createService : Option Error
deriving DecidableEq

/-
  What the system answers to one set-up, and what the variable
  `Error` holds before it is set.
-/
structure Answers where
  openManager : Option Error
  attempts : List Attempt
  unset : BitVec 32
  startService : Option Error
  ioctlPath : Int
  createFile : Bool
deriving DecidableEq

/-
  The handles of the two objects, with a null handle and
  `INVALID_HANDLE_VALUE` as none, and the books about handles,
  which no code reads.
-/
structure State where
  scmHandle : Option Nat
  serviceHandle : Option Nat
  deviceHandle : Option Nat
  handles : Ledger
deriving DecidableEq

inductive Fault where
  | closedTwice
  | usedClosed
  | looping
deriving DecidableEq, Repr

/- The two objects after their construction. -/
def constructed : State where
  scmHandle := none
  serviceHandle := none
  deviceHandle := none
  handles := Ledger.empty

/- `CloseServiceHandle` or `CloseHandle`, unless none. -/
def close : Option Nat → Comp Fault State Unit
  | none => pure ()
  | some handle => do
      let s ← get
      match s.handles.release handle with
      | none => throw .closedTwice
      | some handles => set { s with handles := handles }

/- A handle of the service. -/
def openedService : Comp Fault State (BitVec 32) := do
  modify fun s =>
    { s with
      serviceHandle := some s.handles.next
      handles := s.handles.acquire }
  return 0

/-
  `CxPlatDriverService::Initialize` from `QueryService` on,
  with the value of `Error`.  A list of answers that comes to
  its end leaves it looping.
-/
def queryService :
    List Attempt → BitVec 32 → Comp Fault State (BitVec 32)
  | [], _ => throw .looping
  | a :: rest, error => do
      if a.openService then
        openedService
      else
        modify fun s => { s with serviceHandle := none }
        if a.separator = false then
          return error
        else if a.pathResult ≤ 0 ∨
            (a.remainingLength : Int) < a.pathResult then
          return error
        else if a.fileFound = false then
          return error
        else
          match a.createService with
          | none => openedService
          | some failure =>
              if failure.1 = errorServiceExists then
                queryService rest failure.1
              else
                return failure.1

/- `CxPlatDriverService::Initialize`. -/
def serviceInitialize
    (answers : Answers) : Comp Fault State (BitVec 32) :=
  match answers.openManager with
  | some failure => do
      modify fun s => { s with scmHandle := none }
      return failure.1
  | none => do
      modify fun s =>
        { s with
          scmHandle := some s.handles.next
          handles := s.handles.acquire }
      queryService answers.attempts answers.unset

/- `CxPlatDriverService::Start`. -/
def serviceStart
    (answers : Answers) : Comp Fault State (BitVec 32) := do
  let s ← get
  match s.serviceHandle with
  | none => return errorInvalidHandle
  | some service =>
      if service ∉ s.handles.held then
        throw .usedClosed
      else
        match answers.startService with
        | none => return 0
        | some failure =>
            if failure.1 ≠ errorServiceAlreadyRunning then
              return failure.1
            else
              return 0

/- `CxPlatDriverService::Uninitialize`. -/
def serviceUninitialize : Comp Fault State Unit := do
  let s ← get
  close s.serviceHandle
  close s.scmHandle

/- `CxPlatDriverClient::Initialize`. -/
def clientInitialize
    (answers : Answers) : Comp Fault State Bool := do
  if answers.ioctlPath < 0 ∨
      (maxPath : Int) ≤ answers.ioctlPath then
    return false
  else if answers.createFile then
    modify fun s =>
      { s with
        deviceHandle := some s.handles.next
        handles := s.handles.acquire }
    return true
  else
    modify fun s => { s with deviceHandle := none }
    return false

/- `CxPlatDriverClient::Uninitialize`. -/
def clientUninitialize : Comp Fault State Unit := do
  let s ← get
  close s.deviceHandle
  modify fun s => { s with deviceHandle := none }

/- `SetUp` in kernel mode, and whether no assertion fails. -/
def setUp
    (answers : Answers) : Comp Fault State Bool := do
  let error ← serviceInitialize answers
  if error ≠ 0 then
    return false
  else
    let error ← serviceStart answers
    if error ≠ 0 then
      return false
    else
      clientInitialize answers

/- The tests use the device; they only run after a set-up. -/
def runTests
    (passed : Bool) : Comp Fault State Unit := do
  if passed then
    let s ← get
    match s.deviceHandle with
    | none => throw .usedClosed
    | some device =>
        if device ∈ s.handles.held then
          pure ()
        else
          throw .usedClosed
  else
    pure ()

/- `TearDown` in kernel mode, which runs in any case. -/
def tearDown : Comp Fault State Unit := do
  clientUninitialize
  serviceUninitialize

def cycle
    (answers : Answers) : Comp Fault State Bool := do
  let passed ← setUp answers
  runTests passed
  tearDown
  return passed

/- The tests are repeated; the result is which of them ran. -/
def cycles :
    List Answers → Comp Fault State (List Bool)
  | [] => return []
  | answers :: rest => do
      let passed ← cycle answers
      let others ← cycles rest
      return passed :: others

end TestEnvironment

end CxPlat

------------------------------------------------------------
-- What Is To Be Expected
------------------------------------------------------------

namespace CxPlat

namespace TestEnvironment

/- The file of the driver is there. -/
def Attempt.located
    (a : Attempt) : Bool :=
  a.separator && decide (0 < a.pathResult) &&
    decide (a.pathResult ≤ a.remainingLength) && a.fileFound

/- The round starts again. -/
def Attempt.again
    (a : Attempt) : Bool :=
  !a.openService && a.located &&
    (a.createService.map Subtype.val ==
      some errorServiceExists)

/- The round ends with a service. -/
def Attempt.finds
    (a : Attempt) : Bool :=
  a.openService || (a.located && a.createService.isNone)

/- The round that ends the search decides it. -/
def found
    (attempts : List Attempt) : Bool :=
  (attempts.find? (fun a => !a.again)).any Attempt.finds

/- The search comes to its end. -/
def Ends
    (attempts : List Attempt) : Prop :=
  ∃ a ∈ attempts, a.again = false

instance
    (attempts : List Attempt) :
    Decidable (Ends attempts) :=
  inferInstanceAs (Decidable (∃ a ∈ attempts, _))

/- The service runs, or did so already. -/
def Answers.started
    (answers : Answers) : Bool :=
  answers.startService.isNone ||
    (answers.startService.map Subtype.val ==
      some errorServiceAlreadyRunning)

/- The device is opened. -/
def Answers.connected
    (answers : Answers) : Bool :=
  decide (0 ≤ answers.ioctlPath) &&
    decide (answers.ioctlPath < maxPath) &&
    answers.createFile

/- Everything that the tests need is there. -/
def Answers.ready
    (answers : Answers) : Bool :=
  answers.openManager.isNone && found answers.attempts &&
    answers.started && answers.connected

/- A handle of the service is left over. -/
def staleAfter
    (stale : Bool)
    (answers : Answers) : Bool :=
  if answers.openManager.isSome then
    stale
  else
    found answers.attempts

/-
  The service manager is opened in each set-up that comes
  right after one which has opened the service.
-/
def Fresh : Bool → List Answers → Prop
  | _, [] => True
  | stale, answers :: rest =>
      (answers.openManager.isSome = true → stale = false) ∧
        Fresh (staleAfter stale answers) rest

end TestEnvironment

end CxPlat

------------------------------------------------------------
-- Handles
------------------------------------------------------------

namespace CxPlat

namespace TestEnvironment

open Comp

variable {s t : State} {stale : Bool} {answers : Answers}

/- Just the handles of the objects are open. -/
structure Open
    (s : State) : Prop where
  sound : s.handles.Sound
  held :
    s.handles.held =
      s.deviceHandle.toList ++
        (s.serviceHandle.toList ++ s.scmHandle.toList)

/- Between two set-ups. -/
structure Idle
    (stale : Bool)
    (s : State) : Prop where
  sound : s.handles.Sound
  held : s.handles.held = []
  device : s.deviceHandle = none
  service : s.serviceHandle.isSome = stale

theorem idle_constructed :
    Idle false constructed where
  sound := Ledger.sound_empty
  held := rfl
  device := rfl
  service := rfl

/- Closing the handle opened last. -/
theorem returns_close
    {handle : Option Nat}
    {rest : List Nat}
    (hSound : s.handles.Sound)
    (hHeld : s.handles.held = handle.toList ++ rest) :
    Returns (close handle) s (fun _ t =>
      ∃ handles : Ledger,
        t = { s with handles := handles } ∧
          handles.Sound ∧ handles.held = rest) := by
  cases handle with
  | none =>
      exact returns_of_exec rfl ⟨_, rfl, hSound, hHeld⟩
  | some id =>
      have hMem : id ∈ s.handles.held := by
        rw [hHeld]
        exact List.mem_cons_self
      have hRelease := Ledger.release_held hMem
      unfold close
      simp only [returns_bind, returns_get, hRelease,
        returns_set]
      refine ⟨_, rfl, hSound.release hRelease, ?_⟩
      rw [hHeld]
      exact List.erase_cons_head ..

/- Closing a handle that is not open. -/
theorem not_returns_close
    {handle : Nat}
    (hClosed : handle ∉ s.handles.held)
    (Q : Unit → State → Prop) :
    ¬ Returns (close (some handle)) s Q := by
  have hRelease : s.handles.release handle = none := by
    unfold Ledger.release
    rw [if_neg hClosed]
  unfold close
  simp [hRelease]

theorem returns_tearDown
    (hOpen : Open s) :
    Returns tearDown s (fun _ t =>
      Idle s.serviceHandle.isSome t) := by
  unfold tearDown clientUninitialize serviceUninitialize
  simp only [bind_assoc, returns_bind, returns_get,
    returns_modify]
  apply (returns_close hOpen.sound hOpen.held).mono
  rintro _ _ ⟨first, rfl, hSound, hHeld⟩
  apply (returns_close hSound hHeld).mono
  rintro _ _ ⟨second, rfl, hSound', hHeld'⟩
  rw [← List.append_nil s.scmHandle.toList] at hHeld'
  apply (returns_close hSound' hHeld').mono
  rintro _ _ ⟨third, rfl, hSound'', hHeld''⟩
  exact
    { sound := hSound''
      held := hHeld''
      device := rfl
      service := rfl }

end TestEnvironment

end CxPlat

------------------------------------------------------------
-- Setting Up
------------------------------------------------------------

namespace CxPlat

namespace TestEnvironment

open Comp

variable {s t : State} {stale : Bool} {answers : Answers}
variable {a : Attempt} {attempts : List Attempt}

/- The state with a new handle of the service. -/
def State.withService
    (s : State) : State :=
  { s with
    serviceHandle := some s.handles.next
    handles := s.handles.acquire }

@[simp] theorem exec_openedService
    (s : State) :
    exec openedService s = .ok (0, s.withService) := rfl

theorem located_iff :
    a.located = true ↔
      a.separator = true ∧
        ¬ (a.pathResult ≤ 0 ∨
          (a.remainingLength : Int) < a.pathResult) ∧
        a.fileFound = true := by
  simp only [Attempt.located, Bool.and_eq_true,
    decide_eq_true_eq]
  constructor
  · rintro ⟨⟨⟨hSeparator, hPos⟩, hFits⟩, hFile⟩
    exact ⟨hSeparator, by omega, hFile⟩
  · rintro ⟨hSeparator, hPath, hFile⟩
    exact ⟨⟨⟨hSeparator, by omega⟩, by omega⟩, hFile⟩

/- The file of the driver is not there. -/
theorem exec_queryService_missing
    (hOpen : a.openService = false)
    (hLocated : a.located = false)
    (rest : List Attempt)
    (error : BitVec 32)
    (s : State) :
    exec (queryService (a :: rest) error) s =
      .ok (error, { s with serviceHandle := none }) := by
  have hNot : ¬ (a.separator = true ∧
      ¬ (a.pathResult ≤ 0 ∨
        (a.remainingLength : Int) < a.pathResult) ∧
      a.fileFound = true) := by
    rw [← located_iff, hLocated]
    exact Bool.false_ne_true
  unfold queryService
  simp only [hOpen, Bool.false_eq_true, if_false, exec_bind,
    exec_modify]
  split
  · rfl
  · split
    · rfl
    · split
      · rfl
      next hSeparator hPath hFile =>
        simp only [Bool.not_eq_false] at hSeparator hFile
        exact absurd ⟨hSeparator, hPath, hFile⟩ hNot

/- The file of the driver is there. -/
theorem exec_queryService_located
    (hOpen : a.openService = false)
    (hLocated : a.located = true)
    (rest : List Attempt)
    (error : BitVec 32)
    (s : State) :
    exec (queryService (a :: rest) error) s =
      match a.createService with
      | none => .ok (0, s.withService)
      | some failure =>
          if failure.1 = errorServiceExists then
            exec (queryService rest failure.1)
              { s with serviceHandle := none }
          else
            .ok (failure.1,
              { s with serviceHandle := none }) := by
  obtain ⟨hSeparator, hPath, hFile⟩ := located_iff.mp hLocated
  rw [queryService]
  simp only [hOpen, hSeparator, hFile, Bool.false_eq_true,
    Bool.true_eq_false, if_false, exec_bind, exec_modify,
    if_neg hPath]
  cases a.createService with
  | none => rfl
  | some failure =>
      simp only
      split
      · rfl
      · rfl

theorem found_cons
    (a : Attempt)
    (rest : List Attempt) :
    found (a :: rest) =
      if a.again then found rest else a.finds := by
  cases hAgain : a.again with
  | false => simp [found, hAgain]
  | true => simp [found, hAgain]

theorem Ends.tail
    {rest : List Attempt}
    (hEnds : Ends (a :: rest))
    (hAgain : a.again = true) :
    Ends rest := by
  obtain ⟨b, hMem, hLast⟩ := hEnds
  rcases List.mem_cons.mp hMem with rfl | hMem
  · rw [hAgain] at hLast
    contradiction
  · exact ⟨b, hMem, hLast⟩

/- The state in which the search leaves the service. -/
def State.searched
    (s : State)
    (attempts : List Attempt) : State :=
  if found attempts then
    s.withService
  else
    { s with serviceHandle := none }

/-
  By induction on the rounds; only the one that ends the
  search leaves a trace.
-/
theorem exec_queryService
    (hEnds : Ends attempts)
    (error : BitVec 32)
    (s : State) :
    ∃ result,
      exec (queryService attempts error) s =
          .ok (result, s.searched attempts) ∧
        (found attempts = true → result = 0) := by
  unfold State.searched
  induction attempts generalizing error s with
  | nil =>
      obtain ⟨a, hMem, _⟩ := hEnds
      contradiction
  | cons a rest hRest =>
      rw [found_cons]
      cases hOpen : a.openService with
      | true =>
          refine ⟨0, ?_, fun _ => rfl⟩
          unfold queryService
          simp [hOpen, Attempt.again, Attempt.finds]
      | false =>
          cases hLocated : a.located with
          | false =>
              rw [exec_queryService_missing hOpen hLocated]
              refine ⟨error, ?_, ?_⟩
              · simp [hOpen, hLocated, Attempt.again,
                  Attempt.finds]
              · simp [hOpen, hLocated, Attempt.again,
                  Attempt.finds]
          | true =>
              rw [exec_queryService_located hOpen hLocated]
              cases hCreate : a.createService with
              | none =>
                  refine ⟨0, ?_, fun _ => rfl⟩
                  simp [hLocated, hCreate, Attempt.again,
                    Attempt.finds]
              | some failure =>
                  by_cases hExists :
                      failure.1 = errorServiceExists
                  · have hAgain : a.again = true := by
                      simp [Attempt.again, hOpen, hLocated,
                        hCreate, hExists]
                    simp only [if_pos hExists, hAgain, if_true]
                    exact hRest (hEnds.tail hAgain) failure.1
                      { s with serviceHandle := none }
                  · simp only [if_neg hExists]
                    refine ⟨failure.1, ?_, ?_⟩
                    · simp [hOpen, hLocated, hCreate, hExists,
                        Attempt.again, Attempt.finds]
                    · simp [hOpen, hLocated, hCreate, hExists,
                        Attempt.again, Attempt.finds]

theorem returns_serviceStart
    {service : Nat}
    (hService : s.serviceHandle = some service)
    (hHeld : service ∈ s.handles.held) :
    Returns (serviceStart answers) s (fun error t =>
      (error = 0 ↔ answers.started = true) ∧ t = s) := by
  unfold serviceStart
  simp only [returns_bind, returns_get, hService, hHeld,
    not_true, if_false]
  unfold Answers.started
  cases answers.startService with
  | none => simp
  | some failure =>
      by_cases hRuns : failure.1 = errorServiceAlreadyRunning
      · simp [hRuns]
      · simpa [hRuns] using failure.2

/- The device is opened, or there is still none. -/
theorem returns_clientInitialize
    (hDevice : s.deviceHandle = none) :
    Returns (clientInitialize answers) s (fun passed t =>
      passed = answers.connected ∧
        t =
          if passed then
            { s with
              deviceHandle := some s.handles.next
              handles := s.handles.acquire }
          else s) := by
  have hSame : { s with deviceHandle := none } = s := by
    rw [← hDevice]
  unfold clientInitialize
  by_cases hPath :
      answers.ioctlPath < 0 ∨
        (maxPath : Int) ≤ answers.ioctlPath
  · rw [if_pos hPath, returns_pure]
    refine ⟨?_, rfl⟩
    symm
    simp only [Answers.connected, Bool.and_eq_false_iff,
      decide_eq_false_iff_not]
    omega
  · rw [if_neg hPath]
    have hFits :
        0 ≤ answers.ioctlPath ∧
          answers.ioctlPath < maxPath := by
      omega
    cases hFile : answers.createFile with
    | true => simp [Answers.connected, hFits, hFile]
    | false => simp [Answers.connected, hFile, hSame]

/- The state with a new handle of the service manager. -/
def State.withManager
    (s : State) : State :=
  { s with
    scmHandle := some s.handles.next
    handles := s.handles.acquire }

theorem Idle.open_searched
    (hIdle : Idle stale s)
    (attempts : List Attempt) :
    Open (s.withManager.searched attempts) := by
  unfold State.searched
  cases found attempts with
  | true =>
      exact
        { sound := hIdle.sound.acquire.acquire
          held := by
            simp [State.withManager, State.withService,
              Ledger.acquire, hIdle.held, hIdle.device] }
  | false =>
      exact
        { sound := hIdle.sound.acquire
          held := by
            simp [State.withManager, Ledger.acquire,
              hIdle.held, hIdle.device] }

/- A service that has been found can be used. -/
theorem Idle.searched_found
    (hIdle : Idle stale s)
    (hFound : found attempts = true) :
    ∃ service,
      (s.withManager.searched attempts).serviceHandle =
          some service ∧
        service ∈
          (s.withManager.searched attempts).handles.held ∧
        (s.withManager.searched attempts).deviceHandle =
          none := by
  refine ⟨s.handles.next + 1, ?_⟩
  simp [State.searched, hFound, State.withService,
    State.withManager, Ledger.acquire, hIdle.device]

/- Another handle is opened. -/
theorem Open.withDevice
    (hOpen : Open s)
    (hDevice : s.deviceHandle = none) :
    Open
      { s with
        deviceHandle := some s.handles.next
        handles := s.handles.acquire } where
  sound := hOpen.sound.acquire
  held := by
    have hHeld := hOpen.held
    rw [hDevice] at hHeld
    simpa [Ledger.acquire] using hHeld

/- What a set-up with a service manager leaves. -/
structure SetUp
    (answers : Answers)
    (passed : Bool)
    (s : State) : Prop where
  verdict : passed = answers.ready
  opened : Open s
  service : s.serviceHandle.isSome = found answers.attempts
  device : passed = true → s.deviceHandle.isSome = true

/- Without the service nothing passes. -/
theorem returns_setUp_missing
    (hIdle : Idle stale s)
    (hManager : answers.openManager = none)
    (hEnds : Ends answers.attempts)
    (hFound : found answers.attempts = false) :
    Returns (setUp answers) s (SetUp answers) := by
  have hOpen := hIdle.open_searched answers.attempts
  obtain ⟨result, hQuery, _⟩ :=
    exec_queryService hEnds answers.unset s.withManager
  have hState :
      (s.withManager.searched answers.attempts).serviceHandle =
        none := by
    simp [State.searched, hFound]
  have hFails :
      SetUp answers false
        (s.withManager.searched answers.attempts) :=
    { verdict := by simp [Answers.ready, hFound]
      opened := hOpen
      service := by rw [hState, hFound]; rfl
      device := by simp }
  unfold setUp serviceInitialize
  rw [hManager]
  simp only [returns_bind, returns_modify]
  apply returns_of_exec hQuery
  by_cases hResult : result = 0
  · -- the variable that is returned happens to be zero
    simp only [hResult, ne_eq, not_true, if_false,
      returns_bind]
    unfold serviceStart
    simp only [returns_bind, returns_get, hState, returns_pure]
    rw [if_pos (by decide), returns_pure]
    exact hFails
  · simp only [ne_eq, hResult, not_false_eq_true, if_true,
      returns_pure]
    exact hFails

/- With the service the rest decides. -/
theorem returns_setUp_found
    (hIdle : Idle stale s)
    (hManager : answers.openManager = none)
    (hEnds : Ends answers.attempts)
    (hFound : found answers.attempts = true) :
    Returns (setUp answers) s (SetUp answers) := by
  have hOpen := hIdle.open_searched answers.attempts
  obtain ⟨result, hQuery, hZero⟩ :=
    exec_queryService hEnds answers.unset s.withManager
  obtain ⟨service, hService, hHeld, hDevice⟩ :=
    hIdle.searched_found hFound
  unfold setUp serviceInitialize
  rw [hManager]
  simp only [returns_bind, returns_modify]
  apply returns_of_exec hQuery
  simp only [hZero hFound, ne_eq, not_true, if_false,
    returns_bind]
  apply (returns_serviceStart hService hHeld).mono
  rintro error _ ⟨hStarted, rfl⟩
  by_cases hError : error = 0
  · have hRuns := hStarted.mp hError
    simp only [hError, not_true, if_false]
    apply (returns_clientInitialize hDevice).mono
    rintro passed _ ⟨hPassed, rfl⟩
    have hVerdict : passed = answers.ready := by
      simp [hPassed, Answers.ready, hManager, hFound, hRuns]
    cases passed with
    | true =>
        exact
          { verdict := hVerdict
            opened := hOpen.withDevice hDevice
            service := by simp [hService, hFound]
            device := by simp }
    | false =>
        exact
          { verdict := hVerdict
            opened := hOpen
            service := by simp [hService, hFound]
            device := by simp }
  · have hRuns : answers.started = false :=
      Bool.eq_false_iff.mpr
        (fun hRuns => hError (hStarted.mpr hRuns))
    simp only [hError, not_false_eq_true, if_true,
      returns_pure]
    exact
      { verdict := by simp [Answers.ready, hRuns]
        opened := hOpen
        service := by simp [hService, hFound]
        device := by simp }

theorem returns_setUp
    (hIdle : Idle stale s)
    (hManager : answers.openManager = none)
    (hEnds : Ends answers.attempts) :
    Returns (setUp answers) s (SetUp answers) := by
  cases hFound : found answers.attempts with
  | true =>
      exact returns_setUp_found hIdle hManager hEnds hFound
  | false =>
      exact returns_setUp_missing hIdle hManager hEnds hFound

end TestEnvironment

end CxPlat

------------------------------------------------------------
-- Repeated Tests
------------------------------------------------------------

namespace CxPlat

namespace TestEnvironment

open Comp

variable {s t : State} {stale : Bool} {answers : Answers}

theorem returns_runTests
    {passed : Bool}
    (hSetUp : SetUp answers passed s) :
    Returns (runTests passed) s (fun _ t => t = s) := by
  unfold runTests
  cases hPassed : passed with
  | false => simp
  | true =>
      obtain ⟨device, hDevice⟩ :=
        Option.isSome_iff_exists.mp (hSetUp.device hPassed)
      have hHeld : device ∈ s.handles.held := by
        rw [hSetUp.opened.held, hDevice]
        simp
      simp [hDevice, hHeld]

/- With a service manager a cycle leaves nothing open. -/
theorem returns_cycle_opened
    (hIdle : Idle stale s)
    (hManager : answers.openManager = none)
    (hEnds : Ends answers.attempts) :
    Returns (cycle answers) s (fun passed t =>
      passed = answers.ready ∧
        Idle (staleAfter stale answers) t) := by
  unfold cycle
  apply (returns_setUp hIdle hManager hEnds).bind
  intro passed t hSetUp
  apply (returns_runTests hSetUp).bind
  rintro _ _ rfl
  apply (returns_tearDown hSetUp.opened).bind
  intro _ u hLater
  rw [returns_pure]
  refine ⟨hSetUp.verdict, ?_⟩
  rw [hSetUp.service] at hLater
  simpa [staleAfter, hManager] using hLater

/- Without one the tests are left out. -/
theorem returns_cycle_iff_tearDown
    {failure : Error}
    (hManager : answers.openManager = some failure)
    (s : State)
    (Q : Bool → State → Prop) :
    Returns (cycle answers) s Q ↔
      Returns tearDown { s with scmHandle := none }
        (fun _ t => Q false t) := by
  have hSetUp :
      exec (setUp answers) s =
        .ok (false, { s with scmHandle := none }) := by
    unfold setUp serviceInitialize
    rw [hManager]
    simp only [exec_bind, exec_modify, exec_pure]
    rw [if_pos failure.2]
    rfl
  have hSkip :
      exec (runTests false) { s with scmHandle := none } =
        .ok ((), { s with scmHandle := none }) := rfl
  unfold cycle
  rw [returns_bind_of_exec hSetUp,
    returns_bind_of_exec hSkip, returns_bind]
  simp only [returns_pure]

theorem returns_cycle_refused
    {failure : Error}
    (hIdle : Idle false s)
    (hManager : answers.openManager = some failure) :
    Returns (cycle answers) s (fun passed t =>
      passed = answers.ready ∧
        Idle (staleAfter false answers) t) := by
  have hService : s.serviceHandle = none := by
    simpa using hIdle.service
  have hOpen : Open { s with scmHandle := none } :=
    { sound := hIdle.sound
      held := by
        simp [hIdle.held, hIdle.device, hService] }
  rw [returns_cycle_iff_tearDown hManager]
  apply (returns_tearDown hOpen).mono
  intro _ t hLater
  refine ⟨by simp [Answers.ready, hManager], ?_⟩
  simpa [staleAfter, hManager, hService] using hLater

/- The handle of an earlier cycle is closed once more. -/
theorem not_returns_cycle_stale
    {failure : Error}
    (hIdle : Idle true s)
    (hManager : answers.openManager = some failure)
    (Q : Bool → State → Prop) :
    ¬ Returns (cycle answers) s Q := by
  obtain ⟨service, hService⟩ :=
    Option.isSome_iff_exists.mp hIdle.service
  have hClosed : service ∉ s.handles.held := by
    simp [hIdle.held]
  rw [returns_cycle_iff_tearDown hManager]
  unfold tearDown clientUninitialize serviceUninitialize
  simp only [bind_assoc, returns_bind, returns_get,
    hIdle.device, hService]
  rintro ⟨_, t, hClose, hRest⟩
  cases hClose
  rw [returns_modify] at hRest
  refine not_returns_close ?_ _ hRest
  exact hClosed

/- One cycle, and the others after it. -/
theorem returns_cycles_cons
    {rest : List Answers}
    {passed : Bool}
    (hCycle : exec (cycle answers) s = .ok (passed, t))
    (Q : List Bool → State → Prop) :
    Returns (cycles (answers :: rest)) s Q ↔
      Returns (cycles rest) t
        (fun verdicts u => Q (passed :: verdicts) u) := by
  rw [cycles, returns_bind_of_exec hCycle, returns_bind]
  simp only [returns_pure]

/- By induction on the cycles. -/
theorem returns_cycles_iff
    {runs : List Answers}
    (hIdle : Idle stale s)
    (hEnds :
      ∀ answers ∈ runs, answers.openManager = none →
        Ends answers.attempts) :
    Returns (cycles runs) s (fun verdicts t =>
        verdicts = runs.map Answers.ready ∧
          t.handles.Sound ∧ t.handles.held = []) ↔
      Fresh stale runs := by
  induction runs generalizing stale s with
  | nil =>
      unfold cycles Fresh
      rw [returns_pure]
      simp [hIdle.sound, hIdle.held]
  | cons answers rest hRest =>
      have hLater :
          ∀ answers ∈ rest, answers.openManager = none →
            Ends answers.attempts := by
        intro other hMem
        exact hEnds other (List.mem_cons_of_mem _ hMem)
      have hOn :
          ∀ {t : State},
            exec (cycle answers) s =
                .ok (answers.ready, t) →
              Idle (staleAfter stale answers) t →
                (Returns (cycles (answers :: rest)) s
                    (fun verdicts t =>
                      verdicts =
                          (answers :: rest).map
                            Answers.ready ∧
                        t.handles.Sound ∧
                        t.handles.held = []) ↔
                  Fresh (staleAfter stale answers) rest) := by
        intro t hCycle hNext
        rw [returns_cycles_cons hCycle, ← hRest hNext hLater]
        simp
      unfold Fresh
      cases hManager : answers.openManager with
      | none =>
          obtain ⟨_, t, hCycle, rfl, hNext⟩ :=
            returns_cycle_opened hIdle hManager
              (hEnds answers List.mem_cons_self hManager)
          rw [hOn hCycle hNext]
          simp
      | some failure =>
          cases stale with
          | false =>
              obtain ⟨_, t, hCycle, rfl, hNext⟩ :=
                returns_cycle_refused hIdle hManager
              rw [hOn hCycle hNext]
              simp
          | true =>
              have hNot :=
                not_returns_cycle_stale hIdle hManager
              simp only [cycles, returns_bind, Option.isSome_some,
                Bool.true_eq_false, forall_const, false_and,
                iff_false]
              exact hNot _

/-
  Any number of cycles, with every answer of the system, in
  which no search for the service goes on for ever.
-/
theorem environment_sound_iff
    (runs : List Answers)
    (hEnds :
      ∀ answers ∈ runs, answers.openManager = none →
        Ends answers.attempts) :
    Returns (cycles runs) constructed (fun verdicts s =>
        verdicts = runs.map Answers.ready ∧
          s.handles.Sound ∧ s.handles.held = []) ↔
      Fresh false runs :=
  returns_cycles_iff idle_constructed hEnds

/- The service is found in the second round of the search. -/
def secondRound : Answers where
  openManager := none
  attempts :=
    [{ openService := false
       separator := true
       pathResult := 12
       remainingLength := 200
       fileFound := true
       createService := some ⟨errorServiceExists, by decide⟩ },
     { openService := true
       separator := false
       pathResult := 0
       remainingLength := 0
       fileFound := false
       createService := none }]
  unset := 0
  startService := some ⟨errorServiceAlreadyRunning, by decide⟩
  ioctlPath := 20
  createFile := true

/- The service manager is not opened. -/
def refusal : Answers :=
  { secondRound with openManager := some ⟨5, by decide⟩ }

theorem environment_sound_iff_refusal :
    Returns (cycles [refusal, secondRound]) constructed
        (fun verdicts s =>
          verdicts = [false, true] ∧
            s.handles.Sound ∧ s.handles.held = []) ∧
      ¬ Returns (cycles [secondRound, refusal]) constructed
        (fun verdicts s =>
          verdicts = [true, false] ∧
            s.handles.Sound ∧ s.handles.held = []) := by
  constructor
  · exact
      (environment_sound_iff [refusal, secondRound]
        (by decide)).mpr ⟨by decide, by decide, trivial⟩
  · intro hReturns
    have hFresh :=
      (environment_sound_iff [secondRound, refusal]
        (by decide)).mp hReturns
    exact absurd (hFresh.2.1 rfl) (by decide)

end TestEnvironment

end CxPlat
