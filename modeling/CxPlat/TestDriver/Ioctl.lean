import Mathlib.Data.BitVec

/-
  The requests of the kernel-mode test driver, from
  `CxPlatTests.h` and `control.cpp`, and the cases of
  `cxplat_gtest.cpp` that send them.

  A request names a test by its control code.  The driver
  checks the function code that is part of it, looks up how
  long the input must be, and then picks the test by the
  whole code.

  Key definitions include:
    * `Routine`, `ioctlRun`
    * `IoRequest`, `deviceControl`
    * `Case`, `cases`

  Key theorems include:
    * `deviceControl_runs_iff`
    * `deviceControl_onTable`
    * `requests_run_their_tests`
-/

------------------------------------------------------------
-- Status Codes and Control Codes
------------------------------------------------------------

namespace CxPlat

namespace TestDriver

/- `NTSTATUS`. -/
abbrev Status := BitVec 32

def statusSuccess : Status := 0

def statusNotImplemented : Status := 0xC0000002

def statusInvalidParameter : Status := 0xC000000D

def statusInsufficientResources : Status := 0xC000009A

def statusDeviceNotReady : Status := 0xC00000A3

def statusNotSupported : Status := 0xC00000BB

def statusTooManySessions : Status := 0xC00000CE

def statusFailFastException : Status := 0xC0000602

/- `NT_SUCCESS`. -/
def ntSuccess
    (status : Status) : Bool :=
  0 ≤ status.toInt

/- `CTL_CODE`. -/
def ctlCode
    (deviceType function method access : BitVec 32) :
    BitVec 32 :=
  (deviceType <<< 16) ||| (access <<< 14) |||
    (function <<< 2) ||| method

def fileDeviceNetwork : BitVec 32 := 0x12

def methodBuffered : BitVec 32 := 0

def fileWriteData : BitVec 32 := 2

/- `CXPLAT_CTL_CODE`. -/
def cxplatCtlCode
    (request method access : BitVec 32) : BitVec 32 :=
  ctlCode fileDeviceNetwork request method access

/- `IoGetFunctionCodeFromCtlCode`. -/
def ioGetFunctionCodeFromCtlCode
    (controlCode : BitVec 32) : BitVec 32 :=
  (controlCode >>> 2) &&& 0x00000FFF

/- The code of a request that runs a test. -/
def ioctl
    (request : BitVec 32) : BitVec 32 :=
  cxplatCtlCode request methodBuffered fileWriteData

def ioctlRunCryptRandom : BitVec 32 := ioctl 1

def ioctlRunMemoryBasic : BitVec 32 := ioctl 2

def ioctlRunTimeBasic : BitVec 32 := ioctl 3

def ioctlRunEventBasic : BitVec 32 := ioctl 4

def ioctlRunProcBasic : BitVec 32 := ioctl 5

def ioctlRunThreadBasic : BitVec 32 := ioctl 6

def ioctlRunThreadWaitTimeout : BitVec 32 := ioctl 7

def ioctlRunVectorBasic : BitVec 32 := ioctl 8

def ioctlRunThreadAsync : BitVec 32 := ioctl 9

def ioctlRunEventCpp : BitVec 32 := ioctl 10

def ioctlRunLockBasic : BitVec 32 := ioctl 11

def ioctlRunLockReadWrite : BitVec 32 := ioctl 12

/- `CXPLAT_MAX_IOCTL_FUNC_CODE`. -/
def maxIoctlFuncCode : BitVec 32 := 12

/- `CXPLAT_IOCTL_BUFFER_SIZES`. -/
def ioctlBufferSizes : List Nat :=
  [0, 0, 0, 0, 0, 0, 0, 0, 0, 0, 0, 0, 0]

end TestDriver

end CxPlat

------------------------------------------------------------
-- Requests
------------------------------------------------------------

namespace CxPlat

namespace TestDriver

/- The test functions that `CxPlatTests.h` declares. -/
inductive Routine where
  | cryptRandom
  | memoryBasic
  | memoryFailureInjection
  | timeBasic
  | eventBasic
  | eventCpp
  | procBasic
  | threadBasic
  | threadAsync
  | threadWaitTimeout
  | vectorBasic
  | lockBasic
  | lockReadWrite
deriving DecidableEq, Repr

/-
  A request as the driver finds it: the IRQL, whether it has
  a file object and that has a context, the input, and what
  `WdfRequestRetrieveInputBuffer` would return and store.
-/
structure IoRequest where
  irql : Nat
  hasFileObject : Bool
  hasFileContext : Bool
  inputBufferLength : Nat
  retrieveStatus : Status
  retrievesBuffer : Bool
  ioControlCode : BitVec 32
deriving DecidableEq, Repr

/-
  A request is completed with a status at once, or it runs a
  test.  The table must not be read past its end.
-/
inductive Outcome where
  | completes (status : Status)
  | runs (routine : Routine)
  | offTable
deriving DecidableEq, Repr

/- The cases of the switch over the whole code. -/
def switchCases : List (BitVec 32 × Routine) :=
  [(ioctlRunCryptRandom, .cryptRandom),
    (ioctlRunMemoryBasic, .memoryBasic),
    (ioctlRunTimeBasic, .timeBasic),
    (ioctlRunEventBasic, .eventBasic),
    (ioctlRunProcBasic, .procBasic),
    (ioctlRunThreadBasic, .threadBasic),
    (ioctlRunThreadAsync, .threadAsync),
    (ioctlRunThreadWaitTimeout, .threadWaitTimeout),
    (ioctlRunVectorBasic, .vectorBasic),
    (ioctlRunEventCpp, .eventCpp),
    (ioctlRunLockBasic, .lockBasic),
    (ioctlRunLockReadWrite, .lockReadWrite)]

def selectRoutine
    (code : BitVec 32) : Outcome :=
  match switchCases.lookup code with
  | some routine => .runs routine
  | none => .completes statusNotImplemented

/- The part about the input, which no test has. -/
def checkInput
    (request : IoRequest)
    (size : Nat) : Option Status :=
  if request.inputBufferLength < size then
    some statusInsufficientResources
  else if size ≠ 0 then
    if ntSuccess request.retrieveStatus = false then
      some request.retrieveStatus
    else if request.retrievesBuffer = false then
      some statusInvalidParameter
    else
      none
  else
    none

/- `CxPlatTestCtlEvtIoDeviceControl`, up to the test. -/
def deviceControl
    (request : IoRequest) : Outcome :=
  if 0 < request.irql then
    .completes statusNotSupported
  else if request.hasFileObject = false then
    .completes statusDeviceNotReady
  else if request.hasFileContext = false then
    .completes statusDeviceNotReady
  else
    let functionCode :=
      ioGetFunctionCodeFromCtlCode request.ioControlCode
    if functionCode = 0 ∨ maxIoctlFuncCode < functionCode then
      .completes statusNotImplemented
    else
      match ioctlBufferSizes[functionCode.toNat]? with
      | none => .offTable
      | some size =>
          match checkInput request size with
          | some status => .completes status
          | none => selectRoutine request.ioControlCode

/- The code that asks for a test, if there is one. -/
def ioctlRun : Routine → Option (BitVec 32)
  | .cryptRandom => some ioctlRunCryptRandom
  | .memoryBasic => some ioctlRunMemoryBasic
  | .memoryFailureInjection => none
  | .timeBasic => some ioctlRunTimeBasic
  | .eventBasic => some ioctlRunEventBasic
  | .eventCpp => some ioctlRunEventCpp
  | .procBasic => some ioctlRunProcBasic
  | .threadBasic => some ioctlRunThreadBasic
  | .threadAsync => some ioctlRunThreadAsync
  | .threadWaitTimeout => some ioctlRunThreadWaitTimeout
  | .vectorBasic => some ioctlRunVectorBasic
  | .lockBasic => some ioctlRunLockBasic
  | .lockReadWrite => some ioctlRunLockReadWrite

/- What the driver asks of the request besides the code. -/
def IoRequest.Ready
    (request : IoRequest) : Prop :=
  request.irql = 0 ∧ request.hasFileObject = true ∧
    request.hasFileContext = true

instance
    (request : IoRequest) :
    Decidable request.Ready :=
  inferInstanceAs (Decidable (_ ∧ _))

end TestDriver

end CxPlat

------------------------------------------------------------
-- Which Test a Request Runs
------------------------------------------------------------

namespace CxPlat

namespace TestDriver

variable {request : IoRequest} {routine : Routine}
variable {code : BitVec 32}

/- The cases of the switch are those of the codes. -/
theorem lookup_switchCases_iff :
    switchCases.lookup code = some routine ↔
      ioctlRun routine = some code := by
  have hCases :
      ∀ pair ∈ switchCases,
        switchCases.lookup pair.1 = some pair.2 ∧
          ioctlRun pair.2 = some pair.1 := by
    decide
  constructor
  · intro hFound
    rcases List.lookup_eq_some_iff.mp hFound with
      ⟨before, after, hSplit, _⟩
    have hMem : (code, routine) ∈ switchCases := by
      simp [hSplit]
    exact (hCases _ hMem).2
  · intro hCode
    have hMem : (code, routine) ∈ switchCases := by
      cases routine with
      | memoryFailureInjection => cases hCode
      | _ =>
          cases hCode
          decide
    exact (hCases _ hMem).1

theorem selectRoutine_runs_iff :
    selectRoutine code = .runs routine ↔
      ioctlRun routine = some code := by
  rw [← lookup_switchCases_iff]
  unfold selectRoutine
  cases switchCases.lookup code with
  | none => simp
  | some found => simp

/- The function codes of all requests are on the table. -/
theorem functionCode_of_ioctlRun
    (hCode : ioctlRun routine = some code) :
    ioGetFunctionCodeFromCtlCode code ≠ 0 ∧
      ¬ maxIoctlFuncCode <
        ioGetFunctionCodeFromCtlCode code := by
  cases routine with
  | memoryFailureInjection => cases hCode
  | _ =>
      cases hCode
      decide

/- No test takes an input, so it is never refused. -/
theorem checkInput_of_table
    {functionCode size : Nat}
    (hSize : ioctlBufferSizes[functionCode]? = some size) :
    checkInput request size = none := by
  have hZero : size = 0 := by
    have hAll : ∀ n ∈ ioctlBufferSizes, n = 0 := by decide
    exact hAll size (List.mem_of_getElem? hSize)
  subst hZero
  simp [checkInput]

/- The check of the function code keeps to the table. -/
theorem size_of_functionCode
    {functionCode : BitVec 32}
    (hMax : ¬ maxIoctlFuncCode < functionCode) :
    ∃ size,
      ioctlBufferSizes[functionCode.toNat]? = some size := by
  have hLess : functionCode.toNat < 13 := by
    rw [BitVec.lt_def] at hMax
    simp only [maxIoctlFuncCode] at hMax
    simp at hMax
    omega
  exact ⟨_, List.getElem?_eq_getElem hLess⟩

theorem deviceControl_of_not_ready
    (hNot : ¬ request.Ready) :
    ∃ status,
      deviceControl request = .completes status ∧
        ntSuccess status = false := by
  unfold deviceControl
  by_cases hIrql : 0 < request.irql
  · exact ⟨_, if_pos hIrql, by decide⟩
  · rw [if_neg hIrql]
    cases hFile : request.hasFileObject with
    | false => exact ⟨_, if_pos rfl, by decide⟩
    | true =>
        cases hContext : request.hasFileContext with
        | false => exact ⟨_, rfl, by decide⟩
        | true =>
            refine absurd ⟨?_, hFile, hContext⟩ hNot
            omega

theorem deviceControl_of_ready
    (hReady : request.Ready) :
    deviceControl request =
      if ioGetFunctionCodeFromCtlCode
            request.ioControlCode = 0 ∨
          maxIoctlFuncCode <
            ioGetFunctionCodeFromCtlCode
              request.ioControlCode then
        .completes statusNotImplemented
      else selectRoutine request.ioControlCode := by
  rcases hReady with ⟨hIrql, hFile, hContext⟩
  unfold deviceControl
  simp only [hIrql, hFile, hContext, Nat.lt_irrefl, if_false,
    Bool.true_eq_false]
  split
  next => rfl
  next hCode =>
    rw [not_or] at hCode
    rcases size_of_functionCode hCode.2 with ⟨size, hSize⟩
    simp only [hSize, checkInput_of_table hSize]

/- A request runs the test that its code stands for. -/
theorem deviceControl_runs_iff :
    deviceControl request = .runs routine ↔
      request.Ready ∧
        ioctlRun routine = some request.ioControlCode := by
  by_cases hReady : request.Ready
  · rw [deviceControl_of_ready hReady,
      and_iff_right hReady]
    split
    next hCode =>
      refine iff_of_false (by simp) ?_
      intro hRun
      rcases functionCode_of_ioctlRun hRun with ⟨hSome, hMax⟩
      rcases hCode with hZero | hLarge
      · exact hSome hZero
      · exact hMax hLarge
    next => exact selectRoutine_runs_iff
  · rcases deviceControl_of_not_ready hReady with
      ⟨status, hStatus, _⟩
    simp [hStatus, hReady]

/- One that runs none is completed with an error. -/
theorem deviceControl_cases
    (request : IoRequest) :
    (∃ routine, deviceControl request = .runs routine) ∨
      ∃ status,
        deviceControl request = .completes status ∧
          ntSuccess status = false := by
  by_cases hReady : request.Ready
  · rw [deviceControl_of_ready hReady]
    split
    next => exact Or.inr ⟨_, rfl, by decide⟩
    next =>
      unfold selectRoutine
      cases switchCases.lookup request.ioControlCode with
      | none => exact Or.inr ⟨_, rfl, by decide⟩
      | some routine => exact Or.inl ⟨routine, rfl⟩
  · exact Or.inr (deviceControl_of_not_ready hReady)

theorem deviceControl_onTable
    (request : IoRequest) :
    deviceControl request ≠ .offTable := by
  intro hOff
  rcases deviceControl_cases request with
    ⟨routine, hRuns⟩ | ⟨status, hStatus, _⟩
  · rw [hOff] at hRuns
    cases hRuns
  · rw [hOff] at hStatus
    cases hStatus

end TestDriver

end CxPlat

------------------------------------------------------------
-- The Cases of the Test Program
------------------------------------------------------------

namespace CxPlat

namespace TestDriver

/-
  A case of `cxplat_gtest.cpp`: the test that it says it is,
  the request that it sends to the driver, which it may skip,
  and the test that it calls in user mode.
-/
structure Case where
  logger : Routine
  kernel : Option (BitVec 32)
  user : Routine
deriving DecidableEq, Repr

/- In the debug build on Windows, which has all of them. -/
def cases : List Case :=
  [{ logger := .cryptRandom
     kernel := some ioctlRunCryptRandom
     user := .cryptRandom },
    { logger := .memoryBasic
      kernel := some ioctlRunMemoryBasic
      user := .memoryBasic },
    { logger := .memoryFailureInjection
      kernel := none
      user := .memoryBasic },
    { logger := .timeBasic
      kernel := some ioctlRunTimeBasic
      user := .timeBasic },
    { logger := .eventBasic
      kernel := some ioctlRunEventBasic
      user := .eventBasic },
    { logger := .eventCpp
      kernel := some ioctlRunEventCpp
      user := .eventCpp },
    { logger := .procBasic
      kernel := some ioctlRunProcBasic
      user := .procBasic },
    { logger := .threadBasic
      kernel := some ioctlRunThreadBasic
      user := .threadBasic },
    { logger := .threadAsync
      kernel := some ioctlRunThreadAsync
      user := .threadAsync },
    { logger := .threadWaitTimeout
      kernel := some ioctlRunThreadWaitTimeout
      user := .threadWaitTimeout },
    { logger := .vectorBasic
      kernel := some ioctlRunVectorBasic
      user := .vectorBasic },
    { logger := .lockBasic
      kernel := some ioctlRunLockBasic
      user := .lockBasic },
    { logger := .lockReadWrite
      kernel := some ioctlRunLockReadWrite
      user := .lockReadWrite }]

/-
  A request runs a test exactly if the driver is ready for it
  and it has the code of that test; the table of the sizes is
  only read where it has an entry.  What a case sends to the
  driver runs the same test as in user mode, and only the
  case about injected failures runs another one than it says.
-/
theorem requests_run_their_tests :
    (∀ request routine,
      deviceControl request = .runs routine ↔
        request.Ready ∧
          ioctlRun routine = some request.ioControlCode) ∧
    (∀ request, deviceControl request ≠ .offTable) ∧
    (∀ c ∈ cases, ∀ request : IoRequest,
      request.Ready →
        c.kernel = some request.ioControlCode →
          deviceControl request = .runs c.user) ∧
    (∀ c ∈ cases,
      c.user = c.logger ↔
        c.logger ≠ .memoryFailureInjection) := by
  refine ⟨fun _ _ => deviceControl_runs_iff,
    deviceControl_onTable, ?_, by decide⟩
  intro c hCase request hReady hSends
  rw [deviceControl_runs_iff, ← hSends]
  refine ⟨hReady, ?_⟩
  have hCases :
      ∀ c ∈ cases,
        c.kernel = none ∨ ioctlRun c.user = c.kernel := by
    decide
  rcases hCases c hCase with hNone | hSame
  · rw [hSends] at hNone
    cases hNone
  · exact hSame

end TestDriver

end CxPlat
