import CxPlat.Lib.Transition
import CxPlat.TestDriver.Ioctl

/-
  The kernel-mode test driver and the programs that use it,
  from `control.cpp` and `cxplat_driver_helpers.h`.

  A program opens the device, sends one request after the
  other and waits for each, up to a time-out.  The driver
  runs requests in parallel.  A test logs a failure with the
  client that `CxPlatTestClient` points to, which need not be
  the one whose request it runs.

  The critical sections of the driver are single steps: all
  other code only reads or writes `CxPlatTestClient` and the
  flags of the clients, and a section touches those once.

  Key definitions include:
    * `Device`, `fileCreate`, `fileCleanup`, `logTestFailure`
    * `Harness`, `step`

  Key theorems include:
    * `moves_of_step`
    * `oneClient_step`
    * `one_client`
-/

------------------------------------------------------------
-- The Device
------------------------------------------------------------

namespace CxPlat

namespace TestDriver

/-
  `CXPLAT_DEVICE_EXTENSION`, `CxPlatTestClient` and the flags
  `TestFailure` of the clients, each of which is the context
  of a file.
-/
structure Device (F : Type) where
  clientList : List F
  clientListSize : BitVec 32
  testClient : Option F
  testFailure : F → Bool

variable {F : Type} [DecidableEq F]

/- `CxPlatTestCtlEvtFileCreate`. -/
def fileCreate
    (d : Device F)
    (f : F)
    (hasContext : Bool) : Status × Device F :=
  if 1 ≤ d.clientListSize then
    (statusTooManySessions, d)
  else if hasContext = false then
    (statusInvalidParameter, d)
  else
    (statusSuccess,
      { clientList := d.clientList ++ [f]
        clientListSize := d.clientListSize + 1
        testClient := some f
        testFailure := Function.update d.testFailure f false })

/- `CxPlatTestCtlEvtFileCleanup`, up to the release. -/
def fileCleanup
    (d : Device F)
    (f : F) : Device F :=
  { d with
    clientList := d.clientList.erase f
    clientListSize := d.clientListSize - 1 }

/- The rest of it, which does not hold the lock. -/
def clearClient
    (d : Device F) : Device F :=
  { d with testClient := none }

/- `LogTestFailure`, if there is a client to log it with. -/
def logTestFailure
    (d : Device F) : Option (Device F) :=
  match d.testClient with
  | none => none
  | some g =>
      some
        { d with
          testFailure := Function.update d.testFailure g true }

/- `CxPlatTestCtlRun`, before the test. -/
def beginRoutine
    (d : Device F)
    (f : F) : Device F :=
  { d with
    testFailure := Function.update d.testFailure f false }

/- And after it. -/
def routineStatus
    (d : Device F)
    (f : F) : Status :=
  if d.testFailure f then statusFailFastException
  else statusSuccess

end TestDriver

end CxPlat

------------------------------------------------------------
-- Programs and Requests
------------------------------------------------------------

namespace CxPlat

namespace TestDriver

inductive FilePhase where
  | unopened
  | refused
  | opened
  | clearing
  | closed
deriving DecidableEq, Repr

inductive RequestPhase (F : Type) where
  | unsent
  | running (file : F) (routine : Routine)
  | completed (status : Status)
deriving DecidableEq, Repr

/-
  The device, the files and the requests, the request that
  `CxPlatDriverClient::Run` waits for on each file, and what
  it has returned.  The requests as they were sent and the
  failures that their tests have logged are records that no
  step reads.
-/
structure Harness (F R : Type) where
  device : Device F
  files : F → FilePhase
  requests : R → RequestPhase F
  waiting : F → Option R
  answers : List (R × Bool)
  crashed : Bool
  sent : R → Option IoRequest
  logged : R → Bool

inductive Action (F R : Type) where
  | openFile (f : F) (hasContext : Bool)
  | send (f : F) (r : R) (request : IoRequest)
  | log (r : R)
  | finish (r : R)
  | receive (f : F)
  | timeOut (f : F)
  | closeFile (f : F)
  | clear (f : F)
deriving DecidableEq, Repr

variable {F R : Type} [DecidableEq F] [DecidableEq R]

/- `CxPlatDriverClient::Initialize`. -/
def openFile
    (s : Harness F R)
    (f : F)
    (hasContext : Bool) : Option (Harness F R) :=
  if s.files f = .unopened then
    let (status, device) := fileCreate s.device f hasContext
    some
      { s with
        device := device
        files := Function.update s.files f
          (if ntSuccess status then .opened else .refused) }
  else
    none

/- `CxPlatDriverClient::Run`, until it waits. -/
def send
    (s : Harness F R)
    (f : F)
    (r : R)
    (request : IoRequest) : Option (Harness F R) :=
  if s.files f = .opened ∧ s.waiting f = none ∧
      s.requests r = .unsent then
    let s :=
      { s with
        waiting := Function.update s.waiting f (some r)
        sent := Function.update s.sent r (some request) }
    match deviceControl request with
    | .completes status =>
        some
          { s with
            requests :=
              Function.update s.requests r
                (.completed status) }
    | .runs routine =>
        some
          { s with
            device := beginRoutine s.device f
            requests :=
              Function.update s.requests r
                (.running f routine) }
    | .offTable => some { s with crashed := true }
  else
    none

/- A test logs a failure; without a client that is fatal. -/
def log
    (s : Harness F R)
    (r : R) : Option (Harness F R) :=
  match s.requests r with
  | .running _ _ =>
      let s :=
        { s with
          logged := Function.update s.logged r true }
      match logTestFailure s.device with
      | none => some { s with crashed := true }
      | some device => some { s with device := device }
  | _ => none

/- The test returns, and the request is completed. -/
def finish
    (s : Harness F R)
    (r : R) : Option (Harness F R) :=
  match s.requests r with
  | .running f _ =>
      some
        { s with
          requests :=
            Function.update s.requests r
              (.completed (routineStatus s.device f)) }
  | _ => none

/- `CxPlatDriverClient::Run` learns the status. -/
def receive
    (s : Harness F R)
    (f : F) : Option (Harness F R) :=
  match s.waiting f with
  | none => none
  | some r =>
      match s.requests r with
      | .completed status =>
          some
            { s with
              waiting := Function.update s.waiting f none
              answers :=
                s.answers ++ [(r, ntSuccess status)] }
      | _ => none

/-
  Or it gives up.  The request cannot be cancelled any more:
  the driver has taken it from its queue.
-/
def timeOut
    (s : Harness F R)
    (f : F) : Option (Harness F R) :=
  match s.waiting f with
  | none => none
  | some r =>
      match s.requests r with
      | .running _ _ =>
          some
            { s with
              waiting := Function.update s.waiting f none
              answers := s.answers ++ [(r, false)] }
      | _ => none

/- `CxPlatDriverClient::Uninitialize`. -/
def closeFile
    (s : Harness F R)
    (f : F) : Option (Harness F R) :=
  if s.files f = .opened ∧ s.waiting f = none then
    some
      { s with
        device := fileCleanup s.device f
        files := Function.update s.files f .clearing }
  else
    none

/- The driver comes to the end of the cleanup. -/
def clear
    (s : Harness F R)
    (f : F) : Option (Harness F R) :=
  if s.files f = .clearing then
    some
      { s with
        device := clearClient s.device
        files := Function.update s.files f .closed }
  else
    none

/- One step of a program or of the driver. -/
def step
    (s : Harness F R)
    (action : Action F R) : Option (Harness F R) :=
  if s.crashed then
    none
  else
    match action with
    | .openFile f hasContext => openFile s f hasContext
    | .send f r request => send s f r request
    | .log r => log s r
    | .finish r => finish s r
    | .receive f => receive s f
    | .timeOut f => timeOut s f
    | .closeFile f => closeFile s f
    | .clear f => clear s f

/- After `CxPlatTestCtlInitialize`. -/
def start : Harness F R where
  device :=
    { clientList := []
      clientListSize := 0
      testClient := none
      testFailure := fun _ => false }
  files := fun _ => .unopened
  requests := fun _ => .unsent
  waiting := fun _ => none
  answers := []
  crashed := false
  sent := fun _ => none
  logged := fun _ => false

end TestDriver

end CxPlat

------------------------------------------------------------
-- What a Step Does
------------------------------------------------------------

namespace CxPlat

namespace TestDriver

variable {F R : Type} [DecidableEq F] [DecidableEq R]
variable {s t : Harness F R} {action : Action F R}

/- All that a step can be. -/
inductive Moves
    (s : Harness F R) :
    Action F R → Harness F R → Prop where
  | opened
      {f : F}
      (hPhase : s.files f = .unopened)
      (hSize : ¬ 1 ≤ s.device.clientListSize) :
      Moves s (.openFile f true)
        { s with
          device :=
            { clientList := s.device.clientList ++ [f]
              clientListSize := s.device.clientListSize + 1
              testClient := some f
              testFailure :=
                Function.update s.device.testFailure f
                  false }
          files := Function.update s.files f .opened }
  | refused
      {f : F}
      {hasContext : Bool}
      (hPhase : s.files f = .unopened) :
      Moves s (.openFile f hasContext)
        { s with
          files := Function.update s.files f .refused }
  | completes
      {f : F}
      {r : R}
      {request : IoRequest}
      {status : Status}
      (hPhase : s.files f = .opened)
      (hWaiting : s.waiting f = none)
      (hRequest : s.requests r = .unsent)
      (hControl : deviceControl request = .completes status) :
      Moves s (.send f r request)
        { s with
          requests :=
            Function.update s.requests r (.completed status)
          waiting := Function.update s.waiting f (some r)
          sent := Function.update s.sent r (some request) }
  | runs
      {f : F}
      {r : R}
      {request : IoRequest}
      {routine : Routine}
      (hPhase : s.files f = .opened)
      (hWaiting : s.waiting f = none)
      (hRequest : s.requests r = .unsent)
      (hControl : deviceControl request = .runs routine) :
      Moves s (.send f r request)
        { s with
          device := beginRoutine s.device f
          requests :=
            Function.update s.requests r (.running f routine)
          waiting := Function.update s.waiting f (some r)
          sent := Function.update s.sent r (some request) }
  | logs
      {r : R}
      {f g : F}
      {routine : Routine}
      (hRequest : s.requests r = .running f routine)
      (hClient : s.device.testClient = some g) :
      Moves s (.log r)
        { s with
          device :=
            { s.device with
              testFailure :=
                Function.update s.device.testFailure g true }
          logged := Function.update s.logged r true }
  | crashes
      {r : R}
      {f : F}
      {routine : Routine}
      (hRequest : s.requests r = .running f routine)
      (hClient : s.device.testClient = none) :
      Moves s (.log r)
        { s with
          crashed := true
          logged := Function.update s.logged r true }
  | finish
      {r : R}
      {f : F}
      {routine : Routine}
      (hRequest : s.requests r = .running f routine) :
      Moves s (.finish r)
        { s with
          requests :=
            Function.update s.requests r
              (.completed (routineStatus s.device f)) }
  | receive
      {f : F}
      {r : R}
      {status : Status}
      (hWaiting : s.waiting f = some r)
      (hRequest : s.requests r = .completed status) :
      Moves s (.receive f)
        { s with
          waiting := Function.update s.waiting f none
          answers := s.answers ++ [(r, ntSuccess status)] }
  | timeOut
      {f g : F}
      {r : R}
      {routine : Routine}
      (hWaiting : s.waiting f = some r)
      (hRequest : s.requests r = .running g routine) :
      Moves s (.timeOut f)
        { s with
          waiting := Function.update s.waiting f none
          answers := s.answers ++ [(r, false)] }
  | closeFile
      {f : F}
      (hPhase : s.files f = .opened)
      (hWaiting : s.waiting f = none) :
      Moves s (.closeFile f)
        { s with
          device := fileCleanup s.device f
          files := Function.update s.files f .clearing }
  | clear
      {f : F}
      (hPhase : s.files f = .clearing) :
      Moves s (.clear f)
        { s with
          device := clearClient s.device
          files := Function.update s.files f .closed }

theorem moves_of_openFile
    {f : F}
    {hasContext : Bool}
    (hStep : openFile s f hasContext = some t) :
    Moves s (.openFile f hasContext) t := by
  unfold openFile fileCreate at hStep
  split at hStep
  next hPhase =>
    by_cases hSize : 1 ≤ s.device.clientListSize
    · simp only [if_pos hSize] at hStep
      cases hStep
      exact .refused hPhase
    · cases hasContext with
      | false =>
          simp only [if_neg hSize] at hStep
          cases hStep
          exact .refused hPhase
      | true =>
          simp only [if_neg hSize] at hStep
          cases hStep
          exact .opened hPhase hSize
  next => cases hStep

theorem moves_of_send
    {f : F}
    {r : R}
    {request : IoRequest}
    (hStep : send s f r request = some t) :
    Moves s (.send f r request) t := by
  unfold send at hStep
  split at hStep
  next hGuard =>
    rcases hGuard with ⟨hPhase, hWaiting, hRequest⟩
    cases hControl : deviceControl request with
    | completes status =>
        simp only [hControl] at hStep
        cases hStep
        exact .completes hPhase hWaiting hRequest hControl
    | runs routine =>
        simp only [hControl] at hStep
        cases hStep
        exact .runs hPhase hWaiting hRequest hControl
    | offTable =>
        exact absurd hControl (deviceControl_onTable request)
  next => cases hStep

theorem moves_of_log
    {r : R}
    (hStep : log s r = some t) :
    Moves s (.log r) t := by
  unfold log logTestFailure at hStep
  cases hRequest : s.requests r with
  | running f routine =>
      cases hClient : s.device.testClient with
      | none =>
          simp only [hRequest, hClient] at hStep
          cases hStep
          exact .crashes hRequest hClient
      | some g =>
          simp only [hRequest, hClient] at hStep
          cases hStep
          have hMoves := Moves.logs hRequest hClient
          simp only [hClient] at hMoves
          exact hMoves
  | unsent => simp [hRequest] at hStep
  | completed status => simp [hRequest] at hStep

/- The end of a wait, for either reason. -/
theorem moves_of_wait
    {f : F} :
    (receive s f = some t → Moves s (.receive f) t) ∧
      (timeOut s f = some t → Moves s (.timeOut f) t) := by
  unfold receive timeOut
  cases hWaiting : s.waiting f with
  | none => simp
  | some r =>
      cases hRequest : s.requests r with
      | unsent => simp [hRequest]
      | running g routine =>
          simp only [hRequest, reduceCtorEq, false_implies,
            true_and]
          intro hStep
          cases hStep
          exact .timeOut hWaiting hRequest
      | completed status =>
          simp only [hRequest, reduceCtorEq, false_implies,
            and_true]
          intro hStep
          cases hStep
          exact .receive hWaiting hRequest

theorem moves_of_step
    (hStep : step s action = some t) :
    s.crashed = false ∧ Moves s action t := by
  unfold step at hStep
  split at hStep
  next => cases hStep
  next hCrashed =>
    refine ⟨by simpa using hCrashed, ?_⟩
    cases action with
    | openFile f hasContext => exact moves_of_openFile hStep
    | send f r request => exact moves_of_send hStep
    | log r => exact moves_of_log hStep
    | finish r =>
        simp only [finish] at hStep
        split at hStep
        next f routine hRequest =>
          cases hStep
          exact .finish hRequest
        next => cases hStep
    | receive f => exact moves_of_wait.1 hStep
    | timeOut f => exact moves_of_wait.2 hStep
    | closeFile f =>
        simp only [closeFile] at hStep
        split at hStep
        next hGuard =>
          cases hStep
          exact .closeFile hGuard.1 hGuard.2
        next => cases hStep
    | clear f =>
        simp only [clear] at hStep
        split at hStep
        next hPhase =>
          cases hStep
          exact .clear hPhase
        next => cases hStep

end TestDriver

end CxPlat

------------------------------------------------------------
-- One Client
------------------------------------------------------------

namespace CxPlat

namespace TestDriver

variable {F R : Type} {s t : Harness F R}
variable {action : Action F R}

/-
  The list has the files that are open, of which there is at
  most one, and its size is right.  The current client is
  one whose cleanup has not come to its end.
-/
structure OneClient
    (s : Harness F R) : Prop where
  listed : ∀ f, f ∈ s.device.clientList ↔ s.files f = .opened
  size :
    s.device.clientListSize =
      BitVec.ofNat 32 s.device.clientList.length
  one : s.device.clientList.length ≤ 1
  client :
    ∀ f,
      s.device.testClient = some f →
        s.files f = .opened ∨ s.files f = .clearing

theorem oneClient_start :
    OneClient (start : Harness F R) := by
  constructor
  · intro f
    simp [start]
  · rfl
  · exact Nat.zero_le _
  · intro f hClient
    cases hClient

/- Steps that leave the files and the list alone. -/
theorem OneClient.congr
    (hOne : OneClient s)
    (hFiles : t.files = s.files)
    (hList : t.device.clientList = s.device.clientList)
    (hSize :
      t.device.clientListSize = s.device.clientListSize)
    (hClient :
      t.device.testClient = s.device.testClient) :
    OneClient t := by
  constructor
  · rw [hFiles, hList]
    exact hOne.listed
  · rw [hSize, hList]
    exact hOne.size
  · rw [hList]
    exact hOne.one
  · rw [hFiles, hClient]
    exact hOne.client

/- A file that is open is the only client. -/
theorem OneClient.list_of_opened
    (hOne : OneClient s)
    {f : F}
    (hPhase : s.files f = .opened) :
    s.device.clientList = [f] := by
  have hMem := (hOne.listed f).mpr hPhase
  have hLength := hOne.one
  cases hList : s.device.clientList with
  | nil =>
      rw [hList] at hMem
      cases hMem
  | cons g clients =>
      rw [hList] at hMem hLength
      have hNil : clients = [] := by
        apply List.eq_nil_of_length_eq_zero
        simp only [List.length_cons] at hLength
        omega
      subst hNil
      rw [List.mem_singleton.mp hMem]

theorem OneClient.unique
    (hOne : OneClient s)
    {f g : F}
    (hFirst : s.files f = .opened)
    (hSecond : s.files g = .opened) :
    f = g := by
  have hList := hOne.list_of_opened hFirst
  rw [hOne.list_of_opened hSecond] at hList
  exact (List.singleton_inj.mp hList).symm

/- The check of the size tells whether there is a client. -/
theorem OneClient.size_iff
    (hOne : OneClient s) :
    1 ≤ s.device.clientListSize ↔
      s.device.clientList ≠ [] := by
  have hLength := hOne.one
  rw [hOne.size]
  cases hList : s.device.clientList with
  | nil => simp
  | cons f clients =>
      have hNil : clients = [] := by
        apply List.eq_nil_of_length_eq_zero
        simp only [hList, List.length_cons] at hLength
        omega
      subst hNil
      simp

variable [DecidableEq F] [DecidableEq R]

theorem oneClient_step
    (hOne : OneClient s)
    (hStep : step s action = some t) :
    OneClient t := by
  cases (moves_of_step hStep).2 with
  | @opened f hPhase hSize =>
      have hNone : s.device.clientList = [] := by
        by_contra hSome
        exact hSize (hOne.size_iff.mpr hSome)
      constructor
      · intro g
        by_cases hSame : g = f
        · subst hSame
          simp
        · have hOther := hOne.listed g
          rw [hNone] at hOther
          simpa [hNone, hSame] using hOther
      · simp [hOne.size, hNone]
      · simp [hNone]
      · intro g hClient
        simp only [Option.some.injEq] at hClient
        subst hClient
        simp
  | @refused f hasContext hPhase =>
      constructor
      · intro g
        by_cases hSame : g = f
        · subst hSame
          simp [hOne.listed, hPhase]
        · simp [hSame, hOne.listed]
      · exact hOne.size
      · exact hOne.one
      · intro g hClient
        have hOld := hOne.client g hClient
        have hOther : g ≠ f := by
          intro hSame
          subst hSame
          simp [hPhase] at hOld
        simpa [hOther] using hOld
  | completes => exact hOne.congr rfl rfl rfl rfl
  | runs => exact hOne.congr rfl rfl rfl rfl
  | logs => exact hOne.congr rfl rfl rfl rfl
  | crashes => exact hOne.congr rfl rfl rfl rfl
  | finish => exact hOne.congr rfl rfl rfl rfl
  | receive => exact hOne.congr rfl rfl rfl rfl
  | timeOut => exact hOne.congr rfl rfl rfl rfl
  | @closeFile f hPhase hWaiting =>
      have hList := hOne.list_of_opened hPhase
      have hSize := hOne.size
      rw [hList] at hSize
      constructor
      · intro g
        by_cases hSame : g = f
        · subst hSame
          simp [fileCleanup, hList]
        · have hOther := hOne.listed g
          rw [hList] at hOther
          simpa [fileCleanup, hList, hSame] using hOther
      · simp [fileCleanup, hList, hSize]
      · simp [fileCleanup, hList]
      · intro g hClient
        by_cases hSame : g = f
        · subst hSame
          simp
        · simpa [hSame] using hOne.client g hClient
  | @clear f hPhase =>
      constructor
      · intro g
        by_cases hSame : g = f
        · subst hSame
          simp [clearClient, hOne.listed, hPhase]
        · simp [clearClient, hSame, hOne.listed]
      · exact hOne.size
      · exact hOne.one
      · intro g hClient
        cases hClient

/-
  In every run, with time-outs and overlapping cleanups or
  not: at most one file is open, the driver refuses another
  one as long as it is, and `CxPlatTestClient` never points
  to a file whose cleanup has come to its end.
-/
theorem one_client
    {actions : List (Action F R)}
    (hRun : Transition.run step start actions = some s) :
    (∀ f g,
      s.files f = .opened → s.files g = .opened → f = g) ∧
    (∀ f,
      (fileCreate s.device f true).1 =
          statusTooManySessions ↔
        ∃ g, s.files g = .opened) ∧
    (∀ f,
      s.device.testClient = some f →
        s.files f = .opened ∨ s.files f = .clearing) := by
  have hOne : OneClient s :=
    Transition.invariant_run
      (fun _ _ _ => oneClient_step) oneClient_start hRun
  refine ⟨fun _ _ => hOne.unique, ?_, hOne.client⟩
  intro f
  have hSize := hOne.size_iff
  unfold fileCreate
  split
  next hLarge =>
    refine iff_of_true rfl ?_
    rcases List.exists_mem_of_ne_nil _
      (hSize.mp hLarge) with ⟨g, hMem⟩
    exact ⟨g, (hOne.listed g).mp hMem⟩
  next hSmall =>
    simp only [Bool.true_eq_false, if_false]
    refine iff_of_false (by decide) ?_
    rintro ⟨g, hPhase⟩
    apply hSmall
    rw [hSize, hOne.list_of_opened hPhase]
    exact List.cons_ne_nil _ _

/- A second program is refused while the first one is in. -/
theorem one_client_second :
    ∃ s : Harness Bool Bool,
      Transition.run step start
          [.openFile true true, .openFile false true] =
          some s ∧
        s.files false = .refused ∧
        (fileCreate s.device false true).1 =
          statusTooManySessions := by
  have hEnds :
      ∃ s : Harness Bool Bool,
        Transition.run step start
            [.openFile true true, .openFile false true] =
            some s ∧
          s.files false = .refused ∧ s.files true = .opened :=
    ⟨_, rfl, rfl, rfl⟩
  rcases hEnds with ⟨s, hRun, hRefused, hOpened⟩
  exact ⟨s, hRun, hRefused,
    ((one_client hRun).2.1 false).mpr ⟨true, hOpened⟩⟩

end TestDriver

end CxPlat
