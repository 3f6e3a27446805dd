import CxPlat.Lib.Comp
import CxPlat.Lib.Ledger
import CxPlat.WinKernel.Thread
import CxPlat.WinTime

/-
  `CxPlatInitialize`, `CxPlatUninitialize` and the global
  variables of kernel mode, from `cxplat_winkernel.c`.

  Initialising stores the number of processors and the
  frequency of the performance counter and opens a provider
  of random numbers.  If that fails, the provider that the
  variable still names is closed, which can only be one of an
  earlier call.

  Key definitions include:
    * `cxPlatInitialize`, `cxPlatUninitialize`
    * `cxPlatRandom`
    * `Books`, `record`
    * `Accounts`

  Key theorems include:
    * `accounts_init`, `accounts_uninit`
    * `accounts_session`
    * `kernelLibrary_accounts`
-/

------------------------------------------------------------
-- The Functions
------------------------------------------------------------

namespace CxPlat

namespace KernelLibrary

open KernelThread (Status failed)

def statusInvalidHandle : Status := 0xC0000008

/-
  What the system answers.  The frequency is never zero, and a
  call that fails to open the provider may or may not store a
  null handle.
-/
structure Answers where
  processors : BitVec 32
  frequency : BitVec 64
  openStatus : Status
  clears : Bool
  counts : frequency ≠ 0

/-
  The global variables, with a null handle as none, and the
  books about the providers, which no code reads.
-/
structure State where
  processorCount : BitVec 32
  perfFreq : BitVec 64
  rngAlgorithm : Option Nat
  providers : Ledger

inductive Fault where
  | closedTwice
  | usedClosed
  | assertFailed
  | zeroDivide
deriving DecidableEq, Repr

/- Before the first call. -/
def load : State where
  processorCount := 0
  perfFreq := 0
  rngAlgorithm := none
  providers := Ledger.empty

def bCryptOpenAlgorithmProvider
    (answers : Answers) : Comp Fault State Status := do
  modify fun s =>
    if failed answers.openStatus then
      if answers.clears then
        { s with rngAlgorithm := none }
      else
        s
    else
      { s with
        rngAlgorithm := some s.providers.next
        providers := s.providers.acquire }
  return answers.openStatus

/- A null handle is refused and nothing happens. -/
def bCryptCloseAlgorithmProvider :
    Comp Fault State Unit := do
  let s ← get
  match s.rngAlgorithm with
  | none => pure ()
  | some provider =>
      match s.providers.release provider with
      | none => throw .closedTwice
      | some providers =>
          set { s with providers := providers }

/- What a failed `CxPlatInitialize` does from `Error` on. -/
def cleanUp : Comp Fault State Unit := do
  let s ← get
  if s.rngAlgorithm.isSome then
    bCryptCloseAlgorithmProvider
    modify fun s => { s with rngAlgorithm := none }

/- `CxPlatInitialize`. -/
def cxPlatInitialize
    (answers : Answers) : Comp Fault State Status := do
  modify fun s =>
    { s with
      processorCount := answers.processors
      perfFreq := answers.frequency }
  let status ← bCryptOpenAlgorithmProvider answers
  if failed status then
    cleanUp
  return status

/- `CxPlatUninitialize`. -/
def cxPlatUninitialize : Comp Fault State Unit := do
  bCryptCloseAlgorithmProvider
  modify fun s => { s with rngAlgorithm := none }

/-
  `CxPlatRandom`.  The provider's own answer is given; a null
  handle without the flag for the system's provider is
  refused.
-/
def cxPlatRandom
    (debug : Bool)
    (answer : Status) : Comp Fault State Status := do
  let s ← get
  match s.rngAlgorithm with
  | none =>
      if debug then
        throw .assertFailed
      else
        return statusInvalidHandle
  | some provider =>
      if provider ∈ s.providers.held then
        return answer
      else
        throw .usedClosed

/- `CxPlatTimePlatToUs64` divides by the frequency. -/
def timePlatToUs64
    (count : BitVec 64) :
    Comp Fault State (BitVec 64) := do
  let s ← get
  if s.perfFreq = 0 then
    throw .zeroDivide
  else
    return WinTime.Kernel.timePlatToUs64 s.perfFreq count

inductive Op where
  | init (answers : Answers)
  | uninit

/- Calls one after the other, in any order. -/
def session : List Op → Comp Fault State Unit
  | [] => pure ()
  | .init answers :: ops => do
      let _ ← cxPlatInitialize answers
      session ops
  | .uninit :: ops => do
      cxPlatUninitialize
      session ops

end KernelLibrary

end CxPlat

------------------------------------------------------------
-- What the Calls Come To
------------------------------------------------------------

namespace CxPlat

namespace KernelLibrary

open KernelThread (Status failed)

/-
  What can be told from the calls and the answers alone: is
  there a provider in use, has the library ever been
  initialised, and how many providers have been lost.
-/
structure Books where
  opened : Bool
  started : Bool
  lost : Nat
deriving DecidableEq, Repr

def Books.blank : Books where
  opened := false
  started := false
  lost := 0

/-
  A provider in use is lost if initialising opens another one,
  or fails and clears the handle.
-/
def record
    (books : Books) : Op → Books
  | .init answers =>
      { opened := !failed answers.openStatus
        started := true
        lost :=
          if failed answers.openStatus && !answers.clears then
            books.lost
          else
            books.opened.toNat + books.lost }
  | .uninit => { books with opened := false }

def booksAfter
    (ops : List Op) : Books :=
  ops.foldl record .blank

/- The library is only initialised while it is not. -/
def Serialised : Books → List Op → Prop
  | _, [] => True
  | books, op :: ops =>
      (match op with
        | .init _ => books.opened = false
        | .uninit => True) ∧
        Serialised (record books op) ops

/- The variables and the providers are as the books say. -/
structure Accounts
    (books : Books)
    (s : State) : Prop where
  sound : s.providers.Sound
  current : s.rngAlgorithm.isSome = books.opened
  valid :
    ∀ provider ∈ s.rngAlgorithm,
      provider ∈ s.providers.held
  held :
    s.providers.held.length =
      s.rngAlgorithm.toList.length + books.lost
  started : s.perfFreq ≠ 0 ↔ books.started = true

theorem accounts_load :
    Accounts .blank load where
  sound := Ledger.sound_empty
  current := rfl
  valid := by simp [load]
  held := rfl
  started := by simp [load, Books.blank]

end KernelLibrary

end CxPlat

------------------------------------------------------------
-- One Call
------------------------------------------------------------

namespace CxPlat

namespace KernelLibrary

open Comp
open KernelThread (Status failed)

variable {books : Books} {s : State} {answers : Answers}

/- Closing the provider in use, which is then forgotten. -/
def State.closed
    (s : State) : State :=
  { s with
    rngAlgorithm := none
    providers :=
      match s.rngAlgorithm with
      | none => s.providers
      | some provider =>
          { s.providers with
            held := s.providers.held.erase provider
            released := provider :: s.providers.released } }

theorem exec_close
    (hValid :
      ∀ provider ∈ s.rngAlgorithm,
        provider ∈ s.providers.held) :
    exec cxPlatUninitialize s = .ok ((), s.closed) := by
  unfold cxPlatUninitialize bCryptCloseAlgorithmProvider
  simp only [exec_bind, exec_get]
  cases hCurrent : s.rngAlgorithm with
  | none => simp [State.closed, hCurrent]
  | some provider =>
      have hHeld := hValid provider hCurrent
      simp [Ledger.release_held hHeld, State.closed, hCurrent]

/- What is left after the provider in use has been closed. -/
theorem Accounts.closed
    (hAccounts : Accounts books s) :
    Accounts { books with opened := false } s.closed := by
  have hHeld := hAccounts.held
  constructor
  · cases hCurrent : s.rngAlgorithm with
    | none => simpa [State.closed, hCurrent] using hAccounts.sound
    | some provider =>
        have hMem := hAccounts.valid provider hCurrent
        have hSound :=
          hAccounts.sound.release (Ledger.release_held hMem)
        simpa [State.closed, hCurrent] using hSound
  · rfl
  · simp [State.closed]
  · cases hCurrent : s.rngAlgorithm with
    | none => simpa [State.closed, hCurrent] using hHeld
    | some provider =>
        have hMem := hAccounts.valid provider hCurrent
        rw [hCurrent] at hHeld
        simp only [State.closed, hCurrent,
          List.length_erase_of_mem hMem, hHeld]
        simp
  · exact hAccounts.started

theorem accounts_uninit
    (hAccounts : Accounts books s) :
    Returns cxPlatUninitialize s
      (fun _ t => Accounts (record books .uninit) t) :=
  returns_of_exec (exec_close hAccounts.valid)
    hAccounts.closed

/- The new values of the first two variables. -/
def State.measured
    (s : State)
    (answers : Answers) : State :=
  { s with
    processorCount := answers.processors
    perfFreq := answers.frequency }

theorem Accounts.measured
    (hAccounts : Accounts books s)
    (answers : Answers) :
    Accounts { books with started := true }
      (s.measured answers) where
  sound := hAccounts.sound
  current := hAccounts.current
  valid := hAccounts.valid
  held := hAccounts.held
  started := by
    constructor
    · intro _
      rfl
    · intro _
      exact answers.counts

/- A provider is opened, and the one before it is lost. -/
theorem Accounts.opens
    (hAccounts : Accounts books s) :
    Accounts
      { books with
        opened := true
        lost := books.opened.toNat + books.lost }
      { s with
        rngAlgorithm := some s.providers.next
        providers := s.providers.acquire } := by
  have hHeld := hAccounts.held
  rw [← hAccounts.current]
  constructor
  · exact hAccounts.sound.acquire
  · rfl
  · simp [Ledger.acquire]
  · cases hCurrent : s.rngAlgorithm with
    | none =>
        rw [hCurrent] at hHeld
        simpa [Ledger.acquire, Nat.add_comm] using hHeld
    | some provider =>
        rw [hCurrent] at hHeld
        simp only [Option.toList_some, List.length_singleton]
          at hHeld
        simp [Ledger.acquire, hHeld, Nat.add_comm]
  · exact hAccounts.started

/- The handle is cleared, and its provider is lost. -/
theorem Accounts.clears
    (hAccounts : Accounts books s) :
    Accounts
      { books with
        opened := false
        lost := books.opened.toNat + books.lost }
      { s with rngAlgorithm := none } := by
  have hHeld := hAccounts.held
  rw [← hAccounts.current]
  constructor
  · exact hAccounts.sound
  · rfl
  · simp
  · cases hCurrent : s.rngAlgorithm with
    | none =>
        rw [hCurrent] at hHeld
        simpa using hHeld
    | some provider =>
        rw [hCurrent] at hHeld
        simpa using hHeld
  · exact hAccounts.started

theorem State.closed_of_none
    (hCurrent : s.rngAlgorithm = none) :
    s.closed = s := by
  cases s
  cases hCurrent
  rfl

theorem exec_cleanUp
    (hValid :
      ∀ provider ∈ s.rngAlgorithm,
        provider ∈ s.providers.held) :
    exec cleanUp s = .ok ((), s.closed) := by
  unfold cleanUp
  simp only [exec_bind, exec_get]
  cases hCurrent : s.rngAlgorithm with
  | none =>
      rw [State.closed_of_none hCurrent]
      rfl
  | some provider =>
      have hClose := exec_close hValid
      unfold cxPlatUninitialize at hClose
      simpa using hClose

theorem accounts_init
    (hAccounts : Accounts books s)
    (answers : Answers) :
    Returns (cxPlatInitialize answers) s
      (fun _ t =>
        Accounts (record books (.init answers)) t) := by
  have hMeasured := hAccounts.measured answers
  unfold cxPlatInitialize bCryptOpenAlgorithmProvider
  simp only [bind_assoc, pure_bind, returns_bind,
    returns_modify]
  change
    Returns _
      (if failed answers.openStatus then
        if answers.clears then
          { s.measured answers with rngAlgorithm := none }
        else s.measured answers
      else _) _
  cases hFailed : failed answers.openStatus with
  | false =>
      have hOpens := hMeasured.opens
      simpa [record, hFailed, State.measured] using hOpens
  | true =>
      cases hClears : answers.clears with
      | true =>
          have hCleared := hMeasured.clears
          simp only [if_true]
          rw [returns_bind_of_exec
            (exec_cleanUp hCleared.valid),
            State.closed_of_none rfl, returns_pure]
          simpa [record, hFailed, hClears] using hCleared
      | false =>
          simp only [if_true, Bool.false_eq_true, if_false]
          rw [returns_bind_of_exec
            (exec_cleanUp hMeasured.valid), returns_pure]
          simpa [record, hFailed, hClears] using
            hMeasured.closed

end KernelLibrary

end CxPlat

------------------------------------------------------------
-- Whole Sessions
------------------------------------------------------------

namespace CxPlat

namespace KernelLibrary

open Comp
open KernelThread (Status failed)

variable {books : Books} {s : State}

/- By induction on the calls. -/
theorem accounts_session
    (ops : List Op)
    (hAccounts : Accounts books s) :
    Returns (session ops) s
      (fun _ t => Accounts (ops.foldl record books) t) := by
  induction ops generalizing books s with
  | nil =>
      unfold session
      rw [returns_pure]
      exact hAccounts
  | cons op ops hRest =>
      cases op with
      | init answers =>
          apply (accounts_init hAccounts answers).bind
          intro _ t hNext
          exact hRest hNext
      | uninit =>
          apply (accounts_uninit hAccounts).bind
          intro _ t hNext
          exact hRest hNext

/- Serialised calls lose no provider, whatever fails. -/
theorem lost_of_serialised
    (ops : List Op)
    (hSerialised : Serialised books ops) :
    (ops.foldl record books).lost = books.lost := by
  induction ops generalizing books with
  | nil => rfl
  | cons op ops hRest =>
      rcases hSerialised with ⟨hFirst, hTail⟩
      rw [List.foldl_cons, hRest hTail]
      cases op with
      | init answers =>
          simp only at hFirst
          simp [record, hFirst]
      | uninit => rfl

theorem Accounts.held_of_lost
    (hAccounts : Accounts books s)
    (hLost : books.lost = 0) :
    s.providers.held = s.rngAlgorithm.toList := by
  have hHeld := hAccounts.held
  rw [hLost, Nat.add_zero] at hHeld
  cases hCurrent : s.rngAlgorithm with
  | none =>
      rw [hCurrent] at hHeld
      exact List.length_eq_zero_iff.mp hHeld
  | some provider =>
      rw [hCurrent] at hHeld
      obtain ⟨other, hOnly⟩ :=
        List.length_eq_one_iff.mp hHeld
      have hMem := hAccounts.valid provider hCurrent
      rw [hOnly, List.mem_singleton] at hMem
      rw [hOnly, hMem]
      rfl

theorem Accounts.exec_random
    (hAccounts : Accounts books s)
    (debug : Bool)
    (answer : Status) :
    exec (cxPlatRandom debug answer) s =
      if books.opened then
        .ok (answer, s)
      else if debug then
        .error .assertFailed
      else
        .ok (statusInvalidHandle, s) := by
  unfold cxPlatRandom
  simp only [exec_bind, exec_get, ← hAccounts.current]
  cases hCurrent : s.rngAlgorithm with
  | none =>
      cases debug with
      | false => rfl
      | true => rfl
  | some provider =>
      simp [hAccounts.valid provider hCurrent]

theorem Accounts.exec_time
    (hAccounts : Accounts books s)
    (count : BitVec 64) :
    exec (timePlatToUs64 count) s =
      if books.started then
        .ok (WinTime.Kernel.timePlatToUs64 s.perfFreq count, s)
      else
        .error .zeroDivide := by
  unfold timePlatToUs64
  simp only [exec_bind, exec_get]
  have hStarted := hAccounts.started
  cases hBooks : books.started with
  | false =>
      rw [hBooks] at hStarted
      have hZero : s.perfFreq = 0 := by simpa using hStarted
      simp [hZero]
  | true =>
      rw [hBooks] at hStarted
      have hCounts : s.perfFreq ≠ 0 := hStarted.mpr rfl
      rw [if_neg hCounts]
      rfl

/-
  What the variables are good for after a session: a provider
  is never closed twice, the providers that are open are the
  one in use and those that were lost, random numbers come
  from the one in use, and times can be converted once the
  library has been initialised.
-/
structure Usable
    (books : Books)
    (s : State) : Prop where
  sound : s.providers.Sound
  held :
    s.providers.held.length = books.opened.toNat + books.lost
  random :
    ∀ debug answer,
      exec (cxPlatRandom debug answer) s =
        if books.opened then
          .ok (answer, s)
        else if debug then
          .error .assertFailed
        else
          .ok (statusInvalidHandle, s)
  time :
    ∀ count,
      exec (timePlatToUs64 count) s =
        if books.started then
          .ok
            (WinTime.Kernel.timePlatToUs64 s.perfFreq count, s)
        else
          .error .zeroDivide

theorem Accounts.usable
    (hAccounts : Accounts books s) :
    Usable books s where
  sound := hAccounts.sound
  held := by
    rw [hAccounts.held, ← hAccounts.current]
    cases s.rngAlgorithm with
    | none => rfl
    | some provider => rfl
  random := hAccounts.exec_random
  time := hAccounts.exec_time

/- Every sequence of calls, with every answer. -/
theorem kernelLibrary_accounts
    (ops : List Op) :
    Returns (session ops) load (fun _ s =>
      Usable (booksAfter ops) s ∧
        (Serialised .blank ops →
          s.providers.held = s.rngAlgorithm.toList)) := by
  apply (accounts_session ops accounts_load).mono
  intro _ s hAccounts
  refine ⟨hAccounts.usable, ?_⟩
  intro hSerialised
  exact hAccounts.held_of_lost
    (lost_of_serialised ops hSerialised)

/- A counter of ten megahertz, and a provider that opens. -/
def opens : Answers where
  processors := 4
  frequency := 10000000
  openStatus := 0
  clears := false
  counts := by decide

/- The provider cannot be opened. -/
def refuses : Answers :=
  { opens with openStatus := 0xC0000001 }

/- The library comes and goes, fails and comes again. -/
def reopened : List Op :=
  [.init opens, .uninit, .init refuses, .init opens]

theorem kernelLibrary_accounts_reopened :
    Returns (session reopened) load (fun _ s =>
      Usable { opened := true, started := true, lost := 0 }
          s ∧
        s.rngAlgorithm = some 1 ∧
        s.providers.held = [1]) := by
  have hSerialised : Serialised .blank reopened :=
    ⟨rfl, trivial, rfl, rfl, trivial⟩
  have hProvider :
      Returns (session reopened) load
        (fun _ s => s.rngAlgorithm = some 1) :=
    ⟨_, _, rfl, rfl⟩
  apply ((kernelLibrary_accounts reopened).and
    hProvider).mono
  rintro _ s ⟨⟨hUsable, hHeld⟩, hSome⟩
  refine ⟨hUsable, hSome, ?_⟩
  rw [hHeld hSerialised, hSome]
  rfl

end KernelLibrary

end CxPlat
