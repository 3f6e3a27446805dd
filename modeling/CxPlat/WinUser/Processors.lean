import CxPlat.Lib.Comp
import Mathlib.Data.BitVec

/-
  The processor tables and the life of the library in user
  mode on Windows, from `cxplat_winuser.c`, without the debug
  assertions.

  `CxPlatProcessorInfoInit` gets a temporary description of
  the processor groups from `CxPlatGetProcessorGroupInfo`,
  builds two tables from it, and has one label at which all
  its error paths meet.

  Key definitions include:
    * `Answers`, `State`
    * `getProcessorGroupInfo`
    * `processorInfoInit`, `processorInfoUnInit`
    * `cxPlatInitialize`, `cxPlatUninitialize`
-/

------------------------------------------------------------
-- Tables and Memory
------------------------------------------------------------

namespace CxPlat

namespace WinUser

/- `HRESULT`. -/
abbrev Status := BitVec 32

def statusSuccess : Status := 0

def statusOutOfMemory : Status := 0x8007000e

def statusNotSupported : Status := 0x80004002

/- `CXPLAT_FAILED`. -/
def failed
    (status : Status) : Bool :=
  status.toInt < 0

/- `HRESULT_FROM_WIN32`. -/
def hresultFromWin32
    (error : BitVec 32) : Status :=
  if error.toInt ≤ 0 then
    error
  else
    (error &&& 0x0000FFFF) ||| 0x80070000

/- A group, as `GetLogicalProcessorInformationEx` says. -/
structure SystemGroup where
  activeProcessorCount : BitVec 8
  activeProcessorMask : BitVec 64
deriving DecidableEq, Repr

/- `CXPLAT_PROCESSOR_INFO`. -/
structure ProcessorInfo where
  index : Nat
  group : Nat
deriving DecidableEq, Repr

/- `CXPLAT_PROCESSOR_GROUP_INFO`. -/
structure ProcessorGroupInfo where
  mask : BitVec 64
  count : Nat
  offset : Nat
deriving DecidableEq, Repr

/- A block of memory and the heap that it belongs to. -/
structure Block where
  heap : Nat
  id : Nat
deriving DecidableEq, Repr

/- A table in memory, with entries that may not be set. -/
structure Table (α : Type) where
  block : Block
  entries : List (Option α)
deriving DecidableEq, Repr

/-
  What the called functions answer: the size query, the one
  for the groups, and the allocations.
-/
structure Answers where
  heapCreate : Bool
  firstLength : BitVec 32
  firstError : BitVec 32
  allocInfo : Bool
  secondSucceeds : Bool
  secondError : BitVec 32
  activeGroups : List SystemGroup
  allocProcessors : Bool
  allocGroups : Bool
deriving DecidableEq, Repr

/-
  The globals of the library, and all heaps and blocks that
  exist.
-/
structure State where
  heap : Option Nat
  processorInfo : Option (Table ProcessorInfo)
  processorGroupInfo : Option (Table ProcessorGroupInfo)
  processorCount : Nat
  heaps : List Nat
  live : List Block
  next : Nat
deriving DecidableEq, Repr

inductive Fault where
  | noHeap
  | doubleFree
  | nullInfo
  | freedInfo
  | assertFailed
  | offTable
  | zeroDivide
deriving DecidableEq, Repr

/- Before the first call. -/
def unloaded : State where
  heap := none
  processorInfo := none
  processorGroupInfo := none
  processorCount := 0
  heaps := []
  live := []
  next := 0

/- With a heap of its own and nothing else. -/
def heapOnly : State :=
  { unloaded with heap := some 0, heaps := [0], next := 1 }

/- `CXPLAT_ALLOC_NONPAGED`. -/
def alloc
    (succeeds : Bool) : Comp Fault State (Option Block) := do
  let s ← get
  match s.heap with
  | none => throw .noHeap
  | some heap =>
      if succeeds then
        let block := { heap := heap, id := s.next }
        set { s with
          live := block :: s.live
          next := s.next + 1 }
        return some block
      else
        return none

/- `CXPLAT_FREE` of a block. -/
def free
    (block : Block) : Comp Fault State Unit := do
  let s ← get
  if block ∈ s.live then
    set { s with live := s.live.erase block }
  else
    throw .doubleFree

/- `HeapCreate`. -/
def heapCreate
    (succeeds : Bool) : Comp Fault State Unit :=
  modify (fun s =>
    if succeeds then
      { s with
        heap := some s.next
        heaps := s.next :: s.heaps
        next := s.next + 1 }
    else
      { s with heap := none })

/- `HeapDestroy` of the heap, with all that is left in it. -/
def heapDestroy : Comp Fault State Unit := do
  let s ← get
  match s.heap with
  | none => throw .noHeap
  | some heap =>
      if heap ∈ s.heaps then
        set { s with
          heap := none
          heaps := s.heaps.erase heap
          live := s.live.filter (fun b => b.heap ≠ heap) }
      else
        throw .noHeap

end WinUser

end CxPlat

------------------------------------------------------------
-- The Processor Tables
------------------------------------------------------------

namespace CxPlat

namespace WinUser

/-
  `CxPlatGetProcessorGroupInfo`, with the status and what it
  leaves in `*Buffer`, which the caller has set to NULL.
-/
def getProcessorGroupInfo
    (answers : Answers) :
    Comp Fault State (Status × Option Block) := do
  if answers.firstLength = 0 then
    return (hresultFromWin32 answers.firstError, none)
  else
    let buffer ← alloc answers.allocInfo
    match buffer with
    | none => return (statusOutOfMemory, none)
    | some block =>
        if answers.secondSucceeds then
          return (statusSuccess, some block)
        else
          -- The caller still gets the block that was freed.
          free block
          return (hresultFromWin32 answers.secondError,
            some block)

/- `Info->Group`, through a pointer that must be good. -/
def readInfo
    (answers : Answers)
    (info : Option Block) :
    Comp Fault State (List SystemGroup) := do
  let s ← get
  match info with
  | none => throw .nullInfo
  | some block =>
      if block ∈ s.live then
        return answers.activeGroups
      else
        throw .freedInfo

/- The processors in all groups. -/
def activeProcessorCount
    (groups : List SystemGroup) : Nat :=
  (groups.map (fun g => g.activeProcessorCount.toNat)).sum

/- The entries of the groups, from an offset on. -/
def groupEntries
    (offset : Nat) :
    List SystemGroup → List ProcessorGroupInfo
  | [] => []
  | g :: groups =>
      { mask := g.activeProcessorMask
        count := g.activeProcessorCount.toNat
        offset := offset } ::
        groupEntries
          (offset + g.activeProcessorCount.toNat) groups

/-
  The first group that a processor lies in.  The count in a
  group's entry is the one in its description.
-/
def processorEntry
    (proc group : Nat) :
    List ProcessorGroupInfo → Option ProcessorInfo
  | [] => none
  | entry :: entries =>
      if entry.offset ≤ proc ∧
          proc < entry.offset + entry.count then
        some { index := proc - entry.offset, group := group }
      else
        processorEntry proc (group + 1) entries

/- The two loops that fill the tables. -/
def fillTables
    (groups : List SystemGroup)
    (s : State) : State :=
  let entries := groupEntries 0 groups
  let count := activeProcessorCount groups
  { s with
    processorCount := count
    processorGroupInfo := s.processorGroupInfo.map (fun t =>
      { t with entries := entries.map some })
    processorInfo := s.processorInfo.map (fun t =>
      { t with
        entries := (List.range count).map (fun proc =>
          processorEntry proc 0 entries) }) }

/- The second table, and what goes into both. -/
def buildGroupTable
    (answers : Answers)
    (groups : List SystemGroup) :
    Comp Fault State Status := do
  let block ← alloc answers.allocGroups
  match block with
  | none => return statusOutOfMemory
  | some block =>
      modify (fun s => { s with
        processorGroupInfo := some
          { block := block
            entries := List.replicate groups.length none } })
      modify (fillTables groups)
      return statusSuccess

/- From the description of the groups to the label `Error`. -/
def buildTables
    (answers : Answers)
    (info : Option Block) : Comp Fault State Status := do
  let groups ← readInfo answers info
  let count := activeProcessorCount groups
  if groups.length = 0 then
    return statusNotSupported
  else if count = 0 ∨ count > 65535 then
    return statusNotSupported
  else
    let s ← get
    if s.processorInfo.isSome then
      throw .assertFailed
    else
      let block ← alloc answers.allocProcessors
      match block with
      | none => return statusOutOfMemory
      | some block =>
          modify (fun s => { s with
            processorInfo := some
              { block := block
                entries := List.replicate count none } })
          buildGroupTable answers groups

/- `if (Info) CXPLAT_FREE(Info)`. -/
def freeInfo : Option Block → Comp Fault State Unit
  | none => pure ()
  | some block => free block

def freeGroupTable : Comp Fault State Unit := do
  let s ← get
  match s.processorGroupInfo with
  | none => pure ()
  | some table =>
      free table.block
      modify (fun s => { s with processorGroupInfo := none })

def freeProcessorTable : Comp Fault State Unit := do
  let s ← get
  match s.processorInfo with
  | none => pure ()
  | some table =>
      free table.block
      modify (fun s => { s with processorInfo := none })

/- Both tables, in the order of the source. -/
def freeTables : Comp Fault State Unit := do
  freeGroupTable
  freeProcessorTable

/-
  `CxPlatProcessorInfoUnInit`.  It frees and clears without
  asking, which for NULL does nothing.
-/
def processorInfoUnInit : Comp Fault State Unit :=
  freeTables

/- From the label `Error` on. -/
def cleanUp
    (info : Option Block)
    (status : Status) : Comp Fault State Status := do
  freeInfo info
  if failed status then
    freeTables
    return status
  else
    return status

/- `CxPlatProcessorInfoInit`. -/
def processorInfoInit
    (answers : Answers) : Comp Fault State Status := do
  let found ← getProcessorGroupInfo answers
  if failed found.1 then
    cleanUp found.2 found.1
  else
    let status ← buildTables answers found.2
    cleanUp found.2 status

end WinUser

end CxPlat

------------------------------------------------------------
-- The Library
------------------------------------------------------------

namespace CxPlat

namespace WinUser

/- `CxPlatInitialize`. -/
def cxPlatInitialize
    (answers : Answers) : Comp Fault State Status := do
  heapCreate answers.heapCreate
  let s ← get
  match s.heap with
  | none => return statusOutOfMemory
  | some _ =>
      let status ← processorInfoInit answers
      if failed status then
        heapDestroy
        return status
      else
        return statusSuccess

/- `CxPlatUninitialize`. -/
def cxPlatUninitialize : Comp Fault State Unit := do
  processorInfoUnInit
  heapDestroy

/- A call and what the system answers to it. -/
inductive Op where
  | init (answers : Answers)
  | uninit
deriving DecidableEq, Repr

/-
  The library, whether the last call has left it initialised,
  and the fault that it has run into.
-/
structure Library where
  state : State
  initialized : Bool
  fault : Option Fault
deriving DecidableEq, Repr

/- One call; there is none after a fault. -/
def step
    (lib : Library)
    (op : Op) : Option Library :=
  if lib.fault.isSome then
    none
  else
    match op with
    | .init answers =>
        match Comp.exec (cxPlatInitialize answers)
          lib.state with
        | .ok (status, s) =>
            some { lib with
              state := s
              initialized := !failed status }
        | .error fault =>
            some { lib with fault := some fault }
    | .uninit =>
        match Comp.exec cxPlatUninitialize lib.state with
        | .ok (_, s) =>
            some { lib with state := s, initialized := false }
        | .error fault =>
            some { lib with fault := some fault }

def load : Library where
  state := unloaded
  initialized := false
  fault := none

end WinUser

end CxPlat
