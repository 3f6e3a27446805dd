import CxPlat.AllocFailure
import CxPlat.Lib.Bytes
import CxPlat.Lib.Comp
import CxPlat.Lib.Transition
import Mathlib.Data.List.Pairwise

/-
  `CxPlatAlloc` and `CxPlatFree` in the debug build of
  `cxplat_winuser.c`.

  A block has `AllocOffset` more bytes than were asked for.
  The tag is written to its first four bytes, and the caller
  gets the address behind the offset.  The sum of the size
  and the offset is a `size_t` and is not checked.

  A run is a sequence of calls and of writes to the bytes the
  caller may write.  Addresses are numbers without a bound,
  and zero is NULL.

  Key definitions include:
    * `alloc`, `free`
    * `Session`, `step`
    * `Allowed`, `Protected`
    * `Fits`

  Key theorems include:
    * `exec_alloc`, `exec_free`
    * `Sound.protected_iff`
    * `Sound.step`
    * `tagProtocol_iff`
-/

------------------------------------------------------------
-- Blocks with Tags
------------------------------------------------------------

namespace CxPlat

namespace DebugHeap

open AllocFailure (Platform injects)
open Bytes (Memory loadUint32 storeUint32)

inductive Fault where
  | assertion
  | notAllocated
deriving DecidableEq, Repr

/- What `HeapAlloc` hands out. -/
structure Block where
  base : Nat
  size : Nat
deriving DecidableEq, Repr

/-
  The heap of `CX_PLATFORM` and the fields for failures, the
  memory, and the pointers that `HeapFree` has received.
-/
structure State where
  heap : Bool
  platform : Platform 32
  memory : Memory
  blocks : List Block
  freed : List Nat

/- `sizeof(void*) * 2`, with pointers of `w` bits. -/
def allocOffset
    (w : Nat) : Nat :=
  w / 8 * 2

/- `CXPLAT_DBG_ASSERT`. -/
def dbgAssert
    (holds : Bool) : Comp Fault State Unit :=
  if holds then pure () else throw .assertion

/- `HeapAlloc`, which returns what it likes, or NULL. -/
def heapAlloc
    (answer size : Nat) : Comp Fault State Nat := do
  if answer = 0 then
    return 0
  else
    modify fun s =>
      { s with blocks := ⟨answer, size⟩ :: s.blocks }
    return answer

/- `HeapFree`, which ignores NULL. -/
def heapFree
    (pointer : Nat) : Comp Fault State Unit := do
  modify fun s => { s with freed := pointer :: s.freed }
  if pointer = 0 then
    return ()
  else
    let s ← get
    if s.blocks.any (fun block => block.base = pointer) then
      set
        { s with
          blocks :=
            s.blocks.eraseP
              (fun block => block.base = pointer) }
    else
      throw .notAllocated

variable {w : Nat}

/- The argument of `HeapAlloc`. -/
def allocSize
    (byteCount : BitVec w) : Nat :=
  (byteCount + BitVec.ofNat w (allocOffset w)).toNat

/-
  `CxPlatAlloc`, where `CxPlatRandom` leaves `rand` in `Rand`
  and `HeapAlloc` answers `answer`.
-/
def alloc
    (byteCount : BitVec w)
    (tag rand : BitVec 32)
    (answer : Nat) : Comp Fault State Nat := do
  dbgAssert (← get).heap
  dbgAssert (byteCount ≠ 0)
  let s ← get
  set { s with platform := (injects s.platform rand).2 }
  if (injects s.platform rand).1 then
    return 0
  else
    let pointer ← heapAlloc answer (allocSize byteCount)
    if pointer = 0 then
      return 0
    else
      modify fun s =>
        { s with memory := storeUint32 s.memory pointer tag }
      return pointer + allocOffset w

/- `CxPlatFree`. -/
def free
    (w mem : Nat)
    (tag : BitVec 32) : Comp Fault State Unit := do
  let actualAlloc := mem - allocOffset w
  if mem ≠ 0 then
    let tagToCheck := loadUint32 (← get).memory actualAlloc
    dbgAssert (tagToCheck = tag)
    heapFree actualAlloc
  else
    heapFree 0

end DebugHeap

end CxPlat

------------------------------------------------------------
-- Runs
------------------------------------------------------------

namespace CxPlat

namespace DebugHeap

open AllocFailure (Platform)
open Bytes (Memory)
open Comp

/- An allocation that the caller has and has not freed. -/
structure Held where
  base : Nat
  byteCount : Nat
  tag : BitVec 32
deriving DecidableEq, Repr

/- The pointer that the caller got. -/
def Held.mem
    (w : Nat)
    (a : Held) : Nat :=
  a.base + allocOffset w

structure Session where
  state : State
  held : List Held

inductive Move (w : Nat) where
  | alloc
      (byteCount : BitVec w)
      (tag rand : BitVec 32)
      (answer : Nat)
  | free (mem : Nat) (tag : BitVec 32)
  | write (address : Nat) (value : BitVec 8)
  | setAllocFailDenominator (value : BitVec 32)

variable {w : Nat}

/- Go on from what a call leaves, unless it faults. -/
def Session.call
    {α : Type}
    (s : Session)
    (c : Comp Fault State α)
    (held : α → List Held) : Option Session :=
  match exec c s.state with
  | .ok (result, t) => some ⟨t, held result⟩
  | .error _ => none

def step
    (s : Session) : Move w → Option Session
  | .alloc byteCount tag rand answer =>
      s.call (alloc byteCount tag rand answer) fun result =>
        if result = 0 then s.held
        else ⟨answer, byteCount.toNat, tag⟩ :: s.held
  | .free mem tag =>
      s.call (free w mem tag) fun _ =>
        s.held.eraseP (fun a => a.mem w = mem)
  | .write address value =>
      some
        { s with
          state :=
            { s.state with
              memory :=
                Function.update s.state.memory address
                  value } }
  | .setAllocFailDenominator value =>
      some
        { s with
          state :=
            { s.state with
              platform :=
                AllocFailure.setAllocFailDenominator
                  s.state.platform value } }

/- The heap is there, and nothing is allocated. -/
def start
    (platform : Platform 32)
    (memory : Memory) : Session where
  state :=
    { heap := true
      platform, memory
      blocks := []
      freed := [] }
  held := []

/- Two blocks have no byte in common. -/
def Apart
    (b c : Block) : Prop :=
  b.base ≠ c.base ∧
    (b.base + b.size ≤ c.base ∨ c.base + c.size ≤ b.base)

/-
  The answers of `HeapAlloc` are fresh, what is freed is held
  and has that tag, and the caller only writes the bytes that
  were asked for.
-/
def Allowed
    (s : Session) : Move w → Prop
  | .alloc byteCount _ _ answer =>
      byteCount ≠ 0 ∧
        (answer ≠ 0 →
          ∀ block ∈ s.state.blocks,
            Apart ⟨answer, allocSize byteCount⟩ block)
  | .free mem tag =>
      mem = 0 ∨ ∃ a ∈ s.held, a.mem w = mem ∧ a.tag = tag
  | .write address _ =>
      ∃ a ∈ s.held,
        a.mem w ≤ address ∧ address < a.mem w + a.byteCount
  | .setAllocFailDenominator _ => True

/-
  The bytes of the caller end inside the block, and start
  behind the tag, which is inside the block, too.
-/
structure Writable
    (block : Block)
    (mem byteCount : Nat) : Prop where
  bytes : mem + byteCount ≤ block.base + block.size
  behind : block.base + 4 ≤ mem
  tag : 4 ≤ block.size

/-
  A call does not fault.  What it allocates is writable in
  the block that it got, and what it hands to `HeapFree` is
  what `HeapAlloc` returned for the same allocation.
-/
def Protected
    (s : Session) : Move w → Prop
  | .alloc byteCount tag rand answer =>
      Returns (alloc byteCount tag rand answer) s.state
        (fun result t =>
          result ≠ 0 →
            t.blocks =
              ⟨answer, allocSize byteCount⟩ ::
                s.state.blocks ∧
            Writable ⟨answer, allocSize byteCount⟩ result
              byteCount.toNat)
  | .free mem tag =>
      Returns (free w mem tag) s.state
        (fun _ t =>
          ∃ pointer,
            t.freed = pointer :: s.state.freed ∧
              (mem = 0 → pointer = 0) ∧
              ∀ a ∈ s.held, a.mem w = mem →
                pointer = a.base)
  | .write _ _ => True
  | .setAllocFailDenominator _ => True

/- If a block is handed out, the sum is a `size_t`. -/
def Fits
    (s : Session) : Move w → Prop
  | .alloc byteCount _ rand answer =>
      (AllocFailure.injects s.state.platform rand).1 = false →
        answer ≠ 0 →
          byteCount.toNat + allocOffset w < 2 ^ w
  | _ => True

instance
    (b c : Block) :
    Decidable (Apart b c) :=
  inferInstanceAs (Decidable (_ ∧ _))

instance
    (s : Session) :
    (move : Move w) → Decidable (Allowed s move)
  | .alloc _ _ _ _ => inferInstanceAs (Decidable (_ ∧ _))
  | .free _ _ => inferInstanceAs (Decidable (_ ∨ _))
  | .write _ _ =>
      inferInstanceAs (Decidable (∃ a ∈ s.held, _))
  | .setAllocFailDenominator _ => .isTrue trivial

instance
    (s : Session) :
    (move : Move w) → Decidable (Fits s move)
  | .alloc _ _ _ _ => inferInstanceAs (Decidable (_ → _))
  | .free _ _ => .isTrue trivial
  | .write _ _ => .isTrue trivial
  | .setAllocFailDenominator _ => .isTrue trivial

end DebugHeap

end CxPlat

------------------------------------------------------------
-- One Call
------------------------------------------------------------

namespace CxPlat

namespace DebugHeap

open AllocFailure (Platform injects)
open Bytes (Memory loadUint32 storeUint32)
open Comp

variable {w : Nat}

theorem exec_dbgAssert
    {holds : Bool}
    (s : State)
    (hHolds : holds = true) :
    exec (dbgAssert holds) s = .ok ((), s) := by
  rw [hHolds]
  rfl

/- The state after the test for an injected failure. -/
def State.tested
    (s : State)
    (rand : BitVec 32) : State :=
  { s with platform := (injects s.platform rand).2 }

/- The state after an allocation that succeeds. -/
def State.allocated
    (s : State)
    (byteCount : BitVec w)
    (tag rand : BitVec 32)
    (answer : Nat) : State :=
  { s.tested rand with
    memory := storeUint32 s.memory answer tag
    blocks := ⟨answer, allocSize byteCount⟩ :: s.blocks }

variable {s : State} {byteCount : BitVec w}
  {rand : BitVec 32} {answer : Nat}

theorem exec_heapAlloc
    {size : Nat}
    (s : State)
    (hAnswer : answer ≠ 0) :
    exec (heapAlloc answer size) s =
      .ok
        (answer,
          { s with blocks := ⟨answer, size⟩ :: s.blocks }) := by
  unfold heapAlloc
  rw [if_neg hAnswer]
  rfl

/- NULL if a failure is injected or `HeapAlloc` fails. -/
theorem exec_alloc_null
    (tag : BitVec 32)
    (hHeap : s.heap = true)
    (hCount : byteCount ≠ 0)
    (hNull :
      (injects s.platform rand).1 = true ∨ answer = 0) :
    exec (alloc byteCount tag rand answer) s =
      .ok (0, s.tested rand) := by
  have hArgument : decide (byteCount ≠ 0) = true :=
    decide_eq_true hCount
  simp only [alloc, exec_bind, exec_get,
    exec_dbgAssert s hHeap, exec_dbgAssert s hArgument,
    exec_set]
  by_cases hInjected : (injects s.platform rand).1 = true
  · rw [if_pos hInjected]
    rfl
  · have hAnswer := hNull.resolve_left hInjected
    subst hAnswer
    rw [if_neg hInjected]
    rfl

theorem exec_alloc
    (tag : BitVec 32)
    (hHeap : s.heap = true)
    (hCount : byteCount ≠ 0)
    (hInjected : (injects s.platform rand).1 = false)
    (hAnswer : answer ≠ 0) :
    exec (alloc byteCount tag rand answer) s =
      .ok
        (answer + allocOffset w,
          s.allocated byteCount tag rand answer) := by
  have hArgument : decide (byteCount ≠ 0) = true :=
    decide_eq_true hCount
  simp only [alloc, exec_bind, exec_get,
    exec_dbgAssert s hHeap, exec_dbgAssert s hArgument,
    exec_set, hInjected, Bool.false_eq_true, if_false,
    exec_heapAlloc _ hAnswer, if_neg hAnswer]
  rfl

/- NULL is handed on to `HeapFree`. -/
theorem exec_free_null
    (tag : BitVec 32) :
    exec (free w 0 tag) s =
      .ok ((), { s with freed := 0 :: s.freed }) :=
  rfl

theorem exec_free
    {a : Held}
    {tag : BitVec 32}
    (hBase : a.base ≠ 0)
    (hTag : loadUint32 s.memory a.base = tag)
    (hBlock : ∃ block ∈ s.blocks, block.base = a.base) :
    exec (free w (a.mem w) tag) s =
      .ok
        ((),
          { s with
            freed := a.base :: s.freed
            blocks :=
              s.blocks.eraseP
                (fun block => block.base = a.base) }) := by
  have hMem : a.mem w ≠ 0 := by
    unfold Held.mem
    omega
  have hActual : a.mem w - allocOffset w = a.base :=
    Nat.add_sub_cancel _ _
  have hChecked :
      decide (loadUint32 s.memory a.base = tag) = true :=
    decide_eq_true hTag
  have hAny :
      s.blocks.any
          (fun block => decide (block.base = a.base)) =
        true := by
    simpa using hBlock
  simp only [free, if_pos hMem, hActual, exec_bind, exec_get,
    exec_dbgAssert s hChecked, heapFree, exec_modify,
    if_neg hBase, hAny, if_true, exec_set]

theorem allocOffset_lt
    (w : Nat) :
    allocOffset w < 2 ^ w := by
  have hLess : w < 2 ^ w := Nat.lt_two_pow_self
  unfold allocOffset
  omega

/- The tag is in front of the caller's bytes. -/
theorem four_le_allocOffset
    (hWidth : 32 ≤ w) :
    4 ≤ allocOffset w := by
  unfold allocOffset
  omega

theorem allocSize_of_fits
    (hFits : byteCount.toNat + allocOffset w < 2 ^ w) :
    allocSize byteCount =
      byteCount.toNat + allocOffset w := by
  unfold allocSize
  rw [BitVec.toNat_add, BitVec.toNat_ofNat,
    Nat.mod_eq_of_lt (allocOffset_lt w),
    Nat.mod_eq_of_lt hFits]

/-
  A sum that wraps makes a block that ends before the bytes
  of the caller do.
-/
theorem writable_iff
    (hWidth : 32 ≤ w) :
    Writable ⟨answer, allocSize byteCount⟩
        (answer + allocOffset w) byteCount.toNat ↔
      byteCount.toNat + allocOffset w < 2 ^ w := by
  have hOffset := four_le_allocOffset hWidth
  constructor
  · intro hWritable
    have hBytes :
        answer + allocOffset w + byteCount.toNat ≤
          answer + allocSize byteCount := hWritable.bytes
    have hSize : allocSize byteCount < 2 ^ w :=
      BitVec.isLt _
    omega
  · intro hFits
    have hSize := allocSize_of_fits hFits
    constructor
    · change
        answer + allocOffset w + byteCount.toNat ≤
          answer + allocSize byteCount
      omega
    · change answer + 4 ≤ answer + allocOffset w
      omega
    · change 4 ≤ allocSize byteCount
      omega

end DebugHeap

end CxPlat

------------------------------------------------------------
-- The Protocol
------------------------------------------------------------

namespace CxPlat

namespace DebugHeap

open AllocFailure (Platform injects)
open Bytes (Memory loadUint32 storeUint32)
open Comp
open Transition

variable {w : Nat} {s t : Session} {move : Move w}

/- The block of an allocation. -/
def Held.block
    (w : Nat)
    (a : Held) : Block :=
  ⟨a.base, a.byteCount + allocOffset w⟩

/-
  The blocks are those of the allocations that are held, they
  do not overlap, and each still has its tag.
-/
structure Sound
    (w : Nat)
    (s : Session) : Prop where
  heap : s.state.heap = true
  blocks : s.state.blocks = s.held.map (Held.block w)
  bases : ∀ a ∈ s.held, a.base ≠ 0
  apart :
    s.held.Pairwise
      (fun a b => Apart (a.block w) (b.block w))
  tags :
    ∀ a ∈ s.held,
      loadUint32 s.state.memory a.base = a.tag

theorem sound_start
    (platform : Platform 32)
    (memory : Memory) :
    Sound w (start platform memory) := by
  constructor
  · rfl
  · rfl
  · intro a hMem
    cases hMem
  · exact List.Pairwise.nil
  · intro a hMem
    cases hMem

theorem Sound.protected_alloc_iff
    {byteCount : BitVec w}
    {tag rand : BitVec 32}
    {answer : Nat}
    (hSound : Sound w s)
    (hWidth : 32 ≤ w)
    (hCount : byteCount ≠ 0) :
    Protected s (.alloc byteCount tag rand answer) ↔
      Fits s (.alloc byteCount tag rand answer) := by
  by_cases hNull :
      (injects s.state.platform rand).1 = true ∨ answer = 0
  · have hExec := exec_alloc_null tag hSound.heap hCount hNull
    constructor
    · intro _ hInjected hAnswer
      rcases hNull with hTrue | hZero
      · rw [hInjected] at hTrue
        cases hTrue
      · exact absurd hZero hAnswer
    · intro _
      apply returns_of_exec hExec
      intro hResult
      exact absurd rfl hResult
  · rw [not_or, Bool.not_eq_true] at hNull
    rcases hNull with ⟨hInjected, hAnswer⟩
    have hExec := exec_alloc tag hSound.heap hCount
      hInjected hAnswer
    have hResult : answer + allocOffset w ≠ 0 := by omega
    constructor
    · intro hReturns _ _
      exact (writable_iff hWidth).mp
        (Returns.post hReturns hExec hResult).2
    · intro hFits
      apply returns_of_exec hExec
      intro _
      exact ⟨rfl,
        (writable_iff hWidth).mpr (hFits hInjected hAnswer)⟩

theorem Sound.exists_block
    (hSound : Sound w s)
    {a : Held}
    (hMem : a ∈ s.held) :
    ∃ block ∈ s.state.blocks, block.base = a.base := by
  rw [hSound.blocks]
  exact ⟨a.block w, List.mem_map_of_mem hMem, rfl⟩

theorem Sound.protected_free
    {mem : Nat}
    {tag : BitVec 32}
    (hSound : Sound w s)
    (hAllowed : Allowed s (.free (w := w) mem tag)) :
    Protected s (.free (w := w) mem tag) := by
  rcases hAllowed with hNull | ⟨a, hMem, hPointer, hTag⟩
  · subst hNull
    apply returns_of_exec (exec_free_null tag)
    refine ⟨0, rfl, fun _ => rfl, ?_⟩
    intro a hMem hPointer
    have hBase := hSound.bases a hMem
    unfold Held.mem at hPointer
    omega
  · subst hPointer hTag
    apply returns_of_exec
      (exec_free (hSound.bases a hMem) (hSound.tags a hMem)
        (hSound.exists_block hMem))
    refine ⟨a.base, rfl, ?_, ?_⟩
    · intro hNull
      have hBase := hSound.bases a hMem
      unfold Held.mem at hNull
      omega
    · intro b _ hSame
      unfold Held.mem at hSame
      omega

theorem Sound.protected_iff
    (hSound : Sound w s)
    (hWidth : 32 ≤ w)
    (hAllowed : Allowed s move) :
    Protected s move ↔ Fits s move := by
  cases move with
  | alloc byteCount tag rand answer =>
      exact hSound.protected_alloc_iff hWidth hAllowed.1
  | free mem tag =>
      constructor
      · intro _
        trivial
      · intro _
        exact hSound.protected_free hAllowed
  | write address value => exact Iff.rfl
  | setAllocFailDenominator value => exact Iff.rfl

theorem Apart.symm
    {b c : Block}
    (hApart : Apart b c) :
    Apart c b :=
  ⟨hApart.1.symm, hApart.2.symm⟩

/- Neither the counter nor the calls so far matter. -/
theorem Sound.congr
    (hSound : Sound w s)
    (hHeap : t.state.heap = s.state.heap)
    (hBlocks : t.state.blocks = s.state.blocks)
    (hMemory : t.state.memory = s.state.memory)
    (hHeld : t.held = s.held) :
    Sound w t := by
  constructor
  · rw [hHeap]
    exact hSound.heap
  · rw [hBlocks, hHeld]
    exact hSound.blocks
  · rw [hHeld]
    exact hSound.bases
  · rw [hHeld]
    exact hSound.apart
  · rw [hHeld, hMemory]
    exact hSound.tags

/- A fresh block, with its tag in the first four bytes. -/
theorem Sound.allocated
    {byteCount : BitVec w}
    {answer : Nat}
    (hSound : Sound w s)
    (hWidth : 32 ≤ w)
    (tag rand : BitVec 32)
    (hAnswer : answer ≠ 0)
    (hFresh :
      ∀ block ∈ s.state.blocks,
        Apart ⟨answer, allocSize byteCount⟩ block)
    (hFits : byteCount.toNat + allocOffset w < 2 ^ w) :
    Sound w
      ⟨s.state.allocated byteCount tag rand answer,
        ⟨answer, byteCount.toNat, tag⟩ :: s.held⟩ := by
  have hOffset := four_le_allocOffset hWidth
  have hSize := allocSize_of_fits hFits
  rw [hSound.blocks, hSize, List.forall_mem_map] at hFresh
  constructor
  · exact hSound.heap
  · change ⟨answer, allocSize byteCount⟩ :: s.state.blocks = _
    rw [hSize, hSound.blocks]
    rfl
  · intro a hMem
    rcases List.mem_cons.mp hMem with hNew | hOld
    · subst hNew
      exact hAnswer
    · exact hSound.bases a hOld
  · exact List.Pairwise.cons hFresh hSound.apart
  · intro a hMem
    rcases List.mem_cons.mp hMem with hNew | hOld
    · subst hNew
      exact Bytes.loadUint32_storeUint32
    · have hApart := (hFresh a hOld).2
      rw [← hSound.tags a hOld]
      apply Bytes.loadUint32_storeUint32_of_apart
      simp only [Held.block] at hApart
      omega

/- The caller's bytes are not those of any tag. -/
theorem Sound.outside_tag
    {a b : Held}
    {address : Nat}
    (hSound : Sound w s)
    (hWidth : 32 ≤ w)
    (hMem : a ∈ s.held)
    (hOther : b ∈ s.held)
    (hFrom : b.mem w ≤ address)
    (hTo : address < b.mem w + b.byteCount) :
    address < a.base ∨ a.base + 4 ≤ address := by
  have hOffset := four_le_allocOffset hWidth
  unfold Held.mem at hFrom hTo
  by_cases hSame : a = b
  · subst hSame
    omega
  · have : Std.Symm
        (fun a b : Held =>
          Apart (a.block w) (b.block w)) :=
      ⟨fun _ _ hApart => hApart.symm⟩
    have hApart :=
      (hSound.apart.forall hMem hOther hSame).2
    simp only [Held.block] at hApart
    omega

theorem Sound.freed
    {a : Held}
    (hSound : Sound w s)
    (pointers : List Nat) :
    Sound w
      ⟨{ s.state with
          freed := pointers
          blocks :=
            s.state.blocks.eraseP
              (fun block => block.base = a.base) },
        s.held.eraseP (fun b => b.mem w = a.mem w)⟩ := by
  have hSublist :
      List.Sublist
        (s.held.eraseP (fun b => b.mem w = a.mem w))
        s.held :=
    List.eraseP_sublist
  constructor
  · exact hSound.heap
  · change s.state.blocks.eraseP _ = _
    rw [hSound.blocks, List.eraseP_map]
    congr 2
    funext b
    apply decide_eq_decide.mpr
    unfold Held.mem
    exact Nat.add_right_cancel_iff.symm
  · intro b hMem
    exact hSound.bases b (hSublist.subset hMem)
  · exact hSound.apart.sublist hSublist
  · intro b hMem
    exact hSound.tags b (hSublist.subset hMem)

/- One move. -/
theorem Sound.step
    (hSound : Sound w s)
    (hWidth : 32 ≤ w)
    (hAllowed : Allowed s move)
    (hFits : Fits s move)
    (hStep : DebugHeap.step s move = some t) :
    Sound w t := by
  cases move with
  | alloc byteCount tag rand answer =>
      rcases hAllowed with ⟨hCount, hFresh⟩
      simp only [DebugHeap.step, Session.call] at hStep
      by_cases hNull :
          (injects s.state.platform rand).1 = true ∨
            answer = 0
      · rw [exec_alloc_null tag hSound.heap hCount hNull]
          at hStep
        cases hStep
        exact hSound.congr rfl rfl rfl rfl
      · rw [not_or, Bool.not_eq_true] at hNull
        rcases hNull with ⟨hInjected, hAnswer⟩
        rw [exec_alloc tag hSound.heap hCount hInjected
          hAnswer] at hStep
        have hResult : answer + allocOffset w ≠ 0 := by omega
        simp only [if_neg hResult, Option.some_inj] at hStep
        subst hStep
        exact hSound.allocated hWidth tag rand hAnswer
          (hFresh hAnswer) (hFits hInjected hAnswer)
  | free mem tag =>
      simp only [DebugHeap.step, Session.call] at hStep
      rcases hAllowed with hNull | ⟨a, hMem, hPointer, hTag⟩
      · subst hNull
        rw [exec_free_null tag] at hStep
        cases hStep
        have hHeld :
            s.held.eraseP (fun a => a.mem w = 0) =
              s.held := by
          apply List.eraseP_of_forall_not
          intro a hMem hNull
          have hBase := hSound.bases a hMem
          have hZero := of_decide_eq_true hNull
          unfold Held.mem at hZero
          omega
        exact hSound.congr rfl rfl rfl hHeld
      · subst hPointer hTag
        rw [exec_free (hSound.bases a hMem)
          (hSound.tags a hMem) (hSound.exists_block hMem)]
          at hStep
        cases hStep
        exact hSound.freed _
  | write address value =>
      rcases hAllowed with ⟨b, hOther, hFrom, hTo⟩
      cases hStep
      constructor
      · exact hSound.heap
      · exact hSound.blocks
      · exact hSound.bases
      · exact hSound.apart
      · intro a hMem
        rw [← hSound.tags a hMem]
        exact Bytes.loadUint32_update_of_outside
          (hSound.outside_tag hWidth hMem hOther hFrom hTo)
  | setAllocFailDenominator value =>
      cases hStep
      exact hSound.congr rfl rfl rfl rfl

/-
  The protocol holds in those runs in which no block is
  handed out for a size that wraps.
-/
theorem tagProtocol_iff
    (hWidth : 32 ≤ w)
    (platform : Platform 32)
    (memory : Memory)
    {moves : List (Move w)}
    (hAllowed :
      Meets DebugHeap.step Allowed (start platform memory)
        moves) :
    Meets DebugHeap.step Protected (start platform memory)
        moves ↔
      Meets DebugHeap.step Fits (start platform memory)
        moves := by
  have hStart : Sound w (start platform memory) :=
    sound_start platform memory
  apply meets_congr _ _ hStart hAllowed
  · intro s move hSound hMove
    exact hSound.protected_iff hWidth hMove
  · intro s move t hSound hMove hProtected hStep
    have hFits :=
      (hSound.protected_iff hWidth hMove).mp hProtected
    exact hSound.step hWidth hMove hFits hStep

/-
  Two blocks, the second one written and freed, the first one
  freed.
-/
def twoBlocks : List (Move 64) :=
  [.alloc 24 0x61616161 0 4096, .alloc 8 0x62626262 0 8192,
    .write 8215 0xff, .free 8208 0x62626262,
    .free 4112 0x61616161, .free 0 0]

def quiet : Platform 32 where
  allocFailDenominator := 0
  allocCounter := 0

theorem tagProtocol_twoBlocks :
    Meets DebugHeap.step Protected (start quiet (fun _ => 0))
      twoBlocks := by
  have hAllowed :
      Meets DebugHeap.step Allowed (start quiet (fun _ => 0))
        twoBlocks := by
    decide
  exact (tagProtocol_iff (by decide) quiet (fun _ => 0)
    hAllowed).mpr (by decide)

/-
  A size 8 below the end of the range: the block has 8 bytes,
  and the pointer lies behind it.
-/
theorem wrappedSize_unprotected :
    Meets DebugHeap.step Allowed (start quiet (fun _ => 0))
        [.alloc (w := 64) (-8) 0x61616161 0 4096] ∧
      ¬ Meets DebugHeap.step Protected
        (start quiet (fun _ => 0))
        [.alloc (w := 64) (-8) 0x61616161 0 4096] := by
  refine ⟨by decide, ?_⟩
  intro hMeets
  have hExec :
      exec
          (alloc (-8 : BitVec 64) 0x61616161 0 4096)
          (start quiet (fun _ => 0)).state =
        .ok (4112, _) :=
    exec_alloc 0x61616161 rfl (by decide) rfl (by decide)
  have hWritable :=
    (Returns.post hMeets.1 hExec (by decide)).2
  have hBytes := hWritable.bytes
  revert hBytes
  decide

end DebugHeap

end CxPlat
