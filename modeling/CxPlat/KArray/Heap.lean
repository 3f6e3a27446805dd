import CxPlat.Lib.Comp
import Mathlib.Algebra.Ring.Nat
import Mathlib.Logic.Function.Basic
import Mathlib.Data.List.Basic

/-
  The pool memory under `Rtl::KArray` and the C++ object
  operations that `karray.h` performs on it.

  A buffer is an array of slots.  A slot is raw storage or
  holds one live object.  Every operation checks what it
  needs: a constructor needs a raw slot, a destructor and a
  read need a live one, every access needs a slot inside a
  buffer that has not been freed.  A violation stops the run
  with a fault.  The heap keeps a log of all constructor and
  destructor calls; an object is named by the position of
  its constructor call in that log.

  Key definitions include:
    * `Instantiation`
    * `Heap`
    * `constructAt`, `destroyAt`, `readAt`, `moveOutAt`,
      `assignAt`
    * `exAllocatePoolUninitialized`, `exFreePoolWithTag`
    * `copySlots`, `zeroSlots`
-/

------------------------------------------------------------
-- Template Instantiations
------------------------------------------------------------

namespace CxPlat

namespace KArray

/- The two widths of `size_t` the library is built for. -/
inductive SizeT where
  | bits32
  | bits64
deriving DecidableEq, Repr

/- The number of `size_t` values. -/
def SizeT.modulus : SizeT → Nat
  | .bits32 => 2 ^ 32
  | .bits64 => 2 ^ 64

/- Every `ULONG` is a `size_t`. -/
theorem SizeT.ulong_le_modulus
    (w : SizeT) :
    2 ^ 32 ≤ w.modulus := by
  cases w with
  | bits32 => exact Nat.le_refl _
  | bits64 => decide

/-
  One instantiation `KArray<T>` on one target: the width of
  `size_t` and what the type traits report of `T`.

  `moved` is what `T(cxplatstd::move(x))` leaves behind in
  `x`.  The header specialises `remove_reference` for `_Tp&&`
  only, so on an lvalue `cxplatstd::move` is an lvalue and
  the construction copies; nothing below depends on `moved`.
-/
structure Instantiation (T : Type) where
  sizeT : SizeT
  sizeOf : Nat
  sizeOf_pos : 0 < sizeOf
  triviallyCopyable : Bool
  triviallyDefaultConstructible : Bool
  triviallyDestructible : Bool
  zeroBytes : T
  defaultValue : T
  moved : T → T
  destructible_of_copyable :
    triviallyCopyable = true → triviallyDestructible = true
  destructible_of_default :
    triviallyDefaultConstructible = true →
      triviallyDestructible = true

/- The value `resize` gives to the elements it adds. -/
def Instantiation.padding
    {T : Type}
    (I : Instantiation T) : T :=
  if I.triviallyDefaultConstructible then
    I.zeroBytes
  else
    I.defaultValue

end KArray

end CxPlat

------------------------------------------------------------
-- Heaps
------------------------------------------------------------

namespace CxPlat

namespace KArray

/-
  A slot of a buffer.  A live slot holds an object, with the
  log position of the constructor call that made it.
-/
inductive Slot (T : Type) where
  | raw
  | live (born : Nat) (value : T)
deriving DecidableEq, Repr

namespace Slot

variable {T : Type}

/- The value of the object in a slot, if there is one. -/
def value? : Slot T → Option T
  | raw => none
  | live _ v => some v

def isLive : Slot T → Bool
  | raw => false
  | live _ _ => true

@[simp] theorem value?_raw :
    (raw : Slot T).value? = none := rfl

@[simp] theorem value?_live
    (k : Nat)
    (v : T) :
    (live k v).value? = some v := rfl

@[simp] theorem isLive_raw :
    (raw : Slot T).isLive = false := rfl

@[simp] theorem isLive_live
    (k : Nat)
    (v : T) :
    (live k v).isLive = true := rfl

/- A slot that has a value is live. -/
theorem eq_live_of_value?
    {s : Slot T}
    {v : T}
    (hValue : s.value? = some v) :
    ∃ k, s = live k v := by
  cases s with
  | raw => cases hValue
  | live k u =>
      cases hValue
      exact ⟨k, rfl⟩

theorem eq_raw_of_not_isLive
    {s : Slot T}
    (hRaw : s.isLive = false) :
    s = raw := by
  cases s with
  | raw => rfl
  | live k v => cases hRaw

end Slot

/- Constructor and destructor calls, as they happen. -/
inductive LifeEvent where
  | constructed (buffer index : Nat)
  | destroyed (buffer index born : Nat)
deriving DecidableEq, Repr

/-
  Pool memory.  `oracle` fixes the outcome of every pool
  allocation in advance and `asked` counts those made.  A
  buffer `b` is allocated while `capacity b` is not zero; it
  then has the slots below `capacity b`.  Buffers at or above
  `next` have never been allocated.
-/
structure Heap (T : Type) where
  oracle : Nat → Bool
  asked : Nat
  next : Nat
  capacity : Nat → Nat
  slot : Nat → Nat → Slot T
  log : List LifeEvent

namespace Heap

variable {T : Type}

/- The heap before any allocation. -/
def empty
    (oracle : Nat → Bool) : Heap T where
  oracle := oracle
  asked := 0
  next := 0
  capacity := fun _ => 0
  slot := fun _ _ => .raw
  log := []

/- Put a slot in place. -/
def put
    (h : Heap T)
    (b i : Nat)
    (s : Slot T) : Heap T :=
  { h with
    slot := Function.update h.slot b
      (Function.update (h.slot b) i s) }

/- Record a constructor or destructor call. -/
def note
    (h : Heap T)
    (e : LifeEvent) : Heap T :=
  { h with log := h.log ++ [e] }

/- Hand out a fresh buffer of `slots` raw slots. -/
def allocate
    (h : Heap T)
    (slots : Nat) : Heap T :=
  { h with
    asked := h.asked + 1
    next := h.next + 1
    capacity := Function.update h.capacity h.next slots
    slot := Function.update h.slot h.next (fun _ => .raw) }

/- Turn an allocation down. -/
def refuse
    (h : Heap T) : Heap T :=
  { h with asked := h.asked + 1 }

/- Take a buffer back. -/
def release
    (h : Heap T)
    (b : Nat) : Heap T :=
  { h with capacity := Function.update h.capacity b 0 }

/- The value of the object in a slot, if it is live. -/
def val
    (h : Heap T)
    (b i : Nat) : Option T :=
  (h.slot b i).value?

/- Buffers that were never handed out are not allocated. -/
def Fresh
    (h : Heap T) : Prop :=
  ∀ b, h.next ≤ b → h.capacity b = 0

@[simp] theorem put_capacity
    (h : Heap T)
    (b i : Nat)
    (s : Slot T) :
    (h.put b i s).capacity = h.capacity := rfl

@[simp] theorem put_next
    (h : Heap T)
    (b i : Nat)
    (s : Slot T) :
    (h.put b i s).next = h.next := rfl

@[simp] theorem put_log
    (h : Heap T)
    (b i : Nat)
    (s : Slot T) :
    (h.put b i s).log = h.log := rfl

@[simp] theorem note_capacity
    (h : Heap T)
    (e : LifeEvent) :
    (h.note e).capacity = h.capacity := rfl

@[simp] theorem note_next
    (h : Heap T)
    (e : LifeEvent) :
    (h.note e).next = h.next := rfl

@[simp] theorem note_slot
    (h : Heap T)
    (e : LifeEvent) :
    (h.note e).slot = h.slot := rfl

@[simp] theorem note_log
    (h : Heap T)
    (e : LifeEvent) :
    (h.note e).log = h.log ++ [e] := rfl

@[simp] theorem release_slot
    (h : Heap T)
    (b : Nat) :
    (h.release b).slot = h.slot := rfl

@[simp] theorem release_val
    (h : Heap T)
    (b : Nat) :
    (h.release b).val = h.val := rfl

@[simp] theorem release_capacity_self
    (h : Heap T)
    (b : Nat) :
    (h.release b).capacity b = 0 :=
  Function.update_self ..

theorem release_capacity_of_ne
    (h : Heap T)
    {b c : Nat}
    (hNe : c ≠ b) :
    (h.release b).capacity c = h.capacity c :=
  Function.update_of_ne hNe ..

@[simp] theorem allocate_capacity_self
    (h : Heap T)
    (slots : Nat) :
    (h.allocate slots).capacity h.next = slots :=
  Function.update_self ..

theorem allocate_capacity_of_ne
    (h : Heap T)
    (slots : Nat)
    {c : Nat}
    (hNe : c ≠ h.next) :
    (h.allocate slots).capacity c = h.capacity c :=
  Function.update_of_ne hNe ..

@[simp] theorem allocate_val_self
    (h : Heap T)
    (slots i : Nat) :
    (h.allocate slots).val h.next i = none := by
  simp [val, allocate]

theorem allocate_slot_of_ne
    (h : Heap T)
    (slots : Nat)
    {c : Nat}
    (hNe : c ≠ h.next) :
    (h.allocate slots).slot c = h.slot c :=
  Function.update_of_ne hNe ..

theorem allocate_val_of_ne
    (h : Heap T)
    (slots : Nat)
    {c : Nat}
    (hNe : c ≠ h.next) :
    (h.allocate slots).val c = h.val c := by
  funext i
  unfold val
  rw [allocate_slot_of_ne h slots hNe]

theorem put_slot
    (h : Heap T)
    (b i c j : Nat)
    (s : Slot T) :
    (h.put b i s).slot c j =
      if c = b ∧ j = i then s else h.slot c j := by
  unfold put
  by_cases hBuffer : c = b
  · subst hBuffer
    by_cases hIndex : j = i
    · subst hIndex
      simp
    · simp [hIndex]
  · simp [hBuffer]

@[simp] theorem put_slot_self
    (h : Heap T)
    (b i : Nat)
    (s : Slot T) :
    (h.put b i s).slot b i = s := by
  simp [put_slot]

theorem put_slot_of_ne
    (h : Heap T)
    {b i c j : Nat}
    (s : Slot T)
    (hNe : c ≠ b ∨ j ≠ i) :
    (h.put b i s).slot c j = h.slot c j := by
  rw [put_slot, if_neg]
  rintro ⟨hBuffer, hIndex⟩
  rcases hNe with hNe | hNe
  · exact hNe hBuffer
  · exact hNe hIndex

/- An allocated buffer has been handed out. -/
theorem Fresh.ne_next
    {h : Heap T}
    (hFresh : h.Fresh)
    {c : Nat}
    (hAllocated : h.capacity c ≠ 0) :
    c ≠ h.next := by
  intro hEq
  exact hAllocated (hFresh c (by omega))

theorem Fresh.allocate
    {h : Heap T}
    (hFresh : h.Fresh)
    (slots : Nat) :
    (h.allocate slots).Fresh := by
  intro c hNext
  have hLater : h.next + 1 ≤ c := hNext
  rw [h.allocate_capacity_of_ne slots (by omega)]
  exact hFresh c (by omega)

theorem Fresh.release
    {h : Heap T}
    (hFresh : h.Fresh)
    (b : Nat) :
    (h.release b).Fresh := by
  intro c hNext
  by_cases hEq : c = b
  · subst hEq
    exact h.release_capacity_self c
  · rw [h.release_capacity_of_ne hEq]
    exact hFresh c hNext

end Heap

end KArray

end CxPlat

------------------------------------------------------------
-- Object Operations
------------------------------------------------------------

namespace CxPlat

namespace KArray

/- The ways in which a run can go wrong. -/
inductive Fault where
  | nullPointer
  | outOfBounds
  | constructOnLive
  | destroyOnRaw
  | readOfRaw
  | assignToRaw
  | freeOfUnallocated
  | leakOnFree
  | assertFailed
  | failFast
  | endlessLoop
  | deadArray
deriving DecidableEq, Repr

/- Code that runs against pool memory. -/
abbrev Code (T : Type) :=
  Comp Fault (Heap T)

/- A possibly null pointer to the start of a buffer. -/
abbrev Pointer :=
  Option Nat

variable {T : Type}

/- Follow a pointer to one slot. -/
def locate
    (p : Pointer)
    (i : Nat) : Code T Nat := do
  match p with
  | none => throw .nullPointer
  | some b =>
      let h ← get
      if i < h.capacity b then pure b
      else throw .outOfBounds

/-
  `new (addressof(p[i])) T(v)`.  Reusing the storage of a
  live object is only right when its destructor is trivial.
-/
def constructAt
    (I : Instantiation T)
    (p : Pointer)
    (i : Nat)
    (v : T) : Code T Unit := do
  let b ← locate p i
  let h ← get
  if (h.slot b i).isLive && !I.triviallyDestructible then
    throw .constructOnLive
  else
    set ((h.put b i (.live h.log.length v)).note
      (.constructed b i))

/- `p[i].~T()`. -/
def destroyAt
    (p : Pointer)
    (i : Nat) : Code T Unit := do
  let b ← locate p i
  let h ← get
  match h.slot b i with
  | .raw => throw .destroyOnRaw
  | .live k _ =>
      set ((h.put b i .raw).note (.destroyed b i k))

/- Read the object `p[i]`. -/
def readAt
    (p : Pointer)
    (i : Nat) : Code T T := do
  let b ← locate p i
  let h ← get
  match h.slot b i with
  | .raw => throw .readOfRaw
  | .live _ v => pure v

/- Read the object `p[i]` as `cxplatstd::move(p[i])`. -/
def moveOutAt
    (I : Instantiation T)
    (p : Pointer)
    (i : Nat) : Code T T := do
  let b ← locate p i
  let h ← get
  match h.slot b i with
  | .raw => throw .readOfRaw
  | .live k v => do
      set (h.put b i (.live k (I.moved v)))
      pure v

/-
  `p[i] = v`.  The assignment operator of a class is called
  on an object, which has to be there; the assignment of a
  trivially copyable type only copies bytes.
-/
def assignAt
    (I : Instantiation T)
    (p : Pointer)
    (i : Nat)
    (v : T) : Code T Unit := do
  let b ← locate p i
  let h ← get
  match h.slot b i with
  | .live k _ => set (h.put b i (.live k v))
  | .raw =>
      if I.triviallyCopyable then
        set (h.put b i (.live h.log.length v))
      else
        throw .assignToRaw

/-
  `ExAllocatePoolUninitialized`: a fresh buffer of raw slots,
  or null, as the oracle says.
-/
def exAllocatePoolUninitialized
    (I : Instantiation T)
    (bytes : Nat) : Code T Pointer := do
  let h ← get
  if h.oracle h.asked then do
    set (h.allocate (bytes / I.sizeOf))
    pure (some h.next)
  else do
    set h.refuse
    pure none

/-
  `ExFreePoolWithTag`.  Freeing a buffer that still holds
  live objects with a destructor is recorded as a fault:
  these objects would never be destroyed.
-/
def exFreePoolWithTag
    (I : Instantiation T)
    (p : Pointer) : Code T Unit := do
  match p with
  | none => throw .nullPointer
  | some b =>
      let h ← get
      if h.capacity b = 0 then
        throw .freeOfUnallocated
      else if !I.triviallyDestructible &&
          (List.range (h.capacity b)).any
            (fun i => (h.slot b i).isLive) then
        throw .leakOnFree
      else
        set (h.release b)

/-
  `memcpy` and `memmove` of `number` objects: the slots from
  `src[source]` on are copied, as they were before the call,
  to the slots from `dst[target]` on.  Copying nothing
  touches no pointer.
-/
def copySlots
    (dst : Pointer)
    (target : Nat)
    (src : Pointer)
    (source number : Nat) : Code T Unit := do
  if number = 0 then
    pure ()
  else do
    let d ← locate dst (target + number - 1)
    let s ← locate src (source + number - 1)
    modify fun h =>
      { h with
        slot := Function.update h.slot d (fun j =>
          if target ≤ j ∧ j < target + number then
            h.slot s (source + (j - target))
          else
            h.slot d j) }

/-
  `memset(&p[start], 0, number * sizeof(T))`, which leaves
  zero-valued objects in the slots.
-/
def zeroSlots
    (I : Instantiation T)
    (p : Pointer)
    (start number : Nat) : Code T Unit := do
  if number = 0 then
    pure ()
  else do
    let b ← locate p (start + number - 1)
    modify fun h =>
      { h with
        slot := Function.update h.slot b (fun j =>
          if start ≤ j ∧ j < start + number then
            .live h.log.length I.zeroBytes
          else
            h.slot b j) }

end KArray

end CxPlat
