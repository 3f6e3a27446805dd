import CxPlat.KArray.Heap

/-
  The class template `Rtl::KArray` of `karray.h`, member
  function by member function, over pool memory.

  A member function takes the fields of `*this` and returns
  them with its result.  `ULONG` fields and counters are
  natural numbers below `2 ^ 32`, with wrapping arithmetic
  written out; `size_t` wraps at the width of the target.

  Key definitions include:
    * `KArray`
    * `KArray.reserve`, `KArray.resize`, `KArray.grow`
    * `KArray.moveElements`
    * `KArray.append`, `KArray.insertAt`, `KArray.eraseAt`
    * `KArray.insertSorted`, `KArray.insertSortedUnique`
    * `KArray.reset`, `KArray.fillConstruct`,
      `KArray.moveConstruct`, `KArray.moveAssign`
-/

------------------------------------------------------------
-- Machine Integers
------------------------------------------------------------

namespace CxPlat

namespace KArray

/- Conversion to `ULONG`. -/
def ulong
    (n : Nat) : Nat :=
  n % 2 ^ 32

/- `(ULONG)(-1)`. -/
def ulongMax : Nat :=
  2 ^ 32 - 1

/- `ULONG` addition. -/
def ulongAdd
    (x y : Nat) : Nat :=
  (x + y) % 2 ^ 32

/- `ULONG` subtraction. -/
def ulongSub
    (x y : Nat) : Nat :=
  (x + 2 ^ 32 - y) % 2 ^ 32

/- `size_t` addition. -/
def sizeAdd
    (w : SizeT)
    (x y : Nat) : Nat :=
  (x + y) % w.modulus

/- `size_t` subtraction. -/
def sizeSub
    (w : SizeT)
    (x y : Nat) : Nat :=
  (x + w.modulus - y) % w.modulus

/- `size_t` multiplication. -/
def sizeMul
    (w : SizeT)
    (x y : Nat) : Nat :=
  (x * y) % w.modulus

/- `RtlSIZETMult`: the product, if it is a `size_t`. -/
def rtlSIZETMult
    (w : SizeT)
    (x y : Nat) : Option Nat :=
  if x * y < w.modulus then some (x * y) else none

theorem ulong_of_lt
    {n : Nat}
    (hLt : n < 2 ^ 32) :
    ulong n = n :=
  Nat.mod_eq_of_lt hLt

theorem ulongAdd_of_lt
    {x y : Nat}
    (hLt : x + y < 2 ^ 32) :
    ulongAdd x y = x + y :=
  Nat.mod_eq_of_lt hLt

theorem ulongSub_of_le
    {x y : Nat}
    (hLe : y ≤ x)
    (hLt : x < 2 ^ 32) :
    ulongSub x y = x - y := by
  unfold ulongSub
  omega

theorem sizeAdd_of_lt
    {w : SizeT}
    {x y : Nat}
    (hLt : x + y < w.modulus) :
    sizeAdd w x y = x + y :=
  Nat.mod_eq_of_lt hLt

theorem sizeSub_of_le
    {w : SizeT}
    {x y : Nat}
    (hLe : y ≤ x)
    (hLt : x < w.modulus) :
    sizeSub w x y = x - y := by
  unfold sizeSub
  have hShift : x + w.modulus - y = x - y + w.modulus := by
    omega
  rw [hShift, Nat.add_mod_right]
  exact Nat.mod_eq_of_lt (by omega)

/- Counting down from zero gives the largest `size_t`. -/
theorem sizeSub_zero_one
    (w : SizeT) :
    sizeSub w 0 1 = w.modulus - 1 := by
  cases w with
  | bits32 => rfl
  | bits64 => rfl

variable {T : Type}

/-
  The slots covered by the byte count `number * sizeof(T)`
  that is passed to `memcpy`, `memmove` and `memset`.
-/
def slotsOf
    (I : Instantiation T)
    (number : Nat) : Nat :=
  sizeMul I.sizeT number I.sizeOf / I.sizeOf

/- A byte count inside a buffer does not wrap. -/
theorem slotsOf_of_le
    (I : Instantiation T)
    {number bound : Nat}
    (hBytes : I.sizeOf * bound < I.sizeT.modulus)
    (hLe : number ≤ bound) :
    slotsOf I number = number := by
  have hProduct : number * I.sizeOf ≤ I.sizeOf * bound := by
    rw [Nat.mul_comm]
    exact Nat.mul_le_mul_left _ hLe
  unfold slotsOf sizeMul
  rw [Nat.mod_eq_of_lt (by omega)]
  exact Nat.mul_div_cancel _ I.sizeOf_pos

/-
  A loop over a `ULONG` counter.  Its condition only reads
  the counter, so a loop that is not over after `2 ^ 32`
  rounds never ends.
-/
def ulongLoop
    (cond : Nat → Bool)
    (next : Nat → Nat)
    (body : Nat → Code T Unit)
    (i : Nat) : Code T Nat :=
  Comp.forLoop .endlessLoop cond next body (2 ^ 32) i

/- A loop over a `size_t` counter. -/
def sizeLoop
    (w : SizeT)
    (cond : Nat → Bool)
    (body : Nat → Code T Unit)
    (i : Nat) : Code T Nat :=
  Comp.forLoop .endlessLoop cond (fun i => sizeAdd w i 1)
    body w.modulus i

end KArray

end CxPlat

------------------------------------------------------------
-- Fields And Arguments
------------------------------------------------------------

namespace CxPlat

/- The fields of an array; default-constructed, all zero. -/
structure KArray where
  p : KArray.Pointer := none
  numElements : Nat := 0
  bufferSize : Nat := 0
deriving DecidableEq, Repr

namespace KArray

/-
  An element argument: a reference to an object outside the
  array, or to an element of a buffer, which is then read
  when the code reads it.
-/
inductive Ref (T : Type) where
  | value (v : T)
  | element (p : Pointer) (i : Nat)

/- The two kinds of reference parameter, `T &` and `T &&`. -/
inductive Pass where
  | copy
  | move
deriving DecidableEq, Repr

variable {T : Type}

/- `lessThanPredicate` and `T(t)` read the argument. -/
def Ref.read :
    Ref T → Code T T
  | .value v => pure v
  | .element p i => readAt p i

/- The initialiser `t` or `cxplatstd::move(t)`. -/
def Ref.take
    (I : Instantiation T) :
    Pass → Ref T → Code T T
  | .copy, t => t.read
  | .move, .value v => pure v
  | .move, .element p i => moveOutAt I p i

/- `new (addressof(p[i])) T(cxplatstd::move(q[j]))`. -/
def moveConstructAt
    (I : Instantiation T)
    (p : Pointer)
    (i : Nat)
    (q : Pointer)
    (j : Nat) : Code T Unit := do
  let v ← moveOutAt I q j
  constructAt I p i v

end KArray

end CxPlat

------------------------------------------------------------
-- Storage
------------------------------------------------------------

namespace CxPlat

namespace KArray

variable {T : Type}

/- In `reserve`: copy or move the elements to the new buffer. -/
def relocate
    (I : Instantiation T)
    (a : KArray)
    (b : Nat) : Code T Unit :=
  if I.triviallyCopyable then
    copySlots (some b) 0 a.p 0 (slotsOf I a.numElements)
  else do
    let _ ← ulongLoop
      (fun i => i < a.numElements)
      (fun i => ulongAdd i 1)
      (fun i => moveConstructAt I (some b) i a.p i)
      0

/- In `reserve`: destroy the old elements and the buffer. -/
def discard
    (I : Instantiation T)
    (a : KArray) : Code T Unit :=
  if a.p.isSome then do
    let _ ← ulongLoop
      (fun i => i < a.numElements)
      (fun i => ulongAdd i 1)
      (fun i => destroyAt a.p i)
      0
    exFreePoolWithTag I a.p
  else
    pure ()

/- Get a buffer for at least `count` elements. -/
def reserve
    (I : Instantiation T)
    (a : KArray)
    (count : Nat) : Code T (Bool × KArray) :=
  if a.bufferSize ≥ count then
    pure (true, a)
  else if count ≥ ulongMax then
    pure (false, a)
  else
    match rtlSIZETMult I.sizeT I.sizeOf count with
    | none => pure (false, a)
    | some bytesNeeded => do
        match ← exAllocatePoolUninitialized I bytesNeeded with
        | none => pure (false, a)
        | some b => do
            relocate I a b
            discard I a
            pure (true,
              { a with
                bufferSize := ulong count
                p := some b })

/-
  In `grow`: at least four elements, and at least half as
  much again as there is room for now.
-/
def growCount
    (I : Instantiation T)
    (a : KArray)
    (count : Nat) : Nat :=
  let count := if count < 4 then 4 else count
  let exponentialGrowth :=
    sizeAdd I.sizeT a.bufferSize (a.bufferSize / 2)
  if count < exponentialGrowth then exponentialGrowth
  else count

/- Reserve with room to spare. -/
def grow
    (I : Instantiation T)
    (a : KArray)
    (count : Nat) : Code T (Bool × KArray) :=
  if a.bufferSize ≥ count then
    pure (true, a)
  else
    reserve I a (growCount I a count)

theorem le_growCount
    (I : Instantiation T)
    (a : KArray)
    (count : Nat) :
    count ≤ growCount I a count := by
  unfold growCount
  dsimp only
  split <;> split <;> omega

/-
  Shift the last `number` elements, from index `source` on,
  to index `target` on.
-/
def moveElements
    (I : Instantiation T)
    (a : KArray)
    (source target number : Nat) : Code T Unit := do
  if source = target ∨ number = 0 then
    pure ()
  else if I.triviallyCopyable then
    copySlots a.p target a.p source (slotsOf I number)
  else if source < target then
    if a.numElements ≠ ulongAdd source number then
      throw .assertFailed
    else do
      let delta := ulongSub target source
      let i ← ulongLoop
        (fun i => ulongSub i 1 ≥ a.numElements)
        (fun i => ulongSub i 1)
        (fun i =>
          moveConstructAt I a.p (ulongSub i 1)
            a.p (ulongSub (ulongSub i delta) 1))
        (ulongAdd target number)
      let i ← ulongLoop
        (fun i => i > target)
        (fun i => ulongSub i 1)
        (fun i => do
          destroyAt a.p (ulongSub i 1)
          moveConstructAt I a.p (ulongSub i 1)
            a.p (ulongSub (ulongSub i delta) 1))
        i
      let _ ← ulongLoop
        (fun i => i > source)
        (fun i => ulongSub i 1)
        (fun i => destroyAt a.p (ulongSub i 1))
        i
  else
    if a.numElements ≠ ulongAdd source number then
      throw .assertFailed
    else do
      let delta := ulongSub source target
      let i ← ulongLoop
        (fun i => i < source)
        (fun i => ulongAdd i 1)
        (fun i =>
          moveConstructAt I a.p i a.p (ulongAdd i delta))
        target
      let i ← ulongLoop
        (fun i => i < ulongAdd target number)
        (fun i => ulongAdd i 1)
        (fun i => do
          destroyAt a.p i
          moveConstructAt I a.p i a.p (ulongAdd i delta))
        i
      let _ ← ulongLoop
        (fun i => i < ulongAdd source number)
        (fun i => ulongAdd i 1)
        (fun i => destroyAt a.p i)
        i

/- Destroy all elements and give the buffer back. -/
def reset
    (I : Instantiation T)
    (a : KArray) : Code T KArray := do
  if a.p.isSome then do
    if !I.triviallyDestructible then do
      let _ ← ulongLoop
        (fun i => i > 0)
        (fun i => ulongSub i 1)
        (fun i => destroyAt a.p (ulongSub i 1))
        a.numElements
    exFreePoolWithTag I a.p
    pure { p := none, numElements := 0, bufferSize := 0 }
  else
    pure a

end KArray

end CxPlat

------------------------------------------------------------
-- Construction, Destruction And Moves
------------------------------------------------------------

namespace CxPlat

namespace KArray

variable {T : Type}

/-
  `KArray(size_t count, const T &value)`.  What `grow`
  returns is not looked at.
-/
def fillConstruct
    (I : Instantiation T)
    (count : Nat)
    (value : T) : Code T KArray := do
  let a : KArray := {}
  if count ≠ 0 then do
    let (_, a) ← grow I a count
    let _ ← ulongLoop
      (fun i => i < count)
      (fun i => ulongAdd i 1)
      (fun i => assignAt I a.p i value)
      0
    pure { a with numElements := ulong count }
  else
    pure a

/- `KArray(KArray &&rhs)`: the new array, and what is left. -/
def moveConstruct
    (rhs : KArray) : KArray × KArray :=
  (rhs, { p := none, numElements := 0, bufferSize := 0 })

/- `operator=(KArray &&rhs)` for an `rhs` other than `*this`. -/
def moveAssign
    (I : Instantiation T)
    (a rhs : KArray) : Code T (KArray × KArray) := do
  let _ ← reset I a
  pure (rhs, { p := none, numElements := 0, bufferSize := 0 })

/- `~KArray()`. -/
def destroy
    (I : Instantiation T)
    (a : KArray) : Code T KArray :=
  reset I a

end KArray

end CxPlat

------------------------------------------------------------
-- Element Operations
------------------------------------------------------------

namespace CxPlat

namespace KArray

variable {T : Type}

/- In `resize`: construct the elements to be added. -/
def extend
    (I : Instantiation T)
    (a : KArray)
    (count : Nat) : Code T Unit :=
  if I.triviallyDefaultConstructible then
    if count > a.numElements then
      zeroSlots I a.p a.numElements
        (slotsOf I (sizeSub I.sizeT count a.numElements))
    else
      pure ()
  else do
    let _ ← sizeLoop I.sizeT
      (fun i => i < count)
      (fun i => constructAt I a.p i I.defaultValue)
      a.numElements

/- In `resize`: destroy the elements past the new end. -/
def truncate
    (I : Instantiation T)
    (a : KArray)
    (count : Nat) : Code T Unit :=
  if !I.triviallyDestructible then do
    let _ ← sizeLoop I.sizeT
      (fun i => i < a.numElements)
      (fun i => destroyAt a.p i)
      count
  else
    pure ()

def resize
    (I : Instantiation T)
    (a : KArray)
    (count : Nat) : Code T (Bool × KArray) := do
  let (ok, a) ← reserve I a count
  if !ok then
    pure (false, a)
  else do
    extend I a count
    truncate I a count
    pure (true, { a with numElements := ulong count })

def clear
    (I : Instantiation T)
    (a : KArray) : Code T KArray := do
  let (_, a) ← resize I a 0
  pure a

/- In `append`, `insertAt`: construct and count an element. -/
def place
    (I : Instantiation T)
    (pass : Pass)
    (a : KArray)
    (index : Nat)
    (t : Ref T) : Code T (Bool × KArray) := do
  let v ← t.take I pass
  constructAt I a.p index v
  pure (true,
    { a with numElements := ulongAdd a.numElements 1 })

/- `append`, for both kinds of reference. -/
def append
    (I : Instantiation T)
    (pass : Pass)
    (a : KArray)
    (t : Ref T) : Code T (Bool × KArray) := do
  let (ok, a) ← grow I a (sizeAdd I.sizeT a.numElements 1)
  if !ok then
    pure (false, a)
  else
    place I pass a a.numElements t

/-
  `push_back`.  Both overloads call `append` on a named
  reference, which is an lvalue.
-/
def pushBack
    (I : Instantiation T)
    (a : KArray)
    (t : Ref T) : Code T (Bool × KArray) :=
  append I .copy a t

def popBack
    (I : Instantiation T)
    (a : KArray) : Code T KArray := do
  let (_, a) ← resize I a (sizeSub I.sizeT a.numElements 1)
  pure a

/- In `insertAt`: shift the elements from `index` on up. -/
def makeRoom
    (I : Instantiation T)
    (a : KArray)
    (index : Nat) : Code T Unit :=
  if index < a.numElements then
    moveElements I a (ulong index)
      (ulong (sizeAdd I.sizeT index 1))
      (ulong (sizeSub I.sizeT a.numElements index))
  else
    pure ()

/- `insertAt`, for both kinds of reference. -/
def insertAt
    (I : Instantiation T)
    (pass : Pass)
    (a : KArray)
    (index : Nat)
    (t : Ref T) : Code T (Bool × KArray) := do
  if index > a.numElements then
    pure (false, a)
  else do
    let (ok, a) ← grow I a (sizeAdd I.sizeT a.numElements 1)
    if !ok then
      pure (false, a)
    else do
      makeRoom I a index
      place I pass a index t

/- `insertSorted`, for both kinds of reference. -/
def insertSorted
    (I : Instantiation T)
    (lessThanPredicate : T → T → Bool)
    (pass : Pass)
    (a : KArray)
    (t : Ref T) : Code T (Bool × KArray) := do
  let found ← Comp.searchLoop .endlessLoop
    (fun i => i < a.numElements)
    (fun i => sizeAdd I.sizeT i 1)
    (fun i => do
      let x ← readAt a.p i
      let v ← t.read
      if !lessThanPredicate x v then
        some <$> insertAt I pass a i t
      else
        pure none)
    I.sizeT.modulus 0
  match found with
  | some r => pure r
  | none => append I pass a t

/- `insertSortedUnique`, for both kinds of reference. -/
def insertSortedUnique
    (I : Instantiation T)
    (lessThanPredicate : T → T → Bool)
    (pass : Pass)
    (a : KArray)
    (t : Ref T) : Code T (Bool × KArray) := do
  let found ← Comp.searchLoop .endlessLoop
    (fun i => i < a.numElements)
    (fun i => sizeAdd I.sizeT i 1)
    (fun i => do
      let x ← readAt a.p i
      let v ← t.read
      if !lessThanPredicate x v then
        if lessThanPredicate v x then
          some <$> insertAt I pass a i t
        else
          pure (some (true, a))
      else
        pure none)
    I.sizeT.modulus 0
  match found with
  | some r => pure r
  | none => append I pass a t

/- `eraseAt`; an index out of range stops the program. -/
def eraseAt
    (I : Instantiation T)
    (a : KArray)
    (index : Nat) : Code T KArray := do
  if index ≥ a.numElements then
    throw .failFast
  else do
    destroyAt a.p index
    moveElements I a (ulong (sizeAdd I.sizeT index 1))
      (ulong index)
      (ulong (sizeSub I.sizeT
        (sizeSub I.sizeT a.numElements index) 1))
    pure { a with numElements := ulongSub a.numElements 1 }

end KArray

end CxPlat
