import CxPlat.AllocFailure
import CxPlat.Lib.Bytes
import CxPlat.Posix.Thread
import Mathlib.Data.Fin.VecNotation

/-
  Random bytes on POSIX platforms, in `cxplat_posix.c`.

  `CxPlatRandom` calls `read` once.  That call may fail, or
  write fewer bytes than it was asked for, down to none.  The
  debug build of `CxPlatAlloc` takes its random number from
  `CxPlatRandom` and does not look at the status.

  Each byte of memory carries whether it has been written
  since the buffer was handed over.  An allocation does not
  rest on bytes that have not been written if its result is
  the same whatever they are.

  Key definitions include:
    * `Cell`, `Memory`
    * `Read`, `random`
    * `alloc`
    * `Settled`

  Key theorems include:
    * `random_success_iff`
    * `settled_iff`
    * `alloc_settled_iff`
    * `randomness_fresh_iff`
-/

------------------------------------------------------------
-- Reading Random Bytes
------------------------------------------------------------

namespace CxPlat

namespace PosixRandom

open PosixThread (Status statusSuccess)

/- A byte, and whether it has been written. -/
structure Cell where
  byte : BitVec 8
  written : Bool
deriving DecidableEq, Repr

abbrev Buffer (n : Nat) := Fin n → Cell

/- What the memory held before. -/
def stale
    {n : Nat}
    (bytes : Fin n → BitVec 8) : Buffer n :=
  fun i => { byte := bytes i, written := false }

/- Write bytes to the front of a buffer. -/
def Buffer.write
    {n : Nat}
    (buffer : Buffer n)
    (data : List (BitVec 8)) : Buffer n :=
  fun i =>
    match data[i.val]? with
    | some byte => { byte, written := true }
    | none => buffer i

/- The caller's buffer and the thread's `errno`. -/
structure Memory (n : Nat) where
  errno : BitVec 32
  buffer : Buffer n

/- How a call of `read` ends. -/
inductive Read where
  | error (errno : BitVec 32)
  | bytes (data : List (BitVec 8))
deriving DecidableEq, Repr

/- What `read` may do when asked for `n` bytes. -/
def Read.Allowed
    (n : Nat) : Read → Prop
  | .error errno => errno ≠ 0
  | .bytes data => data.length ≤ n

/- All the bytes that were asked for. -/
def Read.Full
    (n : Nat)
    (outcome : Read) : Prop :=
  ∃ data, outcome = .bytes data ∧ data.length = n

def read
    {n : Nat}
    (m : Memory n) : Read → Int × Memory n
  | .error errno => (-1, { m with errno })
  | .bytes data =>
      (data.length, { m with buffer := m.buffer.write data })

/- `CxPlatRandom`. -/
def random
    {n : Nat}
    (m : Memory n)
    (outcome : Read) : Status × Memory n :=
  let (result, m') := read m outcome
  if result = -1 then
    (m'.errno, m')
  else
    (statusSuccess, m')

end PosixRandom

end CxPlat

------------------------------------------------------------
-- Allocating at Random
------------------------------------------------------------

namespace CxPlat

namespace PosixRandom

open AllocFailure (Platform)

/- The value of `Rand`. -/
def loadUint32
    (rand : Buffer 4) : BitVec 32 :=
  Bytes.uint32 (rand 0).byte (rand 1).byte
    (rand 2).byte (rand 3).byte

/-
  `CxPlatAlloc`, where `Rand` lies in the memory and `malloc`
  returns an address or NULL.
-/
def alloc
    {w : Nat}
    (p : Platform w)
    (m : Memory 4)
    (outcome : Read)
    (malloc : Option Nat) : Option Nat × Platform w :=
  -- the status of `CxPlatRandom` is not looked at
  let rand :=
    if p.allocFailDenominator.toInt > 0 then
      (random m outcome).2.buffer
    else
      m.buffer
  AllocFailure.alloc p (loadUint32 rand) malloc

/- The bytes that `read` has written. -/
def Read.data : Read → List (BitVec 8)
  | .error _ => []
  | .bytes data => data

/-
  The bytes of `Rand` that have been written settle whether
  the remainder is one: there are no others, or the others
  make no difference to the remainder, or no value of theirs
  makes it one.
-/
def Settled
    (denominator : Nat)
    (data : List (BitVec 8)) : Prop :=
  4 ≤ data.length ∨
    denominator ∣ 256 ^ data.length ∨
    ∀ h < 256 ^ (4 - data.length),
      (Bytes.value data + 256 ^ data.length * h) %
        denominator ≠ 1

end PosixRandom

end CxPlat

------------------------------------------------------------
-- Bytes That Were Written
------------------------------------------------------------

namespace CxPlat

namespace PosixRandom

open AllocFailure (Platform)
open PosixThread (Status statusSuccess)

variable {n w : Nat} {bytes : Fin n → BitVec 8}
  {outcome : Read} {errno : BitVec 32}

theorem written_write_iff
    (data : List (BitVec 8))
    (i : Fin n) :
    ((stale bytes).write data i).written = true ↔
      i.val < data.length := by
  unfold Buffer.write
  split
  next byte hByte =>
    have hLess := (List.getElem?_eq_some_iff.mp hByte).1
    simp [hLess]
  next hNone =>
    have hLe := List.getElem?_eq_none_iff.mp hNone
    simp [stale, hLe]

/- Nothing is known of a byte unless all of them are read. -/
theorem all_written_write_iff
    (data : List (BitVec 8)) :
    (∀ i, ((stale bytes).write data i).written = true) ↔
      n ≤ data.length := by
  constructor
  · intro hAll
    cases n with
    | zero => exact Nat.zero_le _
    | succ n =>
        have hLast :=
          (written_write_iff data (Fin.last n)).mp (hAll _)
        exact hLast
  · intro hLe i
    exact (written_write_iff data i).mpr (by omega)

@[simp]
theorem random_error
    (m : Memory n) :
    random m (.error errno) = (errno, { m with errno }) :=
  rfl

@[simp]
theorem random_bytes
    (m : Memory n)
    (data : List (BitVec 8)) :
    random m (.bytes data) =
      (statusSuccess,
        { m with buffer := m.buffer.write data }) := by
  have hCount : (data.length : Int) ≠ -1 := by omega
  simp only [random, read]
  exact if_neg hCount

/-
  Success means that all bytes were written, except after a
  short read.
-/
theorem random_success_iff
    (hAllowed : outcome.Allowed n) :
    ((random ⟨errno, stale bytes⟩ outcome).1 =
        statusSuccess →
      ∀ i,
        ((random ⟨errno, stale bytes⟩ outcome).2.buffer
          i).written = true) ↔
      ((∃ code, outcome = .error code) ∨ outcome.Full n) := by
  cases outcome with
  | error code =>
      simp only [random_error]
      constructor
      · intro _
        exact Or.inl ⟨code, rfl⟩
      · intro _ hSuccess
        exact absurd hSuccess hAllowed
  | bytes data =>
      have hLe : data.length ≤ n := hAllowed
      simp only [random_bytes, all_written_write_iff,
        forall_const]
      constructor
      · intro hAll
        exact Or.inr ⟨data, rfl, Nat.le_antisymm hLe hAll⟩
      · rintro (⟨code, hError⟩ | ⟨_, hData, hLength⟩)
        · cases hError
        · cases hData
          exact Nat.le_of_eq hLength.symm

end PosixRandom

end CxPlat

------------------------------------------------------------
-- Decisions of an Allocation
------------------------------------------------------------

namespace CxPlat

namespace PosixRandom

open AllocFailure (Platform randomFails)
open PosixThread (Status statusSuccess)

variable {n w : Nat} {bytes : Fin n → BitVec 8}
  {outcome : Read} {errno : BitVec 32}
  {p : Platform w}

theorem toNat_loadUint32
    (rand : Buffer 4) :
    (loadUint32 rand).toNat =
      Bytes.value (List.ofFn (fun i => (rand i).byte)) := by
  rw [loadUint32, Bytes.toNat_uint32]
  rfl

/- What was read, and behind it what was there before. -/
theorem bytes_write
    {data : List (BitVec 8)}
    (hLe : data.length ≤ n) :
    List.ofFn
        (fun i => ((stale bytes).write data i).byte) =
      data ++ (List.ofFn bytes).drop data.length := by
  apply List.ext_getElem
  · simp
    omega
  · intro i _ _
    rw [List.getElem_ofFn]
    by_cases hLess : i < data.length
    · rw [List.getElem_append_left hLess]
      simp [Buffer.write, hLess]
    · have hBehind : data.length + (i - data.length) = i := by
        omega
      rw [List.getElem_append_right (by omega)]
      simp [Buffer.write, stale, hLess, hBehind]

/- The number in `Rand`, by what the stack held before. -/
theorem toNat_rand
    {stack : Fin 4 → BitVec 8}
    (hAllowed : outcome.Allowed 4) :
    (loadUint32
        (random ⟨errno, stale stack⟩ outcome).2.buffer).toNat =
      Bytes.value outcome.data +
        256 ^ outcome.data.length *
          Bytes.value
            ((List.ofFn stack).drop outcome.data.length) := by
  rw [toNat_loadUint32, ← Bytes.value_append]
  cases outcome with
  | error code => rfl
  | bytes data =>
      have hLe : data.length ≤ 4 := hAllowed
      rw [random_bytes, bytes_write hLe]
      rfl

/- The stack may hold any number behind what was read. -/
theorem exists_stack
    {k h : Nat}
    (hLe : k ≤ n)
    (hLess : h < 256 ^ (n - k)) :
    ∃ stack : Fin n → BitVec 8,
      Bytes.value ((List.ofFn stack).drop k) = h := by
  rcases Bytes.exists_value hLess with
    ⟨bytes, hLength, hValue⟩
  have hWhole :
      (List.replicate k 0 ++ bytes).length = n := by
    rw [List.length_append, List.length_replicate, hLength]
    omega
  refine ⟨fun i =>
    (List.replicate k 0 ++ bytes).get (i.cast hWhole.symm),
    ?_⟩
  have hSame :
      List.ofFn
          (fun i : Fin n =>
            (List.replicate k 0 ++ bytes).get
              (i.cast hWhole.symm)) =
        List.replicate k 0 ++ bytes := by
    apply List.ext_getElem
    · simp [hLength, hLe]
    · intro i _ _
      simp
  rw [hSame, List.drop_left' List.length_replicate, hValue]

/- The decision that a random number leads to. -/
theorem randomFails_iff
    {denominator rand : BitVec 32} :
    randomFails denominator rand = true ↔
      rand.toNat % denominator.toNat = 1 := by
  unfold randomFails
  rw [decide_eq_true_iff, ← BitVec.toNat_inj,
    BitVec.toNat_umod]
  rfl

/- Injected, or left to `malloc`. -/
theorem alloc_positive
    {m : Memory 4}
    {malloc : Option Nat}
    (hPositive : 0 < p.allocFailDenominator.toInt) :
    (alloc p m outcome malloc).1 =
      if (loadUint32 (random m outcome).2.buffer).toNat %
          p.allocFailDenominator.toNat = 1 then
        none
      else
        malloc := by
  have hNot : ¬ p.allocFailDenominator.toInt < 0 := by omega
  simp only [alloc, AllocFailure.alloc, AllocFailure.injects,
    randomFails_iff, gt_iff_lt, hPositive, hNot, true_and,
    if_true, if_false]
  by_cases hHit :
      (loadUint32 (random m outcome).2.buffer).toNat %
        p.allocFailDenominator.toNat = 1
  · simp only [if_pos hHit]
  · simp only [if_neg hHit]

/-
  A remainder that all numbers share, or that none has.  Two
  neighbours that share it differ by a multiple.
-/
theorem settled_iff
    (denominator : Nat)
    (data : List (BitVec 8)) :
    (∀ h < 256 ^ (4 - data.length),
      ∀ h' < 256 ^ (4 - data.length),
        ((Bytes.value data + 256 ^ data.length * h) %
            denominator = 1 ↔
          (Bytes.value data + 256 ^ data.length * h') %
            denominator = 1)) ↔
      Settled denominator data := by
  unfold Settled
  constructor
  · intro hSame
    by_cases hAll : 4 ≤ data.length
    · exact Or.inl hAll
    right
    have hMany : 1 < 256 ^ (4 - data.length) :=
      Nat.one_lt_pow (by omega) (by decide)
    by_cases hFirst :
        (Bytes.value data + 256 ^ data.length * 0) %
          denominator = 1
    · left
      have hSecond :=
        (hSame 0 (by omega) 1 hMany).mp hFirst
      have hModEq :
          Bytes.value data + 256 ^ data.length ≡
            Bytes.value data + 0 [MOD denominator] := by
        unfold Nat.ModEq
        rw [Nat.mul_one] at hSecond
        rw [Nat.mul_zero] at hFirst
        rw [hSecond, hFirst]
      exact Nat.modEq_zero_iff_dvd.mp
        (Nat.ModEq.add_left_cancel' _ hModEq)
    · right
      intro h hLess hHit
      exact hFirst ((hSame h hLess 0 (by omega)).mp hHit)
  · rintro (hAll | hDivides | hNone) h hLess h' hLess'
    · have hOne : 4 - data.length = 0 := by omega
      rw [hOne, Nat.pow_zero] at hLess hLess'
      have hZero : h = 0 := by omega
      have hZero' : h' = 0 := by omega
      rw [hZero, hZero']
    · have hDrop :
          ∀ k, (Bytes.value data + 256 ^ data.length * k) %
            denominator = Bytes.value data % denominator := by
        intro k
        rw [Nat.add_mod,
          Nat.mod_eq_zero_of_dvd
            (Dvd.dvd.mul_right hDivides k),
          Nat.add_zero, Nat.mod_mod]
      rw [hDrop h, hDrop h']
    · exact iff_of_false (hNone h hLess) (hNone h' hLess')

/-
  The result does not depend on the stack exactly if what was
  read settles it.
-/
theorem alloc_settled_iff
    (hAllowed : outcome.Allowed 4)
    (hPositive : 0 < p.allocFailDenominator.toInt) :
    (∀ stack stack' malloc,
      (alloc p ⟨errno, stale stack⟩ outcome malloc).1 =
        (alloc p ⟨errno, stale stack'⟩ outcome malloc).1) ↔
      Settled p.allocFailDenominator.toNat outcome.data := by
  have hLe : outcome.data.length ≤ 4 := by
    cases outcome with
    | error code => exact Nat.zero_le 4
    | bytes data => exact hAllowed
  rw [← settled_iff]
  simp only [alloc_positive hPositive, toNat_rand hAllowed]
  constructor
  · intro hSame h hLess h' hLess'
    rcases exists_stack hLe hLess with ⟨stack, hStack⟩
    rcases exists_stack hLe hLess' with ⟨stack', hStack'⟩
    -- `malloc` succeeds, so that NULL is an injected failure
    have hResult := hSame stack stack' (some 0)
    rw [hStack, hStack'] at hResult
    split at hResult <;> split at hResult <;> simp_all
  · intro hSame stack stack' malloc
    have hFits :
        ∀ bytes : Fin 4 → BitVec 8,
          Bytes.value
              ((List.ofFn bytes).drop outcome.data.length) <
            256 ^ (4 - outcome.data.length) := by
      intro bytes
      have hLess := Bytes.value_lt
        ((List.ofFn bytes).drop outcome.data.length)
      rwa [List.length_drop, List.length_ofFn] at hLess
    have hIff := hSame _ (hFits stack) _ (hFits stack')
    simp only [hIff]

/-
  A status of success has all bytes behind it, except after a
  short read.  The decision of an allocation has nothing but
  bytes that were read behind it exactly if those settle it,
  as all four of them always do.
-/
theorem randomness_fresh_iff
    {errno' : BitVec 32}
    {outcome' : Read}
    (hAllowed : outcome.Allowed n)
    (hAllowed' : outcome'.Allowed 4) :
    (((random ⟨errno, stale bytes⟩ outcome).1 =
          statusSuccess →
        ∀ i,
          ((random ⟨errno, stale bytes⟩ outcome).2.buffer
            i).written = true) ∧
      (0 < p.allocFailDenominator.toInt →
        ∀ stack stack' malloc,
          (alloc p ⟨errno', stale stack⟩ outcome' malloc).1 =
            (alloc p ⟨errno', stale stack'⟩ outcome'
              malloc).1)) ↔
      ((∃ code, outcome = .error code) ∨ outcome.Full n) ∧
        (p.allocFailDenominator.toInt ≤ 0 ∨
          Settled p.allocFailDenominator.toNat
            outcome'.data) := by
  rw [random_success_iff hAllowed]
  apply and_congr_right
  intro _
  rcases Int.lt_or_le 0 p.allocFailDenominator.toInt with
    hPositive | hNot
  · rw [alloc_settled_iff hAllowed' hPositive]
    constructor
    · intro hSettled
      exact Or.inr (hSettled hPositive)
    · rintro (hNot | hSettled) _
      · omega
      · exact hSettled
  · constructor
    · intro _
      exact Or.inl hNot
    · intro _ hPositive
      omega

/- One allocation in 257 fails. -/
def oneIn257 : Platform 64 where
  allocFailDenominator := 257
  allocCounter := 0

theorem randomness_fresh_fourBytes :
    ((random ⟨0, stale ![0, 0, 0, 0]⟩
        (.bytes [1, 2, 3, 4])).1 = statusSuccess →
      ∀ i,
        ((random ⟨0, stale ![0, 0, 0, 0]⟩
          (.bytes [1, 2, 3, 4])).2.buffer i).written =
            true) ∧
    (0 < oneIn257.allocFailDenominator.toInt →
      ∀ stack stack' malloc,
        (alloc oneIn257 ⟨0, stale stack⟩
            (.bytes [1, 2, 3, 4]) malloc).1 =
          (alloc oneIn257 ⟨0, stale stack'⟩
            (.bytes [1, 2, 3, 4]) malloc).1) := by
  have hAllowed : (Read.bytes [1, 2, 3, 4]).Allowed 4 :=
    Nat.le_refl 4
  have hFull : (Read.bytes [1, 2, 3, 4]).Full 4 :=
    ⟨_, rfl, rfl⟩
  exact (randomness_fresh_iff hAllowed hAllowed).mpr
    ⟨Or.inr hFull, Or.inr (Or.inl (Nat.le_refl 4))⟩

/-
  A read that writes one byte of four is a success, and what
  the stack held decides whether the allocation fails.
-/
theorem shortRead_stale :
    (Read.bytes [1]).Allowed 4 ∧
    (random ⟨0, stale ![0, 0, 0, 0]⟩ (.bytes [1])).1 =
      statusSuccess ∧
    ¬ (∀ i,
      ((random ⟨0, stale ![0, 0, 0, 0]⟩
        (.bytes [1])).2.buffer i).written = true) ∧
    0 < oneIn257.allocFailDenominator.toInt ∧
    (alloc oneIn257 ⟨0, stale ![0, 0, 0, 0]⟩
      (.bytes [1]) (some 64)).1 = none ∧
    (alloc oneIn257 ⟨0, stale ![0, 1, 0, 0]⟩
      (.bytes [1]) (some 64)).1 = some 64 := by
  refine ⟨?_, by decide, by decide, by decide, by decide,
    by decide⟩
  simp [Read.Allowed]

end PosixRandom

end CxPlat
