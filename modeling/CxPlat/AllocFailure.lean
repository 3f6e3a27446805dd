import CxPlat.Posix.Shims
import Mathlib.Data.Int.CardIntervalMod
import Mathlib.Data.Set.Card

/-
  Failures that the debug builds of `cxplat_posix.c` and of
  `cxplat_winuser.c` inject into `CxPlatAlloc`, with the same
  condition in both.

  A positive denominator fails allocations at random, and a
  negative one fails every so many of them, by a counter that
  is a `long`: of 32 bits on Windows, of 32 or 64 bits on
  POSIX platforms.

  Key definitions include:
    * `Platform`
    * `setAllocFailDenominator`
    * `injects`, `alloc`

  Key theorems include:
    * `countFails_iff`
    * `ncard_failingRandoms`
    * `randomFailures_share_iff`
-/

------------------------------------------------------------
-- Injected Failures
------------------------------------------------------------

namespace CxPlat

namespace AllocFailure

/- The debug fields of `CX_PLATFORM`. -/
structure Platform (w : Nat) where
  allocFailDenominator : BitVec 32
  allocCounter : BitVec w
deriving DecidableEq, Repr

variable {w : Nat}

/- `CxPlatSetAllocFailDenominator`. -/
def setAllocFailDenominator
    (p : Platform w)
    (value : BitVec 32) : Platform w :=
  { p with
    allocFailDenominator := value
    allocCounter := 0 }

/- `CxPlatGetAllocFailDenominator`. -/
def getAllocFailDenominator
    (p : Platform w) : BitVec 32 :=
  p.allocFailDenominator

/- `Rand % AllocFailDenominator == 1`, which is unsigned. -/
def randomFails
    (denominator rand : BitVec 32) : Bool :=
  rand % denominator = 1

/- `count % AllocFailDenominator == 0`, which is signed. -/
def countFails
    (denominator : BitVec 32)
    (count : BitVec w) : Bool :=
  count.srem (denominator.signExtend w) = 0

/-
  Whether a failure is injected, where `CxPlatRandom` leaves
  `rand` in `Rand`.
-/
def injects
    (p : Platform w)
    (rand : BitVec 32) : Bool × Platform w :=
  let denominator := p.allocFailDenominator
  if denominator.toInt > 0 ∧ randomFails denominator rand then
    (true, p)
  else if denominator.toInt < 0 then
    let counted :=
      Interlocked.interlockedIncrement p.allocCounter
    (countFails denominator counted.result,
      { p with allocCounter := counted.cell })
  else
    (false, p)

/-
  `CxPlatAlloc`, where `malloc` returns an address or NULL.
-/
def alloc
    (p : Platform w)
    (rand : BitVec 32)
    (malloc : Option Nat) : Option Nat × Platform w :=
  match injects p rand with
  | (true, p') => (none, p')
  | (false, p') => (malloc, p')

end AllocFailure

end CxPlat

------------------------------------------------------------
-- Every So Many
------------------------------------------------------------

namespace CxPlat

namespace AllocFailure

variable {w : Nat} {denominator : BitVec 32}

/- As long as the counter has not become negative. -/
theorem toInt_ofNat_of_lt
    {k : Nat}
    (hWidth : 0 < w)
    (hLess : k < 2 ^ (w - 1)) :
    (BitVec.ofNat w k).toInt = k := by
  have hHalf := Nat.two_pow_pred_add_two_pow_pred hWidth
  have hNat : (BitVec.ofNat w k).toNat = k := by
    rw [BitVec.toNat_ofNat]
    exact Nat.mod_eq_of_lt (by omega)
  rw [BitVec.toInt_eq_toNat_of_lt (by omega), hNat]

/- The sign of the denominator makes no difference. -/
theorem countFails_iff
    {n k : Nat}
    (hWidth : 32 ≤ w)
    (hDenominator : denominator.toInt = -(n : Int))
    (hLess : k < 2 ^ (w - 1)) :
    countFails denominator (BitVec.ofNat w k) = true ↔
      n ∣ k := by
  have hZero : (0 : BitVec w).toInt = 0 := BitVec.toInt_zero
  unfold countFails
  rw [decide_eq_true_iff, ← BitVec.toInt_inj,
    BitVec.toInt_srem, BitVec.toInt_signExtend_of_le hWidth,
    hDenominator, toInt_ofNat_of_lt (by omega) hLess, hZero,
    Int.tmod_neg, ← Int.dvd_iff_tmod_eq_zero,
    Int.natCast_dvd_natCast]

end AllocFailure

end CxPlat

------------------------------------------------------------
-- At Random
------------------------------------------------------------

namespace CxPlat

namespace AllocFailure

variable {w : Nat} {p : Platform w}

/- The numbers below a bound that leave the remainder one. -/
theorem ncard_mod_eq_one
    {d : Nat}
    (bound : Nat)
    (hTwo : 2 ≤ d) :
    {n : Nat | n < bound ∧ n % d = 1}.ncard =
      bound / d + if 1 < bound % d then 1 else 0 := by
  have hOne : 1 % d = 1 := Nat.mod_eq_of_lt hTwo
  have hSet :
      {n : Nat | n < bound ∧ n % d = 1} =
        ((Finset.range bound).filter
          (fun n => n ≡ 1 [MOD d]) : Finset Nat) := by
    ext n
    simp [Nat.ModEq, hOne]
  rw [hSet, Set.ncard_coe_finset,
    ← Nat.count_eq_card_filter_range,
    Nat.count_modEq_card bound (by omega) 1, hOne]

/- The random numbers for which an allocation fails. -/
def failingRandoms
    (denominator : BitVec 32) : Set (BitVec 32) :=
  {rand | randomFails denominator rand = true}

theorem ncard_failingRandoms
    {denominator : BitVec 32}
    (hTwo : 2 ≤ denominator.toNat) :
    (failingRandoms denominator).ncard =
      2 ^ 32 / denominator.toNat +
        if 1 < 2 ^ 32 % denominator.toNat then 1 else 0 := by
  rw [← ncard_mod_eq_one (2 ^ 32) hTwo,
    ← Set.ncard_image_of_injective _ BitVec.toNat_injective]
  congr 1
  ext n
  simp only [failingRandoms, randomFails, Set.mem_image,
    Set.mem_ofPred_eq, decide_eq_true_iff]
  constructor
  · rintro ⟨rand, hFails, hEq⟩
    subst hEq
    refine ⟨rand.isLt, ?_⟩
    rw [← BitVec.toNat_umod, hFails]
    rfl
  · rintro ⟨hLess, hMod⟩
    have hNat : (BitVec.ofNat 32 n).toNat = n := by
      rw [BitVec.toNat_ofNat]
      exact Nat.mod_eq_of_lt hLess
    refine ⟨BitVec.ofNat 32 n, ?_, hNat⟩
    apply BitVec.eq_of_toNat_eq
    rw [BitVec.toNat_umod, hNat, hMod]
    rfl

/- Modulo one nothing leaves the remainder one. -/
theorem ncard_failingRandoms_one :
    (failingRandoms 1#32).ncard = 0 := by
  have hNone : failingRandoms 1#32 = ∅ := by
    ext rand
    simp [failingRandoms, randomFails]
  rw [hNone, Set.ncard_empty]

/- With a positive denominator only the random number counts. -/
theorem alloc_eq_none_iff
    {rand : BitVec 32}
    {address : Nat}
    (hPos : 1 ≤ p.allocFailDenominator.toInt) :
    (alloc p rand (some address)).1 = none ↔
      randomFails p.allocFailDenominator rand = true := by
  have hNotNeg : ¬ p.allocFailDenominator.toInt < 0 := by
    omega
  unfold alloc injects
  by_cases hFails :
      randomFails p.allocFailDenominator rand = true
  · rw [if_pos ⟨by omega, hFails⟩]
    exact iff_of_true rfl hFails
  · rw [if_neg (fun h => hFails h.2), if_neg hNotNeg]
    exact iff_of_false (by simp) hFails

/- Rounded up or down, one part in `d`. -/
def IsShare
    (d count : Nat) : Prop :=
  count = 2 ^ 32 / d ∨ count = (2 ^ 32 + (d - 1)) / d

instance
    (d count : Nat) :
    Decidable (IsShare d count) :=
  inferInstanceAs (Decidable (_ ∨ _))

theorem isShare_of_two_le
    {d : Nat}
    (hTwo : 2 ≤ d) :
    IsShare d
      (2 ^ 32 / d + if 1 < 2 ^ 32 % d then 1 else 0) := by
  unfold IsShare
  split
  next hRest =>
    right
    have hSplit := Nat.div_add_mod (2 ^ 32) d
    have hMod := Nat.mod_lt (2 ^ 32) (show 0 < d by omega)
    symm
    rw [Nat.div_eq_iff (by omega)]
    rw [Nat.mul_comm, Nat.mul_add, Nat.mul_one]
    omega
  next => exact Or.inl (Nat.add_zero _)

/-
  One allocation in so many fails, up to rounding, for all
  denominators but one.
-/
theorem randomFailures_share_iff
    (p : Platform w)
    (address : Nat)
    (hPos : 1 ≤ p.allocFailDenominator.toInt) :
    IsShare p.allocFailDenominator.toNat
        {rand : BitVec 32 |
          (alloc p rand (some address)).1 = none}.ncard ↔
      2 ≤ p.allocFailDenominator.toInt := by
  have hNat :
      p.allocFailDenominator.toInt =
        p.allocFailDenominator.toNat := by
    rw [BitVec.toInt_eq_toNat_cond] at hPos ⊢
    split at hPos <;> omega
  have hSet :
      {rand : BitVec 32 |
          (alloc p rand (some address)).1 = none} =
        failingRandoms p.allocFailDenominator := by
    ext rand
    exact alloc_eq_none_iff hPos
  rw [hSet, hNat]
  by_cases hTwo : 2 ≤ p.allocFailDenominator.toNat
  · rw [ncard_failingRandoms hTwo]
    exact iff_of_true (isShare_of_two_le hTwo) (by omega)
  · have hOne : p.allocFailDenominator = 1#32 := by
      apply BitVec.eq_of_toNat_eq
      rw [show (1#32).toNat = 1 from rfl]
      omega
    rw [hOne, ncard_failingRandoms_one]
    exact iff_of_false (by decide) (by decide)

/- One in three, with a `long` of 64 bits. -/
theorem randomFailures_share_three :
    1 ≤ (3#32).toInt ∧
      IsShare 3
        {rand : BitVec 32 |
          (alloc (Platform.mk 3#32 0#64) rand
            (some 4096)).1 = none}.ncard :=
  ⟨by decide,
    (randomFailures_share_iff (Platform.mk 3#32 0#64) 4096
      (by decide)).mpr (by decide)⟩

/- One in one means all, and none fails. -/
theorem denominatorOne_never_fails :
    {rand : BitVec 32 |
        (alloc (Platform.mk 1#32 0#32) rand
          (some 4096)).1 = none}.ncard = 0 ∧
      ¬ IsShare 1
        {rand : BitVec 32 |
          (alloc (Platform.mk 1#32 0#32) rand
            (some 4096)).1 = none}.ncard := by
  have hCount :
      {rand : BitVec 32 |
          (alloc (Platform.mk 1#32 0#32) rand
            (some 4096)).1 = none}.ncard = 0 := by
    rw [← ncard_failingRandoms_one]
    congr 1
    ext rand
    exact alloc_eq_none_iff (by decide)
  rw [hCount]
  exact ⟨rfl, by decide⟩

end AllocFailure

end CxPlat
