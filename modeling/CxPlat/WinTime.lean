import CxPlat.Lib.Scaling
import Mathlib.Data.BitVec

/-
  Conversions between microseconds and ticks of the
  performance counter, from `cxplat_winkernel.h` and
  `cxplat_winuser.h`.

  The conversions multiply and divide the high and the low 32
  bits of a time separately, in 64-bit arithmetic that wraps
  around.  `CxPlatPerfFreq`, the ticks in a second, is a
  parameter here.

  Key definitions include:
    * `scaleHalves`
    * `Kernel.timePlatToUs64`, `Kernel.timeUs64ToPlat`
    * `User.timePlatToUs64`, `User.timeUs64ToPlat`

  Key theorems include:
    * `toNat_scaleHalves`
    * `timePlatToUs64_exact`
    * `kernel_timeUs64ToPlat_exact`
    * `kernel_conversions_invert`
    * `user_eq_kernel_timeUs64ToPlat_iff`
-/

------------------------------------------------------------
-- The Conversions
------------------------------------------------------------

namespace CxPlat

namespace WinTime

/-
  Multiply and divide, with separate multiplication and
  division of the high and low bits.
-/
def scaleHalves
    (multiplier divisor value : BitVec 64) : BitVec 64 :=
  let high := (value >>> 32) * multiplier
  let low := (value &&& 0xFFFFFFFF#64) * multiplier
  ((high / divisor) <<< 32) +
    ((low + ((high % divisor) <<< 32)) / divisor)

namespace Kernel

/- `CxPlatTimePlatToUs64`. -/
def timePlatToUs64
    (perfFreq count : BitVec 64) : BitVec 64 :=
  scaleHalves 1000000#64 perfFreq count

/- `CxPlatTimeUs64ToPlat`. -/
def timeUs64ToPlat
    (perfFreq timeUs : BitVec 64) : BitVec 64 :=
  scaleHalves perfFreq 1000000#64 timeUs

end Kernel

namespace User

/- `CxPlatTimePlatToUs64`. -/
def timePlatToUs64
    (perfFreq count : BitVec 64) : BitVec 64 :=
  scaleHalves 1000000#64 perfFreq count

/-
  `CxPlatTimeUs64ToPlat`.  The low half is divided by the
  frequency, not by a million as the high half is.
-/
def timeUs64ToPlat
    (perfFreq timeUs : BitVec 64) : BitVec 64 :=
  let high := (timeUs >>> 32) * perfFreq
  let low := (timeUs &&& 0xFFFFFFFF#64) * perfFreq
  ((high / 1000000#64) <<< 32) +
    ((low + ((high % 1000000#64) <<< 32)) / perfFreq)

end User

/- The frequencies for which nothing overflows on the way. -/
structure Supported
    (perfFreq : BitVec 64) : Prop where
  positive : 0 < perfFreq.toNat
  small : perfFreq.toNat ≤ 2 ^ 32 - 10 ^ 6

instance
    (perfFreq : BitVec 64) :
    Decidable (Supported perfFreq) :=
  decidable_of_iff
    (0 < perfFreq.toNat ∧ perfFreq.toNat ≤ 2 ^ 32 - 10 ^ 6)
    ⟨fun h => ⟨h.1, h.2⟩, fun h => ⟨h.positive, h.small⟩⟩

end WinTime

end CxPlat

------------------------------------------------------------
-- Halves As Numbers
------------------------------------------------------------

namespace CxPlat

namespace WinTime

open Scaling

variable {multiplier divisor perfFreq : BitVec 64}

theorem toNat_highBits
    (value : BitVec 64) :
    (value >>> 32).toNat = value.toNat / 2 ^ 32 := by
  rw [BitVec.toNat_ushiftRight, Nat.shiftRight_eq_div_pow]

theorem toNat_lowBits
    (value : BitVec 64) :
    (value &&& 0xFFFFFFFF#64).toNat = value.toNat % 2 ^ 32 := by
  rw [BitVec.toNat_and]
  exact Nat.and_two_pow_sub_one_eq_mod value.toNat 32

theorem high_lt
    (value : BitVec 64) :
    value.toNat / 2 ^ 32 < 2 ^ 32 := by
  have hValue := value.isLt
  omega

/- The product of a half does not wrap around. -/
theorem toNat_half_mul
    {half : BitVec 64}
    (hHalf : half.toNat < 2 ^ 32)
    (hMultiplier : multiplier.toNat ≤ 2 ^ 32) :
    (half * multiplier).toNat =
      half.toNat * multiplier.toNat := by
  rw [BitVec.toNat_mul]
  apply Nat.mod_eq_of_lt
  calc
    half.toNat * multiplier.toNat
        ≤ half.toNat * 2 ^ 32 :=
      Nat.mul_le_mul_left _ hMultiplier
    _ < 2 ^ 32 * 2 ^ 32 :=
      Nat.mul_lt_mul_of_pos_right hHalf (by decide)
    _ = 2 ^ 64 := by decide

/- Nor does a shifted number that is small enough. -/
theorem toNat_shift
    (value : BitVec 64) :
    (value <<< 32).toNat = value.toNat * 2 ^ 32 % 2 ^ 64 := by
  rw [BitVec.toNat_shiftLeft, Nat.shiftLeft_eq]

/-
  The dividend of the low half, with the remainder of the
  high half in front of it.
-/
theorem toNat_lowDividend
    (hPos : 0 < divisor.toNat)
    (hFits : multiplier.toNat + divisor.toNat ≤ 2 ^ 32)
    (value : BitVec 64) :
    ((value &&& 0xFFFFFFFF#64) * multiplier +
        (((value >>> 32) * multiplier % divisor) <<<
          32)).toNat =
      value.toNat % 2 ^ 32 * multiplier.toNat +
        value.toNat / 2 ^ 32 * multiplier.toNat %
          divisor.toNat * 2 ^ 32 := by
  have hLow : value.toNat % 2 ^ 32 < 2 ^ 32 :=
    Nat.mod_lt _ (by decide)
  have hSum :=
    low_sum_lt hPos hLow hFits
      (value.toNat / 2 ^ 32 * multiplier.toNat)
  have hFirst :
      ((value &&& 0xFFFFFFFF#64) * multiplier).toNat =
        value.toNat % 2 ^ 32 * multiplier.toNat := by
    rw [toNat_half_mul _ (by omega), toNat_lowBits]
    rw [toNat_lowBits]
    exact hLow
  have hSecond :
      ((value >>> 32) * multiplier).toNat =
        value.toNat / 2 ^ 32 * multiplier.toNat := by
    rw [toNat_half_mul _ (by omega), toNat_highBits]
    rw [toNat_highBits]
    exact high_lt value
  rw [BitVec.toNat_add, toNat_shift, BitVec.toNat_umod,
    hFirst, hSecond]
  rw [Nat.add_mod_mod]
  apply Nat.mod_eq_of_lt
  exact hSum

/- The quotient of the high half, shifted back. -/
theorem toNat_highQuotient
    (hMultiplier : multiplier.toNat ≤ 2 ^ 32)
    (value : BitVec 64) :
    (((value >>> 32) * multiplier / divisor) <<< 32).toNat =
      value.toNat / 2 ^ 32 * multiplier.toNat /
        divisor.toNat * 2 ^ 32 % 2 ^ 64 := by
  rw [toNat_shift, BitVec.toNat_udiv,
    toNat_half_mul _ hMultiplier, toNat_highBits]
  rw [toNat_highBits]
  exact high_lt value

/-
  The conversion is the true quotient, up to the wrap-around
  of its result.
-/
theorem toNat_scaleHalves
    (hPos : 0 < divisor.toNat)
    (hFits : multiplier.toNat + divisor.toNat ≤ 2 ^ 32)
    (value : BitVec 64) :
    (scaleHalves multiplier divisor value).toNat =
      scale multiplier.toNat divisor.toNat value.toNat %
        2 ^ 64 := by
  unfold scaleHalves
  simp only
  rw [BitVec.toNat_add, toNat_highQuotient (by omega),
    BitVec.toNat_udiv, toNat_lowDividend hPos hFits,
    Nat.mod_add_mod, scale_split hPos, Nat.div_add_mod']

/- A result that fits is the true quotient. -/
theorem toNat_scaleHalves_of_lt
    (hPos : 0 < divisor.toNat)
    (hFits : multiplier.toNat + divisor.toNat ≤ 2 ^ 32)
    {value : BitVec 64}
    (hLt :
      scale multiplier.toNat divisor.toNat value.toNat <
        2 ^ 64) :
    (scaleHalves multiplier divisor value).toNat =
      scale multiplier.toNat divisor.toNat value.toNat := by
  rw [toNat_scaleHalves hPos hFits, Nat.mod_eq_of_lt hLt]

theorem Supported.toUs_fits
    (hSupported : Supported perfFreq) :
    (1000000#64).toNat + perfFreq.toNat ≤ 2 ^ 32 := by
  have hSmall := hSupported.small
  simp only [BitVec.toNat_ofNat]
  omega

theorem Supported.toPlat_fits
    (hSupported : Supported perfFreq) :
    perfFreq.toNat + (1000000#64).toNat ≤ 2 ^ 32 := by
  rw [Nat.add_comm]
  exact hSupported.toUs_fits

/- A count is at least its number of microseconds. -/
theorem scale_toUs_lt
    (hFast : 10 ^ 6 ≤ perfFreq.toNat)
    (count : BitVec 64) :
    scale (10 ^ 6) perfFreq.toNat count.toNat < 2 ^ 64 :=
  Nat.lt_of_le_of_lt (scale_le_self hFast count.toNat)
    count.isLt

end WinTime

end CxPlat

------------------------------------------------------------
-- From Counts To Microseconds
------------------------------------------------------------

namespace CxPlat

namespace WinTime

open Scaling

variable {perfFreq : BitVec 64}

/-
  A conversion of counts is exact up to wrap-around, and for
  a frequency of a megahertz or more without it.
-/
structure ExactToUs
    (perfFreq : BitVec 64)
    (convert : BitVec 64 → BitVec 64) : Prop where
  modulo :
    ∀ count,
      (convert count).toNat =
        count.toNat * 10 ^ 6 / perfFreq.toNat % 2 ^ 64
  exact :
    10 ^ 6 ≤ perfFreq.toNat → ∀ count,
      (convert count).toNat =
        count.toNat * 10 ^ 6 / perfFreq.toNat
  monotone :
    10 ^ 6 ≤ perfFreq.toNat → ∀ count count',
      count ≤ count' → convert count ≤ convert count'

theorem exactToUs_scaleHalves
    (hSupported : Supported perfFreq) :
    ExactToUs perfFreq (scaleHalves 1000000#64 perfFreq) := by
  have hExact :
      10 ^ 6 ≤ perfFreq.toNat → ∀ count,
        (scaleHalves 1000000#64 perfFreq count).toNat =
          scale (10 ^ 6) perfFreq.toNat count.toNat := by
    intro hFast count
    exact toNat_scaleHalves_of_lt hSupported.positive
      hSupported.toUs_fits (scale_toUs_lt hFast count)
  constructor
  · intro count
    exact toNat_scaleHalves hSupported.positive
      hSupported.toUs_fits count
  · exact hExact
  · intro hFast count count' hLe
    rw [BitVec.le_def, hExact hFast, hExact hFast]
    exact scale_mono (BitVec.le_def.mp hLe)

/- Both headers convert counts exactly. -/
theorem timePlatToUs64_exact
    (perfFreq : BitVec 64)
    (hSupported : Supported perfFreq) :
    ExactToUs perfFreq (Kernel.timePlatToUs64 perfFreq) ∧
      ExactToUs perfFreq (User.timePlatToUs64 perfFreq) := by
  constructor
  · exact exactToUs_scaleHalves hSupported
  · exact exactToUs_scaleHalves hSupported

/- The usual ten megahertz. -/
theorem timePlatToUs64_exact_tenMegahertz :
    Supported 10000000#64 ∧
      ExactToUs 10000000#64
        (Kernel.timePlatToUs64 10000000#64) ∧
      ExactToUs 10000000#64
        (User.timePlatToUs64 10000000#64) := by
  have hSupported : Supported 10000000#64 := by decide
  exact ⟨hSupported, timePlatToUs64_exact _ hSupported⟩

end WinTime

end CxPlat

------------------------------------------------------------
-- From Microseconds To Counts
------------------------------------------------------------

namespace CxPlat

namespace WinTime

open Scaling

variable {perfFreq : BitVec 64}

theorem toNat_kernel_timeUs64ToPlat
    (hSupported : Supported perfFreq)
    (timeUs : BitVec 64) :
    (Kernel.timeUs64ToPlat perfFreq timeUs).toNat =
      scale perfFreq.toNat (10 ^ 6) timeUs.toNat % 2 ^ 64 :=
  toNat_scaleHalves (by decide) hSupported.toPlat_fits timeUs

/- Kernel mode converts microseconds exactly. -/
theorem kernel_timeUs64ToPlat_exact
    (perfFreq : BitVec 64)
    (hSupported : Supported perfFreq)
    (timeUs : BitVec 64) :
    (Kernel.timeUs64ToPlat perfFreq timeUs).toNat =
        timeUs.toNat * perfFreq.toNat / 10 ^ 6 % 2 ^ 64 ∧
      (timeUs.toNat * perfFreq.toNat / 10 ^ 6 < 2 ^ 64 →
        (Kernel.timeUs64ToPlat perfFreq timeUs).toNat =
          timeUs.toNat * perfFreq.toNat / 10 ^ 6) := by
  have hModulo :=
    toNat_kernel_timeUs64ToPlat hSupported timeUs
  constructor
  · exact hModulo
  · intro hLt
    rw [hModulo]
    exact Nat.mod_eq_of_lt hLt

/- The largest frequency and the largest time. -/
theorem kernel_timeUs64ToPlat_exact_largest :
    Supported 4293967296#64 ∧
      (Kernel.timeUs64ToPlat 4293967296#64
          (BitVec.allOnes 64)).toNat =
        (2 ^ 64 - 1) * 4293967296 / 10 ^ 6 % 2 ^ 64 := by
  have hSupported : Supported 4293967296#64 := by decide
  refine ⟨hSupported, ?_⟩
  exact (kernel_timeUs64ToPlat_exact _ hSupported _).1

/- To counts and back, in natural numbers, ... -/
theorem toNat_there_and_back
    (hSupported : Supported perfFreq)
    (hFast : 10 ^ 6 ≤ perfFreq.toNat)
    {timeUs : BitVec 64}
    (hLt :
      timeUs.toNat * perfFreq.toNat / 10 ^ 6 < 2 ^ 64) :
    (Kernel.timePlatToUs64 perfFreq
        (Kernel.timeUs64ToPlat perfFreq timeUs)).toNat =
      scale (10 ^ 6) perfFreq.toNat
        (scale perfFreq.toNat (10 ^ 6) timeUs.toNat) := by
  have hToUs :
      (Kernel.timePlatToUs64 perfFreq
          (Kernel.timeUs64ToPlat perfFreq timeUs)).toNat =
        scale (10 ^ 6) perfFreq.toNat
          (Kernel.timeUs64ToPlat perfFreq timeUs).toNat :=
    (exactToUs_scaleHalves hSupported).exact hFast _
  rw [hToUs, toNat_kernel_timeUs64ToPlat hSupported]
  congr 1
  exact Nat.mod_eq_of_lt hLt

/- ... and to microseconds and forth again. -/
theorem toNat_back_and_forth
    (hSupported : Supported perfFreq)
    (hFast : 10 ^ 6 ≤ perfFreq.toNat)
    (count : BitVec 64) :
    (Kernel.timeUs64ToPlat perfFreq
        (Kernel.timePlatToUs64 perfFreq count)).toNat =
      scale perfFreq.toNat (10 ^ 6)
        (scale (10 ^ 6) perfFreq.toNat count.toNat) := by
  have hToUs :
      (Kernel.timePlatToUs64 perfFreq count).toNat =
        scale (10 ^ 6) perfFreq.toNat count.toNat :=
    (exactToUs_scaleHalves hSupported).exact hFast count
  rw [toNat_kernel_timeUs64ToPlat hSupported, hToUs]
  apply Nat.mod_eq_of_lt
  exact Nat.lt_of_le_of_lt
    (scale_forth_le perfFreq.toNat (10 ^ 6) count.toNat)
    count.isLt

/-
  There and back: microseconds come back with at most one
  lost, counts with less than `perfFreq / 10^6 + 1` lost.
-/
theorem kernel_conversions_invert
    (perfFreq : BitVec 64)
    (hFast : 10 ^ 6 ≤ perfFreq.toNat)
    (hSmall : perfFreq.toNat ≤ 2 ^ 32 - 10 ^ 6) :
    (∀ timeUs : BitVec 64,
      timeUs.toNat * perfFreq.toNat / 10 ^ 6 < 2 ^ 64 →
        (Kernel.timePlatToUs64 perfFreq
              (Kernel.timeUs64ToPlat perfFreq timeUs) =
            timeUs ∨
          (Kernel.timePlatToUs64 perfFreq
              (Kernel.timeUs64ToPlat perfFreq timeUs)).toNat +
              1 =
            timeUs.toNat) ∧
        (10 ^ 6 ∣ timeUs.toNat * perfFreq.toNat →
          Kernel.timePlatToUs64 perfFreq
              (Kernel.timeUs64ToPlat perfFreq timeUs) =
            timeUs)) ∧
    (∀ count : BitVec 64,
      Kernel.timeUs64ToPlat perfFreq
          (Kernel.timePlatToUs64 perfFreq count) ≤ count ∧
        (count.toNat : ℚ) -
            (Kernel.timeUs64ToPlat perfFreq
              (Kernel.timePlatToUs64 perfFreq count)).toNat <
          (perfFreq.toNat : ℚ) / 10 ^ 6 + 1) := by
  have hPos : 0 < perfFreq.toNat := by omega
  have hSupported : Supported perfFreq := ⟨hPos, hSmall⟩
  constructor
  · intro timeUs hLt
    have hBack :=
      toNat_there_and_back hSupported hFast hLt
    constructor
    · rw [← BitVec.toNat_inj, hBack]
      exact scale_back (by decide) hFast timeUs.toNat
    · intro hDvd
      rw [← BitVec.toNat_inj, hBack]
      exact scale_back_of_dvd hPos hDvd
  · intro count
    have hForth :=
      toNat_back_and_forth hSupported hFast count
    constructor
    · rw [BitVec.le_def, hForth]
      exact scale_forth_le perfFreq.toNat (10 ^ 6) count.toNat
    · rw [hForth]
      exact_mod_cast
        sub_scale_forth_lt hPos (d := 10 ^ 6) (by decide)
          count.toNat

/- A frequency that a million does not divide. -/
theorem kernel_conversions_invert_odd :
    (Kernel.timePlatToUs64 1000003#64
          (Kernel.timeUs64ToPlat 1000003#64 5#64) = 5#64 ∨
      (Kernel.timePlatToUs64 1000003#64
          (Kernel.timeUs64ToPlat 1000003#64 5#64)).toNat + 1 =
        5) ∧
      Kernel.timeUs64ToPlat 1000003#64
          (Kernel.timePlatToUs64 1000003#64 7#64) ≤ 7#64 := by
  have hInvert :=
    kernel_conversions_invert 1000003#64 (by decide)
      (by decide)
  exact ⟨(hInvert.1 5#64 (by decide)).1, (hInvert.2 7#64).1⟩

end WinTime

end CxPlat

------------------------------------------------------------
-- User Mode Against Kernel Mode
------------------------------------------------------------

namespace CxPlat

namespace WinTime

open Scaling

variable {perfFreq : BitVec 64}

/- What is carried from the high half to the low one. -/
def carried
    (freq time : Nat) : Nat :=
  time / 2 ^ 32 * freq % 10 ^ 6 * 2 ^ 32

/-
  The low half has the same quotient by a million as by the
  frequency, which is the low bits and what comes of the
  carried part.
-/
def SameLowQuotient
    (freq time : Nat) : Prop :=
  (time % 2 ^ 32 * freq + carried freq time) / 10 ^ 6 =
    time % 2 ^ 32 + carried freq time / freq

/- The two differ in the divisor of the low half only. -/
theorem user_eq_kernel_iff
    (hSupported : Supported perfFreq)
    (timeUs : BitVec 64) :
    User.timeUs64ToPlat perfFreq timeUs =
        Kernel.timeUs64ToPlat perfFreq timeUs ↔
      SameLowQuotient perfFreq.toNat timeUs.toNat := by
  have hMillion : 0 < (1000000#64).toNat := by decide
  have hDividend :=
    toNat_lowDividend hMillion hSupported.toPlat_fits timeUs
  have hUser :
      (timeUs.toNat % 2 ^ 32 * perfFreq.toNat +
          carried perfFreq.toNat timeUs.toNat) /
          perfFreq.toNat =
        timeUs.toNat % 2 ^ 32 +
          carried perfFreq.toNat timeUs.toNat /
            perfFreq.toNat := by
    rw [Nat.add_comm, Nat.add_mul_div_right _ _
      hSupported.positive, Nat.add_comm]
  unfold User.timeUs64ToPlat Kernel.timeUs64ToPlat
    scaleHalves SameLowQuotient
  simp only
  rw [BitVec.add_right_inj, ← BitVec.toNat_inj,
    BitVec.toNat_udiv, BitVec.toNat_udiv, hDividend]
  rw [← hUser]
  exact eq_comm

/- A factor that is lost in the division by a million. -/
theorem mul_div_million_eq_iff
    (freq time : Nat) :
    time * freq / 10 ^ 6 = time ↔
      time = 0 ∨
        10 ^ 6 ≤ freq ∧ time * (freq - 10 ^ 6) < 10 ^ 6 := by
  rcases Nat.eq_zero_or_pos time with rfl | hPos
  · simp
  by_cases hLess : freq < 10 ^ 6
  · have hProduct : time * freq < time * 10 ^ 6 :=
      Nat.mul_lt_mul_of_pos_left hLess hPos
    omega
  · obtain ⟨more, rfl⟩ : ∃ k, freq = 10 ^ 6 + k :=
      ⟨freq - 10 ^ 6, by omega⟩
    rw [Nat.mul_add, Nat.add_sub_cancel_left]
    omega

/- For times below `2 ^ 32` there is nothing to carry. -/
theorem sameLowQuotient_of_lt
    (freq : Nat)
    {time : Nat}
    (hLt : time < 2 ^ 32) :
    SameLowQuotient freq time ↔
      time = 0 ∨
        10 ^ 6 ≤ freq ∧ time * (freq - 10 ^ 6) < 10 ^ 6 := by
  have hNone : carried freq time = 0 := by
    rw [carried, Nat.div_eq_of_lt hLt, Nat.zero_mul,
      Nat.zero_mod, Nat.zero_mul]
  unfold SameLowQuotient
  rw [hNone, Nat.mod_eq_of_lt hLt, Nat.add_zero,
    Nat.zero_div, Nat.add_zero]
  exact mul_div_million_eq_iff freq time

/-
  User mode agrees with kernel mode exactly where the low
  halves have one quotient.  Below `2 ^ 32` these are the
  times in which the ticks beyond a million a second do not
  add up to one; all times are among them only if the
  frequency is a million.
-/
theorem user_eq_kernel_timeUs64ToPlat_iff
    (perfFreq : BitVec 64)
    (hSupported : Supported perfFreq) :
    (∀ timeUs,
      User.timeUs64ToPlat perfFreq timeUs =
          Kernel.timeUs64ToPlat perfFreq timeUs ↔
        SameLowQuotient perfFreq.toNat timeUs.toNat) ∧
    (∀ timeUs : BitVec 64, timeUs.toNat < 2 ^ 32 →
      (User.timeUs64ToPlat perfFreq timeUs =
          Kernel.timeUs64ToPlat perfFreq timeUs ↔
        timeUs.toNat = 0 ∨
          10 ^ 6 ≤ perfFreq.toNat ∧
            timeUs.toNat * (perfFreq.toNat - 10 ^ 6) <
              10 ^ 6)) ∧
    ((∀ timeUs,
      User.timeUs64ToPlat perfFreq timeUs =
        Kernel.timeUs64ToPlat perfFreq timeUs) ↔
      perfFreq.toNat = 10 ^ 6) := by
  refine ⟨user_eq_kernel_iff hSupported, ?_, ?_⟩
  · intro timeUs hLt
    rw [user_eq_kernel_iff hSupported]
    exact sameLowQuotient_of_lt perfFreq.toNat hLt
  · constructor
    · intro hAgree
      -- One second is a million microseconds.
      have hSecond := hAgree 1000000#64
      rw [user_eq_kernel_iff hSupported,
        sameLowQuotient_of_lt _ (by decide)] at hSecond
      simp only [BitVec.toNat_ofNat] at hSecond
      omega
    · intro hMillion timeUs
      have hEqual : perfFreq = 1000000#64 := by
        rw [← BitVec.toNat_inj, hMillion]
        rfl
      subst hEqual
      rfl

theorem user_eq_kernel_oneMegahertz :
    Supported 1000000#64 ∧
      ∀ timeUs,
        User.timeUs64ToPlat 1000000#64 timeUs =
          Kernel.timeUs64ToPlat 1000000#64 timeUs := by
  have hSupported : Supported 1000000#64 := by decide
  refine ⟨hSupported, ?_⟩
  apply (user_eq_kernel_timeUs64ToPlat_iff _ hSupported).2.2.mpr
  decide

/- At ten megahertz a microsecond has ten ticks. -/
theorem microsecond_ticks_differ :
    Supported 10000000#64 ∧
      User.timeUs64ToPlat 10000000#64 1#64 = 1#64 ∧
      Kernel.timeUs64ToPlat 10000000#64 1#64 = 10#64 ∧
      User.timeUs64ToPlat 10000000#64 1#64 ≠
        Kernel.timeUs64ToPlat 10000000#64 1#64 := by
  decide

end WinTime

end CxPlat
