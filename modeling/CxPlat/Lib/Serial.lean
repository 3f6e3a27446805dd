import Mathlib.Algebra.Order.Ring.Nat
import Mathlib.Data.BitVec

/-
  Serial numbers: numbers that are kept only modulo a power
  of two, such as sequence numbers and short time stamps.

  A distance that is less than the modulus can be read off
  the serial numbers, and so can the order of two numbers
  that are less than half of the modulus apart.

  Key definitions include:
    * `Serial.stamp`
    * `Serial.Near`

  Key theorems include:
    * `Serial.toNat_sub_stamp`
    * `Serial.toInt_sub_stamp_nonpos_iff`
-/

------------------------------------------------------------
-- Serial Numbers
------------------------------------------------------------

namespace Serial

variable {w a b : Nat}

/- What is left of a number at width `w`. -/
def stamp
    (w a : Nat) : BitVec w :=
  BitVec.ofNat w a

/- The numbers are less than half of the modulus apart. -/
def Near
    (w a b : Nat) : Prop :=
  2 * a < 2 * b + 2 ^ w ∧ 2 * b < 2 * a + 2 ^ w

/- A distance below the modulus, whether it wraps or not. -/
theorem toNat_sub_stamp
    (hLe : a ≤ b)
    (hNear : b < a + 2 ^ w) :
    (stamp w b - stamp w a).toNat = b - a := by
  have hSub : stamp w b - stamp w a = stamp w (b - a) := by
    rw [sub_eq_iff_eq_add]
    unfold stamp
    rw [← BitVec.ofNat_add]
    congr 1
    omega
  rw [hSub]
  unfold stamp
  rw [BitVec.toNat_ofNat]
  exact Nat.mod_eq_of_lt (by omega)

/- The sign of a difference gives the order. -/
theorem toInt_sub_stamp_nonpos_iff
    (hNear : Near w a b) :
    (stamp w a - stamp w b).toInt ≤ 0 ↔ a ≤ b := by
  have hInt :
      (stamp w a - stamp w b).toInt = (a : Int) - b := by
    unfold stamp
    rw [BitVec.toInt_sub, BitVec.toInt_ofNat',
      BitVec.toInt_ofNat', ← Int.sub_bmod]
    unfold Near at hNear
    apply Int.bmod_eq_of_le_mul_two
    · omega
    · omega
  rw [hInt]
  omega

end Serial
