import Mathlib.Algebra.Order.Field.Rat
import Mathlib.Tactic.Linarith
import Mathlib.Tactic.Ring

/-
  Scaling of natural numbers by a fraction, with truncation.

  `scale m d n` is the integer part of `n * m / d`.  It can be
  computed from the two halves of `n` in a base, and scaling
  there and back loses little.

  Key definitions include:
    * `Scaling.scale`

  Key theorems include:
    * `Scaling.scale_split`
    * `Scaling.low_sum_lt`
    * `Scaling.scale_back`
    * `Scaling.scale_forth_le`
    * `Scaling.sub_scale_forth_lt`
-/

------------------------------------------------------------
-- Truncated Quotients
------------------------------------------------------------

namespace Scaling

/- The integer part of `n * m / d`. -/
def scale
    (m d n : Nat) : Nat :=
  n * m / d

variable {m d n : Nat}

theorem scale_mul_le
    (m d n : Nat) :
    scale m d n * d ≤ n * m :=
  Nat.div_mul_le_self (n * m) d

theorem lt_scale_succ_mul
    (hPos : 0 < d)
    (m n : Nat) :
    n * m < (scale m d n + 1) * d := by
  rw [Nat.mul_comm _ d]
  exact Nat.lt_mul_div_succ (n * m) hPos

theorem scale_mono
    {n' : Nat}
    (hLe : n ≤ n') :
    scale m d n ≤ scale m d n' :=
  Nat.div_le_div_right (Nat.mul_le_mul_right m hLe)

/- Scaling down does not go up. -/
theorem scale_le_self
    (hDown : m ≤ d)
    (n : Nat) :
    scale m d n ≤ n := by
  apply Nat.div_le_of_le_mul
  rw [Nat.mul_comm d n]
  exact Nat.mul_le_mul_left n hDown

end Scaling

------------------------------------------------------------
-- Two Halves
------------------------------------------------------------

namespace Scaling

variable {m d b : Nat}

/-
  The quotient from the halves of a number in base `b`: the
  remainder of the high half is carried to the low one.
-/
theorem scale_split
    (hPos : 0 < d)
    (high low : Nat) :
    high * m / d * b + (low * m + high * m % d * b) / d =
      scale m d (high * b + low) := by
  have hParts :
      (high * b + low) * m =
        low * m + high * m % d * b +
          d * (high * m / d * b) := by
    have hHigh := Nat.mod_add_div (high * m) d
    calc
      (high * b + low) * m = low * m + high * m * b := by
        ring
      _ = low * m + (high * m % d + d * (high * m / d)) * b := by
        rw [hHigh]
      _ = low * m + high * m % d * b +
            d * (high * m / d * b) := by
        ring
  unfold scale
  rw [hParts, Nat.add_mul_div_left _ _ hPos, Nat.add_comm]

/- What is carried and the low half fit in two digits. -/
theorem low_sum_lt
    {low : Nat}
    (hPos : 0 < d)
    (hLow : low < b)
    (hFits : m + d ≤ b)
    (x : Nat) :
    low * m + x % d * b < b * b := by
  have hCarried : x % d + 1 ≤ d := Nat.mod_lt x hPos
  have hFirst : low * m ≤ b * m :=
    Nat.mul_le_mul_right m (Nat.le_of_lt hLow)
  have hSecond : (x % d + 1) * b ≤ d * b :=
    Nat.mul_le_mul_right b hCarried
  have hBoth : (m + d) * b ≤ b * b :=
    Nat.mul_le_mul_right b hFits
  have hBase : 0 < b := by omega
  rw [Nat.add_mul, Nat.one_mul] at hSecond
  rw [Nat.add_mul, Nat.mul_comm m b] at hBoth
  omega

end Scaling

------------------------------------------------------------
-- There And Back
------------------------------------------------------------

namespace Scaling

variable {m d : Nat}

/- Scaling up and down again loses at most one. -/
theorem scale_back
    (hPos : 0 < d)
    (hUp : d ≤ m)
    (n : Nat) :
    scale d m (scale m d n) = n ∨
      scale d m (scale m d n) + 1 = n := by
  have hBelow := scale_mul_le m d n
  have hAbove := lt_scale_succ_mul hPos m n
  have hLe : scale d m (scale m d n) ≤ n := by
    apply Nat.div_le_of_le_mul
    rw [Nat.mul_comm m n]
    exact hBelow
  have hGe : n ≤ scale d m (scale m d n) + 1 := by
    by_contra hLt
    have hNext :
        (scale d m (scale m d n) + 2) * m ≤ n * m :=
      Nat.mul_le_mul_right m (by omega)
    have hBack :=
      lt_scale_succ_mul (Nat.lt_of_lt_of_le hPos hUp) d
        (scale m d n)
    rw [Nat.add_mul, Nat.one_mul] at hAbove hBack
    rw [Nat.add_mul] at hNext
    omega
  omega

/- Nothing is lost if nothing was truncated. -/
theorem scale_back_of_dvd
    (hPos : 0 < m)
    {n : Nat}
    (hDvd : d ∣ n * m) :
    scale d m (scale m d n) = n := by
  unfold scale
  rw [Nat.div_mul_cancel hDvd]
  exact Nat.mul_div_cancel n hPos

/- Scaling down and up again does not go up. -/
theorem scale_forth_le
    (m d n : Nat) :
    scale m d (scale d m n) ≤ n := by
  apply Nat.div_le_of_le_mul
  rw [Nat.mul_comm d n]
  exact scale_mul_le d m n

/- What is lost is less than `m / d + 1`. -/
theorem lt_scale_forth
    (hUp : 0 < m)
    (hDown : 0 < d)
    (n : Nat) :
    n * d < scale m d (scale d m n) * d + m + d := by
  have hFirst := lt_scale_succ_mul hUp d n
  have hSecond := lt_scale_succ_mul hDown m (scale d m n)
  rw [Nat.add_mul, Nat.one_mul] at hFirst hSecond
  omega

/- The same bound with a true quotient. -/
theorem sub_scale_forth_lt
    (hUp : 0 < m)
    (hDown : 0 < d)
    (n : Nat) :
    (n : ℚ) - (scale m d (scale d m n) : ℚ) <
      (m : ℚ) / d + 1 := by
  have hLost :
      (n : ℚ) * d <
        (scale m d (scale d m n) : ℚ) * d + m + d := by
    exact_mod_cast lt_scale_forth hUp hDown n
  have hPos : (0 : ℚ) < d := by exact_mod_cast hDown
  rw [div_add_one (ne_of_gt hPos), lt_div_iff₀ hPos, sub_mul]
  linarith

end Scaling
