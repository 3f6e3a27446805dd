import Mathlib.Data.List.Basic
import Mathlib.Algebra.GroupWithZero.Nat
import Mathlib.Algebra.Order.Group.Nat

/-
  Numbers laid out in ranges, one after the other.

  A list of sizes gives as many ranges; each range starts at
  the sum of the sizes before it, and ranges may be empty.
  Every number below the sum of all sizes lies at exactly one
  place of exactly one range.

  Key definitions include:
    * `Ranges.offset`
    * `Ranges.Lies`

  Key theorems include:
    * `Ranges.Lies.lt_sum`
    * `Ranges.exists_lies`
    * `Ranges.Lies.unique`
-/

------------------------------------------------------------
-- Ranges
------------------------------------------------------------

namespace Ranges

variable {sizes : List Nat} {g h i j n p : Nat}

/- Where a range starts. -/
def offset
    (sizes : List Nat)
    (g : Nat) : Nat :=
  (sizes.take g).sum

/- The number `p` is at place `i` of range `g`. -/
def Lies
    (sizes : List Nat)
    (p g i : Nat) : Prop :=
  ∃ n, sizes[g]? = some n ∧ i < n ∧ offset sizes g + i = p

@[simp] theorem offset_zero :
    offset sizes 0 = 0 := rfl

@[simp] theorem offset_cons_succ :
    offset (n :: sizes) (g + 1) = n + offset sizes g := by
  simp [offset]

/- A range ends where the next one starts, or before. -/
theorem offset_add_le
    (hSize : sizes[g]? = some n)
    (hLess : g < h) :
    offset sizes g + n ≤ offset sizes h := by
  induction sizes generalizing g h with
  | nil => simp at hSize
  | cons m sizes ih =>
      cases h with
      | zero => omega
      | succ h =>
          cases g with
          | zero =>
              rw [List.getElem?_cons_zero] at hSize
              cases hSize
              simp
          | succ g =>
              rw [List.getElem?_cons_succ] at hSize
              have hRest :
                  offset sizes g + n ≤ offset sizes h :=
                ih hSize (by omega)
              rw [offset_cons_succ, offset_cons_succ]
              omega

theorem Lies.lt_sum
    (hLies : Lies sizes p g i) :
    p < sizes.sum := by
  rcases hLies with ⟨n, hSize, hLess, hPlace⟩
  have hIndex : g < sizes.length :=
    (List.getElem?_eq_some_iff.mp hSize).1
  have hEnd := offset_add_le hSize hIndex
  have hAll : offset sizes sizes.length = sizes.sum := by
    simp [offset]
  omega

theorem exists_lies
    (hLess : p < sizes.sum) :
    ∃ g i, Lies sizes p g i := by
  induction sizes generalizing p with
  | nil => simp at hLess
  | cons n sizes ih =>
      rw [List.sum_cons] at hLess
      by_cases hFirst : p < n
      · exact ⟨0, p, n, rfl, hFirst, by simp⟩
      · -- The number counts from the end of the first range.
        have hRest : p - n < sizes.sum := by omega
        rcases ih hRest with ⟨g, i, m, hSize, hIn, hPlace⟩
        refine ⟨g + 1, i, m, ?_, hIn, ?_⟩
        · rw [List.getElem?_cons_succ]
          exact hSize
        · rw [offset_cons_succ]
          omega

/- A place of an earlier range is an earlier number. -/
theorem Lies.lt_of_lt
    {q : Nat}
    (hFirst : Lies sizes p g i)
    (hSecond : Lies sizes q h j)
    (hLess : g < h) :
    p < q := by
  rcases hFirst with ⟨n, hSize, hIn, hPlace⟩
  rcases hSecond with ⟨m, _, _, hPlace'⟩
  have hApart := offset_add_le hSize hLess
  omega

theorem Lies.unique
    (hFirst : Lies sizes p g i)
    (hSecond : Lies sizes p h j) :
    g = h ∧ i = j := by
  have hSame : g = h := by
    rcases Nat.lt_trichotomy g h with hLess | hEq | hMore
    · have := hFirst.lt_of_lt hSecond hLess
      omega
    · exact hEq
    · have := hSecond.lt_of_lt hFirst hMore
      omega
  subst hSame
  rcases hFirst with ⟨n, _, _, hPlace⟩
  rcases hSecond with ⟨m, _, _, hPlace'⟩
  exact ⟨rfl, by omega⟩

end Ranges
