import CxPlat.Lib.Transition
import Mathlib.Algebra.BigOperators.Group.Finset.Basic
import Mathlib.Algebra.Order.BigOperators.Group.Finset
import Mathlib.Data.Fintype.Card

/-
  Runs that come to an end.

  If every step that meets a condition lowers a measure of the
  state, a run of such steps is no longer than the measure it
  starts with.  The measure of many threads is the sum of the
  work that each of them has left, and falls if one thread
  gets more done than it leaves the others to do.

  If in every state but the final ones some step lowers the
  measure, a final state can be reached.

  Key theorems include:
    * `Transition.length_add_le`
    * `Transition.exists_run_of_measure`
    * `Transition.sum_lt_of_one_falls`
-/

------------------------------------------------------------
-- Measures
------------------------------------------------------------

namespace Transition

variable {σ α : Type}
variable {step : σ → α → Option σ} {cond : σ → α → Prop}
variable {s t : σ} {as : List α}

theorem length_add_le
    {measure : σ → Nat}
    (hLess :
      ∀ s a t, cond s a → step s a = some t →
        measure t < measure s)
    (hMeets : Meets step cond s as)
    (hRun : run step s as = some t) :
    as.length + measure t ≤ measure s := by
  induction as generalizing s with
  | nil =>
      cases hRun
      simp
  | cons a as ih =>
      rcases run_cons_some hRun with ⟨m, hStep, hRest⟩
      rcases (meets_cons as hStep).mp hMeets with
        ⟨hCond, hTail⟩
      have hFirst := hLess s a m hCond hStep
      have hLater := ih hTail hRest
      rw [List.length_cons]
      omega

theorem exists_run_of_measure
    {Inv Final : σ → Prop}
    {measure : σ → Nat}
    (hStep :
      ∀ s, Inv s → ¬ Final s →
        ∃ a t, step s a = some t ∧ Inv t ∧
          measure t < measure s)
    (hInv : Inv s) :
    ∃ as t, run step s as = some t ∧ Inv t ∧ Final t := by
  induction hMeasure : measure s using
    Nat.strong_induction_on generalizing s with
  | h n ih =>
      by_cases hFinal : Final s
      · exact ⟨[], s, rfl, hInv, hFinal⟩
      · rcases hStep s hInv hFinal
          with ⟨a, t, hFirst, hNext, hLess⟩
        rcases ih (measure t) (by omega) hNext rfl
          with ⟨as, u, hRun, hEnd⟩
        exact ⟨a :: as, u,
          (run_cons as hFirst).trans hRun, hEnd⟩

/-
  One summand falls by more than all the others together may
  rise.
-/
theorem sum_lt_of_one_falls
    {ι : Type}
    [Fintype ι]
    [DecidableEq ι]
    {f g : ι → Nat}
    {i : ι}
    {r : Nat}
    (hOthers : ∀ j, j ≠ i → g j ≤ f j + r)
    (hFalls : g i + r * Fintype.card ι < f i) :
    ∑ j, g j < ∑ j, f j := by
  have hRest :
      ∑ j ∈ Finset.univ.erase i, g j ≤
        ∑ j ∈ Finset.univ.erase i, f j +
          r * Fintype.card ι := by
    calc
      ∑ j ∈ Finset.univ.erase i, g j
        ≤ ∑ j ∈ Finset.univ.erase i, (f j + r) := by
          apply Finset.sum_le_sum
          intro j hMem
          exact hOthers j (Finset.ne_of_mem_erase hMem)
      _ = ∑ j ∈ Finset.univ.erase i, f j +
            (Finset.univ.erase i).card * r := by
          rw [Finset.sum_add_distrib, Finset.sum_const,
            Nat.nsmul_eq_mul]
      _ ≤ ∑ j ∈ Finset.univ.erase i, f j +
            r * Fintype.card ι := by
          rw [Nat.mul_comm r]
          gcongr
          exact Finset.card_le_univ _
  rw [← Finset.add_sum_erase _ g (Finset.mem_univ i),
    ← Finset.add_sum_erase _ f (Finset.mem_univ i)]
  omega

end Transition
