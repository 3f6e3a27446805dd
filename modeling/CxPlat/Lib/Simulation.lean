import CxPlat.Lib.Transition

/-
  One system seen as another.

  Every step of the lower system is labelled with the actions
  of the upper one that it stands for, of which there may be
  none.  If each step taken in a state that satisfies the
  invariant takes the view of that state along its labels,
  then so does every run.

  Key definitions include:
    * `Transition.labels`
    * `Transition.Simulates`

  The rules are:
    * `Transition.Simulates.run`
    * `Transition.filter_labels`
    * `Transition.count_labels`
-/

------------------------------------------------------------
-- Labelled Runs
------------------------------------------------------------

namespace Transition

variable {σ τ α β : Type}

/- The labels of a run, in order. -/
def labels
    (step : σ → α → Option σ)
    (label : σ → α → List β)
    (s : σ) : List α → List β
  | [] => []
  | a :: as =>
      label s a ++
        match step s a with
        | some t => labels step label t as
        | none => []

/- Steps of the lower system follow the upper one. -/
def Simulates
    (step : σ → α → Option σ)
    (upper : τ → β → Option τ)
    (Inv : σ → Prop)
    (view : σ → τ)
    (label : σ → α → List β) : Prop :=
  ∀ s a t, Inv s → step s a = some t →
    run upper (view s) (label s a) = some (view t)

variable {step : σ → α → Option σ}
variable {upper : τ → β → Option τ}
variable {Inv : σ → Prop} {view : σ → τ}
variable {label : σ → α → List β}
variable {s t : σ} {as : List α}

theorem labels_cons
    {a : α}
    (hStep : step s a = some t) :
    labels step label s (a :: as) =
      label s a ++ labels step label t as := by
  rw [labels, hStep]

/- Whole runs follow it as well. -/
theorem Simulates.run
    (hSimulates : Simulates step upper Inv view label)
    (hKeep : ∀ s a t, Inv s → step s a = some t → Inv t)
    (hInv : Inv s)
    (hRun : Transition.run step s as = some t) :
    Transition.run upper (view s) (labels step label s as) =
      some (view t) := by
  induction as generalizing s with
  | nil =>
      cases hRun
      rfl
  | cons a as ih =>
      rcases run_cons_some hRun with ⟨m, hStep, hRest⟩
      have hFirst := hSimulates s a m hInv hStep
      rw [labels_cons hStep, run_append _ _ hFirst]
      exact ih (hKeep s a m hInv hStep) hRest

/- Some of the labels of every step. -/
theorem filter_labels
    {p : β → Bool}
    {visible : σ → α → List β}
    (hVisible : ∀ s a, (label s a).filter p = visible s a)
    (s : σ)
    (as : List α) :
    (labels step label s as).filter p =
      labels step visible s as := by
  induction as generalizing s with
  | nil => rfl
  | cons a as ih =>
      rw [labels, labels, List.filter_append, hVisible]
      cases step s a with
      | none => rfl
      | some t => rw [ih t]

/- What every step counts up is the number of its labels. -/
theorem count_labels
    [DecidableEq β]
    (counter : σ → Nat)
    {b : β}
    (hCount :
      ∀ s a t, step s a = some t →
        counter t = counter s + (label s a).count b)
    (hRun : Transition.run step s as = some t) :
    counter t =
      counter s + (labels step label s as).count b := by
  induction as generalizing s with
  | nil =>
      cases hRun
      rfl
  | cons a as ih =>
      rcases run_cons_some hRun with ⟨m, hStep, hRest⟩
      rw [labels_cons hStep, List.count_append, ih hRest,
        hCount s a m hStep, Nat.add_assoc]

end Transition
