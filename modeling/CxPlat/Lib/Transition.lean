import Mathlib.Tactic.Common

/-
  Runs of systems that take one action at a time.

  A system is a function `step` from a state and an action to
  the next state; an action that is not enabled has none.
  `run` follows a list of actions, `Meets` says that every
  action of a run meets a condition on the state it is taken
  in, and the invariant rules carry a property along runs.

  Key definitions include:
    * `Transition.run`
    * `Transition.Meets`

  The rules are:
    * `Transition.run_append`
    * `Transition.invariant_run`
    * `Transition.Meets.mono`
    * `Transition.invariant_meets`
    * `Transition.progress_meets`
    * `Transition.meets_iff_of_related`
    * `Transition.meets_congr`
-/

------------------------------------------------------------
-- Runs
------------------------------------------------------------

namespace Transition

variable {σ α : Type}

/- The state after a list of actions, if all are enabled. -/
def run
    (step : σ → α → Option σ)
    (s : σ) : List α → Option σ
  | [] => some s
  | a :: as =>
      match step s a with
      | some t => run step t as
      | none => none

variable {step : σ → α → Option σ} {s t u : σ} {a : α}

@[simp] theorem run_nil :
    run step s [] = some s := rfl

theorem run_cons
    (as : List α)
    (hStep : step s a = some t) :
    run step s (a :: as) = run step t as := by
  rw [run, hStep]

/- The first action of a run is enabled. -/
theorem run_cons_some
    {as : List α}
    (hRun : run step s (a :: as) = some u) :
    ∃ t, step s a = some t ∧ run step t as = some u := by
  cases hStep : step s a with
  | none =>
      rw [run, hStep] at hRun
      contradiction
  | some t =>
      rw [run_cons as hStep] at hRun
      exact ⟨t, rfl, hRun⟩

/- Two runs one after the other. -/
theorem run_append
    (as bs : List α)
    (hRun : run step s as = some t) :
    run step s (as ++ bs) = run step t bs := by
  induction as generalizing s with
  | nil =>
      cases hRun
      rfl
  | cons a as ih =>
      rcases run_cons_some hRun with ⟨m, hStep, hRest⟩
      rw [List.cons_append, run_cons _ hStep]
      exact ih hRest

/- What every step keeps holds at the end of every run. -/
theorem invariant_run
    {Inv : σ → Prop}
    (hKeep :
      ∀ s a t, Inv s → step s a = some t → Inv t)
    {as : List α}
    (hInv : Inv s)
    (hRun : run step s as = some t) :
    Inv t := by
  induction as generalizing s with
  | nil =>
      cases hRun
      exact hInv
  | cons a as ih =>
      rcases run_cons_some hRun with ⟨m, hStep, hRest⟩
      exact ih (hKeep s a m hInv hStep) hRest

end Transition

------------------------------------------------------------
-- Conditional Runs
------------------------------------------------------------

namespace Transition

variable {σ α : Type}

/-
  Every action of the run meets `cond` in the state in which
  it is taken.
-/
def Meets
    (step : σ → α → Option σ)
    (cond : σ → α → Prop)
    (s : σ) : List α → Prop
  | [] => True
  | a :: as =>
      cond s a ∧
        match step s a with
        | some t => Meets step cond t as
        | none => True

variable {step : σ → α → Option σ} {cond : σ → α → Prop}
variable {s t : σ} {a : α}

theorem meets_cons
    (as : List α)
    (hStep : step s a = some t) :
    Meets step cond s (a :: as) ↔
      cond s a ∧ Meets step cond t as := by
  rw [Meets, hStep]

/- A condition that always holds is met by every run. -/
theorem meets_of_forall
    (hCond : ∀ s a, cond s a)
    (s : σ)
    (as : List α) :
    Meets step cond s as := by
  induction as generalizing s with
  | nil => trivial
  | cons a as ih =>
      constructor
      · exact hCond s a
      · cases step s a with
        | none => trivial
        | some t => exact ih t

/- A weaker condition, for the actions that are taken. -/
theorem Meets.mono
    {cond' : σ → α → Prop}
    {as : List α}
    (hMeets : Meets step cond s as)
    (hImp : ∀ s, ∀ a ∈ as, cond s a → cond' s a) :
    Meets step cond' s as := by
  induction as generalizing s with
  | nil => trivial
  | cons a as ih =>
      rcases hMeets with ⟨hCond, hRest⟩
      refine ⟨hImp s a List.mem_cons_self hCond, ?_⟩
      cases hStep : step s a with
      | none => trivial
      | some t =>
          rw [hStep] at hRest
          exact ih hRest
            (fun s a hMem =>
              hImp s a (List.mem_cons_of_mem _ hMem))

/-
  What every step that meets the condition keeps holds at the
  end of every run that meets it.
-/
theorem invariant_meets
    {Inv : σ → Prop}
    (hKeep :
      ∀ s a t, Inv s → cond s a → step s a = some t →
        Inv t)
    {as : List α}
    (hInv : Inv s)
    (hMeets : Meets step cond s as)
    (hRun : run step s as = some t) :
    Inv t := by
  induction as generalizing s with
  | nil =>
      cases hRun
      exact hInv
  | cons a as ih =>
      rcases run_cons_some hRun with ⟨m, hStep, hRest⟩
      rcases (meets_cons as hStep).mp hMeets with
        ⟨hCond, hTail⟩
      apply ih
      · exact hKeep s a m hInv hCond hStep
      · exact hTail
      · exact hRest

/-
  Steps that meet the condition are enabled and keep the
  invariant, so a run that meets it gets to its end.
-/
theorem progress_meets
    {Inv : σ → Prop}
    (hStep :
      ∀ s a, Inv s → cond s a →
        ∃ t, step s a = some t ∧ Inv t)
    {as : List α}
    (hInv : Inv s)
    (hMeets : Meets step cond s as) :
    ∃ t, run step s as = some t ∧ Inv t := by
  induction as generalizing s with
  | nil => exact ⟨s, rfl, hInv⟩
  | cons a as ih =>
      rcases hStep s a hInv hMeets.1 with ⟨t, hNext, hLater⟩
      rcases (meets_cons as hNext).mp hMeets with ⟨_, hTail⟩
      rw [run_cons as hNext]
      exact ih hLater hTail

/-
  Two systems that go on or stop together.  Conditions that
  agree as long as their states are related, and that keep
  them related, are met by the same runs.
-/
theorem meets_iff_of_related
    {τ : Type}
    {step' : τ → α → Option τ}
    (Rel : σ → τ → Prop)
    {base : σ → α → Prop}
    {cond' : τ → α → Prop}
    {s' : τ}
    (hIff :
      ∀ s s' a, Rel s s' → base s a →
        (cond s a ↔ cond' s' a))
    (hKeep :
      ∀ s s' a, Rel s s' → base s a → cond s a →
        Option.Rel Rel (step s a) (step' s' a))
    {as : List α}
    (hRel : Rel s s')
    (hBase : Meets step base s as) :
    Meets step cond s as ↔ Meets step' cond' s' as := by
  induction as generalizing s s' with
  | nil => exact Iff.rfl
  | cons a as ih =>
      obtain ⟨hHead, hTail⟩ := hBase
      unfold Meets
      rw [← hIff s s' a hRel hHead]
      apply and_congr_right
      intro hNow
      have hStep := hKeep s s' a hRel hHead hNow
      revert hStep hTail
      cases step s a with
      | none =>
          cases step' s' a with
          | none => simp
          | some t' =>
              intro _ hStep
              cases hStep
      | some t =>
          cases step' s' a with
          | none =>
              intro _ hStep
              cases hStep
          | some t' =>
              intro hTail hStep
              cases hStep with
              | some hLater => exact ih hLater hTail

/-
  Two conditions on one system that agree as long as the
  invariant holds, and that keep it, are met by the same runs.
-/
theorem meets_congr
    {Inv : σ → Prop}
    {base cond' : σ → α → Prop}
    (hIff :
      ∀ s a, Inv s → base s a → (cond s a ↔ cond' s a))
    (hKeep :
      ∀ s a t, Inv s → base s a → cond s a →
        step s a = some t → Inv t)
    {as : List α}
    (hInv : Inv s)
    (hBase : Meets step base s as) :
    Meets step cond s as ↔ Meets step cond' s as := by
  apply meets_iff_of_related (fun s s' => Inv s ∧ s' = s)
    _ _ ⟨hInv, rfl⟩ hBase
  · rintro s s' a ⟨hNow, rfl⟩ hHead
    exact hIff s' a hNow hHead
  · rintro s s' a ⟨hNow, rfl⟩ hHead hCond
    cases hStep : step s' a with
    | none => exact .none
    | some t =>
        exact .some ⟨hKeep s' a t hNow hHead hCond hStep, rfl⟩

instance decidableMeets
    [∀ s a, Decidable (cond s a)]
    (s : σ) :
    (as : List α) → Decidable (Meets step cond s as)
  | [] => .isTrue trivial
  | a :: as =>
      match hStep : step s a with
      | some t =>
          have := decidableMeets t as
          decidable_of_iff
            (cond s a ∧ Meets step cond t as)
            (meets_cons as hStep).symm
      | none =>
          decidable_of_iff (cond s a) (by
            rw [Meets, hStep]
            simp)

end Transition
