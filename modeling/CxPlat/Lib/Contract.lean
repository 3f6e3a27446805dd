import Mathlib.Tactic.Common

/-
  Contracts of interfaces with calls that may block.

  A contract says what each call of a program does to an
  abstract state: it is done, it blocks, or the caller breaks
  the contract with it.  An implementation honours a contract
  if it does the same with every call that does not break it.
  What a broken contract leads to is left open.

  Key definitions include:
    * `Contract.Result`, `Contract.run`
    * `Contract.Honours`

  The rules are:
    * `Contract.Honours.map`
    * `Contract.honours_run`
-/

------------------------------------------------------------
-- Results
------------------------------------------------------------

namespace Contract

/- What becomes of a call. -/
inductive Result (σ : Type) where
  | done (s : σ)
  | blocked
  | broken
deriving DecidableEq, Repr

variable {σ τ σ' τ' α : Type}

def Result.map
    (f : σ → τ) : Result σ → Result τ
  | .done s => .done (f s)
  | .blocked => .blocked
  | .broken => .broken

/- Calls one after the other, up to one that is not done. -/
def run
    (perform : σ → α → Result σ)
    (s : σ) : List α → Result σ
  | [] => .done s
  | a :: as =>
      match perform s a with
      | .done t => run perform t as
      | .blocked => .blocked
      | .broken => .broken

end Contract

------------------------------------------------------------
-- Implementations
------------------------------------------------------------

namespace Contract

variable {σ τ σ' τ' α : Type}

/- The first result is that of the contract. -/
def Honours
    (R : σ → τ → Prop) : Result σ → Result τ → Prop
  | .done s, .done t => R s t
  | .blocked, .blocked => True
  | .broken, _ => True
  | _, _ => False

variable {R : σ → τ → Prop} {R' : σ' → τ' → Prop}

/- A call on one part of the states. -/
theorem Honours.map
    {x : Result σ'}
    {y : Result τ'}
    {f : σ' → σ}
    {g : τ' → τ}
    (hHonours : Honours R' x y)
    (hPart : ∀ s t, R' s t → R (f s) (g t)) :
    Honours R (x.map f) (y.map g) := by
  cases x with
  | broken => trivial
  | blocked =>
      cases y with
      | blocked => trivial
      | done t => exact hHonours
      | broken => exact hHonours
  | done s =>
      cases y with
      | done t => exact hPart s t hHonours
      | blocked => exact hHonours
      | broken => exact hHonours

/- If every call honours the contract, so does a program. -/
theorem honours_run
    {contract : σ → α → Result σ}
    {perform : τ → α → Result τ}
    (hCall :
      ∀ s t a, R s t →
        Honours R (contract s a) (perform t a))
    {s : σ}
    {t : τ}
    (hStart : R s t)
    (program : List α) :
    Honours R (run contract s program)
      (run perform t program) := by
  induction program generalizing s t with
  | nil => exact hStart
  | cons a rest hRest =>
      have hFirst := hCall s t a hStart
      unfold run
      cases hContract : contract s a with
      | broken => trivial
      | blocked =>
          rw [hContract] at hFirst
          cases hPerform : perform t a with
          | blocked => trivial
          | done t' =>
              rw [hPerform] at hFirst
              exact False.elim hFirst
          | broken =>
              rw [hPerform] at hFirst
              exact False.elim hFirst
      | done s' =>
          rw [hContract] at hFirst
          cases hPerform : perform t a with
          | done t' =>
              rw [hPerform] at hFirst
              exact hRest hFirst
          | blocked =>
              rw [hPerform] at hFirst
              exact False.elim hFirst
          | broken =>
              rw [hPerform] at hFirst
              exact False.elim hFirst

end Contract
