import CxPlat.Lib.Comp

/-
  What a computation adds to a number that is read off its
  state.

  `Charges cost n c` says that no run of `c` that stops
  without a fault adds more than `n`.  Costs add up along a
  sequence, and a loop costs at most its number of rounds
  times the cost of a round.

  Key definitions include:
    * `Comp.Charges`

  Key theorems include:
    * `Comp.Charges.bind`
    * `Comp.charges_forLoop`
    * `Comp.charges_forLoop_free`
    * `Comp.searchLoop_found`
-/

------------------------------------------------------------
-- Costs
------------------------------------------------------------

namespace Comp

variable {ε σ α β : Type} {cost : σ → Nat}

def Charges
    (cost : σ → Nat)
    (n : Nat)
    (c : Comp ε σ α) : Prop :=
  ∀ s a t, exec c s = .ok (a, t) → cost t ≤ cost s + n

theorem charges_pure
    (a : α) :
    Charges cost 0 (pure a : Comp ε σ α) := by
  intro s b t hExec
  cases hExec
  exact Nat.le_refl _

theorem charges_throw
    (e : ε)
    (n : Nat) :
    Charges cost n (throw e : Comp ε σ α) := by
  intro s b t hExec
  cases hExec

/- A bound that is kept is not added to. -/
theorem charges_of_preserves
    {c : Comp ε σ α}
    (hKeep : ∀ n, Preserves (fun s => cost s ≤ n) c) :
    Charges cost 0 c := by
  intro s a t hExec
  exact hKeep (cost s) s a t hExec (Nat.le_refl _)

theorem Charges.mono
    {n m : Nat}
    {c : Comp ε σ α}
    (hCharges : Charges cost n c)
    (hLe : n ≤ m) :
    Charges cost m c := by
  intro s a t hExec
  have hFirst := hCharges s a t hExec
  omega

theorem Charges.bind
    {n m : Nat}
    {c : Comp ε σ α}
    {f : α → Comp ε σ β}
    (hFirst : Charges cost n c)
    (hRest : ∀ a, Charges cost m (f a)) :
    Charges cost (n + m) (c >>= f) := by
  intro s b u hExec
  rcases exec_bind_ok.mp hExec with ⟨a, t, hHead, hTail⟩
  have hLow := hFirst s a t hHead
  have hHigh := hRest a t b u hTail
  omega

/- In a sequence where nothing costs anything. -/
theorem Charges.bind_free
    {c : Comp ε σ α}
    {f : α → Comp ε σ β}
    (hFirst : Charges cost 0 c)
    (hRest : ∀ a, Charges cost 0 (f a)) :
    Charges cost 0 (c >>= f) :=
  hFirst.bind hRest

/-
  At most `rounds i` rounds are left from counter `i` on, and
  each costs at most `n`.
-/
theorem charges_forLoop
    {stuck : ε}
    {cond : Nat → Bool}
    {next : Nat → Nat}
    {body : Nat → Comp ε σ Unit}
    {n : Nat}
    (rounds : Nat → Nat)
    (hRounds :
      ∀ i, cond i = true → rounds (next i) < rounds i)
    (hBody : ∀ i, Charges cost n (body i))
    (fuel i : Nat) :
    Charges cost (rounds i * n)
      (forLoop stuck cond next body fuel i) := by
  induction fuel generalizing i with
  | zero =>
      unfold forLoop
      cases cond i with
      | true => exact charges_throw stuck _
      | false => exact (charges_pure i).mono (Nat.zero_le _)
  | succ fuel ih =>
      unfold forLoop
      cases hCond : cond i with
      | true =>
          apply ((hBody i).bind (fun _ => ih (next i))).mono
          have hFewer := hRounds i hCond
          calc n + rounds (next i) * n
            _ = (rounds (next i) + 1) * n := by
              rw [Nat.succ_mul, Nat.add_comm]
            _ ≤ rounds i * n := Nat.mul_le_mul_right n hFewer
      | false => exact (charges_pure i).mono (Nat.zero_le _)

/- A loop with free rounds is free. -/
theorem charges_forLoop_free
    {stuck : ε}
    {cond : Nat → Bool}
    {next : Nat → Nat}
    {body : Nat → Comp ε σ Unit}
    (hBody : ∀ i, Charges cost 0 (body i))
    (fuel i : Nat) :
    Charges cost 0
      (forLoop stuck cond next body fuel i) := by
  apply charges_of_preserves
  intro n
  apply preserves_forLoop
  intro j s r t hExec hLe
  exact Nat.le_trans (hBody j s r t hExec) hLe

/-
  A search with free rounds is free, and what it finds one of
  its rounds has found.
-/
theorem searchLoop_found
    {stuck : ε}
    {cond : Nat → Bool}
    {next : Nat → Nat}
    {body : Nat → Comp ε σ (Option β)}
    {Q : β → Prop}
    (hBody :
      ∀ i, cond i = true →
        ∀ s r t, exec (body i) s = .ok (r, t) →
          cost t ≤ cost s ∧ ∀ x, r = some x → Q x)
    {fuel i : Nat}
    {s t : σ}
    {r : Option β}
    (hExec :
      exec (searchLoop stuck cond next body fuel i) s =
        .ok (r, t)) :
    cost t ≤ cost s ∧ ∀ x, r = some x → Q x := by
  induction fuel generalizing i s with
  | zero =>
      unfold searchLoop at hExec
      split at hExec <;> cases hExec
      exact ⟨Nat.le_refl _, by simp⟩
  | succ fuel ih =>
      unfold searchLoop at hExec
      split at hExec
      next hCond =>
        rcases exec_bind_ok.mp hExec with
          ⟨found, m, hRound, hRest⟩
        rcases hBody i hCond s found m hRound with
          ⟨hFree, hFound⟩
        cases found with
        | none =>
            rcases ih hRest with ⟨hLater, hQ⟩
            exact ⟨Nat.le_trans hLater hFree, hQ⟩
        | some x =>
            cases hRest
            exact ⟨hFree, hFound⟩
      next =>
        cases hExec
        exact ⟨Nat.le_refl _, by simp⟩

end Comp
