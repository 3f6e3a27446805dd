import CxPlat.Lib.Comp

/-
  Computations under observation.

  A watched version of a computation has a larger state and
  more ways to stop: it also checks what the plain version
  takes for granted.  `Tracks part c d` says that every run
  of the watched `c` that stops without an alarm is, on the
  `part` of the state that `d` knows, a run of `d`.

  Key definitions include:
    * `Comp.embed`, `Comp.check`
    * `Comp.Tracks`

  Key theorems include:
    * `Comp.Tracks.bind`
    * `Comp.Tracks.silent_bind`, `Comp.Tracks.bind_silent`
    * `Comp.tracks_whileLoop`
-/

------------------------------------------------------------
-- Watching
------------------------------------------------------------

namespace Comp

variable {ε η σ τ α β : Type}

/- Run a computation on a part of a larger state. -/
def embed
    (alarm : ε → η)
    (part : τ → σ)
    (update : τ → σ → τ)
    (c : Comp ε σ α) : Comp η τ α :=
  fun w =>
    match exec c (part w) with
    | .ok (a, s) => .ok (a, update w s)
    | .error e => .error (alarm e)

theorem exec_embed
    (alarm : ε → η)
    (part : τ → σ)
    (update : τ → σ → τ)
    (c : Comp ε σ α)
    (w : τ) :
    exec (embed alarm part update c) w =
      match exec c (part w) with
      | .ok (a, s) => .ok (a, update w s)
      | .error e => .error (alarm e) := rfl

theorem returns_embed
    {alarm : ε → η}
    {part : τ → σ}
    {update : τ → σ → τ}
    {c : Comp ε σ α}
    {w : τ}
    {Q : α → σ → Prop}
    (hReturns : Returns c (part w) Q) :
    Returns (embed alarm part update c) w
      (fun a u =>
        ∃ s, exec c (part w) = .ok (a, s) ∧
          Q a s ∧ u = update w s) := by
  rcases hReturns with ⟨a, s, hExec, hPost⟩
  refine ⟨a, update w s, ?_, s, hExec, hPost, rfl⟩
  rw [exec_embed, hExec]

/- Go on only if the state is as it should be. -/
def check
    (alarm : η)
    (ok : τ → Bool) : Comp η τ Unit := do
  let w ← get
  if ok w then pure () else throw alarm

theorem returns_check
    (alarm : η)
    (ok : τ → Bool)
    (w : τ)
    (Q : Unit → τ → Prop) :
    Returns (check alarm ok) w Q ↔ ok w = true ∧ Q () w := by
  unfold check
  rw [returns_bind, returns_get]
  cases hOk : ok w with
  | true => simp
  | false => simp

end Comp

------------------------------------------------------------
-- Tracking
------------------------------------------------------------

namespace Comp

variable {ε η σ τ α β : Type}
variable {part : τ → σ}

/-
  A run of `c` that stops without an alarm is a run of `d`
  on the part of the state that `d` knows.
-/
def Tracks
    (part : τ → σ)
    (c : Comp η τ α)
    (d : Comp ε σ α) : Prop :=
  ∀ w a u, exec c w = .ok (a, u) →
    exec d (part w) = .ok (a, part u)

theorem tracks_pure
    (a : α) :
    Tracks part (pure a : Comp η τ α)
      (pure a : Comp ε σ α) := by
  intro w b u hExec
  cases hExec
  rfl

theorem tracks_throw
    (e : η)
    (d : Comp ε σ α) :
    Tracks part (throw e : Comp η τ α) d := by
  intro w b u hExec
  cases hExec

theorem tracks_ite
    {p : Prop}
    [Decidable p]
    {c c' : Comp η τ α}
    {d d' : Comp ε σ α}
    (hThen : p → Tracks part c d)
    (hElse : ¬ p → Tracks part c' d') :
    Tracks part (if p then c else c')
      (if p then d else d') := by
  split
  next hTrue => exact hThen hTrue
  next hFalse => exact hElse hFalse

theorem Tracks.bind
    {c : Comp η τ α}
    {d : Comp ε σ α}
    {f : α → Comp η τ β}
    {g : α → Comp ε σ β}
    (hFirst : Tracks part c d)
    (hRest : ∀ a, Tracks part (f a) (g a)) :
    Tracks part (c >>= f) (d >>= g) := by
  intro w b u hExec
  rcases exec_bind_ok.mp hExec with ⟨a, t, hRun, hNext⟩
  exact exec_bind_ok.mpr
    ⟨a, part t, hFirst w a t hRun, hRest a t b u hNext⟩

/- What is only watched comes before the real thing. -/
theorem Tracks.silent_bind
    {c : Comp η τ α}
    {a : α}
    {f : α → Comp η τ β}
    {d : Comp ε σ β}
    (hSilent : Tracks part c (pure a : Comp ε σ α))
    (hRest : Tracks part (f a) d) :
    Tracks part (c >>= f) d := by
  intro w b u hExec
  rcases exec_bind_ok.mp hExec with ⟨a', t, hRun, hNext⟩
  have hSame := hSilent w a' t hRun
  rw [exec_pure] at hSame
  injection hSame with hPair
  injection hPair with hValue hState
  subst hValue
  rw [hState]
  exact hRest t b u hNext

/- Or after it. -/
theorem Tracks.bind_silent
    {c : Comp η τ α}
    {d : Comp ε σ α}
    {f : α → Comp η τ α}
    (hFirst : Tracks part c d)
    (hSilent :
      ∀ a, Tracks part (f a) (pure a : Comp ε σ α)) :
    Tracks part (c >>= f) d := by
  have hBoth := hFirst.bind hSilent
  rw [bind_pure] at hBoth
  exact hBoth

theorem tracks_embed
    (alarm : ε → η)
    {update : τ → σ → τ}
    (hUpdate : ∀ w s, part (update w s) = s)
    (c : Comp ε σ α) :
    Tracks part (embed alarm part update c) c := by
  intro w a u hExec
  rw [exec_embed] at hExec
  cases hRun : exec c (part w) with
  | error e =>
      rw [hRun] at hExec
      cases hExec
  | ok r =>
      rw [hRun] at hExec
      cases hExec
      rw [hUpdate]

theorem tracks_check
    (alarm : η)
    (ok : τ → Bool) :
    Tracks part (check alarm ok)
      (pure () : Comp ε σ Unit) := by
  intro w a u hExec
  unfold check at hExec
  rcases exec_bind_ok.mp hExec with ⟨w', t, hGet, hRest⟩
  cases hGet
  cases hOk : ok w with
  | true =>
      rw [hOk] at hRest
      cases hRest
      rfl
  | false =>
      rw [hOk] at hRest
      cases hRest

theorem tracks_modify
    {f : τ → τ}
    (hSame : ∀ w, part (f w) = part w) :
    Tracks part (modify f : Comp η τ PUnit)
      (pure ⟨⟩ : Comp ε σ PUnit) := by
  intro w a u hExec
  rw [exec_modify] at hExec
  cases hExec
  rw [hSame]
  rfl

/- A watched loop and a plain one go round together. -/
theorem tracks_whileLoop
    {alarm : η}
    {stuck : ε}
    {cond : Nat → Comp η τ Bool}
    {next : Nat → Comp η τ Nat}
    {body : Nat → Comp η τ Unit}
    {goes : Nat → Bool}
    {step : Nat → Nat}
    {plain : Nat → Comp ε σ Unit}
    (hCond :
      ∀ i, Tracks part (cond i)
        (pure (goes i) : Comp ε σ Bool))
    (hNext :
      ∀ i, Tracks part (next i)
        (pure (step i) : Comp ε σ Nat))
    (hBody : ∀ i, Tracks part (body i) (plain i))
    (fuel i : Nat) :
    Tracks part (whileLoop alarm cond next body fuel i)
      (forLoop stuck goes step plain fuel i) := by
  induction fuel generalizing i with
  | zero =>
      unfold whileLoop forLoop
      refine (hCond i).silent_bind ?_
      cases goes i with
      | true => exact tracks_throw _ _
      | false => exact tracks_pure i
  | succ fuel ih =>
      unfold whileLoop forLoop
      refine (hCond i).silent_bind ?_
      cases goes i with
      | true =>
          refine (hBody i).bind ?_
          intro _
          exact (hNext i).silent_bind (ih (step i))
      | false => exact tracks_pure i

end Comp
