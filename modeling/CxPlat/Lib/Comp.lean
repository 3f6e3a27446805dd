import Mathlib.Tactic.Common

/-
  Computations that pass a state along and may stop with a
  fault, with a total-correctness judgment for them.

  `Returns c s Q` says that `c`, started in `s`, stops
  without a fault and that `Q` holds of its result and final
  state.  A run that faults or never stops has no such
  judgment, so a proof of `Returns` is also a proof of
  termination and of the absence of faults.

  `ReturnsIff p fault c s Q` adds the exact condition: `c`
  returns as `Q` says if `p` holds, and stops with `fault`
  if it does not.

  `Preserves I c` is the partial counterpart: every run of
  `c` that does stop without a fault keeps `I`.  `Gives r c`
  says that every such run has the result `r`.

  Key definitions include:
    * `Comp`
    * `Comp.Returns`
    * `Comp.After`, `Comp.ReturnsIff`
    * `Comp.focus`
    * `Comp.Preserves`, `Comp.Gives`
    * `Comp.forLoop`, `Comp.whileLoop`
    * `Comp.searchLoop`

  The loop rules are:
    * `Comp.returns_whileLoop`
    * `Comp.returns_whileLoop_up`
    * `Comp.returns_whileLoop_down`
    * `Comp.returns_forLoop_up`
    * `Comp.returns_forLoop_down`
    * `Comp.not_returns_forLoop`
    * `Comp.returns_searchLoop`
    * `Comp.preserves_forLoop`
    * `Comp.preserves_searchLoop`
-/

------------------------------------------------------------
-- Computations
------------------------------------------------------------

/-
  A computation reads and writes a state of type `σ` and
  either returns a value or stops with a fault of type `ε`.
-/
abbrev Comp (ε σ : Type) :=
  StateT σ (Except ε)

namespace Comp

variable {ε σ α β : Type}

/- Run a computation from a state. -/
def exec
    (c : Comp ε σ α)
    (s : σ) :
    Except ε (α × σ) :=
  StateT.run c s

@[simp] theorem exec_pure
    (a : α)
    (s : σ) :
    exec (pure a : Comp ε σ α) s = .ok (a, s) := rfl

@[simp] theorem exec_throw
    (e : ε)
    (s : σ) :
    exec (throw e : Comp ε σ α) s = .error e := rfl

@[simp] theorem exec_get
    (s : σ) :
    exec (get : Comp ε σ σ) s = .ok (s, s) := rfl

@[simp] theorem exec_set
    (s t : σ) :
    exec (set t : Comp ε σ PUnit) s = .ok (⟨⟩, t) := rfl

@[simp] theorem exec_modify
    (f : σ → σ)
    (s : σ) :
    exec (modify f : Comp ε σ PUnit) s = .ok (⟨⟩, f s) := rfl

/- Running a sequence runs its first part and then the rest. -/
theorem exec_bind
    (c : Comp ε σ α)
    (f : α → Comp ε σ β)
    (s : σ) :
    exec (c >>= f) s =
      match exec c s with
      | .ok (a, t) => exec (f a) t
      | .error e => .error e := by
  unfold exec
  rw [StateT.run_bind]
  cases hRun : StateT.run c s with
  | ok r => rfl
  | error e => rfl

/- A sequence that stops without a fault, in its two parts. -/
theorem exec_bind_ok
    {c : Comp ε σ α}
    {f : α → Comp ε σ β}
    {s u : σ}
    {b : β} :
    exec (c >>= f) s = .ok (b, u) ↔
      ∃ a t, exec c s = .ok (a, t) ∧
        exec (f a) t = .ok (b, u) := by
  rw [exec_bind]
  cases hRun : exec c s with
  | error e => simp
  | ok r =>
      constructor
      · intro hRest
        exact ⟨r.1, r.2, rfl, hRest⟩
      · rintro ⟨a, t, hEq, hRest⟩
        cases hEq
        exact hRest

end Comp

------------------------------------------------------------
-- Total Correctness
------------------------------------------------------------

namespace Comp

variable {ε σ α β : Type}

/-
  Started in `s`, the computation stops without a fault in a
  result and a state that satisfy `Q`.
-/
def Returns
    (c : Comp ε σ α)
    (s : σ)
    (Q : α → σ → Prop) : Prop :=
  ∃ a t, exec c s = .ok (a, t) ∧ Q a t

theorem returns_of_exec
    {c : Comp ε σ α}
    {s t : σ}
    {a : α}
    {Q : α → σ → Prop}
    (hExec : exec c s = .ok (a, t))
    (hPost : Q a t) :
    Returns c s Q :=
  ⟨a, t, hExec, hPost⟩

/- What is known of a returned run holds of that run. -/
theorem Returns.post
    {c : Comp ε σ α}
    {s t : σ}
    {a : α}
    {Q : α → σ → Prop}
    (hReturns : Returns c s Q)
    (hExec : exec c s = .ok (a, t)) :
    Q a t := by
  rcases hReturns with ⟨a', t', hExec', hPost⟩
  rw [hExec] at hExec'
  cases hExec'
  exact hPost

theorem Returns.mono
    {c : Comp ε σ α}
    {s : σ}
    {Q R : α → σ → Prop}
    (hReturns : Returns c s Q)
    (hImp : ∀ a t, Q a t → R a t) :
    Returns c s R := by
  rcases hReturns with ⟨a, t, hExec, hPost⟩
  exact ⟨a, t, hExec, hImp a t hPost⟩

/- There is only one run, so what is known of it adds up. -/
theorem Returns.and
    {c : Comp ε σ α}
    {s : σ}
    {Q R : α → σ → Prop}
    (hFirst : Returns c s Q)
    (hSecond : Returns c s R) :
    Returns c s (fun a t => Q a t ∧ R a t) := by
  rcases hFirst with ⟨a, t, hExec, hPost⟩
  exact ⟨a, t, hExec, hPost, hSecond.post hExec⟩

@[simp] theorem returns_pure
    (a : α)
    (s : σ)
    (Q : α → σ → Prop) :
    Returns (pure a : Comp ε σ α) s Q ↔ Q a s := by
  constructor
  · intro hReturns
    exact hReturns.post rfl
  · intro hPost
    exact ⟨a, s, rfl, hPost⟩

@[simp] theorem returns_get
    (s : σ)
    (Q : σ → σ → Prop) :
    Returns (get : Comp ε σ σ) s Q ↔ Q s s := by
  constructor
  · intro hReturns
    exact hReturns.post rfl
  · intro hPost
    exact ⟨s, s, rfl, hPost⟩

@[simp] theorem returns_set
    (s t : σ)
    (Q : PUnit → σ → Prop) :
    Returns (set t : Comp ε σ PUnit) s Q ↔ Q ⟨⟩ t := by
  constructor
  · intro hReturns
    exact hReturns.post rfl
  · intro hPost
    exact ⟨⟨⟩, t, rfl, hPost⟩

@[simp] theorem returns_modify
    (f : σ → σ)
    (s : σ)
    (Q : PUnit → σ → Prop) :
    Returns (modify f : Comp ε σ PUnit) s Q ↔
      Q ⟨⟩ (f s) := by
  constructor
  · intro hReturns
    exact hReturns.post rfl
  · intro hPost
    exact ⟨⟨⟩, f s, rfl, hPost⟩

@[simp] theorem not_returns_throw
    (e : ε)
    (s : σ)
    (Q : α → σ → Prop) :
    ¬ Returns (throw e : Comp ε σ α) s Q := by
  rintro ⟨a, t, hExec, _⟩
  rw [exec_throw] at hExec
  cases hExec

/- A sequence returns when each part does in turn. -/
@[simp] theorem returns_bind
    (c : Comp ε σ α)
    (f : α → Comp ε σ β)
    (s : σ)
    (Q : β → σ → Prop) :
    Returns (c >>= f) s Q ↔
      Returns c s (fun a t => Returns (f a) t Q) := by
  unfold Returns
  rw [exec_bind]
  cases hExec : exec c s with
  | error e =>
      simp
  | ok r =>
      rcases r with ⟨a, t⟩
      constructor
      · rintro ⟨b, u, hRest, hPost⟩
        exact ⟨a, t, rfl, b, u, hRest, hPost⟩
      · rintro ⟨a', t', hEq, b, u, hRest, hPost⟩
        cases hEq
        exact ⟨b, u, hRest, hPost⟩

@[simp] theorem returns_map
    (f : α → β)
    (c : Comp ε σ α)
    (s : σ)
    (Q : β → σ → Prop) :
    Returns (f <$> c) s Q ↔
      Returns c s (fun a t => Q (f a) t) := by
  rw [← bind_pure_comp, returns_bind]
  simp only [returns_pure]

/- A sequence whose first part is known goes on from there. -/
theorem returns_bind_of_exec
    {c : Comp ε σ α}
    {f : α → Comp ε σ β}
    {s t : σ}
    {a : α}
    {Q : β → σ → Prop}
    (hExec : exec c s = .ok (a, t)) :
    Returns (c >>= f) s Q ↔ Returns (f a) t Q := by
  unfold Returns
  rw [exec_bind, hExec]

theorem Returns.bind
    {c : Comp ε σ α}
    {f : α → Comp ε σ β}
    {s : σ}
    {Q : α → σ → Prop}
    {R : β → σ → Prop}
    (hFirst : Returns c s Q)
    (hRest : ∀ a t, Q a t → Returns (f a) t R) :
    Returns (c >>= f) s R := by
  rw [returns_bind]
  exact hFirst.mono hRest

/- The computation only finds a value. -/
def Finds
    (c : Comp ε σ α)
    (a : α) : Prop :=
  ∀ s, exec c s = .ok (a, s)

theorem Finds.returns
    {c : Comp ε σ α}
    {a : α}
    (hFinds : Finds c a)
    (s : σ)
    (Q : α → σ → Prop) :
    Returns c s Q ↔ Q a s := by
  constructor
  · intro hReturns
    exact hReturns.post (hFinds s)
  · intro hPost
    exact returns_of_exec (hFinds s) hPost

theorem finds_pure
    (a : α) :
    Finds (pure a : Comp ε σ α) a :=
  fun _ => rfl

theorem Finds.bind
    {c : Comp ε σ α}
    {f : α → Comp ε σ β}
    {a : α}
    {b : β}
    (hFirst : Finds c a)
    (hRest : Finds (f a) b) :
    Finds (c >>= f) b := by
  intro s
  rw [exec_bind, hFirst s]
  exact hRest s

end Comp

------------------------------------------------------------
-- Exact Conditions
------------------------------------------------------------

namespace Comp

variable {ε σ α β : Type}

/- What holds of the result and the state, if it returns. -/
def After
    (c : Comp ε σ α)
    (s : σ)
    (P : α → σ → Prop) : Prop :=
  match exec c s with
  | .ok (a, t) => P a t
  | .error _ => True

theorem after_of_exec
    {c : Comp ε σ α}
    {s t : σ}
    {a : α}
    {P : α → σ → Prop}
    (hExec : exec c s = .ok (a, t)) :
    After c s P ↔ P a t := by
  unfold After
  rw [hExec]

instance decidableAfter
    (c : Comp ε σ α)
    (s : σ)
    (P : α → σ → Prop)
    [∀ a t, Decidable (P a t)] :
    Decidable (After c s P) :=
  match hExec : exec c s with
  | .ok (a, t) =>
      decidable_of_iff (P a t) (after_of_exec hExec).symm
  | .error _ =>
      isTrue (by
        unfold After
        rw [hExec]
        trivial)

/-
  Under the condition the computation returns, and otherwise
  it stops with this one fault.
-/
structure ReturnsIff
    (cond : Prop)
    (fault : ε)
    (c : Comp ε σ α)
    (s : σ)
    (Q : α → σ → Prop) : Prop where
  returns : cond → Returns c s Q
  fails : ¬ cond → exec c s = .error fault

variable {p : Prop} {fault : ε}
variable {c : Comp ε σ α} {f : α → Comp ε σ β} {s : σ}

theorem Returns.iff_true
    {Q : α → σ → Prop}
    (hReturns : Returns c s Q) :
    ReturnsIff True fault c s Q where
  returns _ := hReturns
  fails hNot := absurd trivial hNot

theorem ReturnsIff.mono
    {Q R : α → σ → Prop}
    (hReturns : ReturnsIff p fault c s Q)
    (hImp : ∀ a t, Q a t → R a t) :
    ReturnsIff p fault c s R where
  returns hCond := (hReturns.returns hCond).mono hImp
  fails := hReturns.fails

/- The judgment only looks at the run. -/
theorem ReturnsIff.of_exec_eq
    {c' : Comp ε σ α}
    {Q : α → σ → Prop}
    (hReturns : ReturnsIff p fault c s Q)
    (hSame : exec c' s = exec c s) :
    ReturnsIff p fault c' s Q where
  returns hCond := by
    unfold Returns
    rw [hSame]
    exact hReturns.returns hCond
  fails hNot := by rw [hSame, hReturns.fails hNot]

/- The conditions of a sequence, one after the other. -/
theorem ReturnsIff.bind
    {q : α → σ → Prop}
    {P : α → σ → Prop}
    {Q : β → σ → Prop}
    (hFirst : ReturnsIff p fault c s P)
    (hRest :
      ∀ a t, P a t → ReturnsIff (q a t) fault (f a) t Q) :
    ReturnsIff (p ∧ After c s q) fault (c >>= f) s Q := by
  by_cases hCond : p
  · rcases hFirst.returns hCond with ⟨a, t, hExec, hPost⟩
    have hThen := hRest a t hPost
    rw [after_of_exec hExec]
    constructor
    · rintro ⟨_, hNext⟩
      rw [returns_bind_of_exec hExec]
      exact hThen.returns hNext
    · intro hNot
      rw [exec_bind, hExec]
      exact hThen.fails (fun hNext => hNot ⟨hCond, hNext⟩)
  · constructor
    · intro hBoth
      exact absurd hBoth.1 hCond
    · intro _
      rw [exec_bind, hFirst.fails hCond]

/- What follows has no condition. -/
theorem ReturnsIff.then_returns
    {P : α → σ → Prop}
    {Q : β → σ → Prop}
    (hFirst : ReturnsIff p fault c s P)
    (hRest : ∀ a t, P a t → Returns (f a) t Q) :
    ReturnsIff p fault (c >>= f) s Q where
  returns hCond := (hFirst.returns hCond).bind hRest
  fails hNot := by rw [exec_bind, hFirst.fails hNot]

end Comp

------------------------------------------------------------
-- Parts of a State
------------------------------------------------------------

namespace Comp

variable {ε σ τ α : Type}

/- Run a computation on a part of a larger state. -/
def focus
    (part : τ → σ)
    (update : τ → σ → τ)
    (c : Comp ε σ α) : Comp ε τ α :=
  fun w =>
    match exec c (part w) with
    | .ok (a, s) => .ok (a, update w s)
    | .error e => .error e

theorem exec_focus
    (part : τ → σ)
    (update : τ → σ → τ)
    (c : Comp ε σ α)
    (w : τ) :
    exec (focus part update c) w =
      match exec c (part w) with
      | .ok (a, s) => .ok (a, update w s)
      | .error e => .error e := rfl

@[simp] theorem returns_focus
    (part : τ → σ)
    (update : τ → σ → τ)
    (c : Comp ε σ α)
    (w : τ)
    (Q : α → τ → Prop) :
    Returns (focus part update c) w Q ↔
      Returns c (part w) (fun a s => Q a (update w s)) := by
  unfold Returns
  rw [exec_focus]
  cases hExec : exec c (part w) with
  | error e => simp
  | ok r =>
      rcases r with ⟨a, s⟩
      simp

end Comp

------------------------------------------------------------
-- Partial Correctness
------------------------------------------------------------

namespace Comp

variable {ε σ α β : Type}

/- Every run that stops without a fault keeps `I`. -/
def Preserves
    (I : σ → Prop)
    (c : Comp ε σ α) : Prop :=
  ∀ s a t, exec c s = .ok (a, t) → I s → I t

theorem preserves_pure
    (I : σ → Prop)
    (a : α) :
    Preserves I (pure a : Comp ε σ α) := by
  intro s b t hExec hInv
  rw [exec_pure] at hExec
  cases hExec
  exact hInv

theorem preserves_throw
    (I : σ → Prop)
    (e : ε) :
    Preserves I (throw e : Comp ε σ α) := by
  intro s b t hExec hInv
  rw [exec_throw] at hExec
  cases hExec

theorem preserves_map
    {I : σ → Prop}
    (f : α → β)
    {c : Comp ε σ α}
    (hKeep : Preserves I c) :
    Preserves I (f <$> c) := by
  intro s b t hExec hInv
  rw [← bind_pure_comp] at hExec
  rcases exec_bind_ok.mp hExec with ⟨a, u, hRun, hPure⟩
  cases hPure
  exact hKeep s a t hRun hInv

theorem preserves_get
    (I : σ → Prop) :
    Preserves I (get : Comp ε σ σ) := by
  intro s b t hExec hInv
  rw [exec_get] at hExec
  cases hExec
  exact hInv

theorem preserves_modify
    {I : σ → Prop}
    {f : σ → σ}
    (hStep : ∀ s, I s → I (f s)) :
    Preserves I (modify f : Comp ε σ PUnit) := by
  intro s b t hExec hInv
  rw [exec_modify] at hExec
  cases hExec
  exact hStep s hInv

theorem Preserves.bind
    {I : σ → Prop}
    {c : Comp ε σ α}
    {f : α → Comp ε σ β}
    (hFirst : Preserves I c)
    (hRest : ∀ a, Preserves I (f a)) :
    Preserves I (c >>= f) := by
  intro s b u hExec hInv
  rcases exec_bind_ok.mp hExec with ⟨a, t, hRun, hRest'⟩
  exact hRest a t b u hRest' (hFirst s a t hRun hInv)

/- What an update of the part keeps, code on the part does. -/
theorem preserves_focus
    {τ : Type}
    {I : τ → Prop}
    {part : τ → σ}
    {update : τ → σ → τ}
    (hUpdate : ∀ w s, I w → I (update w s))
    (c : Comp ε σ α) :
    Preserves I (focus part update c) := by
  intro w a w' hExec hInv
  rw [exec_focus] at hExec
  cases hRun : exec c (part w) with
  | error e => simp [hRun] at hExec
  | ok r =>
      rw [hRun] at hExec
      cases hExec
      exact hUpdate w r.2 hInv

/- Every run that stops without a fault gives `r`. -/
def Gives
    (r : α)
    (c : Comp ε σ α) : Prop :=
  ∀ s a t, exec c s = .ok (a, t) → a = r

theorem gives_pure
    (r : α) :
    Gives r (pure r : Comp ε σ α) := by
  intro s a t hExec
  rw [exec_pure] at hExec
  cases hExec
  rfl

/- The last part gives the result. -/
theorem gives_bind
    {r : β}
    {c : Comp ε σ α}
    {f : α → Comp ε σ β}
    (hLast : ∀ a, Gives r (f a)) :
    Gives r (c >>= f) := by
  intro s b u hExec
  rcases exec_bind_ok.mp hExec with ⟨a, t, _, hRest⟩
  exact hLast a t b u hRest

end Comp

------------------------------------------------------------
-- Counted Loops
------------------------------------------------------------

namespace Comp

variable {ε σ β : Type}

/-
  A `for` loop over a counter: while `cond` holds of the
  counter, run the body and move to the `next` counter.  The
  result is the counter on exit.  A loop that is still
  running when its `fuel` is used up stops with `stuck`.
-/
def forLoop
    (stuck : ε)
    (cond : Nat → Bool)
    (next : Nat → Nat)
    (body : Nat → Comp ε σ Unit) :
    Nat → Nat → Comp ε σ Nat
| 0, i =>
    if cond i then throw stuck else pure i
| fuel + 1, i =>
    if cond i then do
      body i
      forLoop stuck cond next body fuel (next i)
    else
      pure i

/-
  A loop as above whose condition and whose next counter
  have to be computed.
-/
def whileLoop
    (stuck : ε)
    (cond : Nat → Comp ε σ Bool)
    (next : Nat → Comp ε σ Nat)
    (body : Nat → Comp ε σ Unit) :
    Nat → Nat → Comp ε σ Nat
| 0, i => do
    if ← cond i then throw stuck else pure i
| fuel + 1, i => do
    if ← cond i then do
      body i
      let j ← next i
      whileLoop stuck cond next body fuel j
    else
      pure i

/-
  A loop as above whose body may also leave it early, with a
  result.  `none` means that the loop ran to its end.
-/
def searchLoop
    (stuck : ε)
    (cond : Nat → Bool)
    (next : Nat → Nat)
    (body : Nat → Comp ε σ (Option β)) :
    Nat → Nat → Comp ε σ (Option β)
| 0, i =>
    if cond i then throw stuck else pure none
| fuel + 1, i =>
    if cond i then do
      match ← body i with
      | some r => pure (some r)
      | none =>
          searchLoop stuck cond next body fuel (next i)
    else
      pure none

section WhileLoop

variable {stuck : ε}
variable {cond : Nat → Comp ε σ Bool}
variable {next : Nat → Comp ε σ Nat}
variable {body : Nat → Comp ε σ Unit}

/-
  Loop rule: while the loop goes on, condition and counter
  are found, the body keeps the invariant and the measure
  falls.
-/
theorem returns_whileLoop
    (Inv : Nat → σ → Prop)
    (goes : Nat → Bool)
    (step measure : Nat → Nat)
    (hCond : ∀ i s, Inv i s → Finds (cond i) (goes i))
    (hBody :
      ∀ i s, Inv i s → goes i = true →
        measure (step i) < measure i ∧
          Finds (next i) (step i) ∧
          Returns (body i) s (fun _ t => Inv (step i) t))
    {fuel i : Nat}
    {s : σ}
    (hFuel : measure i ≤ fuel)
    (hInv : Inv i s) :
    Returns (whileLoop stuck cond next body fuel i) s
      (fun j t => goes j = false ∧ Inv j t) := by
  induction fuel generalizing i s with
  | zero =>
      unfold whileLoop
      rw [returns_bind, (hCond i s hInv).returns]
      cases hGoes : goes i with
      | true =>
          have hLess := (hBody i s hInv hGoes).1
          omega
      | false => simp [hGoes, hInv]
  | succ fuel ih =>
      unfold whileLoop
      rw [returns_bind, (hCond i s hInv).returns]
      cases hGoes : goes i with
      | true =>
          rcases hBody i s hInv hGoes with
            ⟨hLess, hNext, hStep⟩
          simp only [if_true]
          refine hStep.bind ?_
          intro _ t hKeep
          rw [returns_bind, hNext.returns]
          exact ih (by omega) hKeep
      | false => simp [hGoes, hInv]

/- Counting up from `lo` to `hi`. -/
theorem returns_whileLoop_up
    (Inv : Nat → σ → Prop)
    {lo hi : Nat}
    (hLe : lo ≤ hi)
    (hCond :
      ∀ i, lo ≤ i → i ≤ hi →
        Finds (cond i) (decide (i < hi)))
    (hNext :
      ∀ i, lo ≤ i → i < hi → Finds (next i) (i + 1))
    (hBody :
      ∀ i s, lo ≤ i → i < hi → Inv i s →
        Returns (body i) s (fun _ t => Inv (i + 1) t))
    {fuel : Nat}
    {s : σ}
    (hFuel : hi - lo ≤ fuel)
    (hInv : Inv lo s) :
    Returns (whileLoop stuck cond next body fuel lo) s
      (fun j t => j = hi ∧ Inv hi t) := by
  refine Returns.mono
    (returns_whileLoop
      (fun i t => lo ≤ i ∧ i ≤ hi ∧ Inv i t)
      (fun i => decide (i < hi)) (fun i => i + 1)
      (fun i => hi - i) ?_ ?_ hFuel
      ⟨Nat.le_refl lo, hLe, hInv⟩) ?_
  · rintro i t ⟨hLo, hHi, _⟩
    exact hCond i hLo hHi
  · rintro i t ⟨hLo, _, hKeep⟩ hGo
    have hLt : i < hi := of_decide_eq_true hGo
    refine ⟨by omega, hNext i hLo hLt, ?_⟩
    refine (hBody i t hLo hLt hKeep).mono ?_
    intro _ u hStep
    exact ⟨by omega, by omega, hStep⟩
  · rintro j t ⟨hStop, hLo, hHi, hKeep⟩
    have hNot : ¬ j < hi := of_decide_eq_false hStop
    have hEnd : j = hi := by omega
    subst hEnd
    exact ⟨rfl, hKeep⟩

/- Counting down from `hi` to `lo`. -/
theorem returns_whileLoop_down
    (Inv : Nat → σ → Prop)
    {lo hi : Nat}
    (hLe : lo ≤ hi)
    (hCond :
      ∀ i, lo ≤ i → i ≤ hi →
        Finds (cond i) (decide (lo < i)))
    (hNext :
      ∀ i, lo < i → i ≤ hi → Finds (next i) (i - 1))
    (hBody :
      ∀ i s, lo < i → i ≤ hi → Inv i s →
        Returns (body i) s (fun _ t => Inv (i - 1) t))
    {fuel : Nat}
    {s : σ}
    (hFuel : hi - lo ≤ fuel)
    (hInv : Inv hi s) :
    Returns (whileLoop stuck cond next body fuel hi) s
      (fun j t => j = lo ∧ Inv lo t) := by
  refine Returns.mono
    (returns_whileLoop
      (fun i t => lo ≤ i ∧ i ≤ hi ∧ Inv i t)
      (fun i => decide (lo < i)) (fun i => i - 1)
      (fun i => i - lo) ?_ ?_ hFuel
      ⟨hLe, Nat.le_refl hi, hInv⟩) ?_
  · rintro i t ⟨hLo, hHi, _⟩
    exact hCond i hLo hHi
  · rintro i t ⟨_, hHi, hKeep⟩ hGo
    have hLt : lo < i := of_decide_eq_true hGo
    refine ⟨by omega, hNext i hLt hHi, ?_⟩
    refine (hBody i t hLt hHi hKeep).mono ?_
    intro _ u hStep
    exact ⟨by omega, by omega, hStep⟩
  · rintro j t ⟨hStop, hLo, hHi, hKeep⟩
    have hNot : ¬ lo < j := of_decide_eq_false hStop
    have hEnd : j = lo := by omega
    subst hEnd
    exact ⟨rfl, hKeep⟩

end WhileLoop

/- A counted loop has nothing to compute. -/
theorem forLoop_eq_whileLoop
    (stuck : ε)
    (cond : Nat → Bool)
    (next : Nat → Nat)
    (body : Nat → Comp ε σ Unit)
    (fuel i : Nat) :
    forLoop stuck cond next body fuel i =
      whileLoop stuck (fun i => pure (cond i))
        (fun i => pure (next i)) body fuel i := by
  induction fuel generalizing i with
  | zero => simp [forLoop, whileLoop]
  | succ fuel ih => simp [forLoop, whileLoop, ih]

/- A loop whose condition fails at once does nothing. -/
theorem returns_forLoop_skip
    {stuck : ε}
    {cond : Nat → Bool}
    {next : Nat → Nat}
    {body : Nat → Comp ε σ Unit}
    {fuel i : Nat}
    {s : σ}
    (hCond : cond i = false) :
    Returns (forLoop stuck cond next body fuel i) s
      (fun j t => j = i ∧ t = s) := by
  cases fuel with
  | zero => simp [forLoop, hCond]
  | succ fuel => simp [forLoop, hCond]

/- A loop whose first round fails does not return. -/
theorem not_returns_forLoop
    {stuck : ε}
    {cond : Nat → Bool}
    {next : Nat → Nat}
    {body : Nat → Comp ε σ Unit}
    {i : Nat}
    {s : σ}
    (hCond : cond i = true)
    (hBody : ∀ Q, ¬ Returns (body i) s Q)
    (fuel : Nat)
    (Q : Nat → σ → Prop) :
    ¬ Returns (forLoop stuck cond next body fuel i) s Q := by
  cases fuel with
  | zero => simp [forLoop, hCond]
  | succ fuel =>
      unfold forLoop
      rw [if_pos hCond, returns_bind]
      exact hBody _

/-
  Counting up: a loop that runs for the counters from `lo`
  below `hi` ends with counter `hi`.
-/
theorem returns_forLoop_up
    {stuck : ε}
    {cond : Nat → Bool}
    {next : Nat → Nat}
    {body : Nat → Comp ε σ Unit}
    (Inv : Nat → σ → Prop)
    {lo hi : Nat}
    (hLe : lo ≤ hi)
    (hCond :
      ∀ i, lo ≤ i → i ≤ hi → (cond i = true ↔ i < hi))
    (hNext : ∀ i, lo ≤ i → i < hi → next i = i + 1)
    (hBody :
      ∀ i s, lo ≤ i → i < hi → Inv i s →
        Returns (body i) s (fun _ t => Inv (i + 1) t))
    {fuel : Nat}
    {s : σ}
    (hFuel : hi - lo ≤ fuel)
    (hInv : Inv lo s) :
    Returns (forLoop stuck cond next body fuel lo) s
      (fun j t => j = hi ∧ Inv hi t) := by
  rw [forLoop_eq_whileLoop]
  refine returns_whileLoop_up Inv hLe ?_ ?_ hBody hFuel hInv
  · intro i hLo hHi
    have hTest : cond i = decide (i < hi) := by
      rw [Bool.eq_iff_iff, decide_eq_true_iff]
      exact hCond i hLo hHi
    rw [hTest]
    exact finds_pure _
  · intro i hLo hHi
    rw [hNext i hLo hHi]
    exact finds_pure _

/-
  Counting down: a loop that runs for the counters from `hi`
  above `lo` ends with counter `lo`.
-/
theorem returns_forLoop_down
    {stuck : ε}
    {cond : Nat → Bool}
    {next : Nat → Nat}
    {body : Nat → Comp ε σ Unit}
    (Inv : Nat → σ → Prop)
    {lo hi : Nat}
    (hLe : lo ≤ hi)
    (hCond :
      ∀ i, lo ≤ i → i ≤ hi → (cond i = true ↔ lo < i))
    (hNext : ∀ i, lo < i → i ≤ hi → next i = i - 1)
    (hBody :
      ∀ i s, lo < i → i ≤ hi → Inv i s →
        Returns (body i) s (fun _ t => Inv (i - 1) t))
    {fuel : Nat}
    {s : σ}
    (hFuel : hi - lo ≤ fuel)
    (hInv : Inv hi s) :
    Returns (forLoop stuck cond next body fuel hi) s
      (fun j t => j = lo ∧ Inv lo t) := by
  rw [forLoop_eq_whileLoop]
  refine returns_whileLoop_down Inv hLe ?_ ?_ hBody hFuel
    hInv
  · intro i hLo hHi
    have hTest : cond i = decide (lo < i) := by
      rw [Bool.eq_iff_iff, decide_eq_true_iff]
      exact hCond i hLo hHi
    rw [hTest]
    exact finds_pure _
  · intro i hLo hHi
    rw [hNext i hLo hHi]
    exact finds_pure _

/-
  Search rule: each round either keeps the invariant for the
  next counter or leaves with a result that meets `Q`.
-/
theorem returns_searchLoop
    {stuck : ε}
    {cond : Nat → Bool}
    {next : Nat → Nat}
    {body : Nat → Comp ε σ (Option β)}
    (Inv : Nat → σ → Prop)
    (measure : Nat → Nat)
    {Q : Option β → σ → Prop}
    (hBody :
      ∀ i s, Inv i s → cond i = true →
        measure (next i) < measure i ∧
          Returns (body i) s (fun r t =>
            (r = none → Inv (next i) t) ∧
              (r ≠ none → Q r t)))
    (hExit : ∀ i s, Inv i s → cond i = false → Q none s)
    {fuel i : Nat}
    {s : σ}
    (hFuel : measure i ≤ fuel)
    (hInv : Inv i s) :
    Returns (searchLoop stuck cond next body fuel i) s
      Q := by
  induction fuel generalizing i s with
  | zero =>
      unfold searchLoop
      cases hCond : cond i with
      | true =>
          have hLess := (hBody i s hInv hCond).1
          omega
      | false =>
          simpa using hExit i s hInv hCond
  | succ fuel ih =>
      unfold searchLoop
      cases hCond : cond i with
      | true =>
          rcases hBody i s hInv hCond with ⟨hLess, hStep⟩
          simp only [if_true]
          refine hStep.bind ?_
          intro r t hRound
          cases r with
          | none =>
              exact ih (by omega) (hRound.1 rfl)
          | some r =>
              simpa using hRound.2 (by simp)
      | false =>
          simpa using hExit i s hInv hCond

theorem preserves_forLoop
    {I : σ → Prop}
    (stuck : ε)
    (cond : Nat → Bool)
    (next : Nat → Nat)
    {body : Nat → Comp ε σ Unit}
    (hBody : ∀ i, Preserves I (body i))
    (fuel i : Nat) :
    Preserves I (forLoop stuck cond next body fuel i) := by
  induction fuel generalizing i with
  | zero =>
      unfold forLoop
      cases cond i with
      | true => exact preserves_throw I stuck
      | false => exact preserves_pure I i
  | succ fuel ih =>
      unfold forLoop
      cases cond i with
      | true =>
          exact (hBody i).bind (fun _ => ih (next i))
      | false => exact preserves_pure I i

theorem preserves_searchLoop
    {I : σ → Prop}
    (stuck : ε)
    (cond : Nat → Bool)
    (next : Nat → Nat)
    {body : Nat → Comp ε σ (Option β)}
    (hBody : ∀ i, Preserves I (body i))
    (fuel i : Nat) :
    Preserves I
      (searchLoop stuck cond next body fuel i) := by
  induction fuel generalizing i with
  | zero =>
      unfold searchLoop
      cases cond i with
      | true => exact preserves_throw I stuck
      | false => exact preserves_pure I none
  | succ fuel ih =>
      unfold searchLoop
      cases cond i with
      | true =>
          refine (hBody i).bind ?_
          intro r
          cases r with
          | none => exact ih (next i)
          | some r => exact preserves_pure I (some r)
      | false => exact preserves_pure I none

end Comp
