import Mathlib.Algebra.Order.Group.Nat
import Mathlib.Data.List.Perm.Basic
import Mathlib.Logic.Function.Basic

/-
  Tickets that are drawn in order, one at a time, and handed
  in again in any order.

  Holders draw the tickets 1, 2, 3 and so on.  Every ticket
  drawn so far is either with one holder or has been handed
  in once, so that the tickets that have been handed in are
  all of them when no one holds one.

  Key definitions include:
    * `Tickets`
    * `Tickets.draw`, `Tickets.handIn`
    * `Tickets.Sound`

  Key theorems include:
    * `Tickets.Sound.draw`, `Tickets.Sound.handIn`
    * `Tickets.Sound.perm_upTo`
-/

------------------------------------------------------------
-- Tickets
------------------------------------------------------------

/- The number drawn, who holds one, and what came back. -/
structure Tickets (H : Type) where
  drawn : Nat
  held : H → Option Nat
  handedIn : List Nat

namespace Tickets

variable {H : Type}

/- Nothing has been drawn. -/
def none : Tickets H where
  drawn := 0
  held := fun _ => .none
  handedIn := []

/- Every ticket is in one place. -/
structure Sound
    (t : Tickets H) : Prop where
  nodup : t.handedIn.Nodup
  range : ∀ k ∈ t.handedIn, 1 ≤ k ∧ k ≤ t.drawn
  heldRange :
    ∀ h k, t.held h = some k → 1 ≤ k ∧ k ≤ t.drawn
  apart : ∀ h k, t.held h = some k → k ∉ t.handedIn
  single :
    ∀ h h' k, t.held h = some k → t.held h' = some k →
      h = h'
  somewhere :
    ∀ k, 1 ≤ k → k ≤ t.drawn →
      k ∈ t.handedIn ∨ ∃ h, t.held h = some k

variable {t : Tickets H} {h : H} {k : Nat}

theorem sound_none :
    Sound (none : Tickets H) := by
  constructor
  · exact List.nodup_nil
  · intro k hMem
    cases hMem
  · intro h k hHeld
    cases hHeld
  · intro h k hHeld
    cases hHeld
  · intro h h' k hHeld
    cases hHeld
  · intro k hFirst hLast
    simp only [none] at hLast
    omega

/- The tickets up to one of them, once all are back. -/
theorem Sound.perm_upTo
    (hSound : Sound t)
    {n : Nat}
    (hBack : ∀ k, 1 ≤ k → k ≤ n → k ∈ t.handedIn) :
    (t.handedIn.filter (fun k => k ≤ n)).Perm
      (List.range' 1 n) := by
  apply (List.perm_ext_iff_of_nodup
    (hSound.nodup.filter _) List.nodup_range').mpr
  intro k
  rw [List.mem_filter, decide_eq_true_iff, List.mem_range'_1]
  constructor
  · rintro ⟨hMem, hLe⟩
    have hRange := hSound.range k hMem
    omega
  · rintro ⟨hFirst, hLast⟩
    exact ⟨hBack k hFirst (by omega), by omega⟩

/- With no holder left all tickets are back. -/
theorem Sound.all_back
    (hSound : Sound t)
    (hFree : ∀ h, t.held h = .none)
    (hFirst : 1 ≤ k)
    (hLast : k ≤ t.drawn) :
    k ∈ t.handedIn := by
  rcases hSound.somewhere k hFirst hLast with
    hBack | ⟨h, hHeld⟩
  · exact hBack
  · rw [hFree h] at hHeld
    cases hHeld

end Tickets

------------------------------------------------------------
-- Drawing and Handing In
------------------------------------------------------------

namespace Tickets

variable {H : Type} [DecidableEq H]
variable {t : Tickets H} {h : H} {k : Nat}

def draw
    (t : Tickets H)
    (h : H) : Tickets H where
  drawn := t.drawn + 1
  held := Function.update t.held h (some (t.drawn + 1))
  handedIn := t.handedIn

def handIn
    (t : Tickets H)
    (h : H)
    (k : Nat) : Tickets H where
  drawn := t.drawn
  held := Function.update t.held h .none
  handedIn := k :: t.handedIn

/- Who holds which ticket after one has been drawn. -/
theorem held_draw_iff
    {h' : H} :
    (t.draw h).held h' = some k ↔
      h' = h ∧ k = t.drawn + 1 ∨
        h' ≠ h ∧ t.held h' = some k := by
  unfold draw
  by_cases hEq : h' = h
  · subst hEq
    simp [eq_comm]
  · simp [hEq]

theorem held_handIn_iff
    {j : Nat}
    {h' : H} :
    (t.handIn h j).held h' = some k ↔
      h' ≠ h ∧ t.held h' = some k := by
  unfold handIn
  by_cases hEq : h' = h
  · subst hEq
    simp
  · simp [hEq]

theorem Sound.draw
    (hSound : Sound t)
    (hFree : t.held h = .none) :
    Sound (t.draw h) := by
  constructor
  · exact hSound.nodup
  · intro k hMem
    have hRange := hSound.range k hMem
    simp only [Tickets.draw]
    omega
  · intro h' k hHeld
    simp only [Tickets.draw]
    rcases held_draw_iff.mp hHeld with ⟨_, hNew⟩ | ⟨_, hOld⟩
    · omega
    · have hRange := hSound.heldRange h' k hOld
      omega
  · intro h' k hHeld hMem
    rcases held_draw_iff.mp hHeld with ⟨_, hNew⟩ | ⟨_, hOld⟩
    · have hRange := hSound.range k hMem
      omega
    · exact hSound.apart h' k hOld hMem
  · intro h₁ h₂ k hFirst hSecond
    rcases held_draw_iff.mp hFirst with
      ⟨hEq, hNew⟩ | ⟨hNe, hOld⟩
    · rcases held_draw_iff.mp hSecond with
        ⟨hEq', _⟩ | ⟨_, hOld'⟩
      · rw [hEq, hEq']
      · have hRange := hSound.heldRange h₂ k hOld'
        omega
    · rcases held_draw_iff.mp hSecond with
        ⟨_, hNew'⟩ | ⟨_, hOld'⟩
      · have hRange := hSound.heldRange h₁ k hOld
        omega
      · exact hSound.single h₁ h₂ k hOld hOld'
  · intro k hFirst hLast
    simp only [Tickets.draw] at hLast
    by_cases hNew : k = t.drawn + 1
    · exact Or.inr ⟨h, held_draw_iff.mpr (Or.inl ⟨rfl, hNew⟩)⟩
    · rcases hSound.somewhere k hFirst (by omega) with
        hBack | ⟨h', hHeld⟩
      · exact Or.inl hBack
      · refine Or.inr ⟨h', held_draw_iff.mpr (Or.inr
          ⟨?_, hHeld⟩)⟩
        intro hEq
        rw [hEq, hFree] at hHeld
        cases hHeld

theorem Sound.handIn
    (hSound : Sound t)
    (hHeld : t.held h = some k) :
    Sound (t.handIn h k) := by
  constructor
  · exact List.nodup_cons.mpr
      ⟨hSound.apart h k hHeld, hSound.nodup⟩
  · intro j hMem
    rcases List.mem_cons.mp hMem with hEq | hOld
    · subst hEq
      exact hSound.heldRange h j hHeld
    · exact hSound.range j hOld
  · intro h' j hOther
    exact hSound.heldRange h' j (held_handIn_iff.mp hOther).2
  · intro h' j hOther hMem
    rcases held_handIn_iff.mp hOther with ⟨hNe, hOld⟩
    rcases List.mem_cons.mp hMem with hEq | hBack
    · subst hEq
      exact hNe (hSound.single h' h j hOld hHeld)
    · exact hSound.apart h' j hOld hBack
  · intro h₁ h₂ j hFirst hSecond
    exact hSound.single h₁ h₂ j
      (held_handIn_iff.mp hFirst).2
      (held_handIn_iff.mp hSecond).2
  · intro j hFirst hLast
    rcases hSound.somewhere j hFirst hLast with
      hBack | ⟨h', hOther⟩
    · exact Or.inl (List.mem_cons_of_mem k hBack)
    · by_cases hEq : h' = h
      · subst hEq
        rw [hHeld] at hOther
        cases hOther
        exact Or.inl List.mem_cons_self
      · exact Or.inr
          ⟨h', held_handIn_iff.mpr ⟨hEq, hOther⟩⟩

end Tickets
