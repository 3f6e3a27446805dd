import Mathlib.Data.List.Basic

/-
  Books about resources that are acquired and released.

  Every resource has a number of its own.  The books are
  sound if each number given out so far is either held, or
  has been released once.

  Key definitions include:
    * `Ledger`, `Ledger.acquire`, `Ledger.release`
    * `Ledger.Sound`

  Key theorems include:
    * `Ledger.Sound.acquire`, `Ledger.Sound.release`
    * `Ledger.Sound.released_once`
-/

------------------------------------------------------------
-- Ledgers
------------------------------------------------------------

structure Ledger where
  next : Nat
  held : List Nat
  released : List Nat
deriving DecidableEq, Repr

namespace Ledger

def empty : Ledger where
  next := 0
  held := []
  released := []

/- The resource acquired has the number `next`. -/
def acquire
    (l : Ledger) : Ledger where
  next := l.next + 1
  held := l.next :: l.held
  released := l.released

/- Only what is held can be released. -/
def release
    (l : Ledger)
    (id : Nat) : Option Ledger :=
  if id ∈ l.held then
    some
      { l with
        held := l.held.erase id
        released := id :: l.released }
  else
    none

/- Held and released numbers, each of them once. -/
def Sound
    (l : Ledger) : Prop :=
  ∀ id,
    l.held.count id + l.released.count id =
      if id < l.next then 1 else 0

variable {l l' : Ledger} {id : Nat}

theorem sound_empty :
    Sound empty := by
  intro id
  rfl

theorem Sound.acquire
    (hSound : Sound l) :
    Sound l.acquire := by
  intro id
  have hOld := hSound id
  unfold Ledger.acquire
  simp only [List.count_cons, beq_iff_eq]
  by_cases hNew : l.next = id
  · subst hNew
    rw [if_neg (Nat.lt_irrefl _)] at hOld
    rw [if_pos rfl, if_pos (Nat.lt_succ_self _)]
    omega
  · rw [if_neg hNew]
    have hLt : id < l.next + 1 ↔ id < l.next := by omega
    rw [if_congr hLt rfl rfl, ← hOld]
    omega

theorem release_held
    (hHeld : id ∈ l.held) :
    l.release id =
      some
        { l with
          held := l.held.erase id
          released := id :: l.released } := by
  unfold release
  rw [if_pos hHeld]

theorem Sound.release
    (hSound : Sound l)
    (hRelease : l.release id = some l') :
    Sound l' := by
  unfold Ledger.release at hRelease
  split at hRelease
  next hHeld =>
    cases hRelease
    intro other
    have hOld := hSound other
    rw [← hOld]
    simp only [List.count_cons, beq_iff_eq]
    by_cases hSame : id = other
    · subst hSame
      have hCount := List.count_pos_iff.mpr hHeld
      rw [List.count_erase_self, if_pos rfl]
      omega
    · have hNe : other ≠ id := fun h => hSame h.symm
      rw [List.count_erase_of_ne hNe, if_neg hSame]
      omega
  next => cases hRelease

/- What has been released is not held any more. -/
theorem Sound.not_mem_release
    (hSound : Sound l)
    (hRelease : l.release id = some l') :
    id ∉ l'.held := by
  have hCount := hSound.release hRelease id
  have hReleased : 0 < l'.released.count id := by
    unfold Ledger.release at hRelease
    split at hRelease
    next =>
      cases hRelease
      simp
    next => cases hRelease
  intro hHeld
  have hTwice := List.count_pos_iff.mpr hHeld
  split at hCount
  · omega
  · omega

/- When nothing is held, all has been released just once. -/
theorem Sound.released_once
    (hSound : Sound l)
    (hHeld : l.held = [])
    (hGiven : id < l.next) :
    l.released.count id = 1 := by
  have hCount := hSound id
  rw [hHeld, if_pos hGiven, List.count_nil] at hCount
  omega

end Ledger
