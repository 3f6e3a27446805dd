import CxPlat.Lib.Transition
import Mathlib.Logic.Function.Basic

/-
  Threads over shared memory, and proof outlines for them.

  A program says what one statement of one thread does to the
  shared state and to the thread's own state.  Any number of
  threads run it, one statement at a time, in any order.

  An outline has a global assertion on the shared state and a
  local assertion for each point of a thread.  It is valid if
  every statement keeps the assertions of its own thread and
  does not interfere with those of the others; then they hold
  in every state of every run.

  Key definitions include:
    * `Threads.Config`, `Threads.step`
    * `Threads.Outline`
    * `Threads.Annotated`

  Key theorems include:
    * `Threads.step_some`
    * `Threads.run_alone`
    * `Threads.Outline.step`
    * `Threads.Outline.run`
-/

------------------------------------------------------------
-- Threads
------------------------------------------------------------

namespace Threads

/- The shared state and the own state of every thread. -/
structure Config (S L Th : Type) where
  shared : S
  locals : Th → L

/-
  One statement of thread `th`.  The argument of type `A`
  resolves what the statement leaves open.
-/
abbrev Program (S L Th A : Type) :=
  S → Th → L → A → Option (S × L)

variable {S L Th A : Type} [DecidableEq Th]

/- A thread takes a statement, if it can. -/
def step
    (program : Program S L Th A)
    (c : Config S L Th)
    (move : Th × A) : Option (Config S L Th) :=
  match program c.shared move.1 (c.locals move.1) move.2 with
  | some (s, l) =>
      some
        { shared := s
          locals := Function.update c.locals move.1 l }
  | none => none

variable {program : Program S L Th A}
variable {c d : Config S L Th}

theorem step_some
    {th : Th}
    {a : A}
    (hStep : step program c (th, a) = some d) :
    ∃ s l,
      program c.shared th (c.locals th) a = some (s, l) ∧
        d = { shared := s
              locals := Function.update c.locals th l } := by
  simp only [step] at hStep
  split at hStep
  next s l hProgram =>
    cases hStep
    exact ⟨s, l, hProgram, rfl⟩
  next => contradiction

/-
  What a thread does while no other one moves, on the shared
  state and its own one.
-/
theorem run_alone
    (c : Config S L Th)
    (th : Th)
    (actions : List A) :
    Transition.run (step program) c
        (actions.map (Prod.mk th)) =
      (Transition.run
          (fun (x : S × L) a => program x.1 th x.2 a)
          (c.shared, c.locals th) actions).map
        (fun x =>
          { shared := x.1
            locals := Function.update c.locals th x.2 }) := by
  induction actions generalizing c with
  | nil => simp
  | cons a rest hRest =>
      cases hFirst : program c.shared th (c.locals th) a with
      | none => simp [Transition.run, step, hFirst]
      | some next =>
          rcases next with ⟨s, l⟩
          have hStep :
              step program c (th, a) =
                some
                  { shared := s
                    locals :=
                      Function.update c.locals th l } := by
            simp only [step, hFirst]
          rw [List.map_cons, Transition.run_cons _ hStep,
            Transition.run_cons _ hFirst, hRest]
          simp only [Function.update_self,
            Function.update_idem]

theorem run_of_alone
    {th : Th}
    {s : S}
    {l : L}
    {actions : List A}
    (hAlone :
      Transition.run
        (fun (x : S × L) a => program x.1 th x.2 a)
        (c.shared, c.locals th) actions = some (s, l)) :
    Transition.run (step program) c
        (actions.map (Prod.mk th)) =
      some
        { shared := s
          locals := Function.update c.locals th l } := by
  rw [run_alone, hAlone]
  rfl

end Threads

------------------------------------------------------------
-- Proof Outlines
------------------------------------------------------------

namespace Threads

variable {S L Th A : Type}

/-
  Statements keep the assertions of their own thread, and
  leave those of every other thread valid.
-/
structure Outline
    (program : Program S L Th A)
    (Global : S → Prop)
    (Local : S → Th → L → Prop) : Prop where
  own :
    ∀ s th l a s' l',
      Global s → Local s th l →
        program s th l a = some (s', l') →
          Global s' ∧ Local s' th l'
  others :
    ∀ s th l a s' l' th' m,
      Global s → Local s th l →
        th' ≠ th → Local s th' m →
          program s th l a = some (s', l') →
            Local s' th' m

/- The assertions hold. -/
def Annotated
    (Global : S → Prop)
    (Local : S → Th → L → Prop)
    (c : Config S L Th) : Prop :=
  Global c.shared ∧ ∀ th, Local c.shared th (c.locals th)

variable [DecidableEq Th]
variable {program : Program S L Th A}
variable {Global : S → Prop} {Local : S → Th → L → Prop}
variable {c d : Config S L Th}

/- One statement of any thread. -/
theorem Outline.step
    (hOutline : Outline program Global Local)
    (hAnnotated : Annotated Global Local c)
    {move : Th × A}
    (hStep : Threads.step program c move = some d) :
    Annotated Global Local d := by
  rcases move with ⟨th, a⟩
  rcases step_some hStep with ⟨s, l, hProgram, hNext⟩
  rcases hAnnotated with ⟨hGlobal, hLocal⟩
  have hOwn :=
    hOutline.own _ _ _ _ _ _ hGlobal (hLocal th) hProgram
  subst hNext
  constructor
  · exact hOwn.1
  · intro th'
    by_cases hEq : th' = th
    · subst hEq
      simp only [Function.update_self]
      exact hOwn.2
    · simp only [Function.update_of_ne hEq]
      exact hOutline.others _ _ _ _ _ _ _ _ hGlobal
        (hLocal th) hEq (hLocal th') hProgram

/- Every run, by induction on its moves. -/
theorem Outline.run
    (hOutline : Outline program Global Local)
    (hAnnotated : Annotated Global Local c)
    {moves : List (Th × A)}
    (hRun :
      Transition.run (Threads.step program) c moves =
        some d) :
    Annotated Global Local d := by
  apply Transition.invariant_run
    (fun _ _ _ hNow hStep => hOutline.step hNow hStep)
    hAnnotated hRun

end Threads
