import Mathlib

/-!
# Runs of a state machine

A machine is a step function `step : σ → α → σ` whose label holds what the environment chooses at
that step: the access a guest makes, what a backend answers. `Reachable init step` holds of every
state that a sequence of steps reaches from a state `init` allows, and `run` is the state after a
given sequence, and a run of two sequences is the second run from the end of the first
(`run_append`). An invariant that the initial states have and every step keeps holds of every
reachable state (`Reachable.invariant`), and a property of single steps that the invariant implies
holds of every step taken from a reachable state (`Reachable.step_property`). A property that the
steps of one given run keep holds at its end (`run_invariant`).

`ReachableBy init step guard` holds of the states reached by runs whose every step satisfies
`guard`: what the environment is assumed to do, such as a peer that keeps to its credit. Those are
reachable (`ReachableBy.reachable`), so what holds of every reachable state holds of them, and an
invariant whose step needs the guard holds of them too (`ReachableBy.invariant`).
-/

namespace Transition

variable {σ α : Type} {init : σ → Prop} {step : σ → α → σ}

/-- The states reached from an initial state by any sequence of steps. -/
inductive Reachable (init : σ → Prop) (step : σ → α → σ) : σ → Prop
  | init {s : σ} : init s → Reachable init step s
  | step {s : σ} (a : α) : Reachable init step s → Reachable init step (step s a)

/-- The state after the labels `as`, one step each. -/
def run (step : σ → α → σ) (s : σ) (as : List α) : σ := as.foldl step s

theorem Reachable.run {s : σ} (h : Reachable init step s) (as : List α) :
    Reachable init step (Transition.run step s as) := by
  induction as generalizing s with
  | nil => exact h
  | cons a as ih => exact ih (h.step a)

theorem run_nil (s : σ) : run step s [] = s :=
  rfl

theorem run_cons (s : σ) (a : α) (as : List α) : run step s (a :: as) = run step (step s a) as :=
  rfl

/-- A run of two sequences is the second run from where the first ends. -/
theorem run_append (s : σ) (as bs : List α) :
    run step s (as ++ bs) = run step (run step s as) bs :=
  List.foldl_append

/-- Induction over a given run: a property that each of its steps keeps holds at its end. -/
theorem run_invariant {I : σ → Prop} {as : List α} (hstep : ∀ a ∈ as, ∀ s, I s → I (step s a))
    {s : σ} (h : I s) : I (run step s as) := by
  induction as generalizing s with
  | nil => exact h
  | cons a as ih =>
    exact ih (fun a' ha' => hstep a' (List.mem_cons_of_mem _ ha')) (hstep a List.mem_cons_self s h)

/-- Induction over runs: what holds initially and is kept by every step holds of every reachable
state. -/
theorem Reachable.invariant {I : σ → Prop} (h0 : ∀ s, init s → I s)
    (hstep : ∀ s a, I s → I (step s a)) {s : σ} (h : Reachable init step s) : I s := by
  induction h with
  | init hs => exact h0 _ hs
  | step a _ ih => exact hstep _ a ih

/-- A property of single steps that the invariant implies holds of every step from a reachable
state. -/
theorem Reachable.step_property {I : σ → Prop} {R : σ → α → σ → Prop} (h0 : ∀ s, init s → I s)
    (hstep : ∀ s a, I s → I (step s a)) (hR : ∀ s a, I s → R s a (step s a)) {s : σ}
    (h : Reachable init step s) (a : α) : R s a (step s a) :=
  hR s a (h.invariant h0 hstep)

/-- The states reached from an initial state by a sequence of steps each of which `guard` allows. -/
inductive ReachableBy (init : σ → Prop) (step : σ → α → σ) (guard : σ → α → Prop) : σ → Prop
  | init {s : σ} : init s → ReachableBy init step guard s
  | step {s : σ} (a : α) : ReachableBy init step guard s → guard s a →
      ReachableBy init step guard (step s a)

variable {guard : σ → α → Prop}

theorem ReachableBy.reachable {s : σ} (h : ReachableBy init step guard s) :
    Reachable init step s := by
  induction h with
  | init hs => exact .init hs
  | step a _ _ ih => exact ih.step a

/-- Induction over guarded runs: the step may use the guard, and any invariant of all runs. -/
theorem ReachableBy.invariant {I : σ → Prop} (h0 : ∀ s, init s → I s)
    (hstep : ∀ s a, Reachable init step s → I s → guard s a → I (step s a)) {s : σ}
    (h : ReachableBy init step guard s) : I s := by
  induction h with
  | init hs => exact h0 _ hs
  | step a hr hg ih => exact hstep _ a hr.reachable ih hg

end Transition
