import Mathlib

/-!
# Threads interleaved at their atomic steps

A system of threads over a shared state: each thread has a local state, and an atomic step of a
thread reads and writes the shared state and its own local state, given a choice of the
environment (what an outside call returned, or when a timer fired). A configuration holds the
shared state and every thread (`Conf`); a schedule says which thread steps next and with which
choice (`Conf.run`). A step of one thread leaves the others as they are (`Conf.step_other`), and
a property that every single step keeps holds along every schedule (`Conf.run_invariant`).
-/

namespace Interleave

/-- A configuration: the shared state and the local state of each thread. -/
structure Conf (S L : Type) where
  shared : S
  threads : List L
  deriving DecidableEq, Repr

variable {S L E : Type} {next : S → L → E → Option (S × L)}

/-- Thread `i` takes an atomic step with the choice `e`, when it can. -/
def Conf.step (next : S → L → E → Option (S × L)) (c : Conf S L) (i : Nat) (e : E) :
    Option (Conf S L) :=
  match c.threads[i]? with
  | none => none
  | some l => (next c.shared l e).map fun (s, l') => ⟨s, c.threads.set i l'⟩

/-- A schedule, step after step; `none` when a step of it cannot be taken. -/
def Conf.run (next : S → L → E → Option (S × L)) (c : Conf S L) :
    List (Nat × E) → Option (Conf S L)
  | [] => some c
  | (i, e) :: rest => (c.step next i e).bind fun c' => c'.run next rest

theorem Conf.run_append (c : Conf S L) (s₁ s₂ : List (Nat × E)) :
    c.run next (s₁ ++ s₂) = (c.run next s₁).bind fun c' => c'.run next s₂ := by
  induction s₁ generalizing c with
  | nil => rfl
  | cons ie rest ih =>
    obtain ⟨i, e⟩ := ie
    simp only [List.cons_append, Conf.run]
    cases c.step next i e with
    | none => rfl
    | some c' => exact ih c'

/-- What a step does: thread `i` was `l`, and `next` took it to `l'` and the shared state to `s`. -/
theorem Conf.step_eq_some {c c' : Conf S L} {i : Nat} {e : E} (h : c.step next i e = some c') :
    ∃ l s l', c.threads[i]? = some l ∧ next c.shared l e = some (s, l') ∧
      c' = ⟨s, c.threads.set i l'⟩ := by
  unfold Conf.step at h
  split at h
  · cases h
  · rename_i l hl
    obtain ⟨⟨s, l'⟩, hnext, rfl⟩ := Option.map_eq_some_iff.mp h
    exact ⟨l, s, l', hl, hnext, rfl⟩

/-- A step of thread `i` leaves every other thread as it was. -/
theorem Conf.step_other {c c' : Conf S L} {i j : Nat} {e : E} (h : c.step next i e = some c')
    (hj : j ≠ i) : c'.threads[j]? = c.threads[j]? := by
  obtain ⟨_, _, _, _, _, rfl⟩ := Conf.step_eq_some h
  exact List.getElem?_set_ne (Ne.symm hj)

/-- A property that every step keeps holds along every schedule. -/
theorem Conf.run_invariant (P : Conf S L → Prop)
    (hstep : ∀ c i e c', P c → c.step next i e = some c' → P c') :
    ∀ (sched : List (Nat × E)) {c c' : Conf S L}, P c → c.run next sched = some c' → P c'
  | [], _, _, hc, h => by cases h; exact hc
  | (i, e) :: rest, c, c', hc, h => by
    simp only [Conf.run] at h
    obtain ⟨c₁, h₁, hrest⟩ := Option.bind_eq_some_iff.mp h
    exact Conf.run_invariant P hstep rest (hstep c i e c₁ hc h₁) hrest

end Interleave
