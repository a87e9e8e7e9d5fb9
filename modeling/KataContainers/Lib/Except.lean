import Mathlib

/-!
# Reasoning about `Except` computations

The bind equations of `Except` as simp lemmas, the inversion of a successful bind, the success
of a `forM` loop of checks and the refinement of one `foldlM` loop by another: what the proofs
about fallible request handlers use to peel a `do` block apart without unfolding the monad.
`Post` is the postcondition of a computation that also says which errors it may end in, with its
rules for `pure` and bind.
-/

namespace Except

variable {ε α β : Type _}

@[simp] theorem ok_bind_eq (a : α) (f : α → Except ε β) : (Except.ok a >>= f) = f a := rfl

@[simp] theorem error_bind_eq (e : ε) (f : α → Except ε β) :
    (Except.error e >>= f) = Except.error e := rfl

@[simp] theorem throw_eq_error (e : ε) : (throw e : Except ε α) = Except.error e := rfl

@[simp] theorem pure_eq_ok (a : α) : (pure a : Except ε α) = Except.ok a := rfl

@[simp] theorem mapError_ok {ε' : Type _} (a : α) (f : ε → ε') :
    (Except.ok a : Except ε α).mapError f = .ok a := rfl

/-- Renaming the errors keeps the successes. -/
@[simp] theorem mapError_eq_ok {ε' : Type _} {x : Except ε α} {f : ε → ε'} {a : α} :
    x.mapError f = .ok a ↔ x = .ok a := by
  cases x <;> simp [Except.mapError]

/-- A bind succeeds exactly when its first computation does and the continuation succeeds on
that result. -/
theorem bind_eq_ok_iff {x : Except ε α} {f : α → Except ε β} {b : β} :
    (x >>= f) = .ok b ↔ ∃ a, x = .ok a ∧ f a = .ok b := by
  cases x with
  | error e => simp
  | ok a => simp

/-- A check that throws, as a `do` block compiles `if c then throw e` before the rest `x`: it
succeeds exactly when the check passes and the rest succeeds. -/
theorem ite_throw_eq_ok {c : Prop} [Decidable c] {e : ε} {k : α → Except ε β} {x : Except ε β}
    {b : β} : (if c then throw e >>= k else x) = .ok b ↔ ¬ c ∧ x = .ok b := by
  by_cases hc : c <;> simp [hc]

/-- A loop of checks succeeds exactly when every check does. -/
theorem forM_eq_ok_iff {xs : List α} {f : α → Except ε PUnit} :
    xs.forM f = .ok PUnit.unit ↔ ∀ x ∈ xs, f x = .ok PUnit.unit := by
  induction xs with
  | nil => simp [List.forM]
  | cons x xs ih =>
    have hstep : (x :: xs).forM f = (f x >>= fun _ => xs.forM f) := rfl
    rw [hstep]
    cases hx : f x with
    | error e =>
      rw [error_bind_eq]
      refine ⟨fun h => (nomatch h), fun hall => ?_⟩
      rw [hall x List.mem_cons_self] at hx
      cases hx
    | ok u =>
      rw [ok_bind_eq, ih, List.forall_mem_cons]
      exact ⟨fun h => ⟨hx, h⟩, fun h => h.2⟩

/-- Each item of a successful `mapM` is the result of the function on an item of the list. -/
theorem exists_of_mapM_eq_ok {xs : List α} {f : α → Except ε β} {ys : List β}
    (h : xs.mapM f = .ok ys) {y : β} (hy : y ∈ ys) : ∃ x ∈ xs, f x = .ok y := by
  induction xs generalizing ys with
  | nil =>
    cases h
    cases hy
  | cons x xs ih =>
    rw [List.mapM_cons] at h
    obtain ⟨b, hb, h⟩ := bind_eq_ok_iff.mp h
    obtain ⟨bs, hbs, h⟩ := bind_eq_ok_iff.mp h
    cases h
    rcases List.mem_cons.mp hy with rfl | hy
    · exact ⟨x, List.mem_cons_self, hb⟩
    · obtain ⟨x', hx', hf⟩ := ih hbs hy
      exact ⟨x', List.mem_cons_of_mem x hx', hf⟩

/-- Parsing back what was printed: a `mapM` of a parser over the printed items gives the items,
when it gives back each one. -/
theorem mapM_map_eq_ok {xs : List α} {g : α → β} {f : β → Except ε α}
    (h : ∀ x ∈ xs, f (g x) = .ok x) : (xs.map g).mapM f = .ok xs := by
  induction xs with
  | nil => rfl
  | cons x xs ih =>
    rw [List.map_cons, List.mapM_cons, h x List.mem_cons_self,
      ih fun y hy => h y (List.mem_cons_of_mem x hy)]
    rfl

/-- A loop whose every step commutes with φ runs, seen through φ, as the loop of the images:
how a loop over one representation of its state refines the same loop over another. -/
theorem map_foldlM {γ : Type _} {f : β → α → Except ε β} {g : γ → α → Except ε γ} (φ : β → γ)
    (hstep : ∀ b a, (f b a).map φ = g (φ b) a) (l : List α) (b : β) :
    (l.foldlM f b).map φ = l.foldlM g (φ b) := by
  induction l generalizing b with
  | nil => rfl
  | cons a l ih =>
    rw [List.foldlM_cons, List.foldlM_cons, ← hstep b a]
    cases f b a with
    | error e => rfl
    | ok b' => exact ih b'

/-! ## Postconditions -/

/-- `x` ends in a success whose value satisfies `P`, or in an error that satisfies `E`. -/
def Post (P : α → Prop) (E : ε → Prop) : Except ε α → Prop
  | .ok a => P a
  | .error e => E e

@[simp] theorem post_ok {P : α → Prop} {E : ε → Prop} {a : α} : Post P E (.ok a) ↔ P a := Iff.rfl

@[simp] theorem post_error {P : α → Prop} {E : ε → Prop} {e : ε} :
    Post P E (.error e : Except ε α) ↔ E e := Iff.rfl

/-- Every computation ends in a success or in an error. -/
theorem post_true (x : Except ε α) : Post (fun _ => True) (fun _ => True) x := by
  cases x <;> trivial

theorem post_pure {P : α → Prop} {E : ε → Prop} {a : α} (h : P a) : Post P E (pure a) := h

theorem post_bind {P : α → Prop} {Q : β → Prop} {E : ε → Prop} {x : Except ε α}
    {f : α → Except ε β} (hx : Post P E x) (hf : ∀ a, P a → Post Q E (f a)) : Post Q E (x >>= f) := by
  cases x with
  | error e => exact hx
  | ok a => exact hf a hx

theorem post_map {P : α → Prop} {Q : β → Prop} {E : ε → Prop} {x : Except ε α} {f : α → β}
    (hx : Post P E x) (hf : ∀ a, P a → Q (f a)) : Post Q E (x.map f) := by
  cases x with
  | error e => exact hx
  | ok a => exact hf a hx

theorem Post.mono {P Q : α → Prop} {E E' : ε → Prop} {x : Except ε α} (h : Post P E x)
    (hP : ∀ a, P a → Q a) (hE : ∀ e, E e → E' e) : Post Q E' x := by
  cases x with
  | error e => exact hE e h
  | ok a => exact hP a h

theorem Post.of_eq_ok {P : α → Prop} {E : ε → Prop} {x : Except ε α} {a : α} (h : Post P E x)
    (hx : x = .ok a) : P a := by
  subst hx
  exact h

/-- A computation whose postcondition allows no error ends in a success. -/
theorem Post.exists_ok {P : α → Prop} {x : Except ε α} (h : Post P (fun _ => False) x) :
    ∃ a, x = .ok a ∧ P a := by
  cases x with
  | error e => exact h.elim
  | ok a => exact ⟨a, rfl, h⟩

theorem Post.of_eq_error {P : α → Prop} {E : ε → Prop} {x : Except ε α} {e : ε} (h : Post P E x)
    (hx : x = .error e) : E e := by
  subst hx
  exact h

end Except
