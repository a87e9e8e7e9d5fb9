import Mathlib

/-!
# Computations that append to a log and may fail

Code that pushes onto a `&mut Vec` or writes one file after another, and returns a `Result`, is a
computation of `Log ε W`: it appends entries of `W` to a log and ends in a value or in an error of
`ε`, and what it appended before an error stays, as the vector or the files keep it. `exec x s`
runs `x` from the log `s`.

Proofs do not unfold the monad. They peel a computation with the equations of `exec` (one per
constructor, and the bind rules `exec_bind_ok`, `exec_bind_error`), they bound what a whole
computation may append with `Appends P x` (every entry it adds satisfies `P`, from any log), and
they state what it ends in with `Post Q E x` (a value and a final log satisfying `Q`, or an error
satisfying `E`), with a rule per constructor, so that a `do` block with join points is taken apart
one branch at a time.
-/

/-- Computations that append entries of `W` to a log and may end in an error of `ε`. -/
abbrev Log (ε W : Type) := ExceptT ε (StateM (List W))

namespace Log

variable {ε W α β : Type}

/-- Append one entry to the log. -/
def write (w : W) : Log ε W Unit := modify (· ++ [w])

/-- Run `x` from the log `s`: its outcome and the final log. -/
def exec (x : Log ε W α) (s : List W) : Except ε α × List W := x.run.run s

@[simp] theorem exec_pure (a : α) (s : List W) : exec (pure a : Log ε W α) s = (.ok a, s) := rfl

@[simp] theorem exec_throw (e : ε) (s : List W) :
    exec (throw e : Log ε W α) s = (.error e, s) := rfl

@[simp] theorem exec_write (w : W) (s : List W) :
    exec (write w : Log ε W Unit) s = (.ok (), s ++ [w]) := rfl

@[simp] theorem exec_liftExcept (x : Except ε α) (s : List W) :
    exec (liftExcept x : Log ε W α) s = (x, s) := by
  cases x <;> rfl

theorem exec_ite (c : Prop) [Decidable c] (x y : Log ε W α) (s : List W) :
    exec (if c then x else y) s = if c then exec x s else exec y s := by
  split_ifs <;> rfl

/-- A bind runs its first computation, and its continuation from the log that one left unless
it failed. -/
theorem exec_bind (x : Log ε W α) (f : α → Log ε W β) (s : List W) :
    exec (x >>= f) s = match exec x s with
      | (.ok a, s') => exec (f a) s'
      | (.error e, s') => (.error e, s') := by
  simp only [exec, ExceptT.run_bind]
  show StateT.run (x.run >>= _) s = _
  rw [StateT.run_bind]
  rcases x.run.run s with ⟨r, s'⟩
  cases r <;> rfl

theorem exec_bind_ok {x : Log ε W α} {s s' : List W} {a : α} (h : exec x s = (.ok a, s'))
    (f : α → Log ε W β) : exec (x >>= f) s = exec (f a) s' := by
  rw [exec_bind, h]

theorem exec_bind_error {x : Log ε W α} {s s' : List W} {e : ε} (h : exec x s = (.error e, s'))
    (f : α → Log ε W β) : exec (x >>= f) s = (.error e, s') := by
  rw [exec_bind, h]

/-! ## What a computation appends -/

/-- `x` keeps the log it starts from and appends only entries satisfying `P`. -/
def Appends (P : W → Prop) (x : Log ε W α) : Prop :=
  ∀ s, ∃ t, (exec x s).2 = s ++ t ∧ ∀ w ∈ t, P w

variable {P : W → Prop}

theorem appends_pure (a : α) : Appends P (pure a : Log ε W α) :=
  fun s => ⟨[], by simp⟩

theorem appends_throw (e : ε) : Appends P (throw e : Log ε W α) :=
  fun s => ⟨[], by simp⟩

theorem appends_write {w : W} (h : P w) : Appends P (write w : Log ε W Unit) :=
  fun s => ⟨[w], by simp [h]⟩

theorem appends_ite {c : Prop} [Decidable c] {x y : Log ε W α} (hx : Appends P x)
    (hy : Appends P y) : Appends P (if c then x else y) := by
  split_ifs
  · exact hx
  · exact hy

theorem Appends.bind {x : Log ε W α} {f : α → Log ε W β} (hx : Appends P x)
    (hf : ∀ a, Appends P (f a)) : Appends P (x >>= f) := by
  intro s
  obtain ⟨t, hs, ht⟩ := hx s
  rcases hex : exec x s with ⟨r, s'⟩
  rw [hex] at hs
  dsimp only at hs
  cases r with
  | error e =>
    rw [exec_bind_error hex]
    exact ⟨t, hs, ht⟩
  | ok a =>
    rw [exec_bind_ok hex]
    obtain ⟨u, hu, hu'⟩ := hf a s'
    refine ⟨t ++ u, by rw [hu, hs, List.append_assoc], ?_⟩
    intro w hw
    rcases List.mem_append.mp hw with hw | hw
    · exact ht w hw
    · exact hu' w hw

/-- What `x` appends is invisible to a projection of the log that drops every entry `x` may
append. -/
theorem Appends.filterMap_exec {f : W → Option β} {x : Log ε W α}
    (hx : Appends (fun w => f w = none) x) (s : List W) :
    (exec x s).2.filterMap f = s.filterMap f := by
  obtain ⟨t, hs, ht⟩ := hx s
  rw [hs, List.filterMap_append, List.filterMap_eq_nil_iff.mpr ht, List.append_nil]

/-! ## What a computation ends in -/

/-- From any log, `x` returns a value whose final log satisfies `Q`, or fails with an error
satisfying `E`. -/
def Post (Q : α → List W → Prop) (E : ε → Prop) (x : Log ε W α) : Prop :=
  ∀ s, match exec x s with
    | (.ok a, r) => Q a r
    | (.error e, _) => E e

variable {Q : α → List W → Prop} {R : β → List W → Prop} {E : ε → Prop}

/-- Every computation returns or fails. -/
theorem post_true (x : Log ε W α) : Post (fun _ _ => True) (fun _ => True) x := by
  intro s
  rcases exec x s with ⟨r, s'⟩
  cases r <;> trivial

theorem post_pure {a : α} (h : ∀ s, Q a s) : Post Q E (pure a) := fun s => h s

theorem post_throw {e : ε} (h : E e) : Post Q E (throw e) := fun _ => h

theorem post_write {w : W} {Q : Unit → List W → Prop} (h : ∀ s, Q () (s ++ [w])) :
    Post Q E (write w) := fun s => h s

theorem post_ite {c : Prop} [Decidable c] {x y : Log ε W α} (hx : Post Q E x) (hy : Post Q E y) :
    Post Q E (if c then x else y) := by
  split_ifs
  · exact hx
  · exact hy

/-- A bind ends as its continuation does, once the first computation's errors are allowed. -/
theorem post_bind {x : Log ε W α} {f : α → Log ε W β} (hx : Post (fun _ _ => True) E x)
    (hf : ∀ a, Post R E (f a)) : Post R E (x >>= f) := by
  intro s
  have hs := hx s
  rw [exec_bind]
  rcases hex : exec x s with ⟨r, s'⟩
  rw [hex] at hs
  cases r with
  | error e => exact hs
  | ok a => exact hf a s'

/-- A bind on a lifted `Except`: the continuation is only run on its value. -/
theorem post_liftExcept_bind {e : Except ε α} {f : α → Log ε W β}
    (he : ∀ err, e = .error err → E err) (hf : ∀ a, e = .ok a → Post R E (f a)) :
    Post R E (liftExcept e >>= f) := by
  intro s
  rw [exec_bind, exec_liftExcept]
  cases e with
  | error err => exact he err rfl
  | ok a => exact hf a rfl s

theorem Post.mono {x : Log ε W α} {Q' : α → List W → Prop} {E' : ε → Prop} (h : Post Q E x)
    (hQ : ∀ a r, Q a r → Q' a r) (hE : ∀ e, E e → E' e) : Post Q' E' x := by
  intro s
  have hs := h s
  rcases hex : exec x s with ⟨r, s'⟩
  rw [hex] at hs
  cases r with
  | error e => exact hE e hs
  | ok a => exact hQ a s' hs

theorem Post.of_exec_ok {x : Log ε W α} {s r : List W} {a : α} (h : Post Q E x)
    (hx : exec x s = (.ok a, r)) : Q a r := by
  have hs := h s
  rw [hx] at hs
  exact hs

theorem Post.of_exec_error {x : Log ε W α} {s r : List W} {e : ε} (h : Post Q E x)
    (hx : exec x s = (.error e, r)) : E e := by
  have hs := h s
  rw [hx] at hs
  exact hs

/-- A computation that never returns and fails only with `e` fails with `e`. -/
theorem Post.fst_exec_eq_error {x : Log ε W α} {e : ε} (h : Post (fun _ _ => False) (· = e) x)
    (s : List W) : (exec x s).1 = .error e := by
  have hs := h s
  rcases hex : exec x s with ⟨r, s'⟩
  rw [hex] at hs
  cases r with
  | error e' => exact congrArg Except.error hs
  | ok a => exact hs.elim

end Log
