import KataContainers.Posix.Handles

/-!
# What a run adds to `created`

`World.created` records the directories the process makes, and only its own `mkdirat` adds to it:
the other processes' actions never do. `Creates x S` says that every run of `x`, whatever the other
processes do, appends to `created` a list `e` of paths with `S` of the result and `e`. The rules
follow the program: `Creates.bind` passes what the first part made on to the rest, for `SysM`
and for `ExceptT ε SysM`, and there is one rule per system call.
-/

namespace Posix

/-- Every run of `x` appends to `created` a list `e` with `S` of its result and `e`. -/
def Creates {α : Type} (x : SysM α) (S : α → List (List Name) → Prop) : Prop :=
  ∀ w, ∃ e, (x.run w).2.created = w.created ++ e ∧ S (x.run w).1 e

/-- At most one directory named `n`. -/
def AtMostOne (n : Name) (e : List (List Name)) : Prop :=
  e = [] ∨ ∃ p, e = [p ++ [n]]

theorem Action.apply_created (w : World) (a : Action) : (a.apply w).created = w.created := by
  cases a <;> simp only [Action.apply] <;> split <;> (try split) <;> rfl

theorem interleave_created (w : World) : (interleave.run w).2.created = w.created := by
  -- the batch runs action by action, none of which touches `created`
  have hfold : ∀ (l : List Action) (w₀ : World), (l.foldl Action.apply w₀).created = w₀.created := by
    intro l
    induction l with
    | nil => exact fun _ => rfl
    | cons a l ih => exact fun w₀ => (ih (a.apply w₀)).trans (Action.apply_created w₀ a)
  cases hs : w.script with
  | nil => simp [interleave, hs, pure]
  | cons batch rest => simpa [interleave, hs, pure] using hfold batch _

section
variable {α β : Type} {S : α → List (List Name) → Prop}

theorem Creates.pure (a : α) (h : S a []) : Creates (Pure.pure a : SysM α) S :=
  fun _ => ⟨[], (List.append_nil _).symm, h⟩

/-- What the first part makes is passed on to the rest. -/
theorem Creates.bind {x : SysM α} {f : α → SysM β} {R : β → List (List Name) → Prop}
    (hx : Creates x S) (hf : ∀ a e₁, S a e₁ → Creates (f a) fun b e₂ => R b (e₁ ++ e₂)) :
    Creates (x >>= f) R := by
  intro w
  obtain ⟨e₁, he₁, hs₁⟩ := hx w
  obtain ⟨e₂, he₂, hs₂⟩ := hf _ e₁ hs₁ (x.run w).2
  refine ⟨e₁ ++ e₂, ?_, hs₂⟩
  show ((f (x.run w).1).run (x.run w).2).2.created = _
  rw [he₂, he₁, List.append_assoc]

theorem Creates.conseq {x : SysM α} {S' : α → List (List Name) → Prop} (h : Creates x S)
    (hS : ∀ a e, S a e → S' a e) : Creates x S' := by
  intro w
  obtain ⟨e, he, hs⟩ := h w
  exact ⟨e, he, hS _ _ hs⟩

theorem Creates.map {x : SysM α} (f : α → β) (h : Creates x S) :
    Creates (f <$> x) fun b e => ∃ a, b = f a ∧ S a e := by
  intro w
  obtain ⟨e, he, hs⟩ := h w
  exact ⟨e, he, _, rfl, hs⟩

/-- A system call whose instant makes nothing makes nothing. -/
theorem syscall_creates_none {call : World → α × World}
    (h : ∀ w, (call w).2.created = w.created) : Creates (syscall call) fun _ e => e = [] := by
  intro w
  refine ⟨[], ?_, rfl⟩
  show (call (interleave.run w).2).2.created = _
  rw [h, interleave_created, List.append_nil]

end

theorem World.Opens.created {w w' : World} (ho : w.Opens w') : w'.created = w.created := by
  rcases ho with rfl | ⟨h, rfl⟩ <;> rfl

theorem open_path_creates (p : Path) : Creates (open_path p) fun _ e => e = [] :=
  syscall_creates_none fun w => (w.open_path_opens p).created

theorem openat_creates (fd : Nat) (name : Name) : Creates (openat fd name) fun _ e => e = [] :=
  syscall_creates_none fun w => (w.openat_opens fd name).created

theorem fd_link_creates (fd : Nat) : Creates (fd_link fd) fun _ e => e = [] :=
  syscall_creates_none fun w => by
    unfold World.fd_link
    split <;> rfl

theorem fstat_creates (fd : Nat) : Creates (fstat fd) fun _ e => e = [] :=
  syscall_creates_none fun w => by
    unfold World.fstat
    split <;> rfl

theorem dup_creates (fd : Nat) : Creates (dup fd) fun _ e => e = [] :=
  syscall_creates_none fun w => (w.dup_opens fd).created

theorem observe_creates {α : Type} (f : World → α) : Creates (observe f) fun _ e => e = [] :=
  syscall_creates_none fun _ => rfl

/-- `mkdirat` makes at most the one directory it names, and one when it succeeds. -/
theorem mkdirat_creates (fd : Nat) (name : Name) (mode : UInt32) :
    Creates (mkdirat fd name mode) fun r e => AtMostOne name e ∧ (r = .ok () → e ≠ []) := by
  intro w
  show ∃ e, ((interleave.run w).2.mkdirat fd name mode).2.created = w.created ++ e ∧
    AtMostOne name e ∧ (((interleave.run w).2.mkdirat fd name mode).1 = .ok () → e ≠ [])
  rw [← interleave_created w]
  generalize (interleave.run w).2 = w'
  unfold World.mkdirat
  -- every failure leaves `created` as it is
  have hnone : ∀ err : Errno, ∃ e, w'.created = w'.created ++ e ∧
      AtMostOne name e ∧ ((.error err : Except Errno Unit) = .ok () → e ≠ []) :=
    fun _ => ⟨[], (List.append_nil _).symm, .inl rfl, fun h => nomatch h⟩
  split
  · exact hnone _
  · rename_i h _
    split
    · exact hnone _
    · split
      · exact hnone _
      · split
        · exact hnone _
        · exact ⟨[h.path ++ [name]], rfl, .inr ⟨h.path, rfl⟩, fun _ => List.cons_ne_nil _ _⟩

/-! ## Computations that can fail -/

section
variable {ε α β : Type} {S : Except ε β → List (List Name) → Prop}

theorem Creates.except_pure (a : β) (h : S (.ok a) []) :
    Creates (Pure.pure a : ExceptT ε SysM β).run S :=
  Creates.pure _ h

theorem Creates.except_throw (err : ε) (h : S (.error err) []) :
    Creates (MonadExcept.throw err : ExceptT ε SysM β).run S :=
  Creates.pure _ h

/-- What the first part makes is passed on to the rest; a failure ends the run. -/
theorem Creates.except_bind {x : ExceptT ε SysM α} {f : α → ExceptT ε SysM β}
    {S₁ : Except ε α → List (List Name) → Prop} (hx : Creates x.run S₁)
    (herr : ∀ err e, S₁ (.error err) e → S (.error err) e)
    (hf : ∀ a e₁, S₁ (.ok a) e₁ → Creates (f a).run fun r e₂ => S r (e₁ ++ e₂)) :
    Creates (x >>= f).run S := by
  rw [ExceptT.run_bind]
  refine hx.bind fun r e₁ h₁ => ?_
  cases r with
  | ok a => exact hf a e₁ h₁
  | error err => exact Creates.pure _ (by rw [List.append_nil]; exact herr err e₁ h₁)

theorem Creates.lift {x : SysM α} {S₁ : α → List (List Name) → Prop} (h : Creates x S₁) :
    Creates (ExceptT.lift x : ExceptT ε SysM α).run fun r e => ∃ a, r = .ok a ∧ S₁ a e := by
  rw [ExceptT.run_lift]
  exact h.map _

theorem Creates.liftExcept_bind (e : Except ε α) {f : α → ExceptT ε SysM β}
    (herr : ∀ err, e = .error err → S (.error err) [])
    (hf : ∀ a, e = .ok a → Creates (f a).run S) : Creates (liftExcept e >>= f).run S := by
  cases e with
  | error err =>
    have ht : Creates (liftExcept (.error err) : ExceptT ε SysM α).run
        fun r e => r = .error err ∧ e = [] := Creates.except_throw err ⟨rfl, rfl⟩
    exact Creates.except_bind ht (fun _ _ ⟨he, hnil⟩ => by
      cases he
      rw [hnil]
      exact herr err rfl) fun _ _ ⟨he, _⟩ => nomatch he
  | ok a =>
    show Creates (Pure.pure a >>= f).run S
    rw [pure_bind]
    exact hf a rfl

end

end Posix
