import Mathlib

/-!
# Breadth-first visits of an arena

A graph kept as an arena: the nodes are the entries of a list, and a node names its children by
their index, as shared pointers do. `visit` pops the head of a queue, lets a visitor rewrite that
node while it threads an accumulator, and appends the children the node then has. It keeps no set
of visited nodes: a node reached along two paths is visited twice, and a node among its own
children keeps the queue from ever emptying (`visit_self_loop`). `fuel` bounds the number of
visits, and `none` says that it ran out.
-/

namespace Bfs

variable {α σ : Type}

/-- Visit the queue `q` and everything it leads to, breadth first. The visitor sees the arena as
it stands and the node, and returns the new accumulator and the new node. -/
def visit (children : α → List Nat) (visitor : List α → σ → α → σ × α) :
    Nat → List α → σ → List Nat → Option (List α × σ)
  | _, arena, s, [] => some (arena, s)
  | 0, _, _, _ :: _ => none
  | fuel + 1, arena, s, p :: q =>
    match arena[p]? with
    | none => visit children visitor fuel arena s q
    | some e =>
      let (s', e') := visitor arena s e
      visit children visitor fuel (arena.set p e') s' (q ++ children e')

section
variable {children : α → List Nat} {visitor : List α → σ → α → σ × α}

@[simp] theorem visit_nil (fuel : Nat) (arena : List α) (s : σ) :
    visit children visitor fuel arena s [] = some (arena, s) := by
  cases fuel <;> rfl

/-- A node among its own children, under a visitor that leaves children as they are, stays in the
queue for ever: no fuel is enough. -/
theorem visit_self_loop (hv : ∀ arena s e, children (visitor arena s e).2 = children e)
    {p : Nat} (fuel : Nat) :
    ∀ {arena : List α} {s : σ} {q : List Nat} {e : α},
      arena[p]? = some e → p ∈ children e → p ∈ q → visit children visitor fuel arena s q = none := by
  induction fuel with
  | zero =>
    intro arena s q e _ _ hq
    cases q with
    | nil => cases hq
    | cons _ _ => rfl
  | succ fuel ih =>
    intro arena s q e he hloop hq
    cases q with
    | nil => cases hq
    | cons p' q =>
      simp only [visit]
      cases he' : arena[p']? with
      | none =>
        -- `p'` has no node, so it is not `p`, and `p` waits further down the queue
        have hne : p ≠ p' := by rintro rfl; rw [he] at he'; cases he'
        exact ih he hloop (List.mem_of_ne_of_mem hne hq)
      | some e' =>
        by_cases hpp : p' = p
        · -- `p` is visited now and comes back among its children
          subst hpp
          rw [he] at he'
          cases he'
          have hlt : p' < arena.length := (List.getElem?_eq_some_iff.mp he).1
          apply ih (e := (visitor arena s e).2)
          · simp [List.getElem?_set_self hlt]
          · rw [hv]; exact hloop
          · rw [hv]; exact List.mem_append_right _ hloop
        · -- another node is visited; the node of `p` is untouched
          apply ih (e := e)
          · rw [List.getElem?_set_ne hpp]; exact he
          · exact hloop
          · exact List.mem_append_left _ (List.mem_of_ne_of_mem (Ne.symm hpp) hq)

end

end Bfs
