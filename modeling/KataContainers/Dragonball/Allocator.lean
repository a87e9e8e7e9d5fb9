import Mathlib

/-!
# The interval tree of `dbs_allocator`

Model of `src/dragonball/src/dbs_allocator/src/interval_tree.rs` and of `Constraint` in
`dbs_allocator/src/lib.rs`. An `IntervalTree<T>` is an AVL tree of disjoint closed ranges keyed by
their `(min, max)` order; each node caches its height and the greatest `max` below it, and holds a
`NodeState`: free, allocated, or allocated with data.

`Option<Node<T>>` is `Tree T`, with `Tree.none` for `None`; a `Node<T>` is a `Tree.node`, whose
fields are those of `InnerNode<T>`. The functions of `Node` take a `Tree` that their callers know to
be a node, and do nothing on `Tree.none`. A panic ends a call with `Except.error`; `u64` arithmetic
wraps, as in a release build.
-/

namespace KataContainers.Dragonball.Allocator

/-- Why a call panics. -/
inductive Panic
  /-- `"interval_tree: Range({}, {}) is invalid"` -/
  | invalidRange
  /-- `"interval_tree: key {:?} exists"` -/
  | keyExists
  /-- `"interval_tree: key {:?} intersects with existing {:?}"` -/
  | keyIntersects
  /-- `"try to update unallocated interval tree node"` -/
  | updateUnallocated
  /-- `"Node is broken"` -/
  | nodeBroken
  /-- `unreachable!()` in `rotate` -/
  | unreachable
  /-- `unwrap()` of `None` -/
  | unwrapNone
  deriving DecidableEq, Repr

def U64_MAX : UInt64 := 18446744073709551615

/-- `checked_add` of `u64`. -/
def checked_add (a b : UInt64) : Option UInt64 :=
  if a.toNat + b.toNat < 2 ^ 64 then some (a + b) else none

/-! ## Ranges -/

/-- A closed range `[min, max]`. -/
structure Range where
  min : UInt64
  max : UInt64
  deriving DecidableEq, Repr

/-- `Range::new`: panics on `min > max` and on the whole of `u64`. -/
def Range.new (min max : UInt64) : Except Panic Range :=
  if min > max ∨ (min = 0 ∧ max = U64_MAX) then .error .invalidRange else .ok ⟨min, max⟩

def Range.new_point (value : UInt64) : Range := ⟨value, value⟩

def Range.len (r : Range) : UInt64 := r.max - r.min + 1

def Range.intersect (a b : Range) : Bool := Max.max a.min b.min ≤ Min.min a.max b.max

def Range.contain (a b : Range) : Bool := a.min ≤ b.min && a.max ≥ b.max

/-- `align_to`: the range from its first multiple of `align`, for a power of two. -/
def Range.align_to (r : Range) (align : UInt64) : Except Panic (Option Range) :=
  if align = 0 ∨ align = 1 then .ok (some r)
  else if align &&& (align - 1) ≠ 0 then .ok none
  else
    match checked_add r.min (align - 1) with
    | none => .ok none
    | some v =>
      let min := v &&& ~~~(align - 1)
      if min ≤ r.max then (Range.new min r.max).map some else .ok none

/-- `Ord for Range`: by `min`, then by `max`. -/
def Range.cmp (a b : Range) : Ordering :=
  match compare a.min b.min with
  | .eq => compare a.max b.max
  | res => res

/-! ## Nodes -/

inductive NodeState (T : Type)
  | Free
  | Allocated
  | Valued (data : T)
  deriving DecidableEq, Repr

def NodeState.is_free {T : Type} : NodeState T → Bool
  | .Free => true
  | _ => false

/-- `From<NodeState<T>> for Option<T>` -/
def NodeState.into {T : Type} : NodeState T → Option T
  | .Valued data => some data
  | _ => none

/-- The transitions that `Node::update` refuses. -/
def NodeState.update_panics {T : Type} : NodeState T → NodeState T → Bool
  | .Free, .Free | .Free, .Valued _ | .Allocated, .Free | .Allocated, .Allocated
  | .Valued _, .Free | .Valued _, .Allocated => true
  | _, _ => false

/-- `Option<Node<T>>`: no node, or a node with the fields of `InnerNode<T>`. -/
inductive Tree (T : Type)
  | none
  | node (key : Range) (data : NodeState T) (left right : Tree T) (height : Nat) (max_key : UInt64)
  deriving DecidableEq, Repr

/-- `Constraint`; both policies take the first match. -/
inductive AllocPolicy
  | Default
  | FirstMatch
  deriving DecidableEq, Repr

structure Constraint where
  size : UInt64
  min : UInt64
  max : UInt64
  align : UInt64
  policy : AllocPolicy
  deriving DecidableEq, Repr

/-- `Constraint::new` -/
def Constraint.new (size : UInt64) : Constraint := ⟨size, 0, U64_MAX, 1, .Default⟩

namespace Tree

variable {T : Type}

def is_some : Tree T → Bool
  | .none => false
  | .node .. => true

/-- `height(&Option<Node<T>>)`: the cached height, 0 for no node. -/
def height : Tree T → Nat
  | .none => 0
  | .node _ _ _ _ h _ => h

/-- `max_key(&Option<Node<T>>)`: the cached greatest `max`, 0 for no node. -/
def max_key : Tree T → UInt64
  | .none => 0
  | .node _ _ _ _ _ m => m

/-- `Node::new` -/
def new (key : Range) (data : Option T) : Tree T :=
  .node key (match data with | some t => .Valued t | Option.none => .Free) .none .none 1 key.max

def update_cached_info : Tree T → Tree T
  | .none => .none
  | .node k d l r _ _ =>
    .node k d l r (Nat.max l.height r.height + 1) (Max.max l.max_key (Max.max r.max_key k.max))

def rotate_left : Tree T → Except Panic (Tree T)
  | .none => .ok .none
  | .node k d l r h m =>
    match r with
    | .none => .error .nodeBroken
    | .node rk rd rl rr rh rm =>
      .ok (update_cached_info (.node rk rd (update_cached_info (.node k d l rl h m)) rr rh rm))

def rotate_right : Tree T → Except Panic (Tree T)
  | .none => .ok .none
  | .node k d l r h m =>
    match l with
    | .none => .error .nodeBroken
    | .node lk ld ll lr lh lm =>
      .ok (update_cached_info (.node lk ld ll (update_cached_info (.node k d lr r h m)) lh lm))

/-- A double rotation when the left child leans right, else a single one. -/
def rotate_left_successor : Tree T → Except Panic (Tree T)
  | .none => .ok .none
  | .node k d l r h m =>
    match l with
    | .none => .error .nodeBroken
    | .node lk ld ll lr lh lm =>
      if ll.height < lr.height then do
        let rotated ← rotate_left (.node lk ld ll lr lh lm)
        rotate_right (update_cached_info (.node k d rotated r h m))
      else rotate_right (.node k d l r h m)

def rotate_right_successor : Tree T → Except Panic (Tree T)
  | .none => .ok .none
  | .node k d l r h m =>
    match r with
    | .none => .error .nodeBroken
    | .node rk rd rl rr rh rm =>
      if rl.height > rr.height then do
        let rotated ← rotate_right (.node rk rd rl rr rh rm)
        rotate_left (update_cached_info (.node k d l rotated h m))
      else rotate_left (.node k d l r h m)

/-- `rotate`: a node whose children's heights differ by two is rotated; by more is
`unreachable!()`. -/
def rotate (t : Tree T) : Except Panic (Tree T) :=
  match t with
  | .none => .ok .none
  | .node _ _ l r _ _ =>
    let diff : Int := (l.height : Int) - r.height
    if diff = 1 ∨ diff = 0 ∨ diff = -1 then .ok t
    else if diff = 2 then t.rotate_left_successor
    else if diff = -2 then t.rotate_right_successor
    else .error .unreachable

def updated_node (t : Tree T) : Except Panic (Tree T) := t.update_cached_info.rotate

/-- `Node::search`: the key and state of the node of exactly `key`. -/
def search (key : Range) : Tree T → Option (Range × NodeState T)
  | .none => Option.none
  | .node k d l r _ _ =>
    match k.cmp key with
    | .eq => some (k, d)
    | .lt => r.search key
    | .gt => l.search key

/-- `Node::search_superset`: the key and state of a node that covers `key`, looked for on one
side only. -/
def search_superset (key : Range) : Tree T → Option (Range × NodeState T)
  | .none => Option.none
  | .node k d l r _ _ =>
    if k.contain key then some (k, d)
    else if key.max < k.min ∧ l.is_some then l.search_superset key
    else if key.min > k.max ∧ r.is_some then r.search_superset key
    else Option.none

/-- `Node::insert`, with `None` children taking the new node. -/
def insert (key : Range) (data : Option T) : Tree T → Except Panic (Tree T)
  | .none => .ok (new key data)
  | .node k d l r h m =>
    match k.cmp key with
    | .eq => .error .keyExists
    | .lt =>
      if k.intersect key then .error .keyIntersects
      else do
        let r ← r.insert key data
        updated_node (.node k d l r h m)
    | .gt =>
      if k.intersect key then .error .keyIntersects
      else do
        let l ← l.insert key data
        updated_node (.node k d l r h m)

/-- `Node::update`: the tree with the new state, and the data of the old one. -/
def update (key : Range) (data : NodeState T) : Tree T → Except Panic (Tree T × Option T)
  | .none => .ok (.none, Option.none)
  | .node k d l r h m =>
    match k.cmp key with
    | .eq =>
      if d.update_panics data then .error .updateUnallocated
      else .ok (.node k data l r h m, d.into)
    | .lt => do
      let (r, old) ← r.update key data
      return (.node k d l r h m, old)
    | .gt => do
      let (l, old) ← l.update key data
      return (.node k d l r h m, old)

/-- `get_new_root`: the node of the least key, taken out, and what remains. -/
def get_new_root : Tree T → Except Panic (Tree T × Tree T)
  | .none => .ok (.none, .none)
  | .node k d l r h m =>
    match l with
    | .none => .ok (.node k d .none .none h m, r)
    | .node .. => do
      let (min_node, l) ← l.get_new_root
      let t ← updated_node (.node k d l r h m)
      return (min_node, t)

def combine_subtrees (l r : Tree T) : Except Panic (Tree T) := do
  let (new_root, remaining) ← r.get_new_root
  match new_root with
  | .node k d _ _ h m => updated_node (.node k d l remaining h m)
  | .none => .error .unwrapNone

def delete_root (l r : Tree T) : Except Panic (Tree T) :=
  match l, r with
  | .none, .none => .ok .none
  | .node .., .none => .ok l
  | .none, .node .. => .ok r
  | .node .., .node .. => combine_subtrees l r

/-- `Node::delete`: the data of the node of `key`, and the tree without it. -/
def delete (key : Range) : Tree T → Except Panic (Option T × Tree T)
  | .none => .ok (Option.none, .none)
  | .node k d l r h m =>
    match k.cmp key with
    | .eq => do
      let t ← delete_root l r
      return (d.into, t)
    | .lt =>
      match r with
      | .none => .ok (Option.none, .node k d l r h m)
      | .node .. => do
        let (data, r) ← r.delete key
        let t ← updated_node (.node k d l r h m)
        return (data, t)
    | .gt =>
      match l with
      | .none => .ok (Option.none, .node k d l r h m)
      | .node .. => do
        let (data, l) ← l.delete key
        let t ← updated_node (.node k d l r h m)
        return (data, t)

/-- `check_constraint`: a free node with room for the constraint. -/
def check_constraint (c : Constraint) : Tree T → Except Panic Bool
  | .none => .ok false
  | .node k d _ _ _ _ =>
    if d.is_free then
      let min' := Max.max k.min c.min
      let max' := Min.min k.max c.max
      if min' ≤ max' then do
        let key ← Range.new min' max'
        if c.align = 0 ∨ c.align = 1 then return key.len ≥ c.size
        match ← key.align_to c.align with
        | Option.none => return false
        | some aligned_key => return aligned_key.len ≥ c.size
      else .ok false
    else .ok false

/-- `first_match`: the first node in key order that meets the constraint. -/
def first_match (c : Constraint) : Tree T → Except Panic (Option (Range × NodeState T))
  | .none => .ok Option.none
  | .node k d l r h m => do
    let candidate ← if l.is_some then l.first_match c else pure Option.none
    let candidate ← match candidate with
      | some found => pure (some found)
      | Option.none => do
        if ← check_constraint c (.node k d l r h m) then pure (some (k, d)) else pure Option.none
    match candidate with
    | some found => pure (some found)
    | Option.none => if r.is_some then r.first_match c else pure Option.none

def find_candidate (c : Constraint) (t : Tree T) : Except Panic (Option (Range × NodeState T)) :=
  match c.policy with
  | .FirstMatch => t.first_match c
  | .Default => t.first_match c

end Tree

/-! ## The tree -/

structure IntervalTree (T : Type) where
  root : Tree T
  deriving DecidableEq, Repr

namespace IntervalTree

variable {T : Type}

def new : IntervalTree T := ⟨.none⟩

def is_empty (t : IntervalTree T) : Bool := !t.root.is_some

def get (t : IntervalTree T) (key : Range) : Option (NodeState T) :=
  (t.root.search key).map Prod.snd

def get_superset (t : IntervalTree T) (key : Range) : Option (Range × NodeState T) :=
  t.root.search_superset key

/-- `get_superset_mut`: the same search, handing out the state to be changed. -/
def get_superset_mut (t : IntervalTree T) (key : Range) : Option (Range × NodeState T) :=
  t.root.search_superset key

def get_by_id (t : IntervalTree T) (id : UInt64) : Option T :=
  match t.root.search_superset (Range.new_point id) with
  | some (_, data) => data.into
  | Option.none => Option.none

def insert (t : IntervalTree T) (key : Range) (data : Option T) : Except Panic (IntervalTree T) := do
  return ⟨← t.root.insert key data⟩

/-- `update`: the tree, and the data the node had. -/
def update (t : IntervalTree T) (key : Range) (data : T) : Except Panic (IntervalTree T × Option T) :=
  do
  let (root, old) ← t.root.update key (.Valued data)
  return (⟨root⟩, old)

/-- `delete`: the tree, and the data of the deleted node. -/
def delete (t : IntervalTree T) (key : Range) : Except Panic (IntervalTree T × Option T) := do
  let (data, root) ← t.root.delete key
  return (⟨root⟩, data)

/-- The node `key` marked allocated, through `root.as_mut().unwrap().update(..)`. -/
def mark_allocated (t : IntervalTree T) (key : Range) : Except Panic (IntervalTree T) := do
  if !t.root.is_some then .error .unwrapNone
  let (root, _) ← t.root.update key .Allocated
  return ⟨root⟩

/-- `allocate`: the range taken from the first free node that meets the constraint, split off
that node when it is larger. -/
def allocate (t : IntervalTree T) (c : Constraint) : Except Panic (IntervalTree T × Option Range) :=
  do
  if c.size = 0 then return (t, Option.none)
  match ← t.root.find_candidate c with
  | Option.none => return (t, Option.none)
  | some (node_key, _) =>
    let range ← Range.new (Max.max node_key.min c.min) (Min.min node_key.max c.max)
    let some aligned_key ← range.align_to c.align | .error .unwrapNone
    let result ← Range.new aligned_key.min (aligned_key.min + c.size - 1)
    if node_key.min = aligned_key.min ∧ node_key.len = c.size then
      return (← t.mark_allocated node_key, some node_key)
    -- split the node
    let (t, _) ← t.delete node_key
    let t ← if aligned_key.min > node_key.min then
        t.insert (← Range.new node_key.min (aligned_key.min - 1)) none
      else pure t
    let t ← t.insert result none
    let t ← if result.max < node_key.max then
        t.insert (← Range.new (result.max + 1) node_key.max) none
      else pure t
    return (← t.mark_allocated result, some result)

/-- `free`: the node `key` goes back to the free nodes, merged with the free neighbours it touches;
the data it had. -/
def free (t : IntervalTree T) (key : Range) : Except Panic (IntervalTree T × Option T) := do
  let (t, result) ← t.delete key
  let lo ← if key.min > 0 then do
      match t.get_superset (← Range.new (key.min - 1) (key.min - 1)) with
      | some (r, v) => pure (if v.is_free then r.min else key.min)
      | Option.none => pure key.min
    else pure key.min
  let hi ← if key.max < U64_MAX then do
      match t.get_superset (← Range.new (key.max + 1) (key.max + 1)) with
      | some (r, v) => pure (if v.is_free then r.max else key.max)
      | Option.none => pure key.max
    else pure key.max
  let range : Range := ⟨lo, hi⟩
  let t ← if range.min < key.min then do
      let (t, _) ← t.delete (← Range.new range.min (key.min - 1))
      pure t
    else pure t
  let t ← if range.max > key.max then do
      let (t, _) ← t.delete (← Range.new (key.max + 1) range.max)
      pure t
    else pure t
  let t ← t.insert range none
  return (t, result)

end IntervalTree

end KataContainers.Dragonball.Allocator
