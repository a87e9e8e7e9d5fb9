import KataContainers.Agent.Uevent

/-!
# Runs of the uevent waiters

What holds of any number of `wait_for_uevent` calls and the `watch_uevents` task after any
interleaving of their steps, from a sandbox with no watchers, whatever the socket delivers and
whenever the timers fire (`wait_for_uevent_safe`): a call that returns `Ok` returns a uevent that
its matcher accepts, and no call returns the error of a dropped sender.

`Inv` gives each waiter its token in the shared state. A waiter registered as watcher `idx` on
channel `ch` finds its watcher in `uevent_watchers[idx]` and its channel empty, or, once an add
fired it, no watcher and a value its matcher accepts; once its timer fired, its watcher is there
with the receiver dropped, or gone. Every watcher's channel is empty with its sender alive, no two
watchers share a channel, and no two waiters hold one watcher slot. An add fires exactly the
watchers that match it (`notify_watchers_of_match`, `notify_channels_of_fired`), and sending twice
on a channel is sending once (`Oneshot.send_send`).
-/

namespace KataContainers.Agent.UeventWatch

open Interleave

variable {M : Type} [UeventMatcher M]

/-! ## Lists grown by one -/

lemma getElem?_append_singleton_eq_some {α : Type} {l : List α} {a b : α} {k : Nat} :
    (l ++ [a])[k]? = some b ↔ l[k]? = some b ∨ (k = l.length ∧ a = b) := by
  rcases Nat.lt_trichotomy k l.length with hk | rfl | hk
  · rw [List.getElem?_append_left hk]
    exact ⟨.inl, fun h => h.resolve_right fun h' => by omega⟩
  · rw [List.getElem?_concat_length, List.getElem?_eq_none le_rfl]
    simp
  · rw [List.getElem?_eq_none (by simp; omega), List.getElem?_eq_none (by omega)]
    simp only [reduceCtorEq, false_or, false_iff, not_and]
    omega

/-! ## The channels and watchers of an add -/

@[simp] lemma Oneshot.send_send (c : Oneshot) (u : Uevent) : (c.send u).send u = c.send u := by
  cases c with
  | mk value tx rx => cases rx <;> rfl

/-- The channels after sending `u` on each of `fired` in turn: sending twice is sending once. -/
lemma getElem?_foldl_send (u : Uevent) (fired : List Nat) (cs : List Oneshot) (k : Nat) :
    (fired.foldl (fun cs ch => cs.modify ch (Oneshot.send · u)) cs)[k]? =
      if k ∈ fired then cs[k]?.map (Oneshot.send · u) else cs[k]? := by
  induction fired generalizing cs with
  | nil => simp
  | cons ch rest ih =>
    rw [List.foldl_cons, ih, List.getElem?_modify]
    by_cases hch : ch = k
    · subst hch
      by_cases hk : ch ∈ rest <;> simp [hk, Function.comp_def]
    · by_cases hk : k ∈ rest <;> simp [hk, hch, Ne.symm hch]

section Notify

variable {sb : Sandbox M} {u : Uevent} {idx ch : Nat} {m : M}

lemma notify_watchers_of_match (hw : sb.uevent_watchers[idx]? = some (some (m, ch)))
    (hm : UeventMatcher.is_match m u = true) : (sb.notify u).uevent_watchers[idx]? = some none := by
  simp [Sandbox.notify, hw, hm]

lemma notify_watchers_of_not_match (hw : sb.uevent_watchers[idx]? = some (some (m, ch)))
    (hm : UeventMatcher.is_match m u = false) :
    (sb.notify u).uevent_watchers[idx]? = some (some (m, ch)) := by
  simp [Sandbox.notify, hw, hm]

lemma notify_watchers_of_none (hw : sb.uevent_watchers[idx]? = some none) :
    (sb.notify u).uevent_watchers[idx]? = some none := by
  simp [Sandbox.notify, hw]

/-- A watcher left after an add was there before, and does not match it. -/
lemma notify_watchers_eq_some (hw : (sb.notify u).uevent_watchers[idx]? = some (some (m, ch))) :
    sb.uevent_watchers[idx]? = some (some (m, ch)) ∧ UeventMatcher.is_match m u = false := by
  simp only [Sandbox.notify, List.getElem?_map, Option.map_eq_some_iff] at hw
  obtain ⟨w, hw, hmap⟩ := hw
  match w, hmap with
  | some (m', ch'), hmap =>
    by_cases hm : UeventMatcher.is_match m' u = true
    · simp [hm] at hmap
    · simp only [hm, if_false, Bool.false_eq_true, Option.some.injEq, Prod.mk.injEq] at hmap
      obtain ⟨rfl, rfl⟩ := hmap
      exact ⟨hw, by simpa using hm⟩
  | none, hmap => cases hmap

/-- The channel of a watcher that matches gets the uevent. -/
lemma notify_channels_of_fired (hw : sb.uevent_watchers[idx]? = some (some (m, ch)))
    (hm : UeventMatcher.is_match m u = true) :
    (sb.notify u).channels[ch]? = sb.channels[ch]?.map (Oneshot.send · u) := by
  unfold Sandbox.notify
  rw [getElem?_foldl_send, if_pos]
  exact List.mem_filterMap.mpr ⟨some (m, ch), List.mem_of_getElem? hw, by simp [hm]⟩

/-- A channel that no matching watcher has is left as it is. -/
lemma notify_channels_of_not_fired
    (h : ∀ (idx : Nat) (m : M), sb.uevent_watchers[idx]? = some (some (m, ch)) →
      UeventMatcher.is_match m u = false) :
    (sb.notify u).channels[ch]? = sb.channels[ch]? := by
  unfold Sandbox.notify
  rw [getElem?_foldl_send, if_neg]
  intro hmem
  obtain ⟨w, hw, hf⟩ := List.mem_filterMap.mp hmem
  obtain ⟨idx, hidx⟩ := List.mem_iff_getElem?.mp hw
  match w, hf with
  | some (m, ch'), hf =>
    by_cases hm : UeventMatcher.is_match m u = true
    · simp only [hm, if_true, Option.some.injEq] at hf
      subst hf
      simp [h idx m hidx] at hm
    · simp [hm] at hf
  | none, hf => cases hf

/-- What processing a uevent does to the watchers and channels: an add notifies, anything else
leaves them. -/
lemma process_cases (u : Uevent) (sb : Sandbox M) :
    u.process sb = sb.notify u ∨
    ((u.process sb).uevent_watchers = sb.uevent_watchers ∧
      (u.process sb).channels = sb.channels) := by
  unfold Uevent.process Uevent.process_add Uevent.process_remove
  split_ifs <;> simp

end Notify

/-! ## The token of each waiter -/

/-- The watcher slot a waiter holds, from its registration until it is done. -/
def Task.slot : Task M → Option Nat
  | .waiter _ (.waiting idx _) => some idx
  | .waiter _ (.timedOut idx) => some idx
  | _ => none

/-- What the shared state holds for one task. -/
def Task.Consistent (sb : Sandbox M) : Task M → Prop
  | .waiter m (.waiting idx ch) =>
    (sb.uevent_watchers[idx]? = some (some (m, ch)) ∧ sb.channels[ch]? = some ⟨none, true, true⟩) ∨
    (sb.uevent_watchers[idx]? = some none ∧
      ∃ v, sb.channels[ch]? = some ⟨some v, false, true⟩ ∧ UeventMatcher.is_match m v = true)
  | .waiter m (.timedOut idx) =>
    sb.uevent_watchers[idx]? = some none ∨
    ∃ ch, sb.uevent_watchers[idx]? = some (some (m, ch)) ∧
      sb.channels[ch]? = some ⟨none, true, false⟩
  | .waiter m (.done (.ok v)) => UeventMatcher.is_match m v = true
  | .waiter _ (.done (.error .recv)) => False
  | _ => True

/-- The channel a waiter reads: its own, or its watcher's once its timer fired. -/
def Task.Refers (sb : Sandbox M) : Task M → Nat → Prop
  | .waiter _ (.waiting _ ch), k => ch = k
  | .waiter _ (.timedOut idx), k => ∃ m, sb.uevent_watchers[idx]? = some (some (m, k))
  | _, _ => False

namespace Task

variable {sb sb' : Sandbox M} {t : Task M}

/-- A task whose slot and channels are left keeps its token. -/
lemma Consistent.frame (h : t.Consistent sb)
    (hw : ∀ idx, t.slot = some idx → sb'.uevent_watchers[idx]? = sb.uevent_watchers[idx]?)
    (hc : ∀ k, t.Refers sb k → sb'.channels[k]? = sb.channels[k]?) : t.Consistent sb' := by
  cases t with
  | watch => trivial
  | waiter m pc =>
    cases pc with
    | waiting idx ch =>
      simp only [Consistent] at h ⊢
      rw [hw idx rfl, hc ch rfl]
      exact h
    | timedOut idx =>
      simp only [Consistent] at h ⊢
      rw [hw idx rfl]
      rcases h with h | ⟨ch, hwc, hch⟩
      · exact .inl h
      · exact .inr ⟨ch, hwc, (hc ch ⟨m, hwc⟩).trans hch⟩
    | start => trivial
    | done r =>
      -- a finished waiter's token is about its result alone
      cases r with
      | ok v => exact h
      | error e => cases e <;> exact h
    | panicked => trivial

lemma Consistent.slot_lt (h : t.Consistent sb) {idx : Nat} (hs : t.slot = some idx) :
    idx < sb.uevent_watchers.length := by
  cases t with
  | watch => cases hs
  | waiter m pc =>
    cases pc with
    | waiting idx' ch =>
      cases hs
      rcases h with ⟨hw, -⟩ | ⟨hw, -⟩ <;> exact (List.getElem?_eq_some_iff.mp hw).1
    | timedOut idx' =>
      cases hs
      rcases h with hw | ⟨_, hw, -⟩ <;> exact (List.getElem?_eq_some_iff.mp hw).1
    | _ => cases hs

lemma Consistent.refers_lt (h : t.Consistent sb) {k : Nat} (hr : t.Refers sb k) :
    k < sb.channels.length := by
  cases t with
  | watch => cases hr
  | waiter m pc =>
    cases pc with
    | waiting idx ch =>
      cases hr
      rcases h with ⟨-, hc⟩ | ⟨-, _, hc, -⟩ <;> exact (List.getElem?_eq_some_iff.mp hc).1
    | timedOut idx =>
      obtain ⟨m', hw⟩ := hr
      rcases h with h | ⟨ch, hw', hc⟩
      · rw [hw] at h
        cases h
      · rw [hw] at hw'
        cases hw'
        exact (List.getElem?_eq_some_iff.mp hc).1
    | _ => cases hr

end Task

/-- No two waiters hold one watcher slot. -/
def SlotsDistinct (ts : List (Task M)) : Prop :=
  ∀ (j j' : Nat) (t t' : Task M) idx, ts[j]? = some t → ts[j']? = some t' →
    t.slot = some idx → t'.slot = some idx → j = j'

/-- The invariant of every configuration a run reaches. -/
structure Inv (c : Conf (Sandbox M) (Task M)) : Prop where
  consistent : ∀ (j : Nat) (t : Task M), c.threads[j]? = some t → t.Consistent c.shared
  watcher_channel : ∀ (idx : Nat) (m : M) (ch : Nat),
    c.shared.uevent_watchers[idx]? = some (some (m, ch)) →
    ∃ rx, c.shared.channels[ch]? = some ⟨none, true, rx⟩
  channel_inj : ∀ (idx idx' : Nat) (m m' : M) (ch : Nat),
    c.shared.uevent_watchers[idx]? = some (some (m, ch)) →
    c.shared.uevent_watchers[idx']? = some (some (m', ch)) → idx = idx'
  slots : SlotsDistinct c.threads

/-! ## One step -/

omit [UeventMatcher M] in
/-- Putting a task in place of another keeps the slots apart when its slot, if it has one, is the
old task's or held by no task. -/
lemma SlotsDistinct.set {ts : List (Task M)} (h : SlotsDistinct ts) {i : Nat} {l l' : Task M}
    (hl : ts[i]? = some l)
    (hslot : ∀ idx, l'.slot = some idx →
      l.slot = some idx ∨ ∀ (j : Nat) (t : Task M), ts[j]? = some t → t.slot ≠ some idx) :
    SlotsDistinct (ts.set i l') := by
  have hlt : i < ts.length := (List.getElem?_eq_some_iff.mp hl).1
  -- the task in place of the old one against any other task
  have hone : ∀ j t idx, j ≠ i → ts[j]? = some t → l'.slot = some idx → t.slot = some idx →
      False := by
    intro j t idx hne hj hs' hs
    rcases hslot idx hs' with hs'' | hfree
    · exact hne (h j i t l idx hj hl hs hs'')
    · exact hfree j t hj hs
  intro j j' t t' idx hj hj' hs hs'
  rw [List.getElem?_set] at hj hj'
  by_cases hij : i = j <;> by_cases hij' : i = j'
  · exact hij.symm.trans hij'
  · rw [if_pos hij, if_pos hlt, Option.some.injEq] at hj
    rw [if_neg hij'] at hj'
    subst hj
    exact (hone j' t' idx (Ne.symm hij') hj' hs hs').elim
  · rw [if_pos hij', if_pos hlt, Option.some.injEq] at hj'
    rw [if_neg hij] at hj
    subst hj'
    exact (hone j t idx (Ne.symm hij) hj hs' hs).elim
  · rw [if_neg hij] at hj
    rw [if_neg hij'] at hj'
    exact h j j' t t' idx hj hj' hs hs'

namespace Inv

variable {c : Conf (Sandbox M) (Task M)}

/-- No other task reads the channel of the watcher in the slot a task holds. -/
lemma not_refers (h : Inv c) {i j : Nat} {t t' : Task M} {idx : Nat} {m : M} {ch : Nat}
    (hi : c.threads[i]? = some t) (hslot : t.slot = some idx)
    (hw : c.shared.uevent_watchers[idx]? = some (some (m, ch)))
    (hj : c.threads[j]? = some t') (hne : j ≠ i) : ¬ t'.Refers c.shared ch := by
  intro hr
  have hc := h.consistent j t' hj
  cases t' with
  | watch => exact hr
  | waiter m' pc =>
    cases pc with
    | waiting idx' ch' =>
      cases hr
      rcases hc with ⟨hw', -⟩ | ⟨-, v, hv, -⟩
      · -- two watchers on one channel are one, held by one task
        have hidx := h.channel_inj idx idx' m m' ch hw hw'
        exact hne (h.slots j i _ _ idx hj hi (by rw [hidx]; rfl) hslot)
      · obtain ⟨rx, hrx⟩ := h.watcher_channel idx m ch hw
        rw [hrx] at hv
        cases hv
    | timedOut idx' =>
      obtain ⟨m'', hw'⟩ := hr
      have hidx := h.channel_inj idx idx' m m'' ch hw hw'
      exact hne (h.slots j i _ _ idx hj hi (by rw [hidx]; rfl) hslot)
    | _ => exact hr

/-- The tasks of a step: the one that stepped, and the others. -/
lemma consistent_set {s : Sandbox M} {i : Nat} {l' : Task M} (hl' : l'.Consistent s)
    (hothers : ∀ j t, j ≠ i → c.threads[j]? = some t → t.Consistent s) :
    ∀ (j : Nat) (t : Task M), (c.threads.set i l')[j]? = some t → t.Consistent s := by
  intro j t hj
  rw [List.getElem?_set] at hj
  by_cases hij : i = j
  · rw [if_pos hij] at hj
    split_ifs at hj
    cases hj
    exact hl'
  · rw [if_neg hij] at hj
    exact hothers j t (Ne.symm hij) hj

/-- A step that leaves the shared state, and gives the task a token and no slot. -/
lemma set_same (h : Inv c) {i : Nat} {l l' : Task M} (hl : c.threads[i]? = some l)
    (hc : l'.Consistent c.shared) (hslot : l'.slot = none) :
    Inv ⟨c.shared, c.threads.set i l'⟩ where
  consistent := consistent_set hc fun j t _ hj => h.consistent j t hj
  watcher_channel := h.watcher_channel
  channel_inj := h.channel_inj
  slots := SlotsDistinct.set h.slots hl fun idx hs => by rw [hslot] at hs; cases hs

/-- A waiter that finds no uevent registers a watcher in a new slot, on a new channel. -/
lemma register (h : Inv c) {i : Nat} {m : M} (hl : c.threads[i]? = some (.waiter m .start)) :
    Inv ⟨{ c.shared with
        uevent_watchers := c.shared.uevent_watchers ++ [some (m, c.shared.channels.length)]
        channels := c.shared.channels ++ [⟨none, true, true⟩] },
      c.threads.set i (.waiter m (.waiting c.shared.uevent_watchers.length
        c.shared.channels.length))⟩ := by
  -- a watcher of before has a channel of before
  have hchan_lt : ∀ idx (m' : M) ch, c.shared.uevent_watchers[idx]? = some (some (m', ch)) →
      ch < c.shared.channels.length := fun idx m' ch hw => by
    obtain ⟨rx, hrx⟩ := h.watcher_channel idx m' ch hw
    exact (List.getElem?_eq_some_iff.mp hrx).1
  refine ⟨consistent_set ?_ fun j t _ hj => ?_, ?_, ?_, ?_⟩
  · exact .inl ⟨List.getElem?_concat_length, List.getElem?_concat_length⟩
  · have hc := h.consistent j t hj
    exact hc.frame (fun idx hs => List.getElem?_append_left (hc.slot_lt hs))
      fun k hr => List.getElem?_append_left (hc.refers_lt hr)
  · intro idx m' ch hw
    rcases getElem?_append_singleton_eq_some.mp hw with hw | ⟨-, heq⟩
    · obtain ⟨rx, hrx⟩ := h.watcher_channel idx m' ch hw
      exact ⟨rx, by rw [List.getElem?_append_left (hchan_lt idx m' ch hw), hrx]⟩
    · simp only [Option.some.injEq, Prod.mk.injEq] at heq
      obtain ⟨-, rfl⟩ := heq
      exact ⟨true, List.getElem?_concat_length⟩
  · intro idx idx' m₁ m₂ ch hw hw'
    rcases getElem?_append_singleton_eq_some.mp hw with hw | ⟨hidx, heq⟩ <;>
      rcases getElem?_append_singleton_eq_some.mp hw' with hw' | ⟨hidx', heq'⟩
    · exact h.channel_inj idx idx' m₁ m₂ ch hw hw'
    · -- the new watcher's channel is past the old ones
      simp only [Option.some.injEq, Prod.mk.injEq] at heq'
      exact absurd (hchan_lt idx m₁ ch hw) (by omega)
    · simp only [Option.some.injEq, Prod.mk.injEq] at heq
      exact absurd (hchan_lt idx' m₂ ch hw') (by omega)
    · exact hidx.trans hidx'.symm
  · refine SlotsDistinct.set h.slots hl fun idx hs => .inr fun j t hj hslot => ?_
    cases hs
    exact absurd ((h.consistent j t hj).slot_lt hslot) (lt_irrefl _)

/-- A waiter whose timer fires drops its receiver and keeps its slot. -/
lemma timeout (h : Inv c) {i : Nat} {m : M} {idx ch : Nat}
    (hl : c.threads[i]? = some (.waiter m (.waiting idx ch))) {rx : Bool}
    (hch : c.shared.channels[ch]? = some ⟨none, true, rx⟩) :
    Inv ⟨{ c.shared with channels := c.shared.channels.modify ch fun c => { c with rx := false } },
      c.threads.set i (.waiter m (.timedOut idx))⟩ := by
  -- the timer fires only before the watcher is fired
  obtain ⟨hw, hch₀⟩ : c.shared.uevent_watchers[idx]? = some (some (m, ch)) ∧
      c.shared.channels[ch]? = some ⟨none, true, true⟩ := by
    rcases h.consistent i _ hl with h' | ⟨-, v, hv, -⟩
    · exact h'
    · rw [hch] at hv
      cases hv
  have hmod : ∀ k, k ≠ ch → (c.shared.channels.modify ch fun c => { c with rx := false })[k]? =
      c.shared.channels[k]? := fun k hk => by
    simp [Ne.symm hk]
  refine ⟨consistent_set ?_ fun j t hne hj => ?_, ?_, h.channel_inj, ?_⟩
  · exact .inr ⟨ch, hw, by simp [hch₀]⟩
  · refine (h.consistent j t hj).frame (fun _ _ => rfl) fun k hr => hmod k ?_
    rintro rfl
    exact h.not_refers hl rfl hw hj hne hr
  · intro idx' m' ch' hw'
    by_cases hk : ch' = ch
    · subst hk
      exact ⟨false, by simp [hch₀]⟩
    · rw [hmod ch' hk]
      exact h.watcher_channel idx' m' ch' hw'
  · exact SlotsDistinct.set h.slots hl fun idx' hs => .inl hs

/-- A waiter back from its timeout takes its watcher away, and drops the sender with it. -/
lemma take (h : Inv c) {i : Nat} {m m' : M} {idx ch : Nat}
    (hl : c.threads[i]? = some (.waiter m (.timedOut idx)))
    (hw : c.shared.uevent_watchers[idx]? = some (some (m', ch))) :
    Inv ⟨{ c.shared with
        uevent_watchers := c.shared.uevent_watchers.set idx none
        channels := c.shared.channels.modify ch fun c => { c with tx := false } },
      c.threads.set i (.waiter m (.done (.error .timeout)))⟩ := by
  have hmod : ∀ k, k ≠ ch → (c.shared.channels.modify ch fun c => { c with tx := false })[k]? =
      c.shared.channels[k]? := fun k hk => by
    simp [Ne.symm hk]
  -- the watchers left are those of before but the one taken
  have hleft : ∀ idx' (m'' : M) ch', (c.shared.uevent_watchers.set idx none)[idx']? =
      some (some (m'', ch')) →
      idx' ≠ idx ∧ c.shared.uevent_watchers[idx']? = some (some (m'', ch')) := by
    intro idx' m'' ch' hw'
    rw [List.getElem?_set] at hw'
    by_cases hidx : idx = idx'
    · rw [if_pos hidx] at hw'
      split_ifs at hw'
      cases hw'
    · rw [if_neg hidx] at hw'
      exact ⟨Ne.symm hidx, hw'⟩
  refine ⟨consistent_set trivial fun j t hne hj => ?_, ?_, ?_, ?_⟩
  · refine (h.consistent j t hj).frame (fun idx' hs => ?_) fun k hr => hmod k ?_
    · rw [List.getElem?_set, if_neg]
      rintro rfl
      exact hne (h.slots j i t _ idx hj hl hs rfl)
    · rintro rfl
      exact h.not_refers hl rfl hw hj hne hr
  · intro idx' m'' ch' hw'
    obtain ⟨hne, hw'⟩ := hleft idx' m'' ch' hw'
    rw [hmod ch' fun hk => hne (h.channel_inj idx' idx m'' m' ch' hw' (hk ▸ hw))]
    exact h.watcher_channel idx' m'' ch' hw'
  · intro idx₁ idx₂ m₁ m₂ ch' hw₁ hw₂
    exact h.channel_inj idx₁ idx₂ m₁ m₂ ch' (hleft _ _ _ hw₁).2 (hleft _ _ _ hw₂).2
  · exact SlotsDistinct.set h.slots hl fun idx' hs => by cases hs

/-- A channel that no watcher that matches `u` has is left by an add of `u`. -/
lemma notify_channel_of_watcher (h : Inv c) {u : Uevent} {idx : Nat} {m : M} {ch : Nat}
    (hw : c.shared.uevent_watchers[idx]? = some (some (m, ch)))
    (hm : UeventMatcher.is_match m u = false) :
    (c.shared.notify u).channels[ch]? = c.shared.channels[ch]? :=
  notify_channels_of_not_fired fun idx' m' hw' => by
    obtain rfl := h.channel_inj idx idx' m m' ch hw hw'
    rw [hw] at hw'
    cases hw'
    exact hm

/-- A channel that holds a value is no watcher's, and an add leaves it. -/
lemma notify_channel_of_value (h : Inv c) {u : Uevent} {ch : Nat} {v : Uevent} {tx rx : Bool}
    (hch : c.shared.channels[ch]? = some ⟨some v, tx, rx⟩) :
    (c.shared.notify u).channels[ch]? = c.shared.channels[ch]? :=
  notify_channels_of_not_fired fun idx m hw => by
    obtain ⟨rx', hrx⟩ := h.watcher_channel idx m ch hw
    rw [hrx] at hch
    cases hch

/-- An add fires the watchers that match it: each of their waiters gets the uevent, or has
already given up on it. -/
lemma notify (h : Inv c) (u : Uevent) : Inv ⟨c.shared.notify u, c.threads⟩ := by
  refine ⟨fun j t hj => ?_, ?_, ?_, h.slots⟩
  · have hc := h.consistent j t hj
    cases t with
    | watch => trivial
    | waiter m pc =>
      cases pc with
      | waiting idx ch =>
        rcases hc with ⟨hw, hch⟩ | ⟨hw, v, hch, hv⟩
        · by_cases hm : UeventMatcher.is_match m u = true
          · -- the add fires the waiter's watcher and sends on its channel
            refine .inr ⟨notify_watchers_of_match hw hm, u, ?_, hm⟩
            rw [notify_channels_of_fired hw hm, hch]
            rfl
          · have hm' : UeventMatcher.is_match m u = false := by simpa using hm
            exact .inl ⟨notify_watchers_of_not_match hw hm',
              (h.notify_channel_of_watcher hw hm').trans hch⟩
        · exact .inr ⟨notify_watchers_of_none hw, v, (h.notify_channel_of_value hch).trans hch, hv⟩
      | timedOut idx =>
        rcases hc with hw | ⟨ch, hw, hch⟩
        · exact .inl (notify_watchers_of_none hw)
        · by_cases hm : UeventMatcher.is_match m u = true
          · exact .inl (notify_watchers_of_match hw hm)
          · have hm' : UeventMatcher.is_match m u = false := by simpa using hm
            exact .inr ⟨ch, notify_watchers_of_not_match hw hm',
              (h.notify_channel_of_watcher hw hm').trans hch⟩
      | start => trivial
      | done r => exact hc.frame (fun _ hs => by cases hs) fun _ hr => hr.elim
      | panicked => trivial
  · intro idx m ch hw
    obtain ⟨hw, hm⟩ := notify_watchers_eq_some hw
    rw [h.notify_channel_of_watcher hw hm]
    exact h.watcher_channel idx m ch hw
  · intro idx idx' m m' ch hw hw'
    exact h.channel_inj idx idx' m m' ch (notify_watchers_eq_some hw).1
      (notify_watchers_eq_some hw').1

/-- The task handles a uevent: an add notifies, anything else leaves the watchers and channels. -/
lemma process (h : Inv c) {i : Nat} (hl : c.threads[i]? = some .watch) (u : Uevent) :
    Inv ⟨u.process c.shared, c.threads.set i .watch⟩ := by
  have hsame : c.threads.set i .watch = c.threads := by
    obtain ⟨hi, hget⟩ := List.getElem?_eq_some_iff.mp hl
    rw [← hget]
    exact List.set_getElem_self hi
  rw [hsame]
  rcases process_cases u c.shared with hp | ⟨hw, hch⟩
  · rw [hp]
    exact h.notify u
  · refine ⟨fun j t hj => (h.consistent j t hj).frame (fun idx _ => by rw [hw])
      fun k _ => by rw [hch], ?_, ?_, h.slots⟩
    · intro idx m ch hw'
      rw [hw] at hw'
      rw [hch]
      exact h.watcher_channel idx m ch hw'
    · intro idx idx' m m' ch hw₁ hw₂
      rw [hw] at hw₁ hw₂
      exact h.channel_inj idx idx' m m' ch hw₁ hw₂

/-- Every step of a task keeps the invariant; the cases are the arms of `Task.step`. -/
lemma step (h : Inv c) {i : Nat} {e : Choice} {c' : Conf (Sandbox M) (Task M)}
    (hstep : c.step Task.step i e = some c') : Inv c' := by
  obtain ⟨l, s, l', hl, hnext, rfl⟩ := Conf.step_eq_some hstep
  cases l with
  | watch =>
    cases e with
    | uevent u =>
      simp only [Task.step, Option.some.injEq, Prod.mk.injEq] at hnext
      obtain ⟨rfl, rfl⟩ := hnext
      exact h.process hl u
    | _ => simp [Task.step] at hnext
  | waiter m pc =>
    cases pc with
    | start =>
      cases e with
      | next =>
        simp only [Task.step] at hnext
        split at hnext
        next uev hfind =>
          -- a uevent already recorded: the waiter returns it at once
          simp only [Option.some.injEq, Prod.mk.injEq] at hnext
          obtain ⟨rfl, rfl⟩ := hnext
          have hm := List.find?_some hfind
          exact h.set_same hl hm rfl
        next =>
          simp only [Option.some.injEq, Prod.mk.injEq] at hnext
          obtain ⟨rfl, rfl⟩ := hnext
          exact h.register hl
      | _ => simp [Task.step] at hnext
    | waiting idx ch =>
      cases e with
      | next =>
        simp only [Task.step] at hnext
        split at hnext
        next v tx rx hch =>
          simp only [Option.some.injEq, Prod.mk.injEq] at hnext
          obtain ⟨rfl, rfl⟩ := hnext
          refine h.set_same hl ?_ rfl
          -- a value on the channel was sent by an add that the watcher matched
          rcases h.consistent i _ hl with ⟨-, hch'⟩ | ⟨-, v', hch', hv'⟩
          · rw [hch] at hch'
            cases hch'
          · rw [hch] at hch'
            cases hch'
            exact hv'
        next rx hch =>
          -- the sender is dropped only by a send, which leaves a value
          exfalso
          rcases h.consistent i _ hl with ⟨-, hch'⟩ | ⟨-, v', hch', -⟩ <;>
          · rw [hch] at hch'
            cases hch'
        next => cases hnext
      | timeout =>
        simp only [Task.step] at hnext
        split at hnext
        next rx hch =>
          simp only [Option.some.injEq, Prod.mk.injEq] at hnext
          obtain ⟨rfl, rfl⟩ := hnext
          exact h.timeout hl hch
        next => cases hnext
      | uevent u => simp [Task.step] at hnext
    | timedOut idx =>
      cases e with
      | next =>
        simp only [Task.step] at hnext
        split at hnext
        next m' ch hw =>
          simp only [Option.some.injEq, Prod.mk.injEq] at hnext
          obtain ⟨rfl, rfl⟩ := hnext
          exact h.take hl hw
        next =>
          -- the watcher is gone: `take().unwrap()` panics
          simp only [Option.some.injEq, Prod.mk.injEq] at hnext
          obtain ⟨rfl, rfl⟩ := hnext
          exact h.set_same hl trivial rfl
      | _ => simp [Task.step] at hnext
    | done r => simp [Task.step] at hnext
    | panicked => simp [Task.step] at hnext

end Inv

/-- Before any step: every task at its start, no watcher and no channel. -/
def Task.Fresh : Task M → Bool
  | .waiter _ .start => true
  | .watch => true
  | _ => false

/-- The sandbox as the agent starts it, whatever uevents it has recorded, and the tasks before
their first step. -/
def Initial (c : Conf (Sandbox M) (Task M)) : Prop :=
  c.shared.uevent_watchers = [] ∧ c.shared.channels = [] ∧ ∀ t ∈ c.threads, t.Fresh = true

lemma Inv.initial {c : Conf (Sandbox M) (Task M)} (h : Initial c) : Inv c := by
  obtain ⟨hw, hch, hfresh⟩ := h
  have hslot : ∀ (j : Nat) (t : Task M), c.threads[j]? = some t → t.slot = none := by
    intro j t hj
    have := hfresh t (List.mem_of_getElem? hj)
    cases t with
    | watch => rfl
    | waiter m pc =>
      cases pc with
      | waiting idx ch => cases this
      | timedOut idx => cases this
      | _ => rfl
  refine ⟨fun j t hj => ?_, fun idx m ch hw' => ?_, fun idx _ m _ ch hw' => ?_,
    fun j _ t _ idx hj _ hs => ?_⟩
  · have := hfresh t (List.mem_of_getElem? hj)
    cases t with
    | watch => trivial
    | waiter m pc =>
      cases pc with
      | start => trivial
      | _ => cases this
  · simp [hw] at hw'
  · simp [hw] at hw'
  · rw [hslot j t hj] at hs
    cases hs

/-- Whatever the interleaving of the `wait_for_uevent` calls and the `watch_uevents` task, what the
socket delivers and when the timers fire: a call still waiting has its watcher registered with its
matcher, so that the next add it matches fires it, or has on its channel a uevent its matcher
accepts; a call that returns `Ok` returns a uevent its matcher accepts; and no call returns the
error of a dropped sender. -/
theorem wait_for_uevent_safe {c c' : Conf (Sandbox M) (Task M)} (h0 : Initial c)
    (sched : List (Nat × Choice)) (h : c.run Task.step sched = some c') (m : M) (pc : WaitPc)
    (ht : Task.waiter m pc ∈ c'.threads) :
    (∀ idx ch, pc = .waiting idx ch →
      c'.shared.uevent_watchers[idx]? = some (some (m, ch)) ∨
      ∃ v, c'.shared.channels[ch]? = some ⟨some v, false, true⟩ ∧
        UeventMatcher.is_match m v = true) ∧
    (∀ v, pc = .done (.ok v) → UeventMatcher.is_match m v = true) ∧
    pc ≠ .done (.error .recv) := by
  have hinv : Inv c' :=
    Conf.run_invariant Inv (fun _ _ _ _ hc hstep => hc.step hstep) sched (Inv.initial h0) h
  obtain ⟨j, hj⟩ := List.mem_iff_getElem?.mp ht
  have hc := hinv.consistent j _ hj
  refine ⟨fun idx ch hpc => ?_, fun v hv => ?_, fun hv => ?_⟩
  · subst hpc
    rcases hc with ⟨hw, -⟩ | ⟨-, hv⟩
    · exact .inl hw
    · exact .inr hv
  · subst hv
    exact hc
  · subst hv
    exact hc

/-- A waiter for the PCI device and the task, before their first step. -/
def add_start : Conf (Sandbox PciMatcher) (Task PciMatcher) :=
  ⟨⟨[], [], []⟩, [.waiter pci_matcher .start, .watch]⟩

/-- The waiter registers, the task processes the device's add, and the waiter reads it. -/
def add_schedule : List (Nat × Choice) := [(0, .next), (1, .uevent pci_add), (0, .next)]

theorem wait_for_uevent_safe_add :
    (∀ idx ch, WaitPc.done (.ok pci_add) = .waiting idx ch →
      ([none] : List (Option (PciMatcher × Nat)))[idx]? = some (some (pci_matcher, ch)) ∨
      ∃ v, ([⟨some pci_add, false, true⟩] : List Oneshot)[ch]? = some ⟨some v, false, true⟩ ∧
        UeventMatcher.is_match pci_matcher v = true) ∧
    (∀ v, (WaitPc.done (.ok pci_add)) = .done (.ok v) →
      UeventMatcher.is_match pci_matcher v = true) ∧
    WaitPc.done (.ok pci_add) ≠ .done (.error .recv) :=
  wait_for_uevent_safe (c := add_start) ⟨rfl, rfl, by decide⟩ add_schedule rfl pci_matcher _
    (List.mem_cons_self)

end KataContainers.Agent.UeventWatch
