import Mathlib.Data.List.Basic

/-!
# Watches and their queue of notices

Watches on objects, told apart by descriptors, and one queue into which a change to an
object puts a notice for every watch on it.  Descriptors are not used again.

A change to an object only ever appends to the queue and ends watches.  What a watch is
owed is stated over the queue alone, so it survives every such change.
-/

namespace K50sv1.Data

universe u v

structure Watch (τ : Type u) where
  wd : Int
  target : τ
  deriving DecidableEq, Repr

structure Notice (μ : Type v) where
  wd : Int
  mask : μ
  deriving DecidableEq, Repr

structure WatchQueue (τ : Type u) (μ : Type v) where
  watches : List (Watch τ)
  nextWd : Int
  queue : List (Notice μ)
  deriving DecidableEq, Repr

namespace WatchQueue

variable {τ : Type u} {μ : Type v}

/-! ## Operations -/

/-- Queue a notice that belongs to no watch kept here. -/
def post (hub : WatchQueue τ μ) (notice : Notice μ) : WatchQueue τ μ :=
  { hub with queue := hub.queue ++ [notice] }

/-- The watches that `gone` selects end, each with a last notice. -/
def endWatches (hub : WatchQueue τ μ) (gone : Watch τ → Bool) (mask : μ) : WatchQueue τ μ :=
  { hub with
    watches := hub.watches.filter fun watch => !gone watch
    queue := hub.queue ++ (hub.watches.filter gone).map fun watch => ⟨watch.wd, mask⟩ }

/-- The watch with a descriptor ends; an unknown descriptor changes nothing. -/
def remove (hub : WatchQueue τ μ) (wd : Int) (mask : μ) : WatchQueue τ μ :=
  hub.endWatches (fun watch => watch.wd = wd) mask

section Targets

variable [DecidableEq τ]

/-- Queue a notice for every watch on the target. -/
def notify (hub : WatchQueue τ μ) (target : τ) (mask : μ) : WatchQueue τ μ :=
  { hub with
    queue := hub.queue ++
      (hub.watches.filter fun watch => watch.target = target).map fun watch => ⟨watch.wd, mask⟩ }

/-- Watch an object, and the descriptor of the watch.  An object that is watched already
keeps its descriptor. -/
def add (hub : WatchQueue τ μ) (target : τ) : WatchQueue τ μ × Int :=
  match hub.watches.find? fun watch => watch.target = target with
  | some watch => (hub, watch.wd)
  | none =>
      ({ hub with
          watches := hub.watches ++ [⟨hub.nextWd, target⟩]
          nextWd := hub.nextWd + 1 },
        hub.nextWd)

/-- Where nothing is watched, the new watch is the only one. -/
theorem add_of_nil {hub : WatchQueue τ μ} (unwatched : hub.watches = []) (target : τ) :
    (hub.add target).1.watches = [⟨(hub.add target).2, target⟩] := by
  simp [add, unwatched]

end Targets

/-- Where all watches have one descriptor, removing it leaves none. -/
theorem remove_of_own {hub : WatchQueue τ μ} {wd : Int}
    (own : ∀ watch ∈ hub.watches, watch.wd = wd) (mask : μ) :
    (hub.remove wd mask).watches = [] := by
  apply List.filter_eq_nil_iff.mpr
  intro watch member
  simp [own watch member]

/-! ## Notices -/

/-- The queue holds a notice of the watch `wd` that satisfies `P`. -/
def Queued (queue : List (Notice μ)) (wd : Int) (P : μ → Prop) : Prop :=
  ∃ notice ∈ queue, notice.wd = wd ∧ P notice.mask

theorem Queued.subset {queue longer : List (Notice μ)} {wd : Int} {P : μ → Prop}
    (queued : Queued queue wd P) (subset : queue ⊆ longer) : Queued longer wd P := by
  obtain ⟨notice, member, facts⟩ := queued
  exact ⟨notice, subset member, facts⟩

theorem Queued.imp {queue : List (Notice μ)} {wd : Int} {P Q : μ → Prop}
    (queued : Queued queue wd P) (weaker : ∀ mask, P mask → Q mask) : Queued queue wd Q := by
  obtain ⟨notice, member, own, holds⟩ := queued
  exact ⟨notice, member, own, weaker _ holds⟩

/-- Taking the first notice keeps what is queued, unless it was the one. -/
theorem Queued.tail {notice : Notice μ} {queue : List (Notice μ)} {wd : Int} {P : μ → Prop}
    (queued : Queued (notice :: queue) wd P) (other : ¬ (notice.wd = wd ∧ P notice.mask)) :
    Queued queue wd P := by
  obtain ⟨found, member, facts⟩ := queued
  rcases List.mem_cons.mp member with rfl | later
  · exact absurd facts other
  · exact ⟨found, later, facts⟩

theorem not_queued_nil {wd : Int} {P : μ → Prop} : ¬ Queued [] wd P := by
  rintro ⟨notice, member, -⟩
  exact nomatch member

/-! ## Changes -/

/-- Notices are appended and watches end. -/
structure Extends (before after : WatchQueue τ μ) : Prop where
  queue : before.queue ⊆ after.queue
  watches : after.watches ⊆ before.watches

section Changes

variable {hub middle after : WatchQueue τ μ}

theorem Extends.refl (hub : WatchQueue τ μ) : Extends hub hub :=
  ⟨List.Subset.refl _, List.Subset.refl _⟩

theorem Extends.trans (first : Extends hub middle) (second : Extends middle after) :
    Extends hub after :=
  ⟨List.Subset.trans first.queue second.queue, List.Subset.trans second.watches first.watches⟩

theorem extends_post (hub : WatchQueue τ μ) (notice : Notice μ) :
    Extends hub (hub.post notice) :=
  ⟨List.subset_append_left _ _, List.Subset.refl _⟩

theorem extends_endWatches (hub : WatchQueue τ μ) (gone : Watch τ → Bool) (mask : μ) :
    Extends hub (hub.endWatches gone mask) :=
  ⟨List.subset_append_left _ _, List.filter_sublist.subset⟩

variable [DecidableEq τ]

theorem extends_notify (hub : WatchQueue τ μ) (target : τ) (mask : μ) :
    Extends hub (hub.notify target mask) :=
  ⟨List.subset_append_left _ _, List.Subset.refl _⟩

/-- A watch on the target gets the notice. -/
theorem queued_notify {target : τ} {mask : μ} {wd : Int} {P : μ → Prop}
    (watched : ⟨wd, target⟩ ∈ hub.watches) (holds : P mask) :
    Queued (hub.notify target mask).queue wd P := by
  refine ⟨⟨wd, mask⟩, List.mem_append_right _ ?_, rfl, holds⟩
  apply List.mem_map.mpr
  exact ⟨⟨wd, target⟩, List.mem_filter.mpr ⟨watched, decide_eq_true rfl⟩, rfl⟩

end Changes

end WatchQueue

end K50sv1.Data
