import Mathlib.Data.List.Basic

/-!
# Ledgers

A ledger lists everything a queueing component has accepted, in the order of
acceptance, each entry with its present fate: still pending, delivered, or lost for
some reason.  A component that serves its queue from the front settles the first
pending entries; the file shows how the sublists of the ledger change when it does,
and that a fate given out in this way only ever appears in order.
-/

namespace K50sv1.Data

universe u v

/-- What has become of an accepted entry. -/
inductive Fate (ρ : Type v) where
  | pending
  | delivered
  | lost (reason : ρ)
  deriving DecidableEq, Repr

abbrev Ledger (α : Type u) (ρ : Type v) :=
  List (α × Fate ρ)

namespace Ledger

variable {α : Type u} {ρ : Type v} [DecidableEq ρ]

/-- Everything accepted, in order. -/
def entries (ledger : Ledger α ρ) : List α :=
  ledger.map Prod.fst

/-- The entries of one fate, in order. -/
def withFate (fate : Fate ρ) (ledger : Ledger α ρ) : List α :=
  (ledger.filter fun entry => entry.2 = fate).map Prod.fst

/-- Accept `items` with a common fate. -/
def record (fate : Fate ρ) (items : List α) (ledger : Ledger α ρ) : Ledger α ρ :=
  ledger ++ items.map fun item => (item, fate)

/-- Give the first `count` pending entries a fate. -/
def settle (fate : Fate ρ) : Nat → Ledger α ρ → Ledger α ρ
  | 0, ledger => ledger
  | _ + 1, [] => []
  | count + 1, (item, .pending) :: rest => (item, fate) :: settle fate count rest
  | count + 1, (item, .delivered) :: rest => (item, .delivered) :: settle fate (count + 1) rest
  | count + 1, (item, .lost reason) :: rest => (item, .lost reason) :: settle fate (count + 1) rest

/-- No entry with `fate` was accepted after an entry that is still pending. -/
def InOrder (fate : Fate ρ) (ledger : Ledger α ρ) : Prop :=
  ledger.Pairwise fun earlier later => later.2 = fate → earlier.2 ≠ .pending

/-! ## The sublists of a ledger -/

@[simp]
theorem withFate_nil (fate : Fate ρ) : withFate fate ([] : Ledger α ρ) = [] :=
  rfl

theorem withFate_cons (fate : Fate ρ) (entry : α × Fate ρ) (rest : Ledger α ρ) :
    withFate fate (entry :: rest) =
      if entry.2 = fate then entry.1 :: withFate fate rest else withFate fate rest := by
  by_cases same : entry.2 = fate
  · simp [withFate, same]
  · simp [withFate, same]

/-- The entries of one fate are a subsequence of what was accepted. -/
theorem withFate_sublist (fate : Fate ρ) (ledger : Ledger α ρ) :
    (ledger.withFate fate).Sublist ledger.entries :=
  List.filter_sublist.map Prod.fst

omit [DecidableEq ρ] in
@[simp]
theorem entries_record (fate : Fate ρ) (items : List α) (ledger : Ledger α ρ) :
    (ledger.record fate items).entries = ledger.entries ++ items := by
  simp [entries, record, Function.comp_def]

theorem withFate_record (wanted fate : Fate ρ) (items : List α) (ledger : Ledger α ρ) :
    (ledger.record fate items).withFate wanted =
      ledger.withFate wanted ++ if fate = wanted then items else [] := by
  by_cases same : fate = wanted
  · simp [withFate, record, same, List.filter_map, Function.comp_def]
  · simp [withFate, record, same, List.filter_map, Function.comp_def]

omit [DecidableEq ρ] in
@[simp]
theorem entries_settle (fate : Fate ρ) (count : Nat) (ledger : Ledger α ρ) :
    (settle fate count ledger).entries = ledger.entries := by
  fun_induction settle fate count ledger with
  | case1 ledger => rfl
  | case2 => rfl
  | case3 count item rest ih => simpa [entries] using ih
  | case4 count item rest ih => simpa [entries] using ih
  | case5 count item reason rest ih => simpa [entries] using ih

/-- Settling takes its entries from the front of the pending ones. -/
theorem pending_settle {fate : Fate ρ} (settled : fate ≠ .pending) (count : Nat)
    (ledger : Ledger α ρ) :
    (settle fate count ledger).withFate .pending = (ledger.withFate .pending).drop count := by
  fun_induction settle fate count ledger with
  | case1 ledger => rfl
  | case2 => rfl
  | case3 count item rest ih => simpa [withFate_cons, settled] using ih
  | case4 count item rest ih => simpa [withFate_cons] using ih
  | case5 count item reason rest ih => simpa [withFate_cons] using ih

theorem withFate_settle_of_ne {wanted fate : Fate ρ} (other : fate ≠ wanted)
    (wanted_settled : wanted ≠ .pending) (count : Nat) (ledger : Ledger α ρ) :
    (settle fate count ledger).withFate wanted = ledger.withFate wanted := by
  fun_induction settle fate count ledger with
  | case1 ledger => rfl
  | case2 => rfl
  | case3 count item rest ih => simpa [withFate_cons, other, wanted_settled.symm] using ih
  | case4 count item rest ih => simp [withFate_cons, ih]
  | case5 count item reason rest ih => simp [withFate_cons, ih]

/-! ## Order -/

omit [DecidableEq ρ] in
theorem inOrder_nil (fate : Fate ρ) : InOrder fate ([] : Ledger α ρ) :=
  List.Pairwise.nil

omit [DecidableEq ρ] in
theorem inOrder_cons {fate : Fate ρ} {entry : α × Fate ρ} {rest : Ledger α ρ} :
    InOrder fate (entry :: rest) ↔
      (∀ later ∈ rest, later.2 = fate → entry.2 ≠ .pending) ∧ InOrder fate rest :=
  List.pairwise_cons

/-- Behind a pending entry nothing has a fate that is given out in order. -/
theorem withFate_eq_nil_of_pending {fate : Fate ρ} {item : α} {rest : Ledger α ρ}
    (ordered : InOrder fate ((item, .pending) :: rest)) : rest.withFate fate = [] := by
  have none : ∀ later ∈ rest, later.2 ≠ fate := by
    intro later member same
    exact (inOrder_cons.mp ordered).1 later member same rfl
  simpa [withFate, List.filter_eq_nil_iff] using none

/-- A fate that is given out in order collects the settled entries at its end. -/
theorem withFate_settle {fate : Fate ρ} (settled : fate ≠ .pending) {ledger : Ledger α ρ}
    (ordered : InOrder fate ledger) (count : Nat) :
    (settle fate count ledger).withFate fate =
      ledger.withFate fate ++ (ledger.withFate .pending).take count := by
  fun_induction settle fate count ledger with
  | case1 ledger => simp
  | case2 => simp
  | case3 count item rest ih =>
      have empty := withFate_eq_nil_of_pending ordered
      have tail := ih (inOrder_cons.mp ordered).2
      simp [withFate_cons, settled.symm, empty, tail]
  | case4 count item rest ih =>
      have tail := ih (inOrder_cons.mp ordered).2
      by_cases same : (.delivered : Fate ρ) = fate
      · simp [withFate_cons, same, settled, tail]
      · simp [withFate_cons, same, tail]
  | case5 count item reason rest ih =>
      have tail := ih (inOrder_cons.mp ordered).2
      by_cases same : .lost reason = fate
      · simp [withFate_cons, same, settled, tail]
      · simp [withFate_cons, same, tail]

omit [DecidableEq ρ] in
/-- Settling from the front keeps every order. -/
theorem InOrder.settle {wanted fate : Fate ρ} (settled : fate ≠ .pending)
    {ledger : Ledger α ρ} (ordered : InOrder wanted ledger) (count : Nat) :
    InOrder wanted (settle fate count ledger) := by
  fun_induction Ledger.settle fate count ledger with
  | case1 ledger => exact ordered
  | case2 => exact ordered
  | case3 count item rest ih =>
      exact inOrder_cons.mpr ⟨fun _ _ _ => settled, ih (inOrder_cons.mp ordered).2⟩
  | case4 count item rest ih =>
      exact inOrder_cons.mpr ⟨fun _ _ _ => by simp, ih (inOrder_cons.mp ordered).2⟩
  | case5 count item reason rest ih =>
      exact inOrder_cons.mpr ⟨fun _ _ _ => by simp, ih (inOrder_cons.mp ordered).2⟩

omit [DecidableEq ρ] in
/-- Entries with another fate can be recorded at any time. -/
theorem InOrder.record_of_ne {wanted fate : Fate ρ} (other : fate ≠ wanted)
    {ledger : Ledger α ρ} (ordered : InOrder wanted ledger) (items : List α) :
    InOrder wanted (ledger.record fate items) := by
  apply List.pairwise_append.mpr
  constructor
  · exact ordered
  constructor
  · exact List.pairwise_map.mpr (List.pairwise_of_forall fun _ _ same => absurd same other)
  · intro earlier _ later member same
    obtain ⟨item, -, rfl⟩ := List.mem_map.mp member
    exact absurd same other

/-- Entries can be recorded with a fate of their own when nothing is pending. -/
theorem InOrder.record_of_idle {fate : Fate ρ} (settled : fate ≠ .pending)
    {ledger : Ledger α ρ} (idle : ledger.withFate .pending = []) {wanted : Fate ρ}
    (ordered : InOrder wanted ledger) (items : List α) :
    InOrder wanted (ledger.record fate items) := by
  have quiet : ∀ entry ∈ ledger, entry.2 ≠ .pending := by
    simpa [withFate, List.filter_eq_nil_iff] using idle
  apply List.pairwise_append.mpr
  constructor
  · exact ordered
  constructor
  · exact List.pairwise_map.mpr (List.pairwise_of_forall fun _ _ _ => settled)
  · intro earlier member later _ _
    exact quiet earlier member

end Ledger

end K50sv1.Data
