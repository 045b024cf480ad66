import Mathlib.Data.List.Induction
import Mathlib.Data.List.Nodup
import Mathlib.Data.List.Pairwise
import Mathlib.Logic.Basic

/-!
# Collecting what items contribute

A collector goes through a list of items and accumulates what it finds in them.  Looking
at an item either fails, finds nothing, or finds one contribution; a contribution may
still clash with an earlier one.  The collector itself is one step that does all of this
at once and stops at the first failure.

The result says when the collector gets through, and what its state then shows, in terms
of the contributions alone.  Nothing in it refers to the order of the items unless the
clash relation or the description of the state does.
-/

namespace K50sv1.Data

universe u v w x

variable {α : Type u} {β : Type v} {σ : Type w} {ε : Type x}

/-- What the items contribute. -/
def contributions (examine : α → Except ε (Option β)) (items : List α) : List β :=
  items.filterMap fun item =>
    match examine item with
    | .ok found => found
    | .error _ => none

theorem mem_contributions_iff {examine : α → Except ε (Option β)} {items : List α} {found : β} :
    found ∈ contributions examine items ↔ ∃ item ∈ items, examine item = .ok (some found) := by
  rw [contributions, List.mem_filterMap]
  constructor
  · rintro ⟨item, member, same⟩
    cases examined : examine item with
    | ok result =>
        rw [examined] at same
        exact ⟨item, member, examined.trans (congrArg Except.ok same)⟩
    | error errno =>
        rw [examined] at same
        contradiction
  · rintro ⟨item, member, examined⟩
    exact ⟨item, member, by rw [examined]⟩

section Concat

variable {examine : α → Except ε (Option β)} {items : List α} {item : α}

theorem contributions_concat_found {found : β} (examined : examine item = .ok (some found)) :
    contributions examine (items ++ [item]) = contributions examine items ++ [found] := by
  simp [contributions, examined]

theorem contributions_concat_nothing (examined : examine item = .ok none) :
    contributions examine (items ++ [item]) = contributions examine items := by
  simp [contributions, examined]

end Concat

/-- Whether distinct items agree is not a matter of their order. -/
theorem pairwise_contributions_iff {examine : α → Except ε (Option β)} {items : List α}
    {Agree : β → β → Prop} (symm : ∀ {first second}, Agree first second → Agree second first)
    (distinct : items.Nodup) :
    (contributions examine items).Pairwise Agree ↔
      ∀ item ∈ items, ∀ other ∈ items, item ≠ other → ∀ found found',
        examine item = .ok (some found) → examine other = .ok (some found') →
          Agree found found' := by
  have picked : ∀ {item : α} {found : β},
      (match examine item with
      | .ok found => found
      | .error _ => none) = some found ↔ examine item = .ok (some found) := by
    intro item found
    cases examine item <;> simp
  rw [contributions, List.pairwise_filterMap]
  simp only [picked]
  constructor
  · intro agree
    have sym : Std.Symm fun first second => ∀ found, examine first = .ok (some found) →
        ∀ found', examine second = .ok (some found') → Agree found found' :=
      ⟨fun _ _ forward found looked found' looked' => symm (forward found' looked' found looked)⟩
    intro item member other member' different found found' looked looked'
    exact agree.forall member member' different found looked found' looked'
  · intro agree
    apply List.Nodup.pairwise_of_forall_ne distinct
    intro item member other member' different found looked found' looked'
    exact agree item member other member' different found found' looked looked'

/-- `step` looks at items as `examine` does and refuses a contribution exactly if it
clashes with an earlier one.  `Shows found state` describes the state after the
contributions `found`. -/
structure Collector (examine : α → Except ε (Option β)) (step : σ → α → Except ε σ)
    (Agree : β → β → Prop) (Shows : List β → σ → Prop) : Prop where
  failure : ∀ state item errno, examine item = .error errno → ∃ e, step state item = .error e
  nothing : ∀ state item, examine item = .ok none → step state item = .ok state
  agreement : ∀ {earlier state} item found, examine item = .ok (some found) →
    Shows earlier state → (∀ other ∈ earlier, Agree other found) →
    ∃ after, step state item = .ok after ∧ Shows (earlier ++ [found]) after
  clash : ∀ {earlier state other} item found, examine item = .ok (some found) →
    Shows earlier state → other ∈ earlier → ¬Agree other found →
    ∃ e, step state item = .error e

namespace Collector

variable {examine : α → Except ε (Option β)} {step : σ → α → Except ε σ}
  {Agree : β → β → Prop} {Shows : List β → σ → Prop}

/-- Every item can be examined, and the contributions agree. -/
def Collectable (examine : α → Except ε (Option β)) (Agree : β → β → Prop) (items : List α) :
    Prop :=
  (∀ item ∈ items, ∃ found, examine item = .ok found) ∧
    (contributions examine items).Pairwise Agree

theorem Collectable.earlier {items : List α} {item : α}
    (collectable : Collectable examine Agree (items ++ [item])) :
    Collectable examine Agree items := by
  obtain ⟨examined, agree⟩ := collectable
  refine ⟨fun other member => examined other (List.mem_append_left _ member), ?_⟩
  exact agree.sublist (List.Sublist.filterMap _ (List.sublist_append_left items [item]))

/-- The last item is looked at in the state that the others have left. -/
theorem foldlM_concat (start : σ) (items : List α) (item : α) :
    (items ++ [item]).foldlM step start = (items.foldlM step start).bind (step · item) := by
  rw [List.foldlM_append]
  cases items.foldlM step start with
  | ok state =>
      change ([item].foldlM step state) = step state item
      rw [List.foldlM_cons]
      cases step state item <;> rfl
  | error errno => rfl

/-- The collector gets through exactly the collectable lists. -/
theorem foldlM_cases (collector : Collector examine step Agree Shows) {start : σ}
    (empty : Shows [] start) (items : List α) :
    (Collectable examine Agree items ∧
        ∃ after, items.foldlM step start = .ok after ∧
          Shows (contributions examine items) after) ∨
      (¬Collectable examine Agree items ∧ ∃ errno, items.foldlM step start = .error errno) := by
  -- from the front, so that the step sees the contributions of all earlier items
  induction items using List.reverseRecOn with
  | nil => exact .inl ⟨⟨by simp, List.Pairwise.nil⟩, start, rfl, empty⟩
  | append_singleton items item ih =>
      rw [foldlM_concat]
      rcases ih with ⟨⟨examined, agree⟩, state, folded, shown⟩ | ⟨stuck, errno, folded⟩
      case inr =>
        rw [folded]
        exact .inr ⟨fun collectable => stuck collectable.earlier, errno, rfl⟩
      rw [folded]
      change _ ∧ (∃ after, step state item = .ok after ∧ _) ∨
        _ ∧ ∃ errno, step state item = .error errno
      cases looked : examine item with
      | error errno =>
          right
          refine ⟨fun collectable => ?_, collector.failure state item errno looked⟩
          obtain ⟨found, same⟩ := collectable.1 item List.mem_concat_self
          rw [looked] at same
          contradiction
      | ok found =>
          have allExamined : ∀ other ∈ items ++ [item], ∃ found, examine other = .ok found := by
            intro other member
            rcases List.mem_append.mp member with earlier | final
            · exact examined other earlier
            · exact ⟨found, List.mem_singleton.mp final ▸ looked⟩
          cases found with
          | none =>
              rw [Collectable, contributions_concat_nothing looked]
              exact .inl ⟨⟨allExamined, agree⟩, state, collector.nothing state item looked, shown⟩
          | some found =>
              rw [Collectable, contributions_concat_found looked, List.pairwise_append]
              by_cases fits : ∀ other ∈ contributions examine items, Agree other found
              · left
                refine ⟨⟨allExamined, agree, List.pairwise_singleton _ _, ?_⟩,
                  collector.agreement item found looked shown fits⟩
                intro other member last final
                exact List.mem_singleton.mp final ▸ fits other member
              · right
                push Not at fits
                obtain ⟨other, member, different⟩ := fits
                refine ⟨fun collectable => different ?_,
                  collector.clash item found looked shown member different⟩
                exact collectable.2.2.2 other member found (List.mem_singleton_self found)

end Collector

end K50sv1.Data
