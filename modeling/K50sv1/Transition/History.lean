import Mathlib.Data.List.Induction

/-!
# Histories

A component records the calls it makes in a list that only grows at its end.  What a call
may rely on is a statement about the calls before it; what it rules out is a statement
about the calls after it.  Both are kept along a run by looking at the last call alone.
-/

namespace K50sv1.Transition

universe u v

variable {α : Type u}

/-- Where a call stands in a history with a last call: it is the last one, or it stands in
what came before. -/
theorem concat_eq_append_cons_iff {history front back : List α} {last call : α} :
    history ++ [last] = front ++ call :: back ↔
      (history = front ∧ last = call ∧ back = []) ∨
        ∃ middle, back = middle ++ [last] ∧ history = front ++ call :: middle := by
  constructor
  · intro split
    rcases List.eq_nil_or_concat back with rfl | ⟨middle, final, rfl⟩
    · obtain ⟨rfl, same⟩ := List.append_inj' split rfl
      exact .inl ⟨rfl, (List.cons.inj same).1, rfl⟩
    · rw [List.concat_eq_append, ← List.cons_append, ← List.append_assoc] at split
      obtain ⟨rfl, same⟩ := List.append_inj' split rfl
      obtain rfl := (List.cons.inj same).1
      exact .inr ⟨middle, List.concat_eq_append, rfl⟩
  · rintro (⟨rfl, rfl, rfl⟩ | ⟨middle, rfl, rfl⟩)
    · rfl
    · simp

/-- Every call stands in relation `Q` to the calls before it. -/
def AtEach (Q : List α → α → Prop) (history : List α) : Prop :=
  ∀ front call back, history = front ++ call :: back → Q front call

/-- Every call stands in relation `Q` to the calls after it. -/
def AfterEach (Q : α → List α → Prop) (history : List α) : Prop :=
  ∀ front call back, history = front ++ call :: back → Q call back

section AtEach

variable {Q : List α → α → Prop} {history : List α} {call : α}

theorem atEach_nil : AtEach Q [] := by
  intro front call back split
  simp at split

theorem atEach_concat_iff : AtEach Q (history ++ [call]) ↔ AtEach Q history ∧ Q history call := by
  constructor
  · intro each
    refine ⟨fun front earlier back split => ?_, each history call [] rfl⟩
    exact each front earlier (back ++ [call]) (by simp [split])
  · rintro ⟨earlier, last⟩ front other back split
    rcases concat_eq_append_cons_iff.mp split with ⟨rfl, rfl, -⟩ | ⟨middle, -, before⟩
    · exact last
    · exact earlier front other middle before

theorem AtEach.concat (earlier : AtEach Q history) (last : Q history call) :
    AtEach Q (history ++ [call]) :=
  atEach_concat_iff.mpr ⟨earlier, last⟩

end AtEach

section AfterEach

variable {P Q : α → List α → Prop} {history : List α} {call : α}

theorem afterEach_nil : AfterEach Q [] := by
  intro front call back split
  simp at split

/-- The last call has nothing after it, and every earlier one has one more call after
it. -/
theorem AfterEach.concat (earlier : AfterEach P history) (last : Q call [])
    (longer : ∀ other ∈ history, ∀ back, P other back → Q other (back ++ [call])) :
    AfterEach Q (history ++ [call]) := by
  intro front other back split
  rcases concat_eq_append_cons_iff.mp split with ⟨-, rfl, rfl⟩ | ⟨middle, rfl, rfl⟩
  · exact last
  · exact longer other (by simp) middle (earlier front other middle rfl)

/-- What holds of the calls that one thread shows holds in the whole history. -/
theorem AfterEach.of_filterMap {β : Type v} {shows : α → Option β} {R : β → List β → Prop}
    (each : AfterEach R (history.filterMap shows)) :
    AfterEach (fun call later => ∀ shown, shows call = some shown → R shown (later.filterMap shows))
      history := by
  rintro front call back rfl shown shows_call
  refine each (front.filterMap shows) shown (back.filterMap shows) ?_
  rw [List.filterMap_append, List.filterMap_cons_some shows_call]

end AfterEach

end K50sv1.Transition
