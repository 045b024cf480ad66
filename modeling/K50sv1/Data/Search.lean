import Mathlib.Data.List.Infix
import Mathlib.Order.Bounds.Basic

/-!
# Searching a text

The plain search compares the text at every position and stops at the first match.  It
finds something exactly if the text occurs as an infix, and what it finds is the least
position at which the text occurs.
-/

namespace K50sv1.Data.Search

universe u

variable {α : Type u} [DecidableEq α]

/-- The first position at which `text` occurs. -/
def find (text : List α) : List α → Option Nat
  | [] => if text = [] then some 0 else none
  | first :: rest =>
      if text <+: first :: rest then some 0 else (find text rest).map (· + 1)

theorem find_eq_none_iff {text data : List α} : find text data = none ↔ ¬text <:+: data := by
  induction data with
  | nil => simp [find]
  | cons first rest ih =>
      rw [find, List.infix_cons_iff, not_or]
      split_ifs with here
      · simp [here]
      · simp [here, ih]

theorem find_isSome_iff {text data : List α} : (find text data).isSome = true ↔ text <:+: data := by
  rw [← not_iff_not, ← find_eq_none_iff, Bool.not_eq_true, Option.isSome_eq_false_iff,
    Option.isNone_iff_eq_none]

/-- The text is where it was found. -/
theorem find_split {text data : List α} {position : Nat} (found : find text data = some position) :
    data = data.take position ++ text ++ data.drop (position + text.length) ∧
      position + text.length ≤ data.length := by
  induction data generalizing position with
  | nil =>
      rw [find] at found
      split_ifs at found with empty
      cases found
      simp [empty]
  | cons first rest ih =>
      rw [find] at found
      split_ifs at found with here
      · cases found
        obtain ⟨others, split⟩ := here
        simp [← split]
      · obtain ⟨position, later, rfl⟩ := Option.map_eq_some_iff.mp found
        obtain ⟨split, inside⟩ := ih later
        constructor
        · rw [Nat.add_right_comm, List.take_succ_cons, List.drop_succ_cons, List.cons_append,
            List.cons_append, ← split]
        · rw [List.length_cons]
          omega

theorem find_append_self (text after : List α) : find text (text ++ after) = some 0 := by
  cases data : text ++ after with
  | nil => rw [find, if_pos (List.append_eq_nil_iff.mp data).1]
  | cons first rest => rw [find, if_pos ⟨after, data⟩]

/-- No occurrence starts before the one that was found. -/
theorem find_le {text before after : List α} {position : Nat}
    (found : find text (before ++ (text ++ after)) = some position) :
    position ≤ before.length := by
  induction before generalizing position with
  | nil =>
      rw [List.nil_append, find_append_self] at found
      cases found
      exact Nat.zero_le _
  | cons first rest ih =>
      rw [List.cons_append, find] at found
      split_ifs at found with here
      · cases found
        exact Nat.zero_le _
      · obtain ⟨position, later, rfl⟩ := Option.map_eq_some_iff.mp found
        exact Nat.succ_le_succ (ih later)

/-! ## Occurrences -/

/-- `text` stands in `data` from `position` on. -/
def OccursAt (text data : List α) (position : Nat) : Prop :=
  text <+: data.drop position

section Occurrences

omit [DecidableEq α]

theorem occursAt_succ {text rest : List α} {first : α} {position : Nat} :
    OccursAt text (first :: rest) (position + 1) ↔ OccursAt text rest position :=
  Iff.rfl

/-- An occurrence inside a window. -/
theorem occursAt_window {text data : List α} {start size position : Nat} :
    OccursAt text ((data.drop start).take size) position ↔
      OccursAt text data (start + position) ∧ text.length ≤ size - position := by
  rw [OccursAt, OccursAt, List.drop_take, List.drop_drop, List.prefix_take_iff]

theorem infix_iff_occursAt {text data : List α} :
    text <:+: data ↔ ∃ position, OccursAt text data position := by
  constructor
  · rintro ⟨before, after, rfl⟩
    refine ⟨before.length, after, ?_⟩
    rw [List.append_assoc, List.drop_left]
  · rintro ⟨position, occurs⟩
    exact occurs.isInfix.trans (List.drop_suffix position data).isInfix

/-- An occurrence at the very start is the first one. -/
theorem some_zero_eq_iff {text data : List α} {position : Nat} (here : OccursAt text data 0) :
    some 0 = some position ↔ IsLeast {p | OccursAt text data p} position := by
  have least : IsLeast {p | OccursAt text data p} 0 := ⟨here, fun p _ => Nat.zero_le p⟩
  constructor
  · rintro ⟨⟩
    exact least
  · intro other
    rw [other.unique least]

/-- Without an occurrence at the very start the first one is that of the rest. -/
theorem isLeast_occursAt_succ {text rest : List α} {first : α} {position : Nat}
    (missing : ¬ OccursAt text (first :: rest) 0) :
    IsLeast {p | OccursAt text (first :: rest) p} (position + 1) ↔
      IsLeast {p | OccursAt text rest p} position := by
  constructor
  · rintro ⟨occurs, least⟩
    exact ⟨occurs, fun p other => Nat.succ_le_succ_iff.mp (least (occursAt_succ.mpr other))⟩
  · rintro ⟨occurs, least⟩
    refine ⟨occurs, fun p other => ?_⟩
    cases p with
    | zero => exact absurd other missing
    | succ p => exact Nat.succ_le_succ (least (occursAt_succ.mp other))

end Occurrences

/-- The search finds the first occurrence. -/
theorem find_eq_some_iff {text data : List α} {position : Nat} :
    find text data = some position ↔ IsLeast {p | OccursAt text data p} position := by
  induction data generalizing position with
  | nil =>
      have occurs : ∀ p, OccursAt text ([] : List α) p ↔ text = [] := by
        simp [OccursAt]
      rw [find]
      split_ifs with empty
      · exact some_zero_eq_iff ((occurs 0).mpr empty)
      · constructor
        · intro found
          cases found
        · intro least
          exact absurd ((occurs position).mp least.1) empty
  | cons first rest ih =>
      rw [find]
      split_ifs with here
      · exact some_zero_eq_iff here
      · rw [Option.map_eq_some_iff]
        cases position with
        | zero =>
            constructor
            · rintro ⟨position, -, same⟩
              cases same
            · intro least
              exact absurd least.1 here
        | succ position =>
            rw [isLeast_occursAt_succ here, ← ih]
            constructor
            · rintro ⟨found, same, equal⟩
              rw [same, Nat.succ.inj equal]
            · intro found
              exact ⟨position, found, rfl⟩

end K50sv1.Data.Search
