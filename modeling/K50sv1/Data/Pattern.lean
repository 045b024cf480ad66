import Mathlib.Data.List.Basic

/-!
# Patterns over a text

A pattern is a sequence of atoms: one element, a run of elements of any length, or an
assertion about what stands before and behind the position.  The relation `Matches` says
what a pattern matches; the matcher that tries every length of every run decides it.
At the end, a text is split behind every element of a kind.
-/

namespace K50sv1.Data.Pattern

universe u

inductive Atom (α : Type u) where
  | one (p : α → Bool)
  | many (p : α → Bool)
  /-- nothing is consumed; the arguments are what stands before and behind the position -/
  | check (p : List α → List α → Bool)

variable {α : Type u}

/-- The atoms match `matched` between `before` and `after`. -/
inductive Matches : List (Atom α) → List α → List α → List α → Prop where
  | nil (before after : List α) : Matches [] before [] after
  | one {p : α → Bool} {rest : List (Atom α)} {before matched after : List α} {element : α}
      (holds : p element = true) (tail : Matches rest (before ++ [element]) matched after) :
      Matches (.one p :: rest) before (element :: matched) after
  | many {p : α → Bool} {rest : List (Atom α)} {before run matched after : List α}
      (holds : ∀ element ∈ run, p element = true)
      (tail : Matches rest (before ++ run) matched after) :
      Matches (.many p :: rest) before (run ++ matched) after
  | check {p : List α → List α → Bool} {rest : List (Atom α)} {before matched after : List α}
      (holds : p before (matched ++ after) = true) (tail : Matches rest before matched after) :
      Matches (.check p :: rest) before matched after

/-- Whether the atoms match at the start of the last argument. -/
def matchesAt : List (Atom α) → List α → List α → Bool
  | [], _, _ => true
  | .one _ :: _, _, [] => false
  | .one p :: rest, before, element :: after =>
      p element && matchesAt rest (before ++ [element]) after
  | .many _ :: rest, before, [] => matchesAt rest before []
  | .many p :: rest, before, element :: after =>
      matchesAt rest before (element :: after) ||
        (p element && matchesAt (.many p :: rest) (before ++ [element]) after)
  | .check p :: rest, before, after => p before after && matchesAt rest before after
termination_by atoms _ after => (atoms.length, after.length)

/-- Whether the atoms match somewhere in the last argument. -/
def occursFrom (atoms : List (Atom α)) : List α → List α → Bool
  | before, [] => matchesAt atoms before []
  | before, element :: after =>
      matchesAt atoms before (element :: after) || occursFrom atoms (before ++ [element]) after

def occurs (atoms : List (Atom α)) (text : List α) : Bool :=
  occursFrom atoms [] text

/-! ## What a pattern matches, atom by atom -/

section Inversion

variable {rest : List (Atom α)} {before matched after : List α}

@[simp]
theorem matches_nil_iff : Matches [] before matched after ↔ matched = [] := by
  constructor
  · rintro ⟨⟩
    rfl
  · rintro rfl
    exact .nil before after

@[simp]
theorem matches_check_iff {p : List α → List α → Bool} :
    Matches (.check p :: rest) before matched after ↔
      p before (matched ++ after) = true ∧ Matches rest before matched after := by
  constructor
  · rintro ⟨⟩
    exact ⟨‹_›, ‹_›⟩
  · rintro ⟨holds, tail⟩
    exact .check holds tail

@[simp]
theorem matches_one_iff {p : α → Bool} :
    Matches (.one p :: rest) before matched after ↔
      ∃ element others, matched = element :: others ∧ p element = true ∧
        Matches rest (before ++ [element]) others after := by
  constructor
  · rintro ⟨⟩
    exact ⟨_, _, rfl, ‹_›, ‹_›⟩
  · rintro ⟨element, others, rfl, holds, tail⟩
    exact .one holds tail

@[simp]
theorem matches_many_iff {p : α → Bool} :
    Matches (.many p :: rest) before matched after ↔
      ∃ run others, matched = run ++ others ∧ (∀ element ∈ run, p element = true) ∧
        Matches rest (before ++ run) others after := by
  constructor
  · intro matches'
    generalize atomsEq : Atom.many p :: rest = atoms at matches'
    cases matches' with
    | many holds tail =>
        cases atomsEq
        exact ⟨_, _, rfl, holds, tail⟩
    | _ => cases atomsEq
  · rintro ⟨run, others, rfl, holds, tail⟩
    exact .many holds tail

end Inversion

section Literal

variable [DecidableEq α]

/-- The pattern of a text itself. -/
def literal (text : List α) : List (Atom α) :=
  text.map fun element => .one (· = element)

@[simp]
theorem matches_literal_iff {text : List α} {rest : List (Atom α)}
    {before matched after : List α} :
    Matches (literal text ++ rest) before matched after ↔
      ∃ others, matched = text ++ others ∧ Matches rest (before ++ text) others after := by
  induction text generalizing before matched with
  | nil => simp [literal]
  | cons element text ih =>
      rw [literal, List.map_cons, List.cons_append, matches_one_iff]
      constructor
      · rintro ⟨_, others, rfl, same, next⟩
        obtain rfl := of_decide_eq_true same
        obtain ⟨remaining, rfl, tail⟩ := ih.1 next
        rw [List.append_assoc] at tail
        exact ⟨remaining, rfl, tail⟩
      · rintro ⟨remaining, rfl, tail⟩
        refine ⟨element, text ++ remaining, rfl, decide_eq_true rfl, ih.2 ⟨remaining, rfl, ?_⟩⟩
        rwa [List.append_assoc]

end Literal

/-! ## The matcher -/

/-- The atoms match what stands at the start of `text`. -/
def Starts (atoms : List (Atom α)) (before text : List α) : Prop :=
  ∃ matched after, text = matched ++ after ∧ Matches atoms before matched after

section Starts

variable {rest : List (Atom α)} {before text : List α}

theorem starts_nil : Starts [] before text :=
  ⟨[], text, rfl, .nil before text⟩

theorem starts_one_iff {p : α → Bool} :
    Starts (.one p :: rest) before text ↔
      ∃ element behind, text = element :: behind ∧ p element = true ∧
        Starts rest (before ++ [element]) behind := by
  constructor
  · rintro ⟨_, after, rfl, found⟩
    obtain ⟨element, others, rfl, holds, tail⟩ := matches_one_iff.1 found
    exact ⟨element, others ++ after, rfl, holds, others, after, rfl, tail⟩
  · rintro ⟨element, _, rfl, holds, matched, after, rfl, tail⟩
    exact ⟨element :: matched, after, rfl, .one holds tail⟩

theorem starts_check_iff {p : List α → List α → Bool} :
    Starts (.check p :: rest) before text ↔ p before text = true ∧ Starts rest before text := by
  constructor
  · rintro ⟨matched, after, rfl, found⟩
    obtain ⟨holds, tail⟩ := matches_check_iff.1 found
    exact ⟨holds, matched, after, rfl, tail⟩
  · rintro ⟨holds, matched, after, rfl, tail⟩
    exact ⟨matched, after, rfl, .check holds tail⟩

/-- A run is empty or one longer than a run behind its first element. -/
theorem starts_many_iff {p : α → Bool} :
    Starts (.many p :: rest) before text ↔
      Starts rest before text ∨ ∃ element behind, text = element :: behind ∧
        p element = true ∧ Starts (.many p :: rest) (before ++ [element]) behind := by
  constructor
  · rintro ⟨_, after, rfl, found⟩
    obtain ⟨run, others, rfl, all, tail⟩ := matches_many_iff.1 found
    cases run with
    | nil =>
        rw [List.append_nil] at tail
        exact .inl ⟨others, after, rfl, tail⟩
    | cons element run =>
        obtain ⟨holds, all⟩ := List.forall_mem_cons.1 all
        refine .inr ⟨element, run ++ others ++ after, rfl, holds, run ++ others, after, rfl,
          .many all ?_⟩
        rwa [List.append_assoc]
  · rintro (⟨matched, after, rfl, tail⟩ | ⟨element, _, rfl, holds, _, after, rfl, found⟩)
    · refine ⟨[] ++ matched, after, rfl, .many nofun ?_⟩
      rwa [List.append_nil]
    · obtain ⟨run, others, rfl, all, tail⟩ := matches_many_iff.1 found
      refine ⟨element :: run ++ others, after, rfl,
        .many (List.forall_mem_cons.2 ⟨holds, all⟩) ?_⟩
      rwa [List.append_assoc] at tail

end Starts

theorem matchesAt_iff {atoms : List (Atom α)} {before text : List α} :
    matchesAt atoms before text = true ↔ Starts atoms before text := by
  fun_induction matchesAt atoms before text with
  | case1 before text => exact iff_of_true rfl starts_nil
  | case2 p rest before => simp [starts_one_iff]
  | case3 p rest before element behind ih => simp [starts_one_iff, ih]
  | case4 p rest before ih =>
      rw [ih, starts_many_iff]
      simp
  | case5 p rest before element behind ihSkip ihTake =>
      refine Iff.trans ?_ starts_many_iff.symm
      rw [Bool.or_eq_true, Bool.and_eq_true, ihSkip, ihTake]
      simp
  | case6 p rest before behind ih => rw [Bool.and_eq_true, ih, starts_check_iff]

theorem occursFrom_iff {atoms : List (Atom α)} {before text : List α} :
    occursFrom atoms before text = true ↔
      ∃ skipped matched after, text = skipped ++ matched ++ after ∧
        Matches atoms (before ++ skipped) matched after := by
  induction text generalizing before with
  | nil =>
      rw [occursFrom, matchesAt_iff, Starts]
      constructor
      · rintro ⟨matched, after, split, found⟩
        exact ⟨[], matched, after, split, by rwa [List.append_nil]⟩
      · rintro ⟨skipped, matched, after, split, found⟩
        obtain ⟨rfl, rfl, rfl⟩ : skipped = [] ∧ matched = [] ∧ after = [] := by
          simpa [and_assoc] using split
        exact ⟨[], [], rfl, by rwa [List.append_nil] at found⟩
  | cons element text ih =>
      rw [occursFrom, Bool.or_eq_true, matchesAt_iff, Starts, ih]
      constructor
      · rintro (⟨matched, after, split, found⟩ | ⟨skipped, matched, after, rfl, found⟩)
        · exact ⟨[], matched, after, split, by rwa [List.append_nil]⟩
        · exact ⟨element :: skipped, matched, after, rfl, by rwa [List.append_assoc] at found⟩
      · rintro ⟨skipped, matched, after, split, found⟩
        cases skipped with
        | nil => exact .inl ⟨matched, after, split, by rwa [List.append_nil] at found⟩
        | cons first skipped =>
            obtain ⟨rfl, rfl⟩ := List.cons.inj split
            exact .inr ⟨skipped, matched, after, rfl, by rwa [List.append_assoc]⟩

theorem occurs_iff {atoms : List (Atom α)} {text : List α} :
    occurs atoms text = true ↔
      ∃ before matched after, text = before ++ matched ++ after ∧
        Matches atoms before matched after :=
  occursFrom_iff

/-! ## Splitting -/

/-- The fields of a text, each up to and with the next `stop`; the last one may be empty. -/
def fields (stop : α → Bool) : List α → List (List α)
  | [] => [[]]
  | element :: text =>
      if stop element then [element] :: fields stop text
      else
        match fields stop text with
        | [] => [[element]]
        | first :: others => (element :: first) :: others

/-- Split behind every `stop`; an empty text has no fields at all. -/
def splitAfter (stop : α → Bool) (text : List α) : List (List α) :=
  match text with
  | [] => []
  | text => fields stop text

/-- The parts make up the text; each but the last ends with its only `stop`. -/
structure WholeParts (stop : α → Bool) (text : List α) (parts : List (List α)) : Prop where
  flatten : parts.flatten = text
  inner : ∀ part ∈ parts, ∀ element ∈ part.dropLast, stop element = false
  ended : ∀ part ∈ parts.dropLast, ∃ start last, part = start ++ [last] ∧ stop last = true

theorem fields_ne_nil (stop : α → Bool) (text : List α) : fields stop text ≠ [] := by
  cases text with
  | nil => exact List.cons_ne_nil _ _
  | cons element text =>
      rw [fields]
      split
      · exact List.cons_ne_nil _ _
      · split <;> exact List.cons_ne_nil _ _

theorem WholeParts.cons {stop : α → Bool} {text first : List α} {others : List (List α)}
    (whole : WholeParts stop text (first :: others)) {element : α}
    (goesOn : stop element = false) :
    WholeParts stop (element :: text) ((element :: first) :: others) where
  flatten := congrArg (element :: ·) whole.flatten
  inner := by
    obtain ⟨inFirst, inOthers⟩ := List.forall_mem_cons.1 whole.inner
    refine List.forall_mem_cons.2 ⟨?_, inOthers⟩
    cases first with
    | nil => simp
    | cons second first =>
        rw [List.dropLast_cons_of_ne_nil (List.cons_ne_nil _ _)]
        exact List.forall_mem_cons.2 ⟨goesOn, inFirst⟩
  ended := by
    have ended := whole.ended
    cases others with
    | nil => simp
    | cons next others =>
        rw [List.dropLast_cons_of_ne_nil (List.cons_ne_nil _ _)] at ended ⊢
        obtain ⟨⟨start, last, split, stops⟩, later⟩ := List.forall_mem_cons.1 ended
        exact List.forall_mem_cons.2
          ⟨⟨element :: start, last, congrArg (element :: ·) split, stops⟩, later⟩

theorem wholeParts_fields (stop : α → Bool) (text : List α) :
    WholeParts stop text (fields stop text) := by
  induction text with
  | nil => exact ⟨rfl, by simp [fields], by simp [fields]⟩
  | cons element text ih =>
      rw [fields]
      split
      · rename_i stops
        refine ⟨congrArg (element :: ·) ih.flatten, ?_, ?_⟩
        · exact List.forall_mem_cons.2 ⟨by simp, ih.inner⟩
        · rw [List.dropLast_cons_of_ne_nil (fields_ne_nil stop text)]
          exact List.forall_mem_cons.2 ⟨⟨[], element, rfl, stops⟩, ih.ended⟩
      · rename_i goesOn
        cases parts : fields stop text with
        | nil => exact absurd parts (fields_ne_nil stop text)
        | cons first others =>
            rw [parts] at ih
            exact ih.cons (Bool.not_eq_true _ ▸ goesOn)

theorem wholeParts_splitAfter (stop : α → Bool) (text : List α) :
    WholeParts stop text (splitAfter stop text) := by
  cases text with
  | nil => exact ⟨rfl, by simp [splitAfter], by simp [splitAfter]⟩
  | cons element text => exact wholeParts_fields stop (element :: text)

end K50sv1.Data.Pattern
