import Mathlib.Data.List.Induction

/-!
# Transducers

A component that consumes one input at a time, updates its state and answers with
a list of outputs.  Unlike the partial transitions of `K50sv1.Transition.Run`,
every input is accepted; what matters is the answer to each input of a sequence,
in order.
-/

namespace K50sv1.Transition

universe u v w x

/-- A total transition with outputs. -/
abbrev Transducer (ι : Type u) (ο : Type v) (σ : Type w) :=
  σ → ι → σ × List ο

variable {ι : Type u} {ο : Type v} {σ : Type w} {τ : Type x}

/-- The state after a sequence of inputs. -/
def stateAfter (next : Transducer ι ο σ) : σ → List ι → σ
  | state, [] => state
  | state, input :: inputs => stateAfter next (next state input).1 inputs

/-- The answers to a sequence of inputs, one list for each input. -/
def answers (next : Transducer ι ο σ) : σ → List ι → List (List ο)
  | _, [] => []
  | state, input :: inputs =>
      (next state input).2 :: answers next (next state input).1 inputs

theorem stateAfter_append (next : Transducer ι ο σ) (state : σ) (first second : List ι) :
    stateAfter next state (first ++ second) =
      stateAfter next (stateAfter next state first) second := by
  induction first generalizing state with
  | nil => rfl
  | cons input inputs ih => exact ih (next state input).1

@[simp]
theorem stateAfter_concat (next : Transducer ι ο σ) (state : σ) (past : List ι) (input : ι) :
    stateAfter next state (past ++ [input]) = (next (stateAfter next state past) input).1 :=
  stateAfter_append next state past [input]

theorem answers_append (next : Transducer ι ο σ) (state : σ) (first second : List ι) :
    answers next state (first ++ second) =
      answers next state first ++ answers next (stateAfter next state first) second := by
  induction first generalizing state with
  | nil => rfl
  | cons input inputs ih =>
      rw [List.cons_append, answers, ih (next state input).1]
      rfl

@[simp]
theorem length_answers (next : Transducer ι ο σ) (state : σ) (inputs : List ι) :
    (answers next state inputs).length = inputs.length := by
  induction inputs generalizing state with
  | nil => rfl
  | cons input inputs ih => simp [answers, ih]

/-- The answer to one input is computed in the state its predecessors left. -/
theorem answers_getElem? (next : Transducer ι ο σ) (state : σ) (past : List ι) (input : ι)
    (rest : List ι) :
    (answers next state (past ++ input :: rest))[past.length]? =
      some (next (stateAfter next state past) input).2 := by
  rw [answers_append, List.getElem?_append_right (by simp)]
  simp [answers]

/-- An input that leaves the state alone can be removed from the sequence without
changing any other answer. -/
theorem answers_eraseIdx {next : Transducer ι ο σ} {state : σ} {past : List ι} {input : ι}
    (unchanged : (next (stateAfter next state past) input).1 = stateAfter next state past)
    (rest : List ι) :
    (answers next state (past ++ input :: rest)).eraseIdx past.length =
      answers next state (past ++ rest) := by
  have answered : answers next (stateAfter next state past) (input :: rest) =
      (next (stateAfter next state past) input).2 ::
        answers next (stateAfter next state past) rest := by
    rw [answers, unchanged]
  rw [answers_append, answers_append, answered,
    List.eraseIdx_append_of_length_le (by simp), length_answers, Nat.sub_self,
    List.eraseIdx_cons_zero]

/-- Outputs of one kind that each input determines by itself come out in the order
of the inputs. -/
theorem filterMap_flatten_answers {next : Transducer ι ο σ} {kind : ο → Option τ}
    {expected : ι → Option τ}
    (each : ∀ state input, (next state input).2.filterMap kind = (expected input).toList)
    (state : σ) (inputs : List ι) :
    (answers next state inputs).flatten.filterMap kind = inputs.filterMap expected := by
  induction inputs generalizing state with
  | nil => rfl
  | cons input inputs ih =>
      rw [answers, List.flatten_cons, List.filterMap_append, each, ih]
      cases expectedEq : expected input with
      | none => simp [expectedEq]
      | some output => simp [expectedEq]

/-- Induction on the inputs consumed so far: a relation between a history and the
state it leads to. -/
theorem stateAfter_history {next : Transducer ι ο σ} {state : σ} {P : List ι → σ → Prop}
    (start : P [] state)
    (step : ∀ past current input, P past current → P (past ++ [input]) (next current input).1)
    (inputs : List ι) : P inputs (stateAfter next state inputs) := by
  induction inputs using List.reverseRecOn with
  | nil => exact start
  | append_singleton past input ih =>
      rw [stateAfter_concat]
      exact step past _ input ih

end K50sv1.Transition
