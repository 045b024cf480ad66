import K50sv1.Transition.Program

/-!
# Programs that are given a number of steps

An interpreter of code that may loop is a function of a number of steps, which yields a
program for each.  Such a family settles on a result if, whatever the choices of the
environment, all members with enough steps run alike; how many are enough may depend on
the choices.  The rules below give total correctness without counting steps.
-/

namespace K50sv1.Transition.Program

universe u v w x y

variable {Op : Type u} {Reply : Op → Type v} {σ : Type x} {χ : Type y}

section Play

variable (handle : Handler Op Reply σ χ)

/-- Run a program to its end and keep the choices that were not used. -/
def play {α : Type w} : Program Op Reply α → σ → (Nat → χ) → (α × σ) × (Nat → χ)
  | .done result, state, choices => ((result, state), choices)
  | .call op next, state, choices =>
      (next (handle state op (choices 0)).2).play (handle state op (choices 0)).1 fun n =>
        choices (n + 1)

theorem play_fst {α : Type w} (program : Program Op Reply α) (state : σ) (choices : Nat → χ) :
    (program.play handle state choices).1 = program.run handle state choices := by
  induction program generalizing state choices with
  | done result => rfl
  | call op next ih => exact ih _ _ _

theorem play_bind {α β : Type w} (program : Program Op Reply α)
    (rest : α → Program Op Reply β) (state : σ) (choices : Nat → χ) :
    (program.bind rest).play handle state choices =
      (rest (program.play handle state choices).1.1).play handle
        (program.play handle state choices).1.2 (program.play handle state choices).2 := by
  induction program generalizing state choices with
  | done result => rfl
  | call op next ih => exact ih _ _ _

/-- With enough steps the programs of the family run alike and end as `Q` says. -/
def Settles {α : Type w} (family : Nat → Program Op Reply α) (Q : α → σ → Prop) (state : σ) :
    Prop :=
  ∀ choices, ∃ steps ending,
    (∀ more, (family (steps + more)).play handle state choices = ending) ∧
      Q ending.1.1 ending.1.2

/-- Under these choices, every program of the family with enough steps has this result. -/
def SettlesOn {α : Type w} (family : Nat → Program Op Reply α) (state : σ) (choices : Nat → χ)
    (result : α) (after : σ) : Prop :=
  ∃ steps, ∀ more, (family (steps + more)).run handle state choices = (result, after)

end Play

section Rules

variable {handle : Handler Op Reply σ χ} {α β : Type w} {family : Nat → Program Op Reply α}
  {P Q : α → σ → Prop} {state : σ}

theorem settles_done {result : α} (post : Q result state) :
    Settles handle (fun _ => .done result) Q state :=
  fun _ => ⟨0, _, fun _ => rfl, post⟩

/-- The first step of the family is taken. -/
theorem settles_succ {after : Nat → Program Op Reply α}
    (first : ∀ steps, family (steps + 1) = after steps) (settles : Settles handle after Q state) :
    Settles handle family Q state := by
  intro choices
  obtain ⟨steps, ending, alike, post⟩ := settles choices
  refine ⟨steps + 1, ending, fun more => ?_, post⟩
  rw [Nat.add_right_comm, first]
  exact alike more

theorem settles_call {op : Op} {next : Nat → Reply op → Program Op Reply α}
    (settles : ∀ choice, Settles handle (fun steps => next steps (handle state op choice).2) Q
      (handle state op choice).1) :
    Settles handle (fun steps => .call op (next steps)) Q state :=
  fun choices => settles (choices 0) fun n => choices (n + 1)

theorem Settles.bind (settles : Settles handle family P state)
    {rest : Nat → α → Program Op Reply β} {R : β → σ → Prop}
    (continued : ∀ result after, P result after →
      Settles handle (fun steps => rest steps result) R after) :
    Settles handle (fun steps => (family steps).bind (rest steps)) R state := by
  intro choices
  obtain ⟨first, middle, alike, post⟩ := settles choices
  obtain ⟨second, ending, alikeAfter, done⟩ := continued _ _ post middle.2
  refine ⟨first + second, ending, fun more => ?_, done⟩
  rw [play_bind, Nat.add_assoc, alike, Nat.add_left_comm]
  exact alikeAfter (first + more)

theorem Settles.mono (settles : Settles handle family P state)
    (post : ∀ result after, P result after → Q result after) :
    Settles handle family Q state := by
  intro choices
  obtain ⟨steps, ending, alike, done⟩ := settles choices
  exact ⟨steps, ending, alike, post _ _ done⟩

/-- There is a result, and it is as the rules say. -/
theorem Settles.run (settles : Settles handle family Q state) (choices : Nat → χ) :
    ∃ result after, Q result after ∧
      SettlesOn handle family state choices result after := by
  obtain ⟨steps, ending, alike, post⟩ := settles choices
  refine ⟨ending.1.1, ending.1.2, post, steps, fun more => ?_⟩
  rw [← play_fst, alike]

/-- Any result is as the rules say. -/
theorem Settles.of_settlesOn (settles : Settles handle family Q state) {choices : Nat → χ}
    {result : α} {after : σ} (on : SettlesOn handle family state choices result after) :
    Q result after := by
  obtain ⟨other, otherAfter, post, first, alike⟩ := settles.run choices
  obtain ⟨second, same⟩ := on
  have both := alike second
  rw [Nat.add_comm, same first] at both
  obtain ⟨rfl, rfl⟩ := Prod.mk.inj both
  exact post

end Rules

end K50sv1.Transition.Program
