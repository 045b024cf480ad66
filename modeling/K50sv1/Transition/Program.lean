import Mathlib.Init
import Mathlib.Tactic.TypeStar

/-!
# Straight-line programs over a faulty interface

A program is a tree of calls into an interface; the reply to a call selects the
rest of the program.  The interface is a function of the state, the call and a
choice made by the environment, so every fault is a value of the choice.

Three views of a program are related here: its complete run against a stream of
choices, its execution one call at a time (which other components may
interleave with), and the weakest precondition that gives both.
-/

namespace K50sv1.Transition

universe u v w x y

/-- A program that makes calls `op : Op`, answered by a `Reply op`. -/
inductive Program (Op : Type u) (Reply : Op → Type v) (α : Type w) where
  | done (result : α)
  | call (op : Op) (next : Reply op → Program Op Reply α)

namespace Program

variable {Op : Type u} {Reply : Op → Type v}

/-- Sequential composition. -/
protected def bind {α β : Type w} :
    Program Op Reply α → (α → Program Op Reply β) → Program Op Reply β
  | .done result, rest => rest result
  | .call op next, rest => .call op fun reply => (next reply).bind rest

instance : Monad (Program Op Reply) where
  pure := .done
  bind := Program.bind

/-- A single call. -/
def perform (op : Op) : Program Op Reply (Reply op) :=
  .call op .done

/-- What an interface does with a call: the state after it and the reply. -/
abbrev Handler (Op : Type u) (Reply : Op → Type v) (σ : Type x) (χ : Type y) :=
  σ → (op : Op) → χ → σ × Reply op

section Semantics

variable {σ : Type x} {χ : Type y} (handle : Handler Op Reply σ χ)

/-- Run a program to its end.  Call number `n` is answered under choice `n`. -/
def run {α : Type w} : Program Op Reply α → σ → (Nat → χ) → α × σ
  | .done result, state, _ => (result, state)
  | .call op next, state, choices =>
      let (after, reply) := handle state op (choices 0)
      (next reply).run after fun n => choices (n + 1)

/-- `Inv` holds in every state the program passes through and `Q` of its result and
final state, whatever the choices. -/
def Ensures {α : Type w} (Inv : σ → Prop) :
    Program Op Reply α → (α → σ → Prop) → σ → Prop
  | .done result, Q, state => Inv state ∧ Q result state
  | .call op next, Q, state =>
      Inv state ∧ ∀ choice,
        Ensures Inv (next (handle state op choice).2) Q (handle state op choice).1

variable {handle}

theorem Ensures.inv {α : Type w} {Inv : σ → Prop} {program : Program Op Reply α}
    {Q : α → σ → Prop} {state : σ} (ensures : Ensures handle Inv program Q state) :
    Inv state := by
  cases program with
  | done result => exact ensures.1
  | call op next => exact ensures.1

theorem ensures_pure {α : Type w} {Inv : σ → Prop} {Q : α → σ → Prop} {result : α}
    {state : σ} (inv : Inv state) (post : Q result state) :
    Ensures handle Inv (pure result) Q state :=
  ⟨inv, post⟩

theorem ensures_perform {Inv : σ → Prop} {op : Op} {Q : Reply op → σ → Prop} {state : σ}
    (inv : Inv state)
    (post : ∀ choice, Inv (handle state op choice).1 ∧
      Q (handle state op choice).2 (handle state op choice).1) :
    Ensures handle Inv (perform op) Q state :=
  ⟨inv, post⟩

theorem Ensures.mono {α : Type w} {I J : σ → Prop} {program : Program Op Reply α}
    {P Q : α → σ → Prop} {state : σ} (ensures : Ensures handle I program P state)
    (inv : ∀ after, I after → J after)
    (post : ∀ result after, I after → P result after → Q result after) :
    Ensures handle J program Q state := by
  induction program generalizing state with
  | done result =>
      exact ⟨inv state ensures.1, post result state ensures.1 ensures.2⟩
  | call op next ih =>
      exact ⟨inv state ensures.1, fun choice => ih _ (ensures.2 choice)⟩

/-- The rule of sequential composition. -/
theorem ensures_bind {α β : Type w} {Inv : σ → Prop} {program : Program Op Reply α}
    {rest : α → Program Op Reply β} {Q : β → σ → Prop} {state : σ}
    (ensures : Ensures handle Inv program
      (fun result after => Ensures handle Inv (rest result) Q after) state) :
    Ensures handle Inv (program >>= rest) Q state := by
  induction program generalizing state with
  | done result => exact ensures.2
  | call op next ih => exact ⟨ensures.1, fun choice => ih _ (ensures.2 choice)⟩

/-- Sequential composition from a specification of the first part. -/
theorem Ensures.bind {α β : Type w} {Inv : σ → Prop} {program : Program Op Reply α}
    {rest : α → Program Op Reply β} {P : α → σ → Prop} {Q : β → σ → Prop} {state : σ}
    (first : Ensures handle Inv program P state)
    (second : ∀ result after, Inv after → P result after →
      Ensures handle Inv (rest result) Q after) :
    Ensures handle Inv (program >>= rest) Q state :=
  ensures_bind (first.mono (fun _ inv => inv) second)

/-- An invariant of the interface holds throughout every program. -/
theorem ensures_of_invariant {α : Type w} {Inv : σ → Prop}
    (kept : ∀ state op choice, Inv state → Inv (handle state op choice).1)
    (program : Program Op Reply α) {state : σ} (inv : Inv state) :
    Ensures handle Inv program (fun _ after => Inv after) state := by
  induction program generalizing state with
  | done result => exact ⟨inv, inv⟩
  | call op next ih => exact ⟨inv, fun choice => ih _ (kept state op choice inv)⟩

/-- A complete run ends as ensured. -/
theorem Ensures.run {α : Type w} {Inv : σ → Prop} {program : Program Op Reply α}
    {Q : α → σ → Prop} {state : σ} (ensures : Ensures handle Inv program Q state)
    (choices : Nat → χ) :
    Q (program.run handle state choices).1 (program.run handle state choices).2 := by
  induction program generalizing state choices with
  | done result => exact ensures.2
  | call op next ih => exact ih _ (ensures.2 (choices 0)) _

/-- The invariant holds at the end of a complete run. -/
theorem Ensures.run_inv {α : Type w} {Inv : σ → Prop} {program : Program Op Reply α}
    {Q : α → σ → Prop} {state : σ} (ensures : Ensures handle Inv program Q state)
    (choices : Nat → χ) :
    Inv (program.run handle state choices).2 := by
  have kept : Ensures handle Inv program (fun _ after => Inv after) state :=
    ensures.mono (fun _ inv => inv) fun _ _ inv _ => inv
  exact kept.run choices

end Semantics

/-! ## Programs of a part of an interface -/

section Embed

variable {Op : Type u} {Reply : Op → Type v} {Op' : Type u} {Reply' : Op' → Type v}
  {lift : Op → Op'} {reply : (op : Op) → Reply' (lift op) → Reply op}

/-- A program as a program of a larger interface. -/
def embed (lift : Op → Op') (reply : (op : Op) → Reply' (lift op) → Reply op) {α : Type w} :
    Program Op Reply α → Program Op' Reply' α
  | .done result => .done result
  | .call op next => .call (lift op) fun answer => (next (reply op answer)).embed lift reply

/-- A program does on its part of a larger state what it does alone.  The invariant of the
whole may use the one of the part. -/
theorem Ensures.embed {σ τ : Type x} {χ ξ : Type y} {handle : Handler Op Reply σ χ}
    {handle' : Handler Op' Reply' τ ξ} (part : τ → σ) (narrow : ξ → χ)
    (makes : ∀ op state choice,
      part (handle' state (lift op) choice).1 = (handle (part state) op (narrow choice)).1 ∧
        reply op (handle' state (lift op) choice).2 = (handle (part state) op (narrow choice)).2)
    {Inv : σ → Prop} {Outer : τ → Prop}
    (kept : ∀ op state choice, Outer state → Inv (part (handle' state (lift op) choice).1) →
      Outer (handle' state (lift op) choice).1)
    {α : Type w} {program : Program Op Reply α} {Q : α → σ → Prop} {state : τ}
    (ensures : Ensures handle Inv program Q (part state)) (outer : Outer state) :
    Ensures handle' Outer (program.embed lift reply)
      (fun result after => Outer after ∧ Q result (part after)) state := by
  induction program generalizing state with
  | done result => exact ⟨outer, outer, ensures.2⟩
  | call op next ih =>
      refine ⟨outer, fun choice => ?_⟩
      have rest := ensures.2 (narrow choice)
      rw [← (makes op state choice).1, ← (makes op state choice).2] at rest
      exact ih _ rest (kept op state choice outer rest.inv)

end Embed

end Program

end K50sv1.Transition
