import K50sv1.Dalvik.Core
import K50sv1.Transition.Bounded

/-!
# Rules of total correctness for Dalvik code

`Meets` says of a frame that it comes to an end as specified, whatever the rest of the
machine does between its calls.  There is one rule for each instruction, and a method that
is invoked is used by its own specification.
-/

namespace K50sv1.Dalvik

open K50sv1.Transition K50sv1.Transition.Program

universe u v

variable {μ φ ℓ ω τ : Type} {σ : Type u} {χ : Type v} [DecidableEq ℓ]

/-- The code of the frame ends as `Q` says. -/
def Meets (handle : Handler (Request μ φ ω) (Reply τ) σ χ) (code : μ → Option (Method μ φ ℓ))
    (method : Method μ φ ℓ) (frame : Frame μ φ ℓ ω) (Q : Outcome ω τ → σ → Prop) (state : σ) :
    Prop :=
  Settles handle (fun steps => execute code steps method frame) Q state

/-- The specification of a method: what holds when it returns and when it throws. -/
def Ends (Returned : Option (Value ω) → σ → Prop) (Thrown : Throwable τ → σ → Prop) :
    Outcome ω τ → σ → Prop
  | .returned value, state => Returned value state
  | .thrown exception, state => Thrown exception state
  | _, _ => False

variable {handle : Handler (Request μ φ ω) (Reply τ) σ χ} {code : μ → Option (Method μ φ ℓ)}
  {method : Method μ φ ℓ} {rest there tail : List (Instruction μ φ ℓ)}
  {registers : Nat → Value ω} {result : Option (Value ω)} {Q : Outcome ω τ → σ → Prop} {state : σ}

theorem Meets.mono {frame : Frame μ φ ℓ ω} {P : Outcome ω τ → σ → Prop}
    (meets : Meets handle code method frame P state)
    (post : ∀ outcome after, P outcome after → Q outcome after) :
    Meets handle code method frame Q state :=
  Settles.mono meets post

/-! ## Within a method -/

theorem meets_label {name : ℓ} (next : Meets handle code method ⟨rest, registers, none⟩ Q state) :
    Meets handle code method ⟨.label name :: rest, registers, result⟩ Q state :=
  settles_succ (fun _ => rfl) next

theorem meets_const {target : Register} {value : BitVec 32}
    (next : Meets handle code method
      ⟨rest, Function.update registers (method.number target) (.int value), none⟩ Q state) :
    Meets handle code method ⟨.const target value :: rest, registers, result⟩ Q state :=
  settles_succ (fun _ => rfl) next

theorem meets_constString {target : Register} {value : String}
    (next : Meets handle code method
      ⟨rest, Function.update registers (method.number target) (.text value), none⟩ Q state) :
    Meets handle code method ⟨.constString target value :: rest, registers, result⟩ Q state :=
  settles_succ (fun _ => rfl) next

theorem meets_addIntLit8 {target source : Register} {literal value : BitVec 32}
    (loaded : registers (method.number source) = .int value)
    (next : Meets handle code method
      ⟨rest, Function.update registers (method.number target) (.int (value + literal)), none⟩
      Q state) :
    Meets handle code method ⟨.addIntLit8 target source literal :: rest, registers, result⟩ Q
      state :=
  settles_succ (fun _ => by simp only [execute, loaded]) next

theorem meets_moveResult {target : Register} {value : Value ω}
    (next : Meets handle code method
      ⟨rest, Function.update registers (method.number target) value, none⟩ Q state) :
    Meets handle code method ⟨.moveResult target :: rest, registers, some value⟩ Q state :=
  settles_succ (fun _ => rfl) next

/-! ## Jumps -/

theorem meets_goto {target : ℓ} (labelled : behind target method.code = some there)
    (next : Meets handle code method ⟨there, registers, none⟩ Q state) :
    Meets handle code method ⟨.goto target :: rest, registers, result⟩ Q state :=
  settles_succ (fun _ => by simp only [execute, labelled]) next

theorem meets_ifTest {test : Comparison} {first second : Register} {target : ℓ}
    {left right : BitVec 32} (ofFirst : registers (method.number first) = .int left)
    (ofSecond : registers (method.number second) = .int right)
    (labelled : behind target method.code = some there)
    (jumped : test.holds left right = true →
      Meets handle code method ⟨there, registers, none⟩ Q state)
    (passed : test.holds left right = false →
      Meets handle code method ⟨rest, registers, none⟩ Q state) :
    Meets handle code method ⟨.ifTest test first second target :: rest, registers, result⟩ Q
      state := by
  cases holds : test.holds left right with
  | true =>
      refine settles_succ (fun _ => ?_) (jumped holds)
      simp only [execute, ofFirst, ofSecond, holds, labelled, if_true]
  | false =>
      refine settles_succ (fun _ => ?_) (passed holds)
      simp only [execute, ofFirst, ofSecond, holds, Bool.false_eq_true, if_false]

theorem meets_ifTestZ {test : Comparison} {register : Register} {target : ℓ} {holds : Bool}
    (tested : test.holdsZ (registers (method.number register)) = some holds)
    (labelled : behind target method.code = some there)
    (jumped : holds = true → Meets handle code method ⟨there, registers, none⟩ Q state)
    (passed : holds = false → Meets handle code method ⟨rest, registers, none⟩ Q state) :
    Meets handle code method ⟨.ifTestZ test register target :: rest, registers, result⟩ Q
      state := by
  cases holds with
  | true =>
      refine settles_succ (fun _ => ?_) (jumped rfl)
      simp only [execute, tested, labelled]
  | false =>
      refine settles_succ (fun _ => ?_) (passed rfl)
      simp only [execute, tested]

theorem meets_packedSwitch {register : Register} {data : ℓ} {firstKey key : BitVec 32}
    {targets : List ℓ} (loaded : registers (method.number register) = .int key)
    (table : behind data method.code = some (.packedSwitchData firstKey targets :: tail))
    (jumped : ∀ target, switchTarget firstKey targets key = some target →
      ∃ there, behind target method.code = some there ∧
        Meets handle code method ⟨there, registers, none⟩ Q state)
    (passed : switchTarget firstKey targets key = none →
      Meets handle code method ⟨rest, registers, none⟩ Q state) :
    Meets handle code method ⟨.packedSwitch register data :: rest, registers, result⟩ Q state := by
  cases selected : switchTarget firstKey targets key with
  | some target =>
      obtain ⟨there, labelled, next⟩ := jumped target selected
      refine settles_succ (fun _ => ?_) next
      simp only [execute, loaded, table, selected, labelled]
  | none =>
      refine settles_succ (fun _ => ?_) (passed selected)
      simp only [execute, loaded, table, selected]

/-! ## The heap -/

theorem meets_iget {target object : Register} {field : φ} {owner : ω}
    (loaded : registers (method.number object) = .ref owner)
    (next : ∀ choice, Meets handle code method
      ⟨rest, Function.update registers (method.number target)
        (handle state (.iget owner field) choice).2, none⟩ Q
      (handle state (.iget owner field) choice).1) :
    Meets handle code method ⟨.iget target object field :: rest, registers, result⟩ Q
      state := by
  have first : ∀ steps,
      execute code (steps + 1) method ⟨.iget target object field :: rest, registers, result⟩ =
        (.call (.iget owner field) fun value => execute code steps method
          ⟨rest, Function.update registers (method.number target) value, none⟩ :
          Behaviour μ φ ω τ) := by
    intro steps
    simp only [execute, loaded]
  exact settles_succ first (settles_call next)

theorem meets_aputBoolean {source array index : Register} {value : BitVec 32} {elements : ω}
    {position : BitVec 32} (ofSource : registers (method.number source) = .int value)
    (ofArray : registers (method.number array) = .ref elements)
    (ofIndex : registers (method.number index) = .int position)
    (stored : ∀ choice,
      (handle state (.aputBoolean elements position (value ≠ 0)) choice).2 = Except.ok () ∧
        Meets handle code method ⟨rest, registers, none⟩ Q
          (handle state (.aputBoolean elements position (value ≠ 0)) choice).1) :
    Meets handle code method ⟨.aputBoolean source array index :: rest, registers, result⟩ Q
      state := by
  refine settles_succ (fun _ => by simp only [execute, ofSource, ofArray, ofIndex]; rfl)
    (settles_call fun choice => ?_)
  rw [(stored choice).1]
  exact (stored choice).2

/-! ## Methods -/

section Methods

variable {kind : InvokeKind} {arguments : List Register} {name : μ} {values : List (Value ω)}

theorem meets_invoke
    (loaded : arguments.map (fun register => registers (method.number register)) = values)
    (receiver : nullReceiver kind values = false) (unknown : code name = none)
    (returned : ∀ choice value, (handle state (.invoke name values) choice).2 = Except.ok value →
      Meets handle code method ⟨rest, registers, value⟩ Q
        (handle state (.invoke name values) choice).1)
    (threw : ∀ choice exception,
      (handle state (.invoke name values) choice).2 = Except.error exception →
        Q (.thrown exception) (handle state (.invoke name values) choice).1) :
    Meets handle code method ⟨.invoke kind arguments name :: rest, registers, result⟩ Q state := by
  subst loaded
  refine settles_succ
    (fun _ => by simp only [execute, receiver, unknown, Bool.false_eq_true, if_false]; rfl)
    (settles_call fun choice => ?_)
  cases replied : (handle state (.invoke name _) choice).2 with
  | ok value => exact returned choice value replied
  | error exception => exact settles_done (threw choice exception replied)

theorem meets_invoke_null
    (loaded : arguments.map (fun register => registers (method.number register)) = values)
    (receiver : nullReceiver kind values = true) (post : Q (.thrown .nullPointer) state) :
    Meets handle code method ⟨.invoke kind arguments name :: rest, registers, result⟩ Q state := by
  subst loaded
  exact settles_succ (fun _ => by simp only [execute, receiver, if_true]) (settles_done post)

/-- A method of which the code is known is used by its specification. -/
theorem meets_invokeCode {callee : Method μ φ ℓ} {Returned : Option (Value ω) → σ → Prop}
    {Thrown : Throwable τ → σ → Prop}
    (loaded : arguments.map (fun register => registers (method.number register)) = values)
    (receiver : nullReceiver kind values = false) (known : code name = some callee)
    (body : Meets handle code callee (callee.enter values) (Ends Returned Thrown) state)
    (returned : ∀ value after, Returned value after →
      Meets handle code method ⟨rest, registers, value⟩ Q after)
    (threw : ∀ exception after, Thrown exception after → Q (.thrown exception) after) :
    Meets handle code method ⟨.invoke kind arguments name :: rest, registers, result⟩ Q state := by
  subst loaded
  refine settles_succ
    (fun _ => by simp only [execute, receiver, known, Bool.false_eq_true, if_false]; rfl)
    (body.bind fun outcome after ended => ?_)
  cases outcome with
  | returned value => exact returned value after ended
  | thrown exception => exact settles_done (threw exception after ended)
  | continues registers => exact ended.elim
  | stuck => exact ended.elim
  | unfinished => exact ended.elim

theorem meets_returnVoid (post : Q (.returned none) state) :
    Meets handle code method ⟨.returnVoid :: rest, registers, result⟩ Q state :=
  settles_succ (fun _ => rfl) (settles_done post)

theorem meets_returnValue {source : Register}
    (post : Q (.returned (some (registers (method.number source)))) state) :
    Meets handle code method ⟨.returnValue source :: rest, registers, result⟩ Q state :=
  settles_succ (fun _ => rfl) (settles_done post)

end Methods

/-- The end of a part of a method. -/
theorem meets_end (post : Q (.continues registers) state) :
    Meets handle code method ⟨[], registers, result⟩ Q state :=
  settles_succ (fun steps => execute_end code steps method registers result) (settles_done post)

end K50sv1.Dalvik
