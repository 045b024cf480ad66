import Mathlib.Logic.Function.Basic
import K50sv1.Transition.Program

/-!
# Dalvik methods as programs

A method in assembler text is a list of instructions with labels among them.  Its meaning
is a program in the sense of `K50sv1.Transition.Program`: reading a field, storing into an
array and invoking a method are calls into an interface, so that whatever else runs may
change the heap between them.  A method whose code is given is executed, any other is one
call.

Only the instructions that the development meets are here.  A program runs out of steps,
never out of sense: `stuck` is code that the verifier of the machine would have rejected.
-/

namespace K50sv1.Dalvik

open K50sv1.Transition

/-! ## Registers and values -/

/-- A register as it is written: `v` counts from the first one, `p` from the first one that
holds a parameter. -/
inductive Register where
  | v (number : Nat)
  | p (number : Nat)
  deriving DecidableEq, Repr

/-- The contents of a register, over objects `ω`.  The null reference is the integer zero. -/
inductive Value (ω : Type) where
  | int (value : BitVec 32)
  | text (value : String)
  | ref (object : ω)
  deriving DecidableEq, Repr

inductive Comparison where
  | eq
  | ne
  | lt
  | ge
  deriving DecidableEq, Repr

def Comparison.holds : Comparison → BitVec 32 → BitVec 32 → Bool
  | .eq, first, second => first = second
  | .ne, first, second => first ≠ second
  | .lt, first, second => first.slt second
  | .ge, first, second => second.sle first

/-- A comparison with zero; an object is not null and has no sign. -/
def Comparison.holdsZ {ω : Type} : Comparison → Value ω → Option Bool
  | test, .int value => some (test.holds value 0)
  | .eq, _ => some false
  | .ne, _ => some true
  | _, _ => none

/-! ## Code -/

inductive InvokeKind where
  | virtual
  | direct
  | super
  | static
  deriving DecidableEq, Repr

/-- Instructions over method names `μ`, field names `φ` and labels `ℓ`. -/
inductive Instruction (μ φ ℓ : Type) where
  | label (name : ℓ)
  /-- `const/4` and `const/16`. -/
  | const (target : Register) (value : BitVec 32)
  | constString (target : Register) (value : String)
  /-- `iget` and `iget-object`. -/
  | iget (target object : Register) (field : φ)
  | aputBoolean (source array index : Register)
  | addIntLit8 (target source : Register) (literal : BitVec 32)
  /-- `if-eq` and so on. -/
  | ifTest (test : Comparison) (first second : Register) (target : ℓ)
  /-- `if-eqz` and so on. -/
  | ifTestZ (test : Comparison) (register : Register) (target : ℓ)
  | goto (target : ℓ)
  | packedSwitch (register : Register) (data : ℓ)
  /-- `.packed-switch`, the table behind the label that the instruction names. -/
  | packedSwitchData (firstKey : BitVec 32) (targets : List ℓ)
  | invoke (kind : InvokeKind) (arguments : List Register) (method : μ)
  /-- `move-result` and `move-result-object`. -/
  | moveResult (target : Register)
  | returnVoid
  | returnValue (source : Register)
  deriving Repr

/-- `locals` is the number of registers below those of the parameters. -/
structure Method (μ φ ℓ : Type) where
  locals : Nat
  code : List (Instruction μ φ ℓ)
  deriving Repr

variable {μ φ ℓ ω τ : Type}

def Method.number (method : Method μ φ ℓ) : Register → Nat
  | .v number => number
  | .p number => method.locals + number

/-! ## Calls into the rest of the machine -/

inductive Throwable (τ : Type) where
  | nullPointer
  | arrayIndexOutOfBounds
  | other (exception : τ)
  deriving DecidableEq, Repr

inductive Request (μ φ ω : Type) where
  | iget (object : ω) (field : φ)
  | aputBoolean (array : ω) (index : BitVec 32) (value : Bool)
  | invoke (method : μ) (arguments : List (Value ω))
  deriving DecidableEq, Repr

def Reply (τ : Type) : Request μ φ ω → Type
  | .iget .. => Value ω
  | .aputBoolean .. => Except (Throwable τ) Unit
  | .invoke .. => Except (Throwable τ) (Option (Value ω))

inductive Outcome (ω τ : Type) where
  /-- A method without a result returns nothing. -/
  | returned (value : Option (Value ω))
  | thrown (exception : Throwable τ)
  /-- The end of a part of a method, where its remaining code would go on. -/
  | continues (registers : Nat → Value ω)
  | stuck
  | unfinished

/-! ## Execution -/

/-- The meaning of code. -/
abbrev Behaviour (μ φ ω τ : Type) :=
  Program (Request μ φ ω) (Reply τ) (Outcome ω τ)

/-- Where a method stands. -/
structure Frame (μ φ ℓ ω : Type) where
  rest : List (Instruction μ φ ℓ)
  registers : Nat → Value ω
  /-- What a `move-result` would fetch. -/
  result : Option (Value ω)

/-- The parameters are in the last registers. -/
def Method.enter (method : Method μ φ ℓ) (arguments : List (Value ω)) : Frame μ φ ℓ ω where
  rest := method.code
  registers := fun number =>
    if number < method.locals then .int 0 else (arguments[number - method.locals]?).getD (.int 0)
  result := none

/-- All but a static method are invoked on an object. -/
def nullReceiver : InvokeKind → List (Value ω) → Bool
  | .static, _ => false
  | _, .int _ :: _ => true
  | _, _ => false

section Execution

variable [DecidableEq ℓ]

def behind (name : ℓ) : List (Instruction μ φ ℓ) → Option (List (Instruction μ φ ℓ))
  | [] => none
  | .label other :: rest => if other = name then some rest else behind name rest
  | _ :: rest => behind name rest

/-- The target of a switch; a key outside of the table falls through. -/
def switchTarget (firstKey : BitVec 32) (targets : List ℓ) (key : BitVec 32) : Option ℓ :=
  targets[(key - firstKey).toNat]?

/-- A method of which the code is known is executed with the steps that are left. -/
def execute (code : μ → Option (Method μ φ ℓ)) :
    Nat → Method μ φ ℓ → Frame μ φ ℓ ω → Behaviour μ φ ω τ
  | 0, _, _ => .done .unfinished
  | steps + 1, method, ⟨rest, registers, result⟩ =>
      let get := fun register => registers (method.number register)
      let set := fun register value => Function.update registers (method.number register) value
      let jump := fun target =>
        match behind target method.code with
        | none => .done .stuck
        | some rest => execute code steps method ⟨rest, registers, none⟩
      match rest with
      | [] => .done (.continues registers)
      | .label _ :: rest => execute code steps method ⟨rest, registers, none⟩
      | .const target value :: rest =>
          execute code steps method ⟨rest, set target (.int value), none⟩
      | .constString target value :: rest =>
          execute code steps method ⟨rest, set target (.text value), none⟩
      | .iget target object field :: rest =>
          match get object with
          | .ref object => .call (.iget object field) fun value =>
              execute code steps method ⟨rest, set target value, none⟩
          -- the only integer that stands for a reference is null
          | .int _ => .done (.thrown .nullPointer)
          | .text _ => .done .stuck
      | .aputBoolean source array index :: rest =>
          match get source, get array, get index with
          | .int value, .ref array, .int index =>
              .call (.aputBoolean array index (value ≠ 0)) fun reply =>
                match reply with
                | .ok () => execute code steps method ⟨rest, registers, none⟩
                | .error exception => .done (.thrown exception)
          | .int _, .int _, .int _ => .done (.thrown .nullPointer)
          | _, _, _ => .done .stuck
      | .addIntLit8 target source literal :: rest =>
          match get source with
          | .int value =>
              execute code steps method ⟨rest, set target (.int (value + literal)), none⟩
          | _ => .done .stuck
      | .ifTest test first second target :: rest =>
          match get first, get second with
          | .int first, .int second =>
              if test.holds first second then
                jump target
              else
                execute code steps method ⟨rest, registers, none⟩
          | _, _ => .done .stuck
      | .ifTestZ test register target :: rest =>
          match test.holdsZ (get register) with
          | some true => jump target
          | some false => execute code steps method ⟨rest, registers, none⟩
          | none => .done .stuck
      | .goto target :: _ => jump target
      | .packedSwitch register data :: rest =>
          match get register, behind data method.code with
          | .int key, some (.packedSwitchData firstKey targets :: _) =>
              match switchTarget firstKey targets key with
              | some target => jump target
              | none => execute code steps method ⟨rest, registers, none⟩
          | _, _ => .done .stuck
      | .packedSwitchData .. :: _ => .done .stuck
      | .invoke kind arguments name :: rest =>
          let values := arguments.map get
          if nullReceiver kind values then
            .done (.thrown .nullPointer)
          else
            match code name with
            | none => .call (.invoke name values) fun reply =>
                match reply with
                | .ok result => execute code steps method ⟨rest, registers, result⟩
                | .error exception => .done (.thrown exception)
            | some callee =>
                (execute code steps callee (callee.enter values)).bind fun outcome =>
                  match outcome with
                  | .returned result => execute code steps method ⟨rest, registers, result⟩
                  | .continues _ => .done .stuck
                  | outcome => .done outcome
      | .moveResult target :: rest =>
          match result with
          | some value => execute code steps method ⟨rest, set target value, none⟩
          | none => .done .stuck
      | .returnVoid :: _ => .done (.returned none)
      | .returnValue source :: _ => .done (.returned (some (get source)))

/-- A part of a method ends where its code does. -/
theorem execute_end (code : μ → Option (Method μ φ ℓ)) (steps : Nat) (method : Method μ φ ℓ)
    (registers : Nat → Value ω) (result : Option (Value ω)) :
    (execute code (steps + 1) method ⟨[], registers, result⟩ : Behaviour μ φ ω τ) =
      .done (.continues registers) := by
  simp only [execute]

/-- A call of a method, executed for so many steps. -/
def Method.call (method : Method μ φ ℓ) (code : μ → Option (Method μ φ ℓ)) (steps : Nat)
    (arguments : List (Value ω)) : Behaviour μ φ ω τ :=
  execute code steps method (method.enter arguments)

end Execution

end K50sv1.Dalvik
