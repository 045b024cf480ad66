import K50sv1.RilShim.AttachApn.System
import K50sv1.RilShim.Got.Core

/-!
# Vendor callbacks during and after the installation

The installation advances one call at a time, the vendor's threads call through
the two GOT slots at any moment, and the re-send machinery runs beside them.  A
callback reads its slot, then executes what it found there: the original, or a
hook, which first does its own work and then loads the published original.

`emitted` and `received` are the two sequences that transparency compares; a call
is received by the function that is actually called.
-/

namespace K50sv1.RilShim.Got

open K50sv1.Transition
open K50sv1.RilShim.AttachApn

/-- A call of the vendor library into librilproxy, with its arguments.  Buffers are
passed on by address. -/
inductive Callback where
  | unsol (unsolResponse : Int) (data datalen : Nat) (socketId : Int)
  | complete (t : RilToken) (e : Int) (response responselen : Nat)
  deriving DecidableEq, Repr

def Callback.symbol : Callback → GotSymbol
  | .unsol _ _ _ _ => .onUnsolicitedResponse
  | .complete _ _ _ _ => .onRequestComplete

/-- The completion of one of the shim's own tokens. -/
def Callback.shimOwned : Callback → Bool
  | .unsol _ _ _ _ => false
  | .complete t _ _ _ => isReissueToken t

/-- Where a callback stands. -/
inductive Position where
  /-- The slot has been read; control is at `target`. -/
  | entered (target : CodePtr)
  /-- A hook has done its own work and loads the original next. -/
  | forwarding
  deriving DecidableEq, Repr

/-- A callback in progress on a vendor thread. -/
structure ActiveCall where
  thread : Nat
  callback : Callback
  position : Position
  deriving DecidableEq, Repr

/-- A call as it was received. -/
structure Receipt where
  thread : Nat
  receiver : CodePtr
  callback : Callback
  deriving DecidableEq, Repr

structure HookSystem (simCount : Nat) where
  process : Process
  /-- What is left of a running `installAttachApnHooks`. -/
  installer : Option (GotProgram Int)
  ia : IaSystem simCount
  /-- The shim's tokens that the vendor has been given at least once. -/
  handed : List (Fin reissueTokenSlots)
  calls : List ActiveCall
  emitted : List (Nat × Callback)
  received : List Receipt

inductive HookEvent (simCount : Nat) where
  | install
  | installStep (works : Bool)
  /-- A step of the framework's request path or of the worker. -/
  | machinery (event : IaEvent simCount)
  | emit (thread : Nat) (callback : Callback)
  /-- The body of a hook up to its tail call. -/
  | runHook (thread : Nat)
  /-- The call of the original. -/
  | deliver (thread : Nat)

variable {simCount : Nat} [NeZero simCount]

def HookSystem.initial (simCount : Nat) [NeZero simCount] (process : Process) :
    HookSystem simCount where
  process
  installer := none
  ia := .initial simCount
  handed := []
  calls := []
  emitted := []
  received := []

/-- The worker moves once it exists; indications and completions come from the
hooks. -/
def machineryEnabled (workers : Nat) : IaEvent simCount → Bool
  | .dispatch _ _ _ => true
  | .forward _ => true
  | .workerPass _ | .workerWake _ | .workerSlept | .workerCall => 0 < workers
  | .indication _ _ | .complete _ | .completeForeign _ => false

/-- The tokens handed over by a step of the machinery. -/
def handedOver (ia : IaSystem simCount) : IaEvent simCount → List (Fin reissueTokenSlots)
  | .workerCall => ia.worker.inTransit.map Request.token
  | _ => []

/-- A thread makes one call at a time, and the vendor completes a token of the shim
only after it has been given that token. -/
def mayEmit (system : HookSystem simCount) (thread : Nat) (callback : Callback) : Bool :=
  system.calls.all (fun call => call.thread ≠ thread) &&
    match callback with
    | .complete (.reissue index) _ _ _ => index ∈ system.handed
    | _ => true

def HookSystem.activeCall (system : HookSystem simCount) (thread : Nat) : Option ActiveCall :=
  system.calls.find? fun call => call.thread = thread

/-- The callback of `thread` is over. -/
def HookSystem.finish (system : HookSystem simCount) (thread : Nat) : HookSystem simCount :=
  { system with calls := system.calls.filter fun call => call.thread ≠ thread }

/-- A call of `thread` goes on to the original, any other stays where it is. -/
def ActiveCall.proceed (thread : Nat) (call : ActiveCall) : ActiveCall :=
  if call.thread = thread then { call with position := .forwarding } else call

@[simp]
theorem ActiveCall.proceed_thread (thread : Nat) (call : ActiveCall) :
    (call.proceed thread).thread = call.thread := by
  unfold ActiveCall.proceed
  split <;> rfl

@[simp]
theorem ActiveCall.proceed_callback (thread : Nat) (call : ActiveCall) :
    (call.proceed thread).callback = call.callback := by
  unfold ActiveCall.proceed
  split <;> rfl

/-- The callback of `thread` goes on to the original. -/
def HookSystem.proceed (system : HookSystem simCount) (thread : Nat) : HookSystem simCount :=
  { system with calls := system.calls.map (ActiveCall.proceed thread) }

/-- The callback of `thread` reaches `receiver`. -/
def HookSystem.receive (system : HookSystem simCount) (thread : Nat) (receiver : CodePtr)
    (callback : Callback) : HookSystem simCount :=
  { system.finish thread with
    received := system.received ++ [⟨thread, receiver, callback⟩] }

def hookStep (layout : Layout) : Step (HookEvent simCount) (HookSystem simCount)
  | system, .install =>
      match system.installer with
      | none => some { system with installer := some installAttachApnHooks }
      | some _ => none
  | system, .installStep works =>
      match system.installer with
      | none => none
      | some (.done _) => some { system with installer := none }
      | some (.call op next) =>
          let (process, reply) := answer layout system.process op works
          some { system with process, installer := some (next reply) }
  | system, .machinery event =>
      if machineryEnabled system.process.workers event then
        (iaStep system.process.sIaHookState system.ia event).map fun ia =>
          { system with ia, handed := handedOver system.ia event ++ system.handed }
      else
        none
  | system, .emit thread callback =>
      if mayEmit system thread callback then
        let target := system.process.got (layout.slot callback.symbol)
        some { system with
          calls := system.calls ++ [⟨thread, callback, .entered target⟩]
          emitted := system.emitted ++ [(thread, callback)] }
      else
        none
  | system, .runHook thread =>
      match system.activeCall thread with
      | some ⟨_, .unsol unsolResponse _ _ socketId, .entered .unsolHook⟩ =>
          let shim := noteIndication system.process.sIaHookState system.ia.shim unsolResponse
            socketId
          some { system.proceed thread with ia := { system.ia with shim } }
      | some ⟨_, .complete (.reissue index) _ _ _, .entered .completeHook⟩ =>
          let shim := completeHook system.ia.shim (.reissue index)
          let held := system.ia.held.filter fun request => request.token ≠ index
          some { system.finish thread with ia := { system.ia with shim, held } }
      | some ⟨_, .complete (.foreign _) _ _ _, .entered .completeHook⟩ =>
          some (system.proceed thread)
      | _ => none
  | system, .deliver thread =>
      match system.activeCall thread with
      | some ⟨_, callback, .entered (.function address)⟩ =>
          some (system.receive thread (.function address) callback)
      | some ⟨_, callback, .forwarding⟩ =>
          match system.process.sReal callback.symbol with
          | .null => some (system.finish thread)
          | original => some (system.receive thread original callback)
      | _ => none

omit [NeZero simCount] in
theorem mayEmit_spec {system : HookSystem simCount} {thread : Nat} {callback : Callback}
    (allowed : mayEmit system thread callback = true) :
    (∀ call ∈ system.calls, call.thread ≠ thread) ∧
      (callback.shimOwned = true → system.handed ≠ []) := by
  unfold mayEmit at allowed
  rw [Bool.and_eq_true] at allowed
  constructor
  · intro call member
    simpa using List.all_eq_true.mp allowed.1 call member
  · intro owned
    rcases callback with _ | ⟨token, e, response, responselen⟩
    · contradiction
    · cases token with
      | foreign address => simp [Callback.shimOwned] at owned
      | reissue index => exact List.ne_nil_of_mem (of_decide_eq_true allowed.2)

/-! ## What a step can do -/

/-- Every enabled event with its guard and the state it leads to.  What a hook does
to the re-send machinery is left open here. -/
inductive HookTransition (layout : Layout) (system : HookSystem simCount) :
    HookEvent simCount → HookSystem simCount → Prop where
  | install (idle : system.installer = none) :
      HookTransition layout system .install
        { system with installer := some installAttachApnHooks }
  | installDone (works : Bool) (rc : Int) (running : system.installer = some (.done rc)) :
      HookTransition layout system (.installStep works) { system with installer := none }
  | installCall (works : Bool) (op : GotOp) (next : op.Reply → GotProgram Int)
      (running : system.installer = some (.call op next)) :
      HookTransition layout system (.installStep works)
        { system with
          process := (answer layout system.process op works).1
          installer := some (next (answer layout system.process op works).2) }
  | machinery (event : IaEvent simCount) (ia : IaSystem simCount)
      (enabled : machineryEnabled system.process.workers event = true) :
      HookTransition layout system (.machinery event)
        { system with ia, handed := handedOver system.ia event ++ system.handed }
  | emit (thread : Nat) (callback : Callback) (allowed : mayEmit system thread callback = true) :
      HookTransition layout system (.emit thread callback)
        { system with
          calls := system.calls ++
            [⟨thread, callback, .entered (system.process.got (layout.slot callback.symbol))⟩]
          emitted := system.emitted ++ [(thread, callback)] }
  | proceed (thread : Nat) (call : ActiveCall) (ia : IaSystem simCount)
      (active : system.activeCall thread = some call)
      (inHook : call.position = .entered (hookOf call.callback.symbol))
      (visible : call.callback.shimOwned = false) :
      HookTransition layout system (.runHook thread) { system.proceed thread with ia }
  | swallow (thread : Nat) (call : ActiveCall) (ia : IaSystem simCount)
      (active : system.activeCall thread = some call)
      (owned : call.callback.shimOwned = true) :
      HookTransition layout system (.runHook thread) { system.finish thread with ia }
  | direct (thread : Nat) (call : ActiveCall) (address : Nat)
      (active : system.activeCall thread = some call)
      (position : call.position = .entered (.function address)) :
      HookTransition layout system (.deliver thread)
        (system.receive thread (.function address) call.callback)
  | original (thread : Nat) (call : ActiveCall)
      (active : system.activeCall thread = some call) (position : call.position = .forwarding)
      (published : system.process.sReal call.callback.symbol ≠ .null) :
      HookTransition layout system (.deliver thread)
        (system.receive thread (system.process.sReal call.callback.symbol) call.callback)
  | dropped (thread : Nat) (call : ActiveCall)
      (active : system.activeCall thread = some call) (position : call.position = .forwarding)
      (unpublished : system.process.sReal call.callback.symbol = .null) :
      HookTransition layout system (.deliver thread) (system.finish thread)

theorem runHook_transition {layout : Layout} {system after : HookSystem simCount} {thread : Nat}
    (step : hookStep layout system (.runHook thread) = some after) :
    HookTransition layout system (.runHook thread) after := by
  simp only [hookStep] at step
  split at step
  · rename_i active
    cases step
    exact .proceed thread _ _ active rfl rfl
  · rename_i active
    cases step
    exact .swallow thread _ _ active (isReissueToken_reissue _)
  · rename_i active
    cases step
    exact .proceed thread _ _ active rfl (isReissueToken_foreign _)
  · contradiction

theorem deliver_transition {layout : Layout} {system after : HookSystem simCount} {thread : Nat}
    (step : hookStep layout system (.deliver thread) = some after) :
    HookTransition layout system (.deliver thread) after := by
  simp only [hookStep] at step
  split at step
  · rename_i active
    cases step
    exact .direct thread _ _ active rfl
  · rename_i active
    split at step
    · rename_i unpublished
      cases step
      exact .dropped thread _ active rfl unpublished
    · rename_i published
      cases step
      exact .original thread _ active rfl published
  · contradiction

theorem hookStep_transition {layout : Layout} {system after : HookSystem simCount}
    {event : HookEvent simCount} (step : hookStep layout system event = some after) :
    HookTransition layout system event after := by
  cases event with
  | install =>
      simp only [hookStep] at step
      split at step
      · rename_i idle
        cases step
        exact .install idle
      · contradiction
  | installStep works =>
      simp only [hookStep] at step
      split at step
      · contradiction
      · rename_i rc running
        cases step
        exact .installDone works rc running
      · rename_i op next running
        cases step
        exact .installCall works op next running
  | machinery event =>
      simp only [hookStep] at step
      split at step
      · rename_i enabled
        rcases Option.map_eq_some_iff.mp step with ⟨ia, _, rfl⟩
        exact .machinery event ia enabled
      · contradiction
  | emit thread callback =>
      simp only [hookStep] at step
      split at step
      · rename_i allowed
        cases step
        exact .emit thread callback allowed
      · contradiction
  | runHook thread => exact runHook_transition step
  | deliver thread => exact deliver_transition step

end K50sv1.RilShim.Got
