import K50sv1.Transition.Program
import Mathlib.Logic.Function.Basic

/-!
# The hooks of the software Gatekeeper

`SoftGateKeeper` overrides the hooks of libgatekeeper.  libgatekeeper is a program over
these hooks: it may call them in any order and any number of times, and may go on from
their answers as it likes.  A hook whose system call fails answers zeros and sets
`operation_failed_`; the record kept beside it says what really happened.
-/

namespace K50sv1.Gatekeeper

open K50sv1.Transition

/-- `failure_record_t`. -/
structure FailureRecord where
  secureUserId : UInt64 := 0
  lastCheckedTimestamp : UInt64 := 0
  failureCounter : UInt32 := 0
  deriving DecidableEq, Repr

/-- A call of an overridden hook, with the arguments that matter to it. -/
inductive Hook where
  | getAuthTokenKey
  | getPasswordKey
  | computePasswordSignature (signatureLength : UInt32) (password : List UInt8) (salt : UInt64)
  | getRandom (length : UInt32)
  | computeSignature (signatureLength : UInt32)
  | getMillisecondsSinceBoot
  | isHardwareBacked
  | getFailureRecord (uid : UInt32) (userId : UInt64) (secure : Bool)
  | clearFailureRecord (uid : UInt32) (userId : UInt64) (secure : Bool)
  | writeFailureRecord (uid : UInt32) (record : FailureRecord) (secure : Bool)
  deriving DecidableEq, Repr

def Hook.Reply : Hook → Type
  | .getAuthTokenKey => Bool × List UInt8
  | .getPasswordKey => List UInt8
  | .computePasswordSignature _ _ _ => List UInt8
  | .getRandom _ => List UInt8
  | .computeSignature _ => List UInt8
  | .getMillisecondsSinceBoot => UInt64
  | .isHardwareBacked => Bool
  | .getFailureRecord _ _ _ => Bool × FailureRecord
  | .clearFailureRecord _ _ _ => Bool
  | .writeFailureRecord _ _ _ => Bool

/-- What `RAND_bytes`, `crypto_scrypt` or `clock_gettime` does behind a hook. -/
structure SystemAnswer where
  works : Bool := true
  byte : Nat → UInt8 := fun _ => 0
  seconds : UInt64 := 0
  nanoseconds : UInt64 := 0

structure SoftGateKeeper where
  failureMap : UInt32 → FailureRecord
  operationFailed : Bool

/-- The state of a device that has just been opened. -/
def SoftGateKeeper.opened : SoftGateKeeper where
  failureMap _ := {}
  operationFailed := false

/-- The key is never set. -/
def key : List UInt8 :=
  List.replicate 32 0

def intMax : UInt32 := 0x7fffffff

namespace SoftGateKeeper

def beginOperation (gatekeeper : SoftGateKeeper) : SoftGateKeeper :=
  { gatekeeper with operationFailed := false }

def fail (gatekeeper : SoftGateKeeper) : SoftGateKeeper :=
  { gatekeeper with operationFailed := true }

def store (gatekeeper : SoftGateKeeper) (uid : UInt32) (record : FailureRecord) :
    SoftGateKeeper :=
  { gatekeeper with failureMap := Function.update gatekeeper.failureMap uid record }

/-- A buffer filled by a system call. -/
def filled (answer : SystemAnswer) (length : UInt32) : List UInt8 :=
  (List.range length.toNat).map answer.byte

def zeros (length : UInt32) : List UInt8 :=
  List.replicate length.toNat 0

def computePasswordSignature (gatekeeper : SoftGateKeeper) (answer : SystemAnswer)
    (signatureLength : UInt32) : SoftGateKeeper × List UInt8 :=
  if answer.works then (gatekeeper, filled answer signatureLength)
  else (gatekeeper.fail, zeros signatureLength)

def getRandom (gatekeeper : SoftGateKeeper) (answer : SystemAnswer) (length : UInt32) :
    SoftGateKeeper × List UInt8 :=
  if length > intMax || !answer.works then (gatekeeper.fail, zeros length)
  else (gatekeeper, filled answer length)

def getMillisecondsSinceBoot (gatekeeper : SoftGateKeeper) (answer : SystemAnswer) :
    SoftGateKeeper × UInt64 :=
  if answer.works then (gatekeeper, answer.seconds * 1000 + answer.nanoseconds / 1000000)
  else (gatekeeper.fail, 0)

/-- A record for another user is replaced by a new one. -/
def getFailureRecord (gatekeeper : SoftGateKeeper) (uid : UInt32) (userId : UInt64) :
    SoftGateKeeper × Bool × FailureRecord :=
  let stored := gatekeeper.failureMap uid
  let current := if stored.secureUserId ≠ userId then { secureUserId := userId } else stored
  (gatekeeper.store uid current, true, current)

def clearFailureRecord (gatekeeper : SoftGateKeeper) (uid : UInt32) (userId : UInt64) :
    SoftGateKeeper × Bool :=
  (gatekeeper.store uid { secureUserId := userId }, true)

def writeFailureRecord (gatekeeper : SoftGateKeeper) (uid : UInt32) (record : FailureRecord) :
    SoftGateKeeper × Bool :=
  (gatekeeper.store uid record, true)

/-- A call of a hook. -/
def call (gatekeeper : SoftGateKeeper) (answer : SystemAnswer) :
    (hook : Hook) → SoftGateKeeper × hook.Reply
  | .getAuthTokenKey => (gatekeeper, true, key)
  | .getPasswordKey => (gatekeeper, key)
  | .computePasswordSignature signatureLength _ _ =>
      gatekeeper.computePasswordSignature answer signatureLength
  | .getRandom length => gatekeeper.getRandom answer length
  -- authentication tokens are not signed
  | .computeSignature signatureLength => (gatekeeper, zeros signatureLength)
  | .getMillisecondsSinceBoot => gatekeeper.getMillisecondsSinceBoot answer
  | .isHardwareBacked => (gatekeeper, true)
  | .getFailureRecord uid userId _ => gatekeeper.getFailureRecord uid userId
  | .clearFailureRecord uid userId _ => gatekeeper.clearFailureRecord uid userId
  | .writeFailureRecord uid record _ => gatekeeper.writeFailureRecord uid record

end SoftGateKeeper

/-! ## One operation -/

/-- A hook call and what the system did for it. -/
structure HookCall where
  hook : Hook
  answer : SystemAnswer

/-- The failures that must not go unnoticed. -/
def HookCall.failed (call : HookCall) : Bool :=
  match call.hook with
  | .getRandom length => length > intMax || !call.answer.works
  | .computePasswordSignature _ _ _ => !call.answer.works
  | .getMillisecondsSinceBoot => !call.answer.works
  | _ => false

/-- The device during an operation, with the hook calls of the operation so far. -/
structure Session where
  gatekeeper : SoftGateKeeper
  calls : List HookCall

def answerHook : Program.Handler Hook Hook.Reply Session SystemAnswer :=
  fun session hook answer =>
    (⟨(session.gatekeeper.call answer hook).1, session.calls ++ [⟨hook, answer⟩]⟩,
      (session.gatekeeper.call answer hook).2)

/-- libgatekeeper's part in one operation. -/
abbrev LibProgram (ρ : Type) := Program Hook Hook.Reply ρ

/-- `BeginOperation` and the call into libgatekeeper. -/
def operate {ρ : Type} (gatekeeper : SoftGateKeeper) (program : LibProgram ρ)
    (answers : Nat → SystemAnswer) : ρ × Session :=
  program.run answerHook ⟨gatekeeper.beginOperation, []⟩ answers

/-! ## The flag -/

section Flag

variable (gatekeeper : SoftGateKeeper) (answer : SystemAnswer)

theorem operationFailed_computePasswordSignature (signatureLength : UInt32) :
    (gatekeeper.computePasswordSignature answer signatureLength).1.operationFailed =
      (gatekeeper.operationFailed || !answer.works) := by
  unfold SoftGateKeeper.computePasswordSignature
  cases answer.works <;> simp [SoftGateKeeper.fail]

theorem operationFailed_getRandom (length : UInt32) :
    (gatekeeper.getRandom answer length).1.operationFailed =
      (gatekeeper.operationFailed || (length > intMax || !answer.works)) := by
  unfold SoftGateKeeper.getRandom
  cases (length > intMax || !answer.works : Bool) <;> simp [SoftGateKeeper.fail]

theorem operationFailed_getMillisecondsSinceBoot :
    (gatekeeper.getMillisecondsSinceBoot answer).1.operationFailed =
      (gatekeeper.operationFailed || !answer.works) := by
  unfold SoftGateKeeper.getMillisecondsSinceBoot
  cases answer.works <;> simp [SoftGateKeeper.fail]

/-- A hook sets the flag exactly if its system call fails. -/
theorem operationFailed_call (hook : Hook) :
    (gatekeeper.call answer hook).1.operationFailed =
      (gatekeeper.operationFailed || HookCall.failed ⟨hook, answer⟩) := by
  cases hook with
  | getRandom length => exact operationFailed_getRandom gatekeeper answer length
  | computePasswordSignature signatureLength password salt =>
      exact operationFailed_computePasswordSignature gatekeeper answer signatureLength
  | getMillisecondsSinceBoot => exact operationFailed_getMillisecondsSinceBoot gatekeeper answer
  | _ => exact (Bool.or_false _).symm

end Flag

/-- The flag tells whether a hook of the operation has failed. -/
def Session.Honest (session : Session) : Prop :=
  session.gatekeeper.operationFailed = session.calls.any HookCall.failed

theorem honest_answerHook {session : Session} (honest : session.Honest) (hook : Hook)
    (answer : SystemAnswer) : (answerHook session hook answer).1.Honest := by
  unfold Session.Honest answerHook
  dsimp only
  rw [operationFailed_call, List.any_append, honest]
  simp

/-- At the end of an operation the flag is exact, whatever it was before. -/
theorem operate_honest {ρ : Type} (gatekeeper : SoftGateKeeper) (program : LibProgram ρ)
    (answers : Nat → SystemAnswer) : (operate gatekeeper program answers).2.Honest := by
  have start : Session.Honest ⟨gatekeeper.beginOperation, []⟩ := rfl
  have kept (session : Session) (hook : Hook) (answer : SystemAnswer)
      (honest : session.Honest) : (answerHook session hook answer).1.Honest :=
    honest_answerHook honest hook answer
  exact (Program.ensures_of_invariant kept program start).run answers

/-! ## What an operation depends on -/

/-- The flag of an earlier operation does not reach libgatekeeper. -/
theorem operate_eq_of_failureMap {ρ : Type} {first second : SoftGateKeeper}
    (same : first.failureMap = second.failureMap) (program : LibProgram ρ)
    (answers : Nat → SystemAnswer) :
    operate first program answers = operate second program answers := by
  have equal : first.beginOperation = second.beginOperation := by
    unfold SoftGateKeeper.beginOperation
    rw [same]
  rw [operate, operate, equal]

end K50sv1.Gatekeeper
