import K50sv1.Gatekeeper.Hooks
import K50sv1.Transition.Transducer
import Mathlib.Algebra.GroupWithZero.Nat
import Mathlib.Tactic.SplitIfs

/-!
# The Gatekeeper device

`Enroll` and `Verify` of the HAL module around libgatekeeper.  A call validates its
arguments, copies them, runs libgatekeeper and decides from the flag and the response;
the caller's output pointers are cleared first.  Calls on a device are serialized by its
mutex, so a device is served one call after the other.
-/

namespace K50sv1.Gatekeeper

open K50sv1.Transition

/-! ## Arguments -/

/-- A pointer and the length passed with it. -/
structure InputArg where
  pointer : Option (List UInt8)
  length : UInt32
  deriving DecidableEq, Repr

def uint32Max : UInt32 := 0xffffffff

/-- The signed version, user id and flags that libgatekeeper adds to a password. -/
def metadataLength : UInt32 := 1 + 2 * 8

/-- `sizeof(password_handle_t)`. -/
def handleSize : UInt32 := 58

def validPassword (password : InputArg) : Bool :=
  password.pointer.isSome && password.length ≠ 0 &&
    password.length ≤ uint32Max - metadataLength

def validHandle (handle : InputArg) : Bool :=
  handle.pointer.isSome && handle.length = handleSize

/-- `InputBuffer::Copy`; `none` if there is no memory. -/
def copyInput (source : InputArg) (allocated : Bool) : Option (List UInt8) :=
  if source.length = 0 then
    some []
  else if allocated then
    some ((source.pointer.getD []).take source.length.toNat)
  else
    none

def einval : Int := 22

def eio : Int := 5

def enomem : Int := 12

/-! ## Responses -/

/-- `gatekeeper_error_t`, as far as the device looks at it. -/
inductive GatekeeperError where
  | none
  | retry
  | other (code : Nat)
  deriving DecidableEq, Repr

structure GateKeeperMessage where
  error : GatekeeperError
  retryTimeout : UInt32
  deriving DecidableEq, Repr

structure SizedBuffer where
  buffer : Option (List UInt8)
  length : UInt32
  deriving DecidableEq, Repr

/-- The conversion of `uint32_t` to `int`. -/
def intOfUInt32 (value : UInt32) : Int :=
  if value ≤ intMax then value.toNat else value.toNat - 0x100000000

def result (gatekeeper : SoftGateKeeper) (response : GateKeeperMessage) : Int :=
  if gatekeeper.operationFailed then -eio
  else if response.error = .retry then intOfUInt32 response.retryTimeout
  else if response.error = .none then 0
  else -einval

/-- libgatekeeper's part in a call: what it was given, its hook calls and its answer. -/
structure Exchange (request response : Type) where
  request : request
  response : response
  calls : List HookCall

/-- What the caller gets, with libgatekeeper's part if it was reached. -/
structure Outcome (request response outputs : Type) where
  code : Int
  outputs : outputs
  exchange : Option (Exchange request response)

section Operation

variable {request response outputs : Type}

/-- A call that ends before libgatekeeper is reached. -/
def refuse (error : Int) (cleared : outputs) : Outcome request response outputs where
  code := -error
  outputs := cleared
  exchange := none

/-- The second half of a call: libgatekeeper, the result and the outputs. -/
def perform (gatekeeper : SoftGateKeeper) (given : request) (program : LibProgram response)
    (answers : Nat → SystemAnswer) (message : response → GateKeeperMessage) (cleared : outputs)
    (handOut : response → outputs) : SoftGateKeeper × Outcome request response outputs :=
  let (response, session) := operate gatekeeper program answers
  let code := result session.gatekeeper (message response)
  (session.gatekeeper,
    { code
      outputs := if code ≠ 0 then cleared else handOut response
      exchange := some ⟨given, response, session.calls⟩ })

/-- What `Enroll` and `Verify` have in common: the tests, the copies and the operation. -/
def conduct (gatekeeper : SoftGateKeeper) (acceptable : Bool) (requested : Option request)
    (libgatekeeper : request → LibProgram response) (answers : Nat → SystemAnswer)
    (message : response → GateKeeperMessage) (cleared : outputs)
    (handOut : response → outputs) : SoftGateKeeper × Outcome request response outputs :=
  if !acceptable then
    (gatekeeper, refuse einval cleared)
  else
    match requested with
    | none => (gatekeeper, refuse enomem cleared)
    | some given =>
        perform gatekeeper given (libgatekeeper given) answers message cleared handOut

end Operation

/-! ## `Enroll` -/

structure EnrollRequest where
  uid : UInt32
  passwordHandle : List UInt8
  providedPassword : List UInt8
  enrolledPassword : List UInt8
  deriving DecidableEq, Repr

structure EnrollResponse where
  message : GateKeeperMessage
  enrolledPasswordHandle : SizedBuffer
  deriving DecidableEq, Repr

/-- The arguments of `Enroll`; for the device and the output pointers, whether they are
given. -/
structure EnrollArgs where
  device : Bool
  uid : UInt32
  currentHandle : InputArg
  currentPassword : InputArg
  desiredPassword : InputArg
  enrolledHandle : Bool
  enrolledHandleLength : Bool
  deriving DecidableEq, Repr

/-- What the output pointers of `Enroll` point to, if they are given. -/
structure EnrollOutputs where
  enrolledHandle : Option (Option (List UInt8))
  enrolledHandleLength : Option UInt32
  deriving DecidableEq, Repr

/-- A call of `Enroll` with all that happens around it. -/
structure EnrollCall where
  args : EnrollArgs
  libgatekeeper : EnrollRequest → LibProgram EnrollResponse
  answers : Nat → SystemAnswer
  allocated : Nat → Bool

def EnrollArgs.cleared (args : EnrollArgs) : EnrollOutputs where
  enrolledHandle := if args.enrolledHandle then some none else none
  enrolledHandleLength := if args.enrolledHandleLength then some 0 else none

def EnrollResponse.handOut (response : EnrollResponse) : EnrollOutputs where
  enrolledHandle := some response.enrolledPasswordHandle.buffer
  enrolledHandleLength := some response.enrolledPasswordHandle.length

/-- The copies of the inputs, or `none` if there is no memory for one. -/
def EnrollCall.request (call : EnrollCall) : Option EnrollRequest := do
  let oldHandle ← copyInput call.args.currentHandle (call.allocated 0)
  let oldPassword ← copyInput call.args.currentPassword (call.allocated 1)
  let newPassword ← copyInput call.args.desiredPassword (call.allocated 2)
  return ⟨call.args.uid, oldHandle, newPassword, oldPassword⟩

/-- The tests before the lock is taken. -/
def EnrollArgs.acceptable (args : EnrollArgs) : Bool :=
  if !args.device || !args.enrolledHandle || !args.enrolledHandleLength ||
      !validPassword args.desiredPassword then
    false
  else
    let hasCurrentHandle : Bool := args.currentHandle.length ≠ 0
    let hasCurrentPassword : Bool := args.currentPassword.length ≠ 0
    !(hasCurrentHandle != hasCurrentPassword ||
      (hasCurrentHandle &&
        (!validHandle args.currentHandle || !validPassword args.currentPassword)))

def enroll (gatekeeper : SoftGateKeeper) (call : EnrollCall) :
    SoftGateKeeper × Outcome EnrollRequest EnrollResponse EnrollOutputs :=
  conduct gatekeeper call.args.acceptable call.request call.libgatekeeper call.answers
    EnrollResponse.message call.args.cleared EnrollResponse.handOut

/-! ## `Verify` -/

structure VerifyRequest where
  uid : UInt32
  challenge : UInt64
  passwordHandle : List UInt8
  providedPassword : List UInt8
  deriving DecidableEq, Repr

structure VerifyResponse where
  message : GateKeeperMessage
  authToken : SizedBuffer
  requestReenroll : Bool
  deriving DecidableEq, Repr

structure VerifyArgs where
  device : Bool
  uid : UInt32
  challenge : UInt64
  enrolledHandle : InputArg
  password : InputArg
  authToken : Bool
  authTokenLength : Bool
  requestReenroll : Bool
  deriving DecidableEq, Repr

structure VerifyOutputs where
  authToken : Option (Option (List UInt8))
  authTokenLength : Option UInt32
  requestReenroll : Option Bool
  deriving DecidableEq, Repr

structure VerifyCall where
  args : VerifyArgs
  libgatekeeper : VerifyRequest → LibProgram VerifyResponse
  answers : Nat → SystemAnswer
  allocated : Nat → Bool

def VerifyArgs.cleared (args : VerifyArgs) : VerifyOutputs where
  authToken := if args.authToken then some none else none
  authTokenLength := if args.authTokenLength then some 0 else none
  requestReenroll := if args.requestReenroll then some false else none

/-- The outputs of a successful call; the caller need not want them. -/
def VerifyArgs.handOut (args : VerifyArgs) (response : VerifyResponse) : VerifyOutputs where
  authToken := if args.authToken then some response.authToken.buffer else none
  authTokenLength := if args.authToken then some response.authToken.length else none
  requestReenroll := if args.requestReenroll then some response.requestReenroll else none

def VerifyCall.request (call : VerifyCall) : Option VerifyRequest := do
  let handle ← copyInput call.args.enrolledHandle (call.allocated 0)
  let password ← copyInput call.args.password (call.allocated 1)
  return ⟨call.args.uid, call.args.challenge, handle, password⟩

def VerifyArgs.acceptable (args : VerifyArgs) : Bool :=
  !(!args.device || !validHandle args.enrolledHandle || !validPassword args.password ||
    args.authToken != args.authTokenLength)

def verify (gatekeeper : SoftGateKeeper) (call : VerifyCall) :
    SoftGateKeeper × Outcome VerifyRequest VerifyResponse VerifyOutputs :=
  conduct gatekeeper call.args.acceptable call.request call.libgatekeeper call.answers
    VerifyResponse.message call.args.cleared call.args.handOut

/-! ## The device -/

inductive DeviceCall where
  | enroll (call : EnrollCall)
  | verify (call : VerifyCall)

inductive DeviceOutcome where
  | enrolled (outcome : Outcome EnrollRequest EnrollResponse EnrollOutputs)
  | verified (outcome : Outcome VerifyRequest VerifyResponse VerifyOutputs)

def serve (gatekeeper : SoftGateKeeper) : DeviceCall → SoftGateKeeper × DeviceOutcome
  | .enroll call => ((enroll gatekeeper call).1, .enrolled (enroll gatekeeper call).2)
  | .verify call => ((verify gatekeeper call).1, .verified (verify gatekeeper call).2)

def device : Transducer DeviceCall DeviceOutcome SoftGateKeeper :=
  fun gatekeeper call => ((serve gatekeeper call).1, [(serve gatekeeper call).2])

/-! ## Valid arguments -/

/-- The passwords libgatekeeper can add its metadata to. -/
def PasswordValid (password : InputArg) : Prop :=
  password.pointer.isSome ∧ 1 ≤ password.length.toNat ∧ password.length.toNat ≤ 2 ^ 32 - 1 - 17

def HandleValid (handle : InputArg) : Prop :=
  handle.pointer.isSome ∧ handle.length.toNat = 58

/-- A current password comes with its handle, or neither is given. -/
structure EnrollArgs.Valid (args : EnrollArgs) : Prop where
  device : args.device
  enrolledHandle : args.enrolledHandle
  enrolledHandleLength : args.enrolledHandleLength
  desired : PasswordValid args.desiredPassword
  current : (args.currentHandle.length = 0 ∧ args.currentPassword.length = 0) ∨
    (HandleValid args.currentHandle ∧ PasswordValid args.currentPassword)

structure VerifyArgs.Valid (args : VerifyArgs) : Prop where
  device : args.device
  handle : HandleValid args.enrolledHandle
  password : PasswordValid args.password
  token : args.authToken = args.authTokenLength

theorem validPassword_iff (password : InputArg) :
    validPassword password = true ↔ PasswordValid password := by
  have positive : password.length ≠ 0 ↔ 1 ≤ password.length.toNat := by
    rw [Ne, ← UInt32.toNat_inj, Nat.one_le_iff_ne_zero]
    rfl
  have bounded : password.length ≤ uint32Max - metadataLength ↔
      password.length.toNat ≤ 2 ^ 32 - 1 - 17 := by
    rw [UInt32.le_iff_toNat_le]
    rfl
  rw [validPassword, PasswordValid, Bool.and_eq_true, Bool.and_eq_true, decide_eq_true_iff,
    decide_eq_true_iff, positive, bounded, and_assoc]

theorem validHandle_iff (handle : InputArg) :
    validHandle handle = true ↔ HandleValid handle := by
  have sized : handle.length = handleSize ↔ handle.length.toNat = 58 := by
    rw [← UInt32.toNat_inj]
    rfl
  rw [validHandle, HandleValid, Bool.and_eq_true, decide_eq_true_iff, sized]

/-- A valid handle is given. -/
theorem HandleValid.length_ne_zero {handle : InputArg} (valid : HandleValid handle) :
    handle.length ≠ 0 := by
  intro zero
  have sized := valid.2
  rw [zero] at sized
  exact absurd sized (by decide)

theorem PasswordValid.length_ne_zero {password : InputArg} (valid : PasswordValid password) :
    password.length ≠ 0 := by
  intro zero
  have positive := valid.2.1
  rw [zero] at positive
  exact absurd positive (by decide)

theorem EnrollArgs.acceptable_iff (args : EnrollArgs) :
    args.acceptable = true ↔ args.Valid := by
  constructor
  · intro accepted
    simp only [EnrollArgs.acceptable, Bool.if_false_left, Bool.and_eq_true, Bool.not_or,
      Bool.not_not, Bool.decide_eq_true, validPassword_iff] at accepted
    obtain ⟨⟨⟨⟨device, handle⟩, length⟩, desired⟩, rest⟩ := accepted
    refine ⟨device, handle, length, desired, ?_⟩
    by_cases given : args.currentHandle.length = 0
    · left
      simpa [given] using rest
    · right
      have both : args.currentPassword.length ≠ 0 ∧ HandleValid args.currentHandle ∧
          PasswordValid args.currentPassword := by
        simpa [given, validHandle_iff, validPassword_iff] using rest
      exact both.2
  · rintro ⟨device, handle, length, desired, current⟩
    rcases current with ⟨noHandle, noPassword⟩ | ⟨currentHandle, currentPassword⟩
    · simp [EnrollArgs.acceptable, device, handle, length, (validPassword_iff _).2 desired,
        noHandle, noPassword]
    · simp [EnrollArgs.acceptable, device, handle, length, (validPassword_iff _).2 desired,
        (validHandle_iff _).2 currentHandle, (validPassword_iff _).2 currentPassword,
        currentHandle.length_ne_zero, currentPassword.length_ne_zero]

theorem VerifyArgs.acceptable_iff (args : VerifyArgs) :
    args.acceptable = true ↔ args.Valid := by
  constructor
  · intro accepted
    simp only [VerifyArgs.acceptable, Bool.not_or, Bool.not_not, Bool.and_eq_true,
      validHandle_iff, validPassword_iff, Bool.not_eq_true', bne_eq_false_iff_eq] at accepted
    obtain ⟨⟨⟨device, handle⟩, password⟩, token⟩ := accepted
    exact ⟨device, handle, password, token⟩
  · rintro ⟨device, handle, password, token⟩
    simp [VerifyArgs.acceptable, device, (validHandle_iff _).2 handle,
      (validPassword_iff _).2 password, token]

/-! ## Failing closed -/

/-- A retry carries a timeout that `int` can hold, and not zero. -/
def RetryBounded (message : GateKeeperMessage) : Prop :=
  message.error = .retry →
    1 ≤ message.retryTimeout.toNat ∧ message.retryTimeout.toNat ≤ 2 ^ 31 - 1

section Decision

variable {gatekeeper : SoftGateKeeper} {message : GateKeeperMessage}

theorem intOfUInt32_pos {value : UInt32} (positive : 1 ≤ value.toNat)
    (bounded : value.toNat ≤ 2 ^ 31 - 1) : 0 < intOfUInt32 value := by
  have small : value ≤ intMax := UInt32.le_iff_toNat_le.2 bounded
  rw [intOfUInt32, if_pos small]
  omega

theorem result_eq_zero (bounded : RetryBounded message) (zero : result gatekeeper message = 0) :
    gatekeeper.operationFailed = false ∧ message.error = .none := by
  unfold result at zero
  split_ifs at zero with failed retry none
  · cases zero
  · obtain ⟨positive, small⟩ := bounded retry
    have := intOfUInt32_pos positive small
    omega
  · exact ⟨by simpa using failed, none⟩
  · cases zero

theorem result_eq_neg_eio (bounded : RetryBounded message) :
    result gatekeeper message = -eio ↔ gatekeeper.operationFailed = true := by
  unfold result
  split_ifs with failed retry none
  · simp [failed]
  · obtain ⟨positive, small⟩ := bounded retry
    have := intOfUInt32_pos positive small
    have : intOfUInt32 message.retryTimeout ≠ -eio := by
      unfold eio
      omega
    simp [failed, this]
  · simp [failed, eio]
  · simp [failed, eio, einval]

end Decision

section Operation

variable {request response outputs : Type}

/-- Some hook failed while libgatekeeper had the call. -/
def Exchange.Failed (exchange : Exchange request response) : Prop :=
  ∃ call ∈ exchange.calls, call.failed = true

/-- What a call may answer: `valid` says whether its arguments are, `cleared` are outputs
that hand out nothing. -/
structure FailsClosed (valid : Prop) (cleared : outputs)
    (message : response → GateKeeperMessage)
    (outcome : Outcome request response outputs) : Prop where
  granted : outcome.code = 0 ∨ outcome.outputs ≠ cleared → valid ∧
    ∃ exchange, outcome.exchange = some exchange ∧
      (message exchange.response).error = .none ∧ ¬ exchange.Failed
  failed : outcome.code = -eio ↔
    ∃ exchange, outcome.exchange = some exchange ∧ exchange.Failed
  closed : outcome.code ≠ 0 → outcome.outputs = cleared
  reached : outcome.exchange ≠ none → valid

theorem failsClosed_refuse {valid : Prop} {cleared : outputs}
    {message : response → GateKeeperMessage} {error : Int} (nonzero : error ≠ 0)
    (notIo : error ≠ eio) :
    FailsClosed valid cleared message
      (refuse error cleared : Outcome request response outputs) where
  granted given := by
    rcases given with zero | handed
    · exact absurd (Int.neg_eq_zero.1 zero) nonzero
    · exact absurd rfl handed
  failed := by
    constructor
    · intro same
      exact absurd (Int.neg_inj.1 same) notIo
    · rintro ⟨exchange, reached, _⟩
      cases reached
  closed _ := rfl
  reached some := absurd rfl some

/-- The flag at the end of the operation is exact, so the result is. -/
theorem failsClosed_perform {valid : Prop} (accepted : valid) {gatekeeper : SoftGateKeeper}
    {given : request} {program : LibProgram response} {answers : Nat → SystemAnswer}
    {message : response → GateKeeperMessage} {cleared : outputs} {handOut : response → outputs}
    (bounded : RetryBounded (message (operate gatekeeper program answers).1)) :
    FailsClosed valid cleared message
      (perform gatekeeper given program answers message cleared handOut).2 := by
  have honest := operate_honest gatekeeper program answers
  unfold perform
  generalize operate gatekeeper program answers = ended at honest bounded ⊢
  obtain ⟨response, session⟩ := ended
  have flag : session.gatekeeper.operationFailed = true ↔
      Exchange.Failed (⟨given, response, session.calls⟩ : Exchange request _) := by
    rw [honest, List.any_eq_true]
    rfl
  have closed : result session.gatekeeper (message response) ≠ 0 →
      (if result session.gatekeeper (message response) ≠ 0 then cleared
        else handOut response) = cleared :=
    fun nonzero => if_pos nonzero
  refine ⟨?_, ?_, closed, fun _ => accepted⟩
  · intro granted
    have zero : result session.gatekeeper (message response) = 0 :=
      granted.elim id fun handed => by_contra fun nonzero => handed (closed nonzero)
    obtain ⟨clear, none⟩ := result_eq_zero bounded zero
    refine ⟨accepted, _, rfl, none, fun failed => ?_⟩
    rw [flag.2 failed] at clear
    cases clear
  · simp only [result_eq_neg_eio bounded, flag, Option.some.injEq, exists_eq_left']

/-- The outcome shows libgatekeeper's part, and nothing else went into it. -/
theorem perform_eq_of_exchange {first second : SoftGateKeeper} {given : request}
    {program : LibProgram response} {answers : Nat → SystemAnswer}
    {message : response → GateKeeperMessage} {cleared : outputs} {handOut : response → outputs}
    (same : (perform first given program answers message cleared handOut).2.exchange =
      (perform second given program answers message cleared handOut).2.exchange) :
    (perform first given program answers message cleared handOut).2 =
      (perform second given program answers message cleared handOut).2 := by
  have firstHonest := operate_honest first program answers
  have secondHonest := operate_honest second program answers
  unfold perform at same ⊢
  generalize operate first program answers = one at firstHonest same ⊢
  generalize operate second program answers = two at secondHonest same ⊢
  obtain ⟨response, session⟩ := one
  obtain ⟨_, session'⟩ := two
  simp only [Option.some.injEq, Exchange.mk.injEq, true_and] at same
  obtain ⟨rfl, calls⟩ := same
  have flags : session.gatekeeper.operationFailed = session'.gatekeeper.operationFailed := by
    rw [firstHonest, secondHonest, calls]
  have results : result session.gatekeeper (message response) =
      result session'.gatekeeper (message response) := by
    rw [result, result, flags]
  dsimp only
  rw [results, calls]

section Conduct

variable {acceptable : Bool} {requested : Option request}
  {libgatekeeper : request → LibProgram response} {answers : Nat → SystemAnswer}
  {message : response → GateKeeperMessage} {cleared : outputs} {handOut : response → outputs}

theorem failsClosed_conduct {valid : Prop} (accepts : acceptable = true ↔ valid)
    (gatekeeper : SoftGateKeeper)
    (bounded : ∀ given,
      RetryBounded (message (operate gatekeeper (libgatekeeper given) answers).1)) :
    FailsClosed valid cleared message
      (conduct gatekeeper acceptable requested libgatekeeper answers message cleared
        handOut).2 := by
  unfold conduct
  split_ifs with refused
  · exact failsClosed_refuse (by decide) (by decide)
  · have accepted : valid := accepts.1 (by simpa using refused)
    cases requested with
    | none => exact failsClosed_refuse (by decide) (by decide)
    | some given => exact failsClosed_perform accepted (bounded given)

theorem conduct_eq_of_exchange {first second : SoftGateKeeper}
    (same :
      (conduct first acceptable requested libgatekeeper answers message cleared
        handOut).2.exchange =
      (conduct second acceptable requested libgatekeeper answers message cleared
        handOut).2.exchange) :
    (conduct first acceptable requested libgatekeeper answers message cleared handOut).2 =
      (conduct second acceptable requested libgatekeeper answers message cleared
        handOut).2 := by
  unfold conduct at same ⊢
  split_ifs with refused
  · rfl
  · rw [if_neg refused, if_neg refused] at same
    cases requested with
    | none => rfl
    | some given => exact perform_eq_of_exchange same

theorem conduct_eq_of_failureMap {first second : SoftGateKeeper}
    (same : first.failureMap = second.failureMap) :
    (conduct first acceptable requested libgatekeeper answers message cleared handOut).2 =
      (conduct second acceptable requested libgatekeeper answers message cleared
        handOut).2 := by
  apply conduct_eq_of_exchange
  unfold conduct
  split_ifs with refused
  · rfl
  · cases requested with
    | none => rfl
    | some given => simp only [perform, operate_eq_of_failureMap same]

end Conduct

end Operation

/-! ## Sequences of calls -/

/-- libgatekeeper's responses to this call, to whatever request and on whatever device. -/
def DeviceCall.RetryBounded : DeviceCall → Prop
  | .enroll call => ∀ gatekeeper request, Gatekeeper.RetryBounded
      (operate gatekeeper (call.libgatekeeper request) call.answers).1.message
  | .verify call => ∀ gatekeeper request, Gatekeeper.RetryBounded
      (operate gatekeeper (call.libgatekeeper request) call.answers).1.message

def DeviceCall.FailsClosed : DeviceCall → DeviceOutcome → Prop
  | .enroll call, .enrolled outcome =>
      Gatekeeper.FailsClosed call.args.Valid call.args.cleared EnrollResponse.message outcome
  | .verify call, .verified outcome =>
      Gatekeeper.FailsClosed call.args.Valid call.args.cleared VerifyResponse.message outcome
  | _, _ => False

/-- libgatekeeper had the same part in both calls, or in neither. -/
def DeviceOutcome.SameExchange : DeviceOutcome → DeviceOutcome → Prop
  | .enrolled first, .enrolled second => first.exchange = second.exchange
  | .verified first, .verified second => first.exchange = second.exchange
  | _, _ => False

theorem failsClosed_serve (gatekeeper : SoftGateKeeper) (call : DeviceCall)
    (bounded : call.RetryBounded) : call.FailsClosed (serve gatekeeper call).2 := by
  cases call with
  | enroll call =>
      exact failsClosed_conduct call.args.acceptable_iff gatekeeper (bounded gatekeeper)
  | verify call =>
      exact failsClosed_conduct call.args.acceptable_iff gatekeeper (bounded gatekeeper)

theorem serve_eq_of_exchange {first second : SoftGateKeeper} {call : DeviceCall}
    (same : (serve first call).2.SameExchange (serve second call).2) :
    (serve first call).2 = (serve second call).2 := by
  cases call with
  | enroll call => exact congrArg DeviceOutcome.enrolled (conduct_eq_of_exchange same)
  | verify call => exact congrArg DeviceOutcome.verified (conduct_eq_of_exchange same)

/-- Of an earlier call only the failure records remain. -/
theorem serve_eq_of_failureMap {first second : SoftGateKeeper}
    (same : first.failureMap = second.failureMap) (call : DeviceCall) :
    (serve first call).2 = (serve second call).2 := by
  cases call with
  | enroll call => exact congrArg DeviceOutcome.enrolled (conduct_eq_of_failureMap same)
  | verify call => exact congrArg DeviceOutcome.verified (conduct_eq_of_failureMap same)

/-- The outcome of a call among others on one device. -/
def AnsweredWith (history : List DeviceCall) (call : DeviceCall) (later : List DeviceCall)
    (outcome : DeviceOutcome) : Prop :=
  (answers device .opened (history ++ call :: later))[history.length]? = some [outcome]

theorem answeredWith_iff {history : List DeviceCall} {call : DeviceCall}
    {later : List DeviceCall} {outcome : DeviceOutcome} :
    AnsweredWith history call later outcome ↔
      outcome = (serve (stateAfter device .opened history) call).2 := by
  rw [AnsweredWith, answers_getElem?, Option.some.injEq, device, List.cons.injEq,
    and_iff_left rfl, eq_comm]

/-- Every call on a device fails closed, and what happened in the calls before it decides
nothing: its outcome follows from libgatekeeper's part in it, and this part from the
failure records. -/
theorem gatekeeper_fails_closed (history later : List DeviceCall) (call : DeviceCall)
    (bounded : call.RetryBounded) :
    ∃ outcome, AnsweredWith history call later outcome ∧ call.FailsClosed outcome ∧
      ∀ otherHistory otherLater otherOutcome,
        AnsweredWith otherHistory call otherLater otherOutcome →
        (outcome.SameExchange otherOutcome → outcome = otherOutcome) ∧
        ((stateAfter device .opened history).failureMap =
          (stateAfter device .opened otherHistory).failureMap → outcome = otherOutcome) := by
  refine ⟨_, answeredWith_iff.2 rfl, failsClosed_serve _ call bounded, ?_⟩
  intro otherHistory otherLater otherOutcome answered
  obtain rfl := answeredWith_iff.1 answered
  exact ⟨serve_eq_of_exchange, fun same => serve_eq_of_failureMap same call⟩

section Example

/-- libgatekeeper asks for a salt and grants whatever it is asked. -/
def grant : EnrollRequest → LibProgram EnrollResponse := fun request =>
  .call (.getRandom 8) fun (salt : List UInt8) =>
    .done ⟨⟨.none, 0⟩, ⟨some (salt ++ request.providedPassword), 58⟩⟩

/-- A first enrollment with the password `a`. -/
def enrollment (works : Bool) : DeviceCall :=
  .enroll
    { args := ⟨true, 0, ⟨none, 0⟩, ⟨none, 0⟩, ⟨some [97], 1⟩, true, true⟩
      libgatekeeper := grant
      answers := fun _ => { works }
      allocated := fun _ => true }

theorem retryBounded_enrollment (works : Bool) : (enrollment works).RetryBounded := by
  intro gatekeeper request retry
  cases retry

/-- Without random bytes the first call fails; the second one, with them, is granted. -/
theorem gatekeeper_fails_closed_twice :
    (∃ outcome, AnsweredWith [] (enrollment false) [enrollment true] (.enrolled outcome) ∧
      (enrollment false).FailsClosed (.enrolled outcome) ∧ outcome.code = -5 ∧
      outcome.outputs = ⟨some none, some 0⟩) ∧
    ∃ outcome, AnsweredWith [enrollment false] (enrollment true) [] (.enrolled outcome) ∧
      (enrollment true).FailsClosed (.enrolled outcome) ∧ outcome.code = 0 ∧
      outcome.outputs = ⟨some (some [0, 0, 0, 0, 0, 0, 0, 0, 97]), some 58⟩ := by
  obtain ⟨first, answered, closed, _⟩ := gatekeeper_fails_closed [] [enrollment true]
    (enrollment false) (retryBounded_enrollment false)
  obtain ⟨second, answered', closed', _⟩ := gatekeeper_fails_closed [enrollment false] []
    (enrollment true) (retryBounded_enrollment true)
  obtain rfl := answeredWith_iff.1 answered
  obtain rfl := answeredWith_iff.1 answered'
  exact ⟨⟨_, answered, closed, rfl, rfl⟩, _, answered', closed', rfl, rfl⟩

end Example

end K50sv1.Gatekeeper
