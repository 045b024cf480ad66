import K50sv1.RilShim.AttachApn.Core
import K50sv1.Transition.Run

/-!
# The re-send machinery and its environment

The step relation of the shim's re-send machinery together with the framework,
the vendor RIL and the clock.  A step is one region under `sIaLock` or one call
into the vendor's `onRequest`; between two regions of the worker the lock counts
as free, which only adds interleavings.

The vendor is represented by the requests it holds.  It may complete any held
request at any later time and in any order; a request it has not been given, or
has completed already, is not held and cannot be completed.
-/

namespace K50sv1.RilShim.AttachApn

open K50sv1.Transition

/-- A re-issued `SET_INITIAL_ATTACH_APN`.  `id` is its issue number and `issuedAt`
the clock reading its deadline is computed from. -/
structure Request (simCount : Nat) where
  id : Nat
  token : Fin reissueTokenSlots
  socketId : Fin simCount
  payload : MtkInitialAttachApn
  issuedAt : Option Timespec
  deriving DecidableEq, Repr

/-- Where the worker thread stands. -/
inductive WorkerPhase (simCount : Nat) where
  | scanning
  | timedWaiting
  | waiting
  | sleeping (relativeSleep : Bool) (waitUntilNs : Nat)
  /-- `sIaLock` is released and `sRealOnRequest` is about to be called. -/
  | calling (request : Request simCount)
  deriving DecidableEq, Repr

/-- The shim, its worker and what the environment remembers. -/
structure IaSystem (simCount : Nat) where
  shim : IaState simCount
  worker : WorkerPhase simCount
  /-- Framework requests that passed the cache step of `onRequestShim` and are not
  yet forwarded, oldest first. -/
  framework : Fin simCount → List SetInitialAttachApn
  /-- Shim-issued requests that the vendor received and has not completed. -/
  held : List (Request simCount)
  issueCount : Nat
  lastIssued : Option (Request simCount)
  /-- The wait for `lastIssued` was given up. -/
  lastExpired : Bool
  /-- Every clock reading taken so far, oldest first. -/
  clock : List (Option Timespec)
  /-- The most recent `SET_INITIAL_ATTACH_APN` of the framework on each socket. -/
  frameworkLast : Fin simCount → Option SetInitialAttachApn
  /-- The last `SET_INITIAL_ATTACH_APN` the vendor's `onRequest` received. -/
  vendorLast : Fin simCount → Option SetInitialAttachApn

/-- What can happen next. -/
inductive IaEvent (simCount : Nat) where
  /-- The framework's request enters `onRequestShim` and is cached. -/
  | dispatch (socketId : Int) (request : SetInitialAttachApn) (strdup : StrdupResults)
  /-- The framework's oldest cached request is forwarded to the vendor. -/
  | forward (socket : Fin simCount)
  | indication (unsolResponse : Int) (socketId : Int)
  /-- The vendor completes a shim-issued request that it holds. -/
  | complete (request : Request simCount)
  /-- The vendor completes a request of somebody else. -/
  | completeForeign (address : Nat)
  | workerPass (inputs : PassInputs)
  /-- The worker returns from a condition wait, for whatever reason. -/
  | workerWake (afterWait : Option Timespec)
  | workerSlept
  /-- The worker calls the vendor's `onRequest`. -/
  | workerCall
  deriving DecidableEq, Repr

variable {simCount : Nat} [NeZero simCount]

def IaSystem.initial (simCount : Nat) [NeZero simCount] : IaSystem simCount where
  shim := .initial simCount
  worker := .scanning
  framework := fun _ => []
  held := []
  issueCount := 0
  lastIssued := none
  lastExpired := false
  clock := []
  frameworkLast := fun _ => none
  vendorLast := fun _ => none

/-- Continue the worker after a locked pass. -/
def IaSystem.afterPass (system : IaSystem simCount) (inputs : PassInputs)
    (result : PassResult simCount) : IaSystem simCount :=
  let system := { system with
    shim := result.state
    clock := system.clock ++ result.readings }
  match result.exit with
  | .released => { system with lastExpired := true }
  | .timedWait => { system with worker := .timedWaiting }
  | .wait => { system with worker := .waiting }
  | .sleep relativeSleep waitUntilNs =>
      { system with worker := .sleeping relativeSleep waitUntilNs }
  | .rejected _ => system
  | .copyFailed _ => system
  | .issued socketId token outgoing =>
      let request : Request simCount :=
        { id := system.issueCount, token, socketId, payload := outgoing
          issuedAt := inputs.issuedAt }
      { system with
        worker := .calling request
        issueCount := system.issueCount + 1
        lastIssued := some request
        lastExpired := false }

/-- The framework's request on a socket, up to and including its cache step. -/
def IaSystem.dispatched (hooks : IaHookState) (system : IaSystem simCount) (socketId : Int)
    (request : SetInitialAttachApn) (strdup : StrdupResults) : IaSystem simCount :=
  let shim := if hooks = .active then
    cacheInitialAttachApn system.shim socketId request strdup else system.shim
  match checkedSocket simCount socketId with
  | none => { system with shim }
  | some socket =>
      { system with
        shim
        framework := Function.update system.framework socket
          (system.framework socket ++ [request])
        frameworkLast := Function.update system.frameworkLast socket (some request) }

/-- One step of the system while the hooks are in the given state. -/
def iaStep (hooks : IaHookState) : Step (IaEvent simCount) (IaSystem simCount)
  | system, .dispatch socketId request strdup =>
      some (system.dispatched hooks socketId request strdup)
  | system, .forward socket =>
      match system.framework socket with
      | [] => none
      | request :: rest =>
          some { system with
            framework := Function.update system.framework socket rest
            vendorLast := Function.update system.vendorLast socket (some request) }
  | system, .indication unsolResponse socketId =>
      some { system with shim := noteIndication hooks system.shim unsolResponse socketId }
  | system, .complete request =>
      if request ∈ system.held then
        some { system with
          shim := completeHook system.shim (.reissue request.token)
          held := system.held.erase request }
      else
        none
  | system, .completeForeign address =>
      some { system with shim := completeHook system.shim (.foreign address) }
  | system, .workerPass inputs =>
      match system.worker with
      | .scanning => some (system.afterPass inputs (iaWorkerPass system.shim inputs))
      | _ => none
  | system, .workerWake afterWait =>
      match system.worker with
      | .timedWaiting =>
          some { system with
            shim := afterTimedWait system.shim afterWait
            worker := .scanning
            lastExpired := system.lastExpired || waitExpires system.shim afterWait
            clock := system.clock ++
              if system.shim.sIaRequestInFlight then [afterWait] else [] }
      | .waiting => some { system with worker := .scanning }
      | _ => none
  | system, .workerSlept =>
      match system.worker with
      | .sleeping _ _ => some { system with worker := .scanning }
      | _ => none
  | system, .workerCall =>
      match system.worker with
      | .calling request =>
          some { system with
            worker := .scanning
            held := request :: system.held
            vendorLast := Function.update system.vendorLast request.socketId
              (some (.ofPayload request.payload)) }
      | _ => none

/-- One step together with the value of `sIaHookState` it finds.  Runs of this step
cover the installation of the hooks as well as the time after it. -/
def iaAnyStep : Step (IaHookState × IaEvent simCount) (IaSystem simCount)
  | system, (hooks, event) => iaStep hooks system event

/-- A payload that has nothing but a name. -/
def namedApn (name : CString) : MtkInitialAttachApn :=
  { MtkInitialAttachApn.zero with apn := some name }

/-- A worker pass with ample memory and all clock readings at a full second. -/
def passAt (seconds : Nat) : IaEvent simCount :=
  .workerPass ⟨some ⟨seconds, 0⟩, some ⟨seconds, 0⟩, some ⟨seconds, 0⟩, .ample⟩

/-- The framework sets an APN on the first of two sockets. -/
def dispatchApn (name : CString) : IaEvent 2 :=
  .dispatch 0 (.ofPayload (namedApn name)) .ample

/-- The request on the first of two sockets is forwarded. -/
def forwardFirst : IaEvent 2 :=
  .forward 0

def setApn (name : CString) : List (IaEvent 2) :=
  [dispatchApn name, forwardFirst]

/-- A run in which the first replay outlives its wait and a second one is issued
while the vendor still holds the first. -/
def overlappingReplays : List (IaEvent 2) :=
  setApn [105, 109, 115] ++
    [.indication rilUnsolResetAttachApn 0, passAt 1, .workerCall, passAt 2,
      .workerWake (some ⟨11, 0⟩), .indication rilUnsolResetAttachApn 0, passAt 12, .workerCall]

/-- The request the worker has issued and not yet handed to the vendor. -/
def WorkerPhase.inTransit : WorkerPhase simCount → List (Request simCount)
  | .calling request => [request]
  | _ => []

/-- The issued requests that are not completed: the one on its way to the vendor
and those the vendor holds. -/
def IaSystem.live (system : IaSystem simCount) : List (Request simCount) :=
  system.worker.inTransit ++ system.held

/-! ## What a worker pass can do -/

theorem selectSocket_spec {state : IaState simCount} {socketId : Fin simCount}
    (selected : selectSocket state = some socketId) :
    state.sIaRequestInFlight = false ∧ state.sIaPending socketId = true ∧
      state.sIaCached socketId = true := by
  unfold selectSocket at selected
  split at selected
  · contradiction
  · rename_i idle
    have hit := Ring.scan_spec selected
    simp only [Bool.and_eq_true] at hit
    exact ⟨by simpa using idle, hit⟩

omit [NeZero simCount] in
theorem selectToken_spec {state : IaState simCount} {token : Fin reissueTokenSlots}
    (selected : selectToken state = some token) :
    state.sIaTokenOutstanding token = false := by
  simpa using Ring.scan_spec selected

omit [NeZero simCount] in
theorem selectToken_eq_none {state : IaState simCount} (exhausted : selectToken state = none)
    (index : Fin reissueTokenSlots) : state.sIaTokenOutstanding index = true := by
  simpa using Ring.scan_eq_none_iff.mp exhausted index

/-- Every exit of a locked pass with the guard under which it is taken and the
state it leaves. -/
inductive PassOutcome (state : IaState simCount) (inputs : PassInputs) :
    PassResult simCount → Prop where
  | released (inFlight : state.sIaRequestInFlight = true)
      (unset : state.sIaInFlightDeadlineNs = 0) :
      PassOutcome state inputs
        ⟨{ state with sIaRequestInFlight := false }, .released, []⟩
  | timedWait (inFlight : state.sIaRequestInFlight = true)
      (set : state.sIaInFlightDeadlineNs ≠ 0) :
      PassOutcome state inputs ⟨state, .timedWait, []⟩
  | wait (idle : state.sIaRequestInFlight = false) (nothing : selectSocket state = none) :
      PassOutcome state inputs ⟨state, .wait, []⟩
  | sleep (socketId : Fin simCount) (relativeSleep : Bool) (waitUntilNs : Nat)
      (selected : selectSocket state = some socketId)
      (limited : rateLimit state inputs.now = (relativeSleep, waitUntilNs))
      (pause : relativeSleep = true ∨ waitUntilNs ≠ 0) :
      PassOutcome state inputs ⟨state, .sleep relativeSleep waitUntilNs, [inputs.now]⟩
  | rejected (socketId : Fin simCount) (selected : selectSocket state = some socketId)
      (allowed : rateLimit state inputs.now = (false, 0))
      (exhausted : ∀ index, state.sIaTokenOutstanding index = true) :
      PassOutcome state inputs
        ⟨chargeLastIssue
            { state with sIaPending := Function.update state.sIaPending socketId false }
            inputs.lastIssue,
          .rejected socketId, [inputs.now, inputs.lastIssue]⟩
  | copyFailed (socketId : Fin simCount) (selected : selectSocket state = some socketId)
      (allowed : rateLimit state inputs.now = (false, 0))
      (failed : copyIa inputs.strdup (state.sIaCache socketId) = none) :
      PassOutcome state inputs
        ⟨chargeLastIssue state inputs.lastIssue, .copyFailed socketId,
          [inputs.now, inputs.lastIssue]⟩
  | issued (socketId : Fin simCount) (token : Fin reissueTokenSlots)
      (selected : selectSocket state = some socketId)
      (allowed : rateLimit state inputs.now = (false, 0))
      (free : state.sIaTokenOutstanding token = false)
      (copied : copyIa inputs.strdup (state.sIaCache socketId) =
        some (state.sIaCache socketId)) :
      PassOutcome state inputs
        ⟨issue state socketId token inputs, .issued socketId token (state.sIaCache socketId),
          [inputs.now, inputs.issuedAt, inputs.lastIssue]⟩

theorem attempt_outcome {state : IaState simCount} {inputs : PassInputs}
    {socketId : Fin simCount} (selected : selectSocket state = some socketId)
    (allowed : rateLimit state inputs.now = (false, 0)) :
    PassOutcome state inputs (attempt state socketId inputs) := by
  unfold attempt
  cases tokenEq : selectToken state with
  | none => exact .rejected socketId selected allowed (selectToken_eq_none tokenEq)
  | some token =>
      cases copyEq : copyIa inputs.strdup (state.sIaCache socketId) with
      | none => exact .copyFailed socketId selected allowed copyEq
      | some outgoing =>
          obtain rfl := copyIa_eq_some copyEq
          exact .issued socketId token selected allowed (selectToken_spec tokenEq) copyEq

theorem iaWorkerPass_outcome (state : IaState simCount) (inputs : PassInputs) :
    PassOutcome state inputs (iaWorkerPass state inputs) := by
  unfold iaWorkerPass
  cases selected : selectSocket state with
  | some socketId =>
      cases limited : rateLimit state inputs.now with
      | mk relativeSleep waitUntilNs =>
          by_cases pause : relativeSleep = true ∨ waitUntilNs ≠ 0
          · simp only [pause, if_true]
            exact .sleep socketId relativeSleep waitUntilNs selected limited pause
          · simp only [pause, if_false]
            obtain ⟨rfl, rfl⟩ : relativeSleep = false ∧ waitUntilNs = 0 := by
              simpa using pause
            exact attempt_outcome selected limited
  | none =>
      cases inFlight : state.sIaRequestInFlight with
      | false => exact .wait inFlight selected
      | true =>
          by_cases unset : state.sIaInFlightDeadlineNs = 0
          · rw [if_pos unset]
            exact .released inFlight unset
          · rw [if_neg unset]
            exact .timedWait inFlight unset

omit [NeZero simCount] in
/-- A pass that issues nothing leaves the live requests alone. -/
theorem afterPass_live {system : IaSystem simCount} (scanning : system.worker = .scanning)
    (inputs : PassInputs) {result : PassResult simCount}
    (quiet : ∀ socketId token outgoing, result.exit ≠ .issued socketId token outgoing) :
    (system.afterPass inputs result).live = system.live := by
  rcases result with ⟨state, exit, readings⟩
  cases exit with
  | issued socketId token outgoing => exact absurd rfl (quiet socketId token outgoing)
  | _ => simp [IaSystem.live, IaSystem.afterPass, scanning, WorkerPhase.inTransit]

/-! ## What a step can do -/

omit [NeZero simCount] in
/-- A dispatch touches the cache and the framework's own record only. -/
theorem dispatched_frame (hooks : IaHookState) (system : IaSystem simCount) (socketId : Int)
    (request : SetInitialAttachApn) (strdup : StrdupResults) :
    ∃ cache cached framework frameworkLast,
      system.dispatched hooks socketId request strdup =
        { system with
          shim := { system.shim with sIaCache := cache, sIaCached := cached }
          framework, frameworkLast } := by
  have shim : ∃ cache cached, (if hooks = .active then
      cacheInitialAttachApn system.shim socketId request strdup else system.shim) =
        { system.shim with sIaCache := cache, sIaCached := cached } := by
    by_cases active : hooks = .active
    · rw [if_pos active]
      exact cacheInitialAttachApn_frame system.shim socketId request strdup
    · rw [if_neg active]
      exact ⟨system.shim.sIaCache, system.shim.sIaCached, rfl⟩
  rcases shim with ⟨cache, cached, shimEq⟩
  unfold IaSystem.dispatched
  rw [shimEq]
  cases checkedSocket simCount socketId with
  | none => exact ⟨cache, cached, system.framework, system.frameworkLast, rfl⟩
  | some socket => exact ⟨cache, cached, _, _, rfl⟩

/-- Every enabled event with its guard and the state it leads to. -/
inductive IaTransition (hooks : IaHookState) (system : IaSystem simCount) :
    IaEvent simCount → IaSystem simCount → Prop where
  | dispatch (socketId : Int) (request : SetInitialAttachApn) (strdup : StrdupResults) :
      IaTransition hooks system (.dispatch socketId request strdup)
        (system.dispatched hooks socketId request strdup)
  | forward (socket : Fin simCount) (request : SetInitialAttachApn)
      (rest : List SetInitialAttachApn) (queued : system.framework socket = request :: rest) :
      IaTransition hooks system (.forward socket)
        { system with
          framework := Function.update system.framework socket rest
          vendorLast := Function.update system.vendorLast socket (some request) }
  | indication (unsolResponse socketId : Int) :
      IaTransition hooks system (.indication unsolResponse socketId)
        { system with shim := noteIndication hooks system.shim unsolResponse socketId }
  | complete (request : Request simCount) (held : request ∈ system.held) :
      IaTransition hooks system (.complete request)
        { system with
          shim := completeReissue system.shim request.token
          held := system.held.erase request }
  | completeForeign (address : Nat) :
      IaTransition hooks system (.completeForeign address) system
  | pass (inputs : PassInputs) (result : PassResult simCount)
      (scanning : system.worker = .scanning)
      (outcome : PassOutcome system.shim inputs result)
      (computed : iaWorkerPass system.shim inputs = result) :
      IaTransition hooks system (.workerPass inputs) (system.afterPass inputs result)
  | timedWake (afterWait : Option Timespec) (waiting : system.worker = .timedWaiting) :
      IaTransition hooks system (.workerWake afterWait)
        { system with
          shim := afterTimedWait system.shim afterWait
          worker := .scanning
          lastExpired := system.lastExpired || waitExpires system.shim afterWait
          clock := system.clock ++
            if system.shim.sIaRequestInFlight then [afterWait] else [] }
  | wake (afterWait : Option Timespec) (waiting : system.worker = .waiting) :
      IaTransition hooks system (.workerWake afterWait) { system with worker := .scanning }
  | slept (relativeSleep : Bool) (waitUntilNs : Nat)
      (sleeping : system.worker = .sleeping relativeSleep waitUntilNs) :
      IaTransition hooks system .workerSlept { system with worker := .scanning }
  | call (request : Request simCount) (calling : system.worker = .calling request) :
      IaTransition hooks system .workerCall
        { system with
          worker := .scanning
          held := request :: system.held
          vendorLast := Function.update system.vendorLast request.socketId
            (some (.ofPayload request.payload)) }

theorem iaStep_transition {hooks : IaHookState} {system after : IaSystem simCount}
    {event : IaEvent simCount} (step : iaStep hooks system event = some after) :
    IaTransition hooks system event after := by
  cases event with
  | dispatch socketId request strdup =>
      cases step
      exact .dispatch socketId request strdup
  | forward socket =>
      simp only [iaStep] at step
      split at step
      · contradiction
      · rename_i request rest queued
        cases step
        exact .forward socket request rest queued
  | indication unsolResponse socketId =>
      cases step
      exact .indication unsolResponse socketId
  | complete request =>
      simp only [iaStep] at step
      split at step
      · rename_i held
        cases step
        exact .complete request held
      · contradiction
  | completeForeign address =>
      cases step
      exact .completeForeign address
  | workerPass inputs =>
      simp only [iaStep] at step
      split at step
      · rename_i scanning
        cases step
        exact .pass inputs _ scanning (iaWorkerPass_outcome system.shim inputs) rfl
      · contradiction
  | workerWake afterWait =>
      simp only [iaStep] at step
      split at step
      · rename_i waiting
        cases step
        exact .timedWake afterWait waiting
      · rename_i waiting
        cases step
        exact .wake afterWait waiting
      · contradiction
  | workerSlept =>
      simp only [iaStep] at step
      split at step
      · rename_i relativeSleep waitUntilNs sleeping
        cases step
        exact .slept relativeSleep waitUntilNs sleeping
      · contradiction
  | workerCall =>
      simp only [iaStep] at step
      split at step
      · rename_i request calling
        cases step
        exact .call request calling
      · contradiction

end K50sv1.RilShim.AttachApn
