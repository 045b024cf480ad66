import K50sv1.Data.Ring
import K50sv1.RilShim.Core

/-!
# The initial-attach APN re-send machinery

The lock-protected state of the re-send machinery and the code that changes it:
`cacheInitialAttachApn`, the two GOT hooks and `iaWorker`.  Every function below
is one region that the source executes under `sIaLock`; what a region reads from
outside (clock readings, `strdup` results) is an argument.

`SIM_COUNT` is a parameter.  The clock readings a region consumes are returned in
the order in which it takes them, because statements about time are statements
about that sequence.
-/

namespace K50sv1.RilShim.AttachApn

/-- `IaHookState`. -/
inductive IaHookState where
  | disabled
  | installing
  | active
  | failed
  deriving DecidableEq, Repr

/-- The file-static state guarded by `sIaLock`. -/
structure IaState (simCount : Nat) where
  sIaCurrentTokenIndex : Fin reissueTokenSlots
  sIaTokenOutstanding : Fin reissueTokenSlots → Bool
  sIaCache : Fin simCount → MtkInitialAttachApn
  sIaCached : Fin simCount → Bool
  sIaPending : Fin simCount → Bool
  sIaRequestInFlight : Bool
  sIaInFlightDeadlineNs : Nat
  sIaLastIssueValid : Bool
  sIaLastIssue : Timespec
  sIaNextSocket : Fin simCount

variable {simCount : Nat} [NeZero simCount]

/-- Static storage is zero-initialised. -/
def IaState.initial (simCount : Nat) [NeZero simCount] : IaState simCount where
  sIaCurrentTokenIndex := 0
  sIaTokenOutstanding := fun _ => false
  sIaCache := fun _ => .zero
  sIaCached := fun _ => false
  sIaPending := fun _ => false
  sIaRequestInFlight := false
  sIaInFlightDeadlineNs := 0
  sIaLastIssueValid := false
  sIaLastIssue := ⟨0, 0⟩
  sIaNextSocket := 0

/-! ## The framework's path and the hooks -/

/-- Replace the cached payload of a socket, unless the socket is out of range,
the request does not have the expected shape, or the copy fails. -/
def cacheInitialAttachApn (state : IaState simCount) (socketId : Int)
    (request : SetInitialAttachApn) (strdup : StrdupResults) : IaState simCount :=
  match checkedSocket simCount socketId, request.data with
  | some socket, some payload =>
      if request.datalen ≠ sizeofMtkInitialAttachApn then
        state
      else
        match copyIa strdup payload with
        | none => state
        | some fresh =>
            { state with
              sIaCache := Function.update state.sIaCache socket fresh
              sIaCached := Function.update state.sIaCached socket true }
  | _, _ => state

/-- The part of `completeHook` that runs for one of the shim's own tokens.  Only
the most recently issued token hands the single-flight slot on. -/
def completeReissue (state : IaState simCount) (index : Fin reissueTokenSlots) :
    IaState simCount :=
  let outstanding := state.sIaTokenOutstanding index
  let current := outstanding && state.sIaRequestInFlight &&
    index == state.sIaCurrentTokenIndex
  { state with
    sIaTokenOutstanding := Function.update state.sIaTokenOutstanding index false
    sIaRequestInFlight := if current then false else state.sIaRequestInFlight
    sIaInFlightDeadlineNs := if current then 0 else state.sIaInFlightDeadlineNs }

/-- `completeHook` up to the point where it swallows the completion or passes it
on: only the shim's own tokens touch the state. -/
def completeHook (state : IaState simCount) (t : RilToken) : IaState simCount :=
  match t with
  | .reissue index => completeReissue state index
  | .foreign _ => state

/-- The part of `unsolHook` that runs before the indication is forwarded. -/
def noteIndication (hooks : IaHookState) (state : IaState simCount) (unsolResponse : Int)
    (socketId : Int) : IaState simCount :=
  if hooks = .active ∧ unsolResponse = rilUnsolResetAttachApn then
    match checkedSocket simCount socketId with
    | none => state
    | some socket =>
        if state.sIaCached socket then
          { state with sIaPending := Function.update state.sIaPending socket true }
        else
          state
  else
    state

/-! ## The worker -/

/-- The socket scan at the head of the worker's inner loop. -/
def selectSocket (state : IaState simCount) : Option (Fin simCount) :=
  if state.sIaRequestInFlight then
    none
  else
    Ring.scan state.sIaNextSocket.val 0 fun i => state.sIaPending i && state.sIaCached i

/-- The token scan: circular, from the slot after the last issued one. -/
def selectToken (state : IaState simCount) : Option (Fin reissueTokenSlots) :=
  Ring.scan state.sIaCurrentTokenIndex.val 1 fun index => !state.sIaTokenOutstanding index

/-- `relativeSleep` and `waitUntilNs` as the rate limiter computes them. -/
def rateLimit (state : IaState simCount) (now : Option Timespec) : Bool × Nat :=
  match now with
  | none => (true, 0)
  | some now =>
      if state.sIaLastIssueValid then
        let earliest := timespecToNs state.sIaLastIssue + reissueMinIntervalNs
        if earliest > timespecToNs now then (false, earliest) else (false, 0)
      else
        (false, 0)

/-- Charge an attempt to the rate limiter with a fresh clock reading. -/
def chargeLastIssue (state : IaState simCount) (reading : Option Timespec) :
    IaState simCount :=
  match reading with
  | some time => { state with sIaLastIssue := time, sIaLastIssueValid := true }
  | none => { state with sIaLastIssueValid := false }

/-- The deadline latched when a request is issued; 0 without a usable clock. -/
def inFlightDeadline (issuedAt : Option Timespec) : Nat :=
  match issuedAt with
  | some time => timespecToNs time + reissueInflightTimeoutNs
  | none => 0

/-- What a locked pass of the worker reads: the clock at its three uses, in their
order, and the memory for the outgoing copy. -/
structure PassInputs where
  now : Option Timespec
  issuedAt : Option Timespec
  lastIssue : Option Timespec
  strdup : StrdupResults
  deriving DecidableEq, Repr

/-- How a locked pass of the worker ends. -/
inductive PassExit (simCount : Nat) where
  /-- A slot held without a deadline was released; back to the loop head. -/
  | released
  /-- Into `pthread_cond_timedwait` with the latched deadline. -/
  | timedWait
  /-- Into `pthread_cond_wait`. -/
  | wait
  /-- Unlock and sleep, for a full interval or until a deadline. -/
  | sleep (relativeSleep : Bool) (waitUntilNs : Nat)
  /-- All tokens await completion; the replay is given up. -/
  | rejected (socketId : Fin simCount)
  /-- No memory for the outgoing copy. -/
  | copyFailed (socketId : Fin simCount)
  /-- Unlock and re-issue the outgoing copy under a token. -/
  | issued (socketId : Fin simCount) (token : Fin reissueTokenSlots)
      (outgoing : MtkInitialAttachApn)
  deriving DecidableEq, Repr

/-- The result of a locked pass. -/
structure PassResult (simCount : Nat) where
  state : IaState simCount
  exit : PassExit simCount
  readings : List (Option Timespec)

/-- The state after issuing `token` for `socketId`. -/
def issue (state : IaState simCount) (socketId : Fin simCount)
    (token : Fin reissueTokenSlots) (inputs : PassInputs) : IaState simCount :=
  chargeLastIssue
    { state with
      sIaPending := Function.update state.sIaPending socketId false
      sIaRequestInFlight := true
      sIaCurrentTokenIndex := token
      sIaTokenOutstanding := Function.update state.sIaTokenOutstanding token true
      sIaInFlightDeadlineNs := inFlightDeadline inputs.issuedAt
      sIaNextSocket := Fin.ofNat simCount (socketId.val + 1) }
    inputs.lastIssue

/-- The part of a pass after the rate limiter let `socketId` through. -/
def attempt (state : IaState simCount) (socketId : Fin simCount) (inputs : PassInputs) :
    PassResult simCount :=
  match selectToken state with
  | none =>
      { state := chargeLastIssue
          { state with sIaPending := Function.update state.sIaPending socketId false }
          inputs.lastIssue
        exit := .rejected socketId
        readings := [inputs.now, inputs.lastIssue] }
  | some token =>
      match copyIa inputs.strdup (state.sIaCache socketId) with
      | none =>
          { state := chargeLastIssue state inputs.lastIssue
            exit := .copyFailed socketId
            readings := [inputs.now, inputs.lastIssue] }
      | some outgoing =>
          { state := issue state socketId token inputs
            exit := .issued socketId token outgoing
            readings := [inputs.now, inputs.issuedAt, inputs.lastIssue] }

/-- One pass of `iaWorker` from its inner loop head to the next wait or unlock. -/
def iaWorkerPass (state : IaState simCount) (inputs : PassInputs) : PassResult simCount :=
  match selectSocket state with
  | some socketId =>
      let (relativeSleep, waitUntilNs) := rateLimit state inputs.now
      if relativeSleep ∨ waitUntilNs ≠ 0 then
        { state, exit := .sleep relativeSleep waitUntilNs, readings := [inputs.now] }
      else
        attempt state socketId inputs
  | none =>
      if state.sIaRequestInFlight then
        if state.sIaInFlightDeadlineNs = 0 then
          { state := { state with sIaRequestInFlight := false }
            exit := .released
            readings := [] }
        else
          { state, exit := .timedWait, readings := [] }
      else
        { state, exit := .wait, readings := [] }

/-- Give the single-flight slot up without cancelling the request. -/
def releaseInFlight (state : IaState simCount) : IaState simCount :=
  { state with sIaRequestInFlight := false, sIaInFlightDeadlineNs := 0 }

/-- Whether the worker gives the slot up when it returns from
`pthread_cond_timedwait`: the clock decides, not the reason of the return. -/
def waitExpires (state : IaState simCount) (afterWait : Option Timespec) : Bool :=
  state.sIaRequestInFlight &&
    match afterWait with
    | none => true
    | some time => timespecToNs time ≥ state.sIaInFlightDeadlineNs

/-- The region after `pthread_cond_timedwait` returns. -/
def afterTimedWait (state : IaState simCount) (afterWait : Option Timespec) :
    IaState simCount :=
  if waitExpires state afterWait then releaseInFlight state else state

/-! ## What the regions outside the worker can do -/

section Regions

omit [NeZero simCount]

/-- A request either leaves the cache alone or replaces exactly one entry by its
own payload. -/
theorem cacheInitialAttachApn_cases (state : IaState simCount) (socketId : Int)
    (request : SetInitialAttachApn) (strdup : StrdupResults) :
    cacheInitialAttachApn state socketId request strdup = state ∨
      ∃ socket payload, checkedSocket simCount socketId = some socket ∧
        request = .ofPayload payload ∧
        cacheInitialAttachApn state socketId request strdup =
          { state with
            sIaCache := Function.update state.sIaCache socket payload
            sIaCached := Function.update state.sIaCached socket true } := by
  unfold cacheInitialAttachApn
  rcases request with ⟨data, datalen⟩
  split
  · rename_i socket payload socketEq dataEq
    split
    · exact .inl rfl
    · rename_i length
      split
      · exact .inl rfl
      · rename_i fresh copied
        obtain rfl := copyIa_eq_some copied
        refine .inr ⟨socket, fresh, socketEq, ?_, rfl⟩
        obtain rfl : data = some fresh := dataEq
        obtain rfl : datalen = sizeofMtkInitialAttachApn := not_ne_iff.mp length
        rfl
  · exact .inl rfl

/-- An indication either changes nothing or marks exactly one cached socket. -/
theorem noteIndication_cases (hooks : IaHookState) (state : IaState simCount)
    (unsolResponse socketId : Int) :
    noteIndication hooks state unsolResponse socketId = state ∨
      ∃ socket, hooks = .active ∧ unsolResponse = rilUnsolResetAttachApn ∧
        checkedSocket simCount socketId = some socket ∧ state.sIaCached socket = true ∧
        noteIndication hooks state unsolResponse socketId =
          { state with sIaPending := Function.update state.sIaPending socket true } := by
  unfold noteIndication
  split
  · rename_i reset
    cases socketEq : checkedSocket simCount socketId with
    | none => exact .inl rfl
    | some socket =>
        cases cached : state.sIaCached socket with
        | false => exact .inl (by simp [cached])
        | true => exact .inr ⟨socket, reset.1, reset.2, rfl, cached, by simp [cached]⟩
  · exact .inl rfl

/-- Completing an outstanding token frees it; the slot is handed on only if the
token is the current one. -/
theorem completeReissue_cases {state : IaState simCount} {index : Fin reissueTokenSlots}
    (outstanding : state.sIaTokenOutstanding index = true) :
    (state.sIaRequestInFlight = true ∧ index = state.sIaCurrentTokenIndex ∧
      completeReissue state index =
        { state with
          sIaTokenOutstanding := Function.update state.sIaTokenOutstanding index false
          sIaRequestInFlight := false
          sIaInFlightDeadlineNs := 0 }) ∨
    ((state.sIaRequestInFlight = true → index ≠ state.sIaCurrentTokenIndex) ∧
      completeReissue state index =
        { state with
          sIaTokenOutstanding := Function.update state.sIaTokenOutstanding index false }) := by
  by_cases current : state.sIaRequestInFlight = true ∧ index = state.sIaCurrentTokenIndex
  · left
    refine ⟨current.1, current.2, ?_⟩
    simp [completeReissue, outstanding, current.1, current.2.symm]
  · right
    constructor
    · intro inFlight same
      exact current ⟨inFlight, same⟩
    · cases inFlight : state.sIaRequestInFlight with
      | false => simp [completeReissue, inFlight]
      | true =>
          have differs : index ≠ state.sIaCurrentTokenIndex := fun same =>
            current ⟨inFlight, same⟩
          simp [completeReissue, inFlight, differs]

/-- An indication touches the pending flags only. -/
theorem noteIndication_frame (hooks : IaHookState) (state : IaState simCount)
    (unsolResponse socketId : Int) :
    ∃ pending, noteIndication hooks state unsolResponse socketId =
      { state with sIaPending := pending } := by
  rcases noteIndication_cases hooks state unsolResponse socketId with
    same | ⟨socket, _, _, _, _, marked⟩
  · exact ⟨state.sIaPending, same⟩
  · exact ⟨_, marked⟩

/-- A framework request touches the cache only. -/
theorem cacheInitialAttachApn_frame (state : IaState simCount) (socketId : Int)
    (request : SetInitialAttachApn) (strdup : StrdupResults) :
    ∃ cache cached, cacheInitialAttachApn state socketId request strdup =
      { state with sIaCache := cache, sIaCached := cached } := by
  rcases cacheInitialAttachApn_cases state socketId request strdup with
    same | ⟨socket, payload, _, _, replaced⟩
  · exact ⟨state.sIaCache, state.sIaCached, same⟩
  · exact ⟨_, _, replaced⟩

/-- Waking up touches the single-flight slot only. -/
theorem afterTimedWait_frame (state : IaState simCount) (afterWait : Option Timespec) :
    ∃ inFlight deadline, afterTimedWait state afterWait =
      { state with sIaRequestInFlight := inFlight, sIaInFlightDeadlineNs := deadline } := by
  unfold afterTimedWait
  split
  · exact ⟨_, _, rfl⟩
  · exact ⟨_, _, rfl⟩

/-- Charging the rate limiter touches the rate limiter only. -/
theorem chargeLastIssue_frame (state : IaState simCount) (reading : Option Timespec) :
    ∃ last valid, chargeLastIssue state reading =
      { state with sIaLastIssue := last, sIaLastIssueValid := valid } := by
  cases reading with
  | none => exact ⟨state.sIaLastIssue, false, rfl⟩
  | some time => exact ⟨time, true, rfl⟩

end Regions

end K50sv1.RilShim.AttachApn
