import K50sv1.RilShim.AttachApn.Core
import K50sv1.Transition.Transducer

/-!
# The synthetic radio-capability protocol

The shim answers `GET_RADIO_CAPABILITY` and `SET_RADIO_CAPABILITY` itself, from a
fixed table with one row per socket, and forwards every other request.  An
accepted `APPLY` is followed by an indication unless the per-socket dedupe memory
says that its session has been indicated already.  The main result relates that
memory to the history of requests and describes the answer to every request of a
sequence.
-/

namespace K50sv1.RilShim.RadioCapability

open K50sv1.Transition K50sv1.RilShim.AttachApn

/-! ## Constants of `ril.h` and of the fixed table -/

/-- `SIM_COUNT` of this device. -/
def simCount : Nat := 2

instance : NeZero simCount := ⟨by decide⟩

def rilRequestSetInitialAttachApn : Int := 111
def rilRequestGetRadioCapability : Int := 130
def rilRequestSetRadioCapability : Int := 131
def rilUnsolRadioCapability : Int := 1042

def rilESuccess : Int := 0
def rilEInvalidArguments : Int := 44

def rcPhaseConfigured : Int := 0
def rcPhaseStart : Int := 1
def rcPhaseApply : Int := 2
def rcPhaseUnsolRsp : Int := 3
def rcPhaseFinish : Int := 4

def rcStatusNone : Int := 0
def rcStatusSuccess : Int := 1

def rilRadioCapabilityVersion : Int := 1

/-- The value its `_Static_assert` pins. -/
def slot0NativeRaf : Int := 0x1400a
def slot1NativeRaf : Int := 0x10008

def slot0ModemUuid : String := "modem_sys1_ps1"
def slot1ModemUuid : String := "modem_sys1_ps2"

/-- The size of the `logicalModemUuid` array. -/
def maxUuidLength : Nat := 64

/-- The array after `memset` and `memcpy(.., uuid, strlen(uuid))`. -/
def uuidArray (uuid : String) : List UInt8 :=
  let bytes := uuid.toList.map fun char => char.toNat.toUInt8
  bytes ++ List.replicate (maxUuidLength - bytes.length) 0

/-- `RIL_RadioCapability`. -/
structure RilRadioCapability where
  version : Int
  session : Int
  phase : Int
  rat : Int
  logicalModemUuid : List UInt8
  status : Int
  deriving DecidableEq, Repr

/-- `sizeof(RIL_RadioCapability)`, pinned by a `_Static_assert`. -/
def sizeofRadioCapability : Nat := 84

/-! ## Requests and what leaves the shim -/

/-- What a non-null `data` points to: its address, and its bytes as each of the two
casts of the shim reads them. -/
structure RilData where
  address : Nat
  radioCapability : RilRadioCapability
  initialAttachApn : MtkInitialAttachApn
  deriving DecidableEq, Repr

/-- The arguments of one `onRequest` call. -/
structure RilRequest where
  request : Int
  data : Option RilData
  datalen : Nat
  t : RilToken
  socketId : Int
  deriving DecidableEq, Repr

/-- The calls that leave the shim while it handles a request. -/
inductive RilOutput where
  /-- `sEnv->OnRequestComplete`; `none` is the `NULL` response of length zero. -/
  | complete (t : RilToken) (e : Int) (response : Option RilRadioCapability)
  /-- `sEnv->OnUnsolicitedResponse`. -/
  | unsolicited (unsolResponse : Int) (payload : RilRadioCapability) (socketId : Int)
  /-- `sRealOnRequest`. -/
  | forward (request : RilRequest)
  deriving DecidableEq, Repr

/-- The dedupe memory under `sRcLock`. -/
structure ApplyDedupe where
  sLastApplySession : Fin simCount → Int
  sLastApplySessionValid : Fin simCount → Bool

def ApplyDedupe.initial : ApplyDedupe where
  sLastApplySession := fun _ => 0
  sLastApplySessionValid := fun _ => false

/-! ## The handlers -/

/-- `none` is the result `false`. -/
def fillFixedRadioCapability (socketId session phase status : Int) : Option RilRadioCapability :=
  let filled (rat : Int) (uuid : String) : RilRadioCapability :=
    { version := rilRadioCapabilityVersion, session, phase, rat,
      logicalModemUuid := uuidArray uuid, status }
  if socketId = 0 then
    some (filled slot0NativeRaf slot0ModemUuid)
  else if socketId = 1 then
    some (filled slot1NativeRaf slot1ModemUuid)
  else
    none

def resetApplyDedupe (state : ApplyDedupe) (socketId : Int) : ApplyDedupe :=
  match checkedSocket simCount socketId with
  | none => state
  | some index =>
      { state with
        sLastApplySessionValid := Function.update state.sLastApplySessionValid index false }

def shouldSendApplyUnsol (state : ApplyDedupe) (socketId session : Int) : Bool × ApplyDedupe :=
  match checkedSocket simCount socketId with
  | none => (false, state)
  | some index =>
      let send := !state.sLastApplySessionValid index ||
        state.sLastApplySession index != session
      if send then
        (send,
          { sLastApplySession := Function.update state.sLastApplySession index session
            sLastApplySessionValid := Function.update state.sLastApplySessionValid index true })
      else
        (send, state)

def rejectRadioCapabilityRequest (t : RilToken) : List RilOutput :=
  [.complete t rilEInvalidArguments none]

def getRadioCapability (t : RilToken) (socketId : Int) : List RilOutput :=
  match fillFixedRadioCapability socketId 0 rcPhaseConfigured rcStatusNone with
  | none => rejectRadioCapabilityRequest t
  | some response => [.complete t rilESuccess (some response)]

def setRadioCapability (state : ApplyDedupe) (data : Option RilRadioCapability) (datalen : Nat)
    (t : RilToken) (socketId : Int) : ApplyDedupe × List RilOutput :=
  match data with
  | none => (state, rejectRadioCapabilityRequest t)
  | some request =>
      if datalen ≠ sizeofRadioCapability ∨
          (request.phase ≠ rcPhaseStart ∧ request.phase ≠ rcPhaseApply ∧
            request.phase ≠ rcPhaseFinish) then
        (state, rejectRadioCapabilityRequest t)
      else
        match fillFixedRadioCapability socketId request.session request.phase
            rcStatusSuccess with
        | none => (state, rejectRadioCapabilityRequest t)
        | some response =>
            let state :=
              if request.phase = rcPhaseStart then resetApplyDedupe state socketId else state
            let response := { response with
              status := if request.phase = rcPhaseFinish then request.status
                else rcStatusSuccess }
            let completion := RilOutput.complete t rilESuccess (some response)
            if request.phase ≠ rcPhaseApply then
              (state, [completion])
            else
              let (send, state) := shouldSendApplyUnsol state socketId request.session
              if !send then
                (state, [completion])
              else
                match fillFixedRadioCapability socketId request.session rcPhaseUnsolRsp
                    rcStatusSuccess with
                | none => (state, [completion])
                | some unsol =>
                    (state, [completion, .unsolicited rilUnsolRadioCapability unsol socketId])

/-- The state `onRequestShim` reads and writes. -/
structure ShimState where
  dedupe : ApplyDedupe
  ia : IaState simCount

def ShimState.initial : ShimState where
  dedupe := .initial
  ia := .initial simCount

/-- One call of `onRequestShim`: its arguments, the hook state it loads, and the
memory its `strdup` calls find. -/
structure Dispatch where
  request : RilRequest
  hooks : IaHookState
  strdup : StrdupResults
  deriving DecidableEq, Repr

def onRequestShim : Transducer Dispatch RilOutput ShimState := fun state call =>
  let { request, data, datalen, t, socketId } := call.request
  if request = rilRequestGetRadioCapability then
    (state, getRadioCapability t socketId)
  else if request = rilRequestSetRadioCapability then
    let (dedupe, outputs) := setRadioCapability state.dedupe
      (data.map RilData.radioCapability) datalen t socketId
    ({ state with dedupe }, outputs)
  else
    -- The copy is taken before the request is forwarded.
    let ia :=
      if request = rilRequestSetInitialAttachApn ∧ call.hooks = .active then
        cacheInitialAttachApn state.ia socketId
          ⟨data.map RilData.initialAttachApn, datalen⟩ call.strdup
      else
        state.ia
    ({ state with ia }, [.forward call.request])

/-! ## What the protocol promises -/

/-- The row of the fixed table that belongs to a socket. -/
def nativeRaf (socket : Fin simCount) : Int :=
  if socket = 0 then slot0NativeRaf else slot1NativeRaf

def modemUuid (socket : Fin simCount) : String :=
  if socket = 0 then slot0ModemUuid else slot1ModemUuid

/-- A capability of the fixed table. -/
def fixedCapability (socket : Fin simCount) (session phase status : Int) : RilRadioCapability where
  version := rilRadioCapabilityVersion
  session := session
  phase := phase
  rat := nativeRaf socket
  logicalModemUuid := uuidArray (modemUuid socket)
  status := status

/-- The phases a `SET_RADIO_CAPABILITY` may name. -/
def isTransactionPhase (phase : Int) : Bool :=
  phase = rcPhaseStart ∨ phase = rcPhaseApply ∨ phase = rcPhaseFinish

/-- How a request is to be treated. -/
inductive Verdict where
  | get (socket : Fin simCount)
  | set (socket : Fin simCount) (payload : RilRadioCapability)
  | reject
  | forward
  deriving DecidableEq, Repr

/-- A capability request is acceptable on the two sockets only, and a
`SET_RADIO_CAPABILITY` needs data of the right length with a transaction phase. -/
def RilRequest.verdict (request : RilRequest) : Verdict :=
  if request.request = rilRequestGetRadioCapability then
    match checkedSocket simCount request.socketId with
    | some socket => .get socket
    | none => .reject
  else if request.request = rilRequestSetRadioCapability then
    match request.data, checkedSocket simCount request.socketId with
    | some data, some socket =>
        if request.datalen = sizeofRadioCapability ∧
            isTransactionPhase data.radioCapability.phase = true then
          .set socket data.radioCapability
        else
          .reject
    | _, _ => .reject
  else
    .forward

/-- The successful completion of a request. -/
def completion (request : RilRequest) (socket : Fin simCount) (session phase status : Int) :
    RilOutput :=
  .complete request.t rilESuccess (some (fixedCapability socket session phase status))

/-- The indication that follows a fresh `APPLY`. -/
def indication (socket : Fin simCount) (session : Int) : RilOutput :=
  .unsolicited rilUnsolRadioCapability
    (fixedCapability socket session rcPhaseUnsolRsp rcStatusSuccess) socket.val

/-- The answer to a request, given which session each socket has indicated last.
`FINISH` keeps the status of the request. -/
def answer (indicated : Fin simCount → Int → Prop)
    [∀ socket session, Decidable (indicated socket session)] (request : RilRequest) :
    List RilOutput :=
  match request.verdict with
  | .get socket => [completion request socket 0 rcPhaseConfigured rcStatusNone]
  | .set socket payload =>
      completion request socket payload.session payload.phase
          (if payload.phase = rcPhaseFinish then payload.status else rcStatusSuccess) ::
        if payload.phase = rcPhaseApply ∧ ¬indicated socket payload.session then
          [indication socket payload.session]
        else
          []
  | .reject => [.complete request.t rilEInvalidArguments none]
  | .forward => [.forward request]

/-- What an accepted request leaves for later `APPLY` requests on its socket. -/
inductive ApplyMark where
  | start
  | apply (session : Int)
  deriving DecidableEq, Repr

/-- The mark of an accepted `START` or `APPLY` on `socket`. -/
def applyMark (socket : Fin simCount) (request : RilRequest) : Option ApplyMark :=
  match request.verdict with
  | .set target payload =>
      if target ≠ socket then
        none
      else if payload.phase = rcPhaseStart then
        some .start
      else if payload.phase = rcPhaseApply then
        some (.apply payload.session)
      else
        none
  | _ => none

/-- The most recent accepted `START` or `APPLY` of a history on `socket`. -/
def lastMark (socket : Fin simCount) (past : List Dispatch) : Option ApplyMark :=
  (past.filterMap fun call => applyMark socket call.request).getLast?

theorem lastMark_concat (socket : Fin simCount) (past : List Dispatch) (call : Dispatch) :
    lastMark socket (past ++ [call]) =
      (applyMark socket call.request).or (lastMark socket past) := by
  cases mark : applyMark socket call.request with
  | none => simp [lastMark, mark]
  | some newest => simp [lastMark, mark]

def RilOutput.forwarded : RilOutput → Option RilRequest
  | .forward request => some request
  | _ => none

/-- The capability an output carries. -/
def RilOutput.payload : RilOutput → Option RilRadioCapability
  | .complete _ _ response => response
  | .unsolicited _ payload _ => some payload
  | .forward _ => none

/-! ## The handlers against the fixed table -/

theorem fillFixedRadioCapability_eq (socketId session phase status : Int) :
    fillFixedRadioCapability socketId session phase status =
      (checkedSocket simCount socketId).map (fixedCapability · session phase status) := by
  unfold fillFixedRadioCapability checkedSocket
  by_cases first : socketId = 0
  · subst first
    rfl
  by_cases second : socketId = 1
  · subst second
    rfl
  have outside : ¬(0 ≤ socketId ∧ socketId.toNat < simCount) := by
    unfold simCount
    omega
  simp [first, second, outside]

/-- The dedupe memory of one socket says that `session` was indicated last. -/
def ApplyDedupe.Remembers (state : ApplyDedupe) (socket : Fin simCount) (session : Int) : Prop :=
  state.sLastApplySessionValid socket = true ∧ state.sLastApplySession socket = session

instance (state : ApplyDedupe) (socket : Fin simCount) (session : Int) :
    Decidable (state.Remembers socket session) :=
  inferInstanceAs (Decidable (_ ∧ _))

theorem resetApplyDedupe_remembers {state : ApplyDedupe} {socketId : Int}
    {index : Fin simCount} (checked : checkedSocket simCount socketId = some index)
    (socket : Fin simCount) (session : Int) :
    (resetApplyDedupe state socketId).Remembers socket session ↔
      socket ≠ index ∧ state.Remembers socket session := by
  by_cases same : socket = index
  · simp [resetApplyDedupe, checked, ApplyDedupe.Remembers, same]
  · simp [resetApplyDedupe, checked, ApplyDedupe.Remembers, same, Function.update_of_ne]

theorem shouldSendApplyUnsol_fst (state : ApplyDedupe) {socketId : Int} {index : Fin simCount}
    (checked : checkedSocket simCount socketId = some index) (session : Int) :
    (shouldSendApplyUnsol state socketId session).1 = !decide (state.Remembers index session) := by
  cases valid : state.sLastApplySessionValid index with
  | false => simp [shouldSendApplyUnsol, checked, ApplyDedupe.Remembers, valid]
  | true =>
      by_cases same : state.sLastApplySession index = session
      · simp [shouldSendApplyUnsol, checked, ApplyDedupe.Remembers, valid, same]
      · simp [shouldSendApplyUnsol, checked, ApplyDedupe.Remembers, valid, same]

/-- Sent or suppressed, the session of an `APPLY` is the one remembered next. -/
theorem shouldSendApplyUnsol_remembers {state : ApplyDedupe} {socketId : Int}
    {index : Fin simCount} (checked : checkedSocket simCount socketId = some index)
    (applied : Int) (socket : Fin simCount) (session : Int) :
    (shouldSendApplyUnsol state socketId applied).2.Remembers socket session ↔
      if socket = index then applied = session else state.Remembers socket session := by
  by_cases known : state.Remembers index applied
  · have kept : (shouldSendApplyUnsol state socketId applied).2 = state := by
      simp [shouldSendApplyUnsol, checked, known.1, known.2]
    rw [kept]
    by_cases same : socket = index
    · subst same
      simp [ApplyDedupe.Remembers, known.1, known.2]
    · simp [same]
  · have stored : (shouldSendApplyUnsol state socketId applied).2 =
        { sLastApplySession := Function.update state.sLastApplySession index applied
          sLastApplySessionValid :=
            Function.update state.sLastApplySessionValid index true } := by
      have send := shouldSendApplyUnsol_fst state checked applied
      simp only [shouldSendApplyUnsol, checked, known, decide_false, Bool.not_false] at send ⊢
      split at send
      · rename_i fresh
        rw [if_pos fresh]
      · contradiction
    rw [stored]
    by_cases same : socket = index
    · simp [ApplyDedupe.Remembers, same]
    · simp [ApplyDedupe.Remembers, same, Function.update_of_ne]

/-! ## One request -/

/-- The answer to an acceptable `SET_RADIO_CAPABILITY`, phase by phase. -/
theorem setRadioCapability_of_accepted {request : RilRequest} {socket : Fin simCount}
    {payload : RilRadioCapability} (phase : isTransactionPhase payload.phase = true)
    (checked : checkedSocket simCount request.socketId = some socket) (state : ApplyDedupe) :
    setRadioCapability state (some payload) sizeofRadioCapability request.t request.socketId =
      (if payload.phase = rcPhaseStart then
          resetApplyDedupe state request.socketId
        else if payload.phase = rcPhaseApply then
          (shouldSendApplyUnsol state request.socketId payload.session).2
        else
          state,
        completion request socket payload.session payload.phase
            (if payload.phase = rcPhaseFinish then payload.status else rcStatusSuccess) ::
          if payload.phase = rcPhaseApply ∧ ¬state.Remembers socket payload.session then
            [indication socket payload.session]
          else
            []) := by
  have target := eq_of_checkedSocket checked
  have send := shouldSendApplyUnsol_fst state checked payload.session
  have phases : payload.phase = rcPhaseStart ∨ payload.phase = rcPhaseApply ∨
      payload.phase = rcPhaseFinish := of_decide_eq_true phase
  rcases phases with start | apply | finish
  · simp [setRadioCapability, fillFixedRadioCapability_eq, checked, start, completion,
      fixedCapability, rcPhaseStart, rcPhaseApply, rcPhaseFinish]
  · by_cases known : state.Remembers socket payload.session
    · simp [setRadioCapability, fillFixedRadioCapability_eq, checked, apply, send, known,
        completion, fixedCapability, rcPhaseStart, rcPhaseApply, rcPhaseFinish]
    · rw [target] at send
      simp [setRadioCapability, fillFixedRadioCapability_eq, target, apply, send, known,
        completion, indication, fixedCapability, rcPhaseStart, rcPhaseApply, rcPhaseFinish]
  · simp [setRadioCapability, fillFixedRadioCapability_eq, checked, finish, completion,
      fixedCapability, rcPhaseStart, rcPhaseApply, rcPhaseFinish]

/-- Anything else is rejected without touching the dedupe memory. -/
theorem setRadioCapability_of_rejected {request : RilRequest}
    (set : request.request = rilRequestSetRadioCapability)
    (rejected : request.verdict = .reject) (state : ApplyDedupe) :
    setRadioCapability state (request.data.map RilData.radioCapability) request.datalen
        request.t request.socketId = (state, rejectRadioCapabilityRequest request.t) := by
  unfold setRadioCapability
  cases data : request.data with
  | none => rfl
  | some bytes =>
      simp only [Option.map_some, fillFixedRadioCapability_eq]
      split
      · rfl
      · rename_i shape
        simp only [not_or, not_not, not_and_or] at shape
        have phase : isTransactionPhase bytes.radioCapability.phase = true := by
          simpa [isTransactionPhase] using shape.2
        cases checked : checkedSocket simCount request.socketId with
        | none => rfl
        | some socket =>
            simp [RilRequest.verdict, set, shape.1, data, checked, phase,
              rilRequestGetRadioCapability, rilRequestSetRadioCapability] at rejected

/-- What a `SET_RADIO_CAPABILITY` has passed when it is accepted. -/
theorem verdict_eq_set {request : RilRequest} {socket : Fin simCount}
    {payload : RilRadioCapability} (accepted : request.verdict = .set socket payload) :
    request.request = rilRequestSetRadioCapability ∧
      request.datalen = sizeofRadioCapability ∧
      request.data.map RilData.radioCapability = some payload ∧
      checkedSocket simCount request.socketId = some socket ∧
      isTransactionPhase payload.phase = true := by
  unfold RilRequest.verdict at accepted
  split at accepted
  · split at accepted <;> contradiction
  split at accepted
  · rename_i set
    split at accepted
    · rename_i data target dataEq checked
      split at accepted
      · rename_i shape
        obtain ⟨rfl, rfl⟩ := Verdict.set.inj accepted
        exact ⟨set, shape.1, by rw [dataEq]; rfl, checked, shape.2⟩
      · contradiction
    · contradiction
  · contradiction

theorem verdict_eq_get {request : RilRequest} {socket : Fin simCount}
    (accepted : request.verdict = .get socket) :
    request.request = rilRequestGetRadioCapability ∧
      checkedSocket simCount request.socketId = some socket := by
  unfold RilRequest.verdict at accepted
  split at accepted
  · rename_i get
    cases checked : checkedSocket simCount request.socketId with
    | none => simp [checked] at accepted
    | some target =>
        rw [checked] at accepted
        exact ⟨get, congrArg some (Verdict.get.inj accepted)⟩
  · repeat' split at accepted
    all_goals contradiction

theorem verdict_eq_forward {request : RilRequest} (other : request.verdict = .forward) :
    request.request ≠ rilRequestGetRadioCapability ∧
      request.request ≠ rilRequestSetRadioCapability := by
  unfold RilRequest.verdict at other
  split at other
  · split at other <;> contradiction
  split at other
  · repeat' split at other
    all_goals contradiction
  · exact ⟨‹_›, ‹_›⟩

/-- The dedupe memory after a request. -/
def nextDedupe (state : ApplyDedupe) (request : RilRequest) : ApplyDedupe :=
  match request.verdict with
  | .set _ payload =>
      if payload.phase = rcPhaseStart then
        resetApplyDedupe state request.socketId
      else if payload.phase = rcPhaseApply then
        (shouldSendApplyUnsol state request.socketId payload.session).2
      else
        state
  | _ => state

theorem onRequestShim_get {call : Dispatch}
    (get : call.request.request = rilRequestGetRadioCapability) (state : ShimState) :
    onRequestShim state call =
      (⟨nextDedupe state.dedupe call.request, state.ia⟩,
        answer state.dedupe.Remembers call.request) := by
  have dispatched : onRequestShim state call =
      (state, getRadioCapability call.request.t call.request.socketId) := if_pos get
  rw [dispatched, getRadioCapability, fillFixedRadioCapability_eq]
  cases checked : checkedSocket simCount call.request.socketId with
  | none =>
      have verdict : call.request.verdict = .reject := by
        simp [RilRequest.verdict, get, checked]
      simp [nextDedupe, answer, verdict, rejectRadioCapabilityRequest]
  | some socket =>
      have verdict : call.request.verdict = .get socket := by
        simp [RilRequest.verdict, get, checked]
      simp [nextDedupe, answer, verdict, completion]

theorem onRequestShim_set {call : Dispatch}
    (set : call.request.request = rilRequestSetRadioCapability) (state : ShimState) :
    onRequestShim state call =
      (⟨nextDedupe state.dedupe call.request, state.ia⟩,
        answer state.dedupe.Remembers call.request) := by
  have notGet : call.request.request ≠ rilRequestGetRadioCapability := by
    rw [set]
    decide
  have dispatched : onRequestShim state call =
      (⟨(setRadioCapability state.dedupe (call.request.data.map RilData.radioCapability)
            call.request.datalen call.request.t call.request.socketId).1, state.ia⟩,
        (setRadioCapability state.dedupe (call.request.data.map RilData.radioCapability)
            call.request.datalen call.request.t call.request.socketId).2) :=
    (if_neg notGet).trans (if_pos set)
  rw [dispatched]
  cases verdict : call.request.verdict with
  | get socket => exact absurd (verdict_eq_get verdict).1 notGet
  | set socket payload =>
      obtain ⟨-, datalen, data, checked, phase⟩ := verdict_eq_set verdict
      rw [datalen, data, setRadioCapability_of_accepted phase checked]
      simp [nextDedupe, answer, verdict]
  | reject =>
      rw [setRadioCapability_of_rejected set verdict]
      simp [nextDedupe, answer, verdict, rejectRadioCapabilityRequest]
  | forward => exact absurd set (verdict_eq_forward verdict).2

/-- One request: the dedupe memory and the answer are those of the protocol, and
only a forwarded request can reach the attach-APN cache. -/
theorem onRequestShim_eq (state : ShimState) (call : Dispatch) :
    ∃ ia, (call.request.verdict ≠ .forward → ia = state.ia) ∧
      onRequestShim state call =
        (⟨nextDedupe state.dedupe call.request, ia⟩,
          answer state.dedupe.Remembers call.request) := by
  by_cases get : call.request.request = rilRequestGetRadioCapability
  · exact ⟨state.ia, fun _ => rfl, onRequestShim_get get state⟩
  by_cases set : call.request.request = rilRequestSetRadioCapability
  · exact ⟨state.ia, fun _ => rfl, onRequestShim_set set state⟩
  have verdict : call.request.verdict = .forward := by
    simp [RilRequest.verdict, get, set]
  exact ⟨_, fun other => absurd verdict other, by
    simp only [nextDedupe, answer, verdict]
    exact (if_neg get).trans (if_neg set)⟩

/-- Only an accepted `START` or `APPLY` changes what its socket remembers. -/
theorem nextDedupe_remembers (state : ApplyDedupe) (request : RilRequest)
    (socket : Fin simCount) (session : Int) :
    (nextDedupe state request).Remembers socket session ↔
      match applyMark socket request with
      | none => state.Remembers socket session
      | some .start => False
      | some (.apply applied) => applied = session := by
  cases verdict : request.verdict with
  | get target => simp [nextDedupe, applyMark, verdict]
  | reject => simp [nextDedupe, applyMark, verdict]
  | forward => simp [nextDedupe, applyMark, verdict]
  | set target payload =>
      obtain ⟨-, -, -, checked, -⟩ := verdict_eq_set verdict
      by_cases start : payload.phase = rcPhaseStart
      · simp only [nextDedupe, applyMark, verdict, start, if_true,
          resetApplyDedupe_remembers checked]
        by_cases same : target = socket
        · simp [same]
        · simp [same, Ne.symm same]
      by_cases apply : payload.phase = rcPhaseApply
      · simp only [nextDedupe, applyMark, verdict, if_neg start, if_pos apply,
          shouldSendApplyUnsol_remembers checked]
        by_cases same : target = socket
        · simp [same]
        · simp [same, Ne.symm same]
      · simp [nextDedupe, applyMark, verdict, start, apply]

/-! ## Sequences of requests -/

/-- The dedupe memory of a socket is determined by the history: a session is
remembered exactly when the most recent accepted `START` or `APPLY` applied it. -/
theorem remembers_iff_lastMark (past : List Dispatch) (socket : Fin simCount) (session : Int) :
    (stateAfter onRequestShim .initial past).dedupe.Remembers socket session ↔
      lastMark socket past = some (.apply session) := by
  apply stateAfter_history (P := fun past (state : ShimState) =>
    state.dedupe.Remembers socket session ↔ lastMark socket past = some (.apply session))
  · simp [ShimState.initial, ApplyDedupe.initial, ApplyDedupe.Remembers, lastMark]
  · intro past state call ih
    obtain ⟨ia, -, served⟩ := onRequestShim_eq state call
    rw [served, lastMark_concat, nextDedupe_remembers]
    cases applyMark socket call.request with
    | none => exact ih
    | some mark =>
        cases mark with
        | start => simp
        | apply applied => simp

/-- The sessions that count as indicated after a history. -/
def Indicated (past : List Dispatch) (socket : Fin simCount) (session : Int) : Prop :=
  lastMark socket past = some (.apply session)

instance (past : List Dispatch) (socket : Fin simCount) (session : Int) :
    Decidable (Indicated past socket session) :=
  inferInstanceAs (Decidable (_ = _))

/-- The answer to a request after a history. -/
theorem onRequestShim_after (past : List Dispatch) (call : Dispatch) :
    (onRequestShim (stateAfter onRequestShim .initial past) call).2 =
      answer (Indicated past) call.request := by
  obtain ⟨ia, -, served⟩ := onRequestShim_eq (stateAfter onRequestShim .initial past) call
  have same : (stateAfter onRequestShim .initial past).dedupe.Remembers = Indicated past := by
    funext socket session
    exact propext (remembers_iff_lastMark past socket session)
  rw [served]
  simp only [same]

section Answer

variable (indicated : Fin simCount → Int → Prop)
  [∀ socket session, Decidable (indicated socket session)]

theorem answer_forwarded (request : RilRequest) :
    (answer indicated request).filterMap RilOutput.forwarded =
      (Option.guard (fun request => request.verdict = .forward) request).toList := by
  cases verdict : request.verdict with
  | get socket => simp [answer, verdict, completion, RilOutput.forwarded, Option.guard]
  | set socket payload =>
      by_cases fresh : payload.phase = rcPhaseApply ∧ ¬indicated socket payload.session
      · simp [answer, verdict, fresh, completion, indication, RilOutput.forwarded, Option.guard]
      · simp [answer, verdict, fresh, completion, RilOutput.forwarded, Option.guard]
  | reject => simp [answer, verdict, RilOutput.forwarded, Option.guard]
  | forward => simp [answer, verdict, RilOutput.forwarded, Option.guard]

/-- A capability request is completed once, with its own token, before anything
else. -/
theorem answer_completes {request : RilRequest} (capability : request.verdict ≠ .forward) :
    ∃ e response indications,
      answer indicated request = .complete request.t e response :: indications ∧
        (request.verdict ≠ .reject → e = rilESuccess ∧ response.isSome) ∧
        ∀ output ∈ indications, ∃ socket session, output = indication socket session := by
  cases verdict : request.verdict with
  | get socket => exact ⟨_, _, [], by simp only [answer, verdict]; rfl, by simp, by simp⟩
  | set socket payload =>
      refine ⟨_, _, _, by simp only [answer, verdict]; rfl, by simp, ?_⟩
      intro output member
      split at member
      · exact ⟨socket, payload.session, List.mem_singleton.mp member⟩
      · contradiction
  | reject => exact ⟨_, _, [], by simp only [answer, verdict]; rfl, by simp, by simp⟩
  | forward => exact absurd verdict capability

/-- Every capability in an answer is a row of the fixed table, under the session
the request names. -/
theorem answer_payload {request : RilRequest} {payload : RilRadioCapability}
    (carried : payload ∈ (answer indicated request).filterMap RilOutput.payload) :
    ∃ socket phase status, checkedSocket simCount request.socketId = some socket ∧
      ((request.verdict = .get socket ∧ payload = fixedCapability socket 0 phase status) ∨
        ∃ named, request.verdict = .set socket named ∧
          payload = fixedCapability socket named.session phase status) := by
  cases verdict : request.verdict with
  | get socket =>
      obtain ⟨-, checked⟩ := verdict_eq_get verdict
      simp only [answer, verdict, completion, List.filterMap_cons, RilOutput.payload,
        List.filterMap_nil, List.mem_singleton] at carried
      exact ⟨socket, _, _, checked, .inl ⟨rfl, carried⟩⟩
  | set socket named =>
      obtain ⟨-, -, -, checked, -⟩ := verdict_eq_set verdict
      simp only [answer, verdict, completion, List.filterMap_cons, RilOutput.payload] at carried
      rcases List.mem_cons.mp carried with response | later
      · exact ⟨socket, _, _, checked, .inr ⟨named, rfl, response⟩⟩
      · split at later
        · simp only [indication, List.filterMap_cons, RilOutput.payload, List.filterMap_nil,
            List.mem_singleton] at later
          exact ⟨socket, _, _, checked, .inr ⟨named, rfl, later⟩⟩
        · contradiction
  | reject => simp [answer, verdict, RilOutput.payload] at carried
  | forward => simp [answer, verdict, RilOutput.payload] at carried

end Answer

theorem verdict_eq_forward_iff (request : RilRequest) :
    request.verdict = .forward ↔
      request.request ≠ rilRequestGetRadioCapability ∧
        request.request ≠ rilRequestSetRadioCapability := by
  constructor
  · exact verdict_eq_forward
  · rintro ⟨get, set⟩
    simp [RilRequest.verdict, get, set]

/-- The forwarded requests of a sequence. -/
theorem forwarded_answers (state : ShimState) (calls : List Dispatch) :
    (answers onRequestShim state calls).flatten.filterMap RilOutput.forwarded =
      (calls.map Dispatch.request).filter (fun request =>
        request.request ≠ rilRequestGetRadioCapability ∧
          request.request ≠ rilRequestSetRadioCapability) := by
  have each : ∀ (state : ShimState) (call : Dispatch),
      (onRequestShim state call).2.filterMap RilOutput.forwarded =
        (Option.guard (fun request => decide (request.verdict = .forward))
          call.request).toList := by
    intro state call
    obtain ⟨ia, -, served⟩ := onRequestShim_eq state call
    rw [served]
    exact answer_forwarded _ call.request
  have same : (fun request : RilRequest => decide (request.verdict = .forward)) =
      fun request => decide (request.request ≠ rilRequestGetRadioCapability ∧
        request.request ≠ rilRequestSetRadioCapability) := by
    funext request
    exact decide_eq_decide.mpr (verdict_eq_forward_iff request)
  rw [filterMap_flatten_answers each, ← List.filterMap_eq_filter, List.filterMap_map, same]
  rfl

/-- The synthetic radio-capability protocol, for every finite sequence of requests.

Capability requests never reach `sRealOnRequest`; all other requests do, unchanged
and in order.  A capability request is completed exactly once, with its own token
and before any indication.  Its payloads carry the fixed technologies and modem of
its socket and the session of the request.  A rejected request could be left out
without changing another answer.  An accepted `APPLY` is indicated exactly when the
most recent accepted `START` or `APPLY` on its socket did not apply the same
session. -/
theorem radio_capability_protocol (calls : List Dispatch) :
    (answers onRequestShim .initial calls).flatten.filterMap RilOutput.forwarded =
        (calls.map Dispatch.request).filter (fun request =>
          request.request ≠ rilRequestGetRadioCapability ∧
            request.request ≠ rilRequestSetRadioCapability) ∧
      ∀ past call rest, calls = past ++ call :: rest →
        call.request.request = rilRequestGetRadioCapability ∨
          call.request.request = rilRequestSetRadioCapability →
        ∃ out, (answers onRequestShim .initial calls)[past.length]? = some out ∧
          (∃ e response indications,
            out = .complete call.request.t e response :: indications ∧
              (call.request.verdict ≠ .reject → e = rilESuccess ∧ response.isSome) ∧
              ∀ output ∈ indications, ∃ socket session, output = indication socket session) ∧
          (∀ payload ∈ out.filterMap RilOutput.payload, ∃ socket,
            checkedSocket simCount call.request.socketId = some socket ∧
              payload.rat = nativeRaf socket ∧
              payload.logicalModemUuid = uuidArray (modemUuid socket) ∧
              (call.request.request = rilRequestGetRadioCapability → payload.session = 0) ∧
              (call.request.request = rilRequestSetRadioCapability →
                call.request.data.map (fun data => data.radioCapability.session) =
                  some payload.session)) ∧
          (call.request.verdict = .reject →
            out = [.complete call.request.t rilEInvalidArguments none] ∧
              (answers onRequestShim .initial calls).eraseIdx past.length =
                answers onRequestShim .initial (past ++ rest)) ∧
          ∀ socket payload, call.request.verdict = .set socket payload →
            out = completion call.request socket payload.session payload.phase
                (if payload.phase = rcPhaseFinish then payload.status else rcStatusSuccess) ::
              if payload.phase = rcPhaseApply ∧
                  lastMark socket past ≠ some (.apply payload.session) then
                [indication socket payload.session]
              else
                [] := by
  constructor
  · exact forwarded_answers .initial calls
  · rintro past call rest rfl capability
    have answered := answers_getElem? onRequestShim .initial past call rest
    rw [onRequestShim_after] at answered
    refine ⟨_, answered, ?_, ?_, ?_, ?_⟩
    · apply answer_completes
      rw [Ne, verdict_eq_forward_iff]
      tauto
    · intro payload carried
      obtain ⟨socket, phase, status, checked, ⟨verdict, rfl⟩ | ⟨named, verdict, rfl⟩⟩ :=
        answer_payload _ carried
      · have get := (verdict_eq_get verdict).1
        exact ⟨socket, checked, rfl, rfl, fun _ => rfl,
          fun set => absurd (get.symm.trans set) (by decide)⟩
      · obtain ⟨set, -, data, -⟩ := verdict_eq_set verdict
        obtain ⟨bytes, present, rfl⟩ := Option.map_eq_some_iff.mp data
        exact ⟨socket, checked, rfl, rfl,
          fun get => absurd (get.symm.trans set) (by decide), fun _ => by rw [present]; rfl⟩
    · intro verdict
      constructor
      · simp only [answer, verdict]
      · apply answers_eraseIdx
        obtain ⟨ia, kept, served⟩ :=
          onRequestShim_eq (stateAfter onRequestShim .initial past) call
        rw [served, kept (by simp [verdict])]
        simp only [nextDedupe, verdict]
    · intro socket payload verdict
      simp only [answer, verdict, Indicated]
      rfl

end K50sv1.RilShim.RadioCapability
