import Mathlib.Tactic.SplitIfs
import K50sv1.Data.OrderedMap
import K50sv1.Sensors.Core

/-!
# The sub-HAL over the legacy sensors device

`SensorsSubHal` translates the calls of the proxy into calls of the legacy device and
reads events from it on a worker of its own.  Each function of this file is what one
call does under `mMutex`; what the device answers is an argument.
-/

namespace K50sv1.Sensors.SubHal

open K50sv1.Data

/-! ## Results -/

inductive Result where
  | ok
  | permissionDenied
  | noMemory
  | badValue
  | invalidOperation
  deriving DecidableEq, Repr

/-- A `status_t`; zero is `OK`, errors are negated error numbers. -/
abbrev Status := Int

def resultFromStatus (err : Status) : Result :=
  if err = 0 then .ok
  else if err = -1 then .permissionDenied
  else if err = -12 then .noMemory
  else if err = -22 then .badValue
  else .invalidOperation

theorem resultFromStatus_eq_ok_iff (err : Status) : resultFromStatus err = .ok ↔ err = 0 := by
  unfold resultFromStatus
  constructor
  · intro result
    by_contra failed
    rw [if_neg failed] at result
    split_ifs at result
  · intro succeeded
    rw [if_pos succeeded]

/-! ## The device -/

/-- What is known of the legacy module and device once both are open. -/
structure Device where
  /-- Module and device could be opened and offer the operations of version 1.3. -/
  opened : Bool
  /-- `get_sensors_list`; an empty list stands for an invalid one. -/
  sensorList : List SensorInfo
  /-- `getHalDeviceVersion() >= SENSORS_DEVICE_API_VERSION_1_4`. -/
  atLeastVersion14 : Bool
  /-- `set_operation_mode` exists. -/
  hasOperationModes : Bool
  /-- `register_direct_channel` and `config_direct_report` exist. -/
  hasDirectChannels : Bool

def enumerateSensors (list : List SensorInfo) : SensorMap :=
  (list.foldl (fun sensors sensor => sensors.emplace sensor.sensorHandle sensor)
    (OrderedMap.empty : OrderedMap Handle SensorInfo BitVec.toInt)).entries

def Device.mSensors (device : Device) : SensorMap :=
  if device.opened then enumerateSensors device.sensorList else []

/-- `mInitStatus == OK`. -/
def Device.isReady (device : Device) : Bool :=
  device.opened && !device.sensorList.isEmpty

def Device.isListed (device : Device) (handle : Handle) : Bool :=
  (device.mSensors.lookup handle).isSome

def Device.isWakeUpSensor (device : Device) (handle : Handle) : Bool :=
  match device.mSensors.lookup handle with
  | some sensor => sensor.isWakeUp
  | none => false

def Device.supportsDirectChannels (device : Device) : Bool :=
  device.isReady && device.atLeastVersion14 && device.hasDirectChannels

/-! ## Events -/

inductive SensorType where
  | metaData
  | other (code : Nat)
  deriving DecidableEq, Repr

/-- What the sub-HAL reads of an event besides its handle. -/
structure Sample where
  sensorType : SensorType
  timestamp : Int
  deriving DecidableEq, Repr

def belongsToSession (pollEpoch currentEpoch : Nat) (timestamp activatedAt : Int) : Bool :=
  pollEpoch = currentEpoch ∧ activatedAt ≤ timestamp

/-- `poll` errors and empty results are retried after a growing delay. -/
def retryDelayMs (failures : Nat) : Nat :=
  if 7 ≤ failures then 1000 else 20 <<< (failures - 1)

/-- `kPollMaxBufferSize`. -/
def pollMaxBufferSize : Nat := 128

/-! ## State -/

inductive OperationMode where
  | normal
  | dataInjection
  deriving DecidableEq, Repr

/-- Where the worker of `pollForEvents` has got to. -/
inductive PollThread where
  | notStarted
  /-- About to read `mEpoch`. -/
  | atHead
  /-- About to call `poll`. -/
  | ready (epoch : Nat)
  /-- Inside `poll`. -/
  | polling (epoch : Nat)
  | sleeping (delayMs : Nat)
  /-- `poll` has returned a batch; `mMutex` is still to be taken. -/
  | polled (epoch : Nat) (data : List (Event Sample))
  /-- Holds `mMutex` and is about to create a wake lock for the events that passed. -/
  | creating (events : List (Event Sample)) (wakeup : Bool)
  /-- Holds `mMutex` and is about to post them with that wake lock. -/
  | calling (events : List (Event Sample)) (object : Nat)
  /-- Holds `mMutex`, inside `postEvents`. -/
  | posting
  deriving DecidableEq, Repr

/-- The worker is started once. -/
def PollThread.started : PollThread → PollThread
  | .notStarted => .atHead
  | thread => thread

def PollThread.holdsMutex : PollThread → Bool
  | .creating _ _ | .calling _ _ | .posting => true
  | _ => false

structure SubHalState where
  /-- Whether `mCallback` is set.  There is one proxy and so one callback. -/
  mCallback : Bool
  mCurrentOperationMode : OperationMode
  mActiveSince : OrderedMap Handle Int BitVec.toInt
  mDirectChannels : OrderedMap Int Unit id
  /-- A 64-bit counter; no process lives long enough to wrap it. -/
  mEpoch : Nat
  mPollThread : PollThread
  /-- The worker's count of failures in a row. -/
  failures : Nat

def SubHalState.initial : SubHalState where
  mCallback := false
  mCurrentOperationMode := .normal
  mActiveSince := .empty
  mDirectChannels := .empty
  mEpoch := 0
  mPollThread := .notStarted
  failures := 0

/-! ## Calls of the proxy -/

def setOperationModeLocked (device : Device) (state : SubHalState) (mode : OperationMode)
    (status : Status) : Result × SubHalState :=
  if device.isReady = false then
    (.invalidOperation, state)
  else if mode = state.mCurrentOperationMode then
    (.ok, state)
  else if device.atLeastVersion14 = false ∨ device.hasOperationModes = false then
    (.invalidOperation, state)
  else
    (resultFromStatus status,
      if status = 0 then { state with mCurrentOperationMode := mode } else state)

/-- `now` is the reading of `elapsedRealtimeNano`. -/
def activate (device : Device) (state : SubHalState) (handle : Handle) (enabled : Bool)
    (status : Status) (now : Int) : Result × SubHalState :=
  if device.isReady = false then
    (.invalidOperation, state)
  else if device.isListed handle = false then
    (.badValue, state)
  else if enabled = true ∧ state.mCallback = false then
    (.invalidOperation, state)
  else
    (resultFromStatus status,
      if status = 0 then
        if enabled then
          -- Repeated activation keeps the first time.
          { state with mActiveSince := state.mActiveSince.emplace handle now }
        else
          { state with mActiveSince := state.mActiveSince.erase handle }
      else
        state)

/-- `valid` tells whether the memory can be converted; `answer` is the channel or an
error.  The second component of the result is the channel handed to the caller. -/
def registerDirectChannel (device : Device) (state : SubHalState) (valid : Bool) (answer : Int) :
    (Result × Int) × SubHalState :=
  if device.supportsDirectChannels = false then
    ((.invalidOperation, -1), state)
  else if valid = false then
    ((.badValue, -1), state)
  else if 0 < answer then
    ((.ok, answer), { state with mDirectChannels := state.mDirectChannels.emplace answer () })
  else
    ((resultFromStatus (if answer = 0 then -22 else answer), -1), state)

def unregisterDirectChannel (device : Device) (state : SubHalState) (channel : Int)
    (status : Status) : Result × SubHalState :=
  if device.supportsDirectChannels = false then
    (.invalidOperation, state)
  else if state.mDirectChannels.contains channel = false then
    (.badValue, state)
  else
    (resultFromStatus status,
      if status = 0 then
        { state with mDirectChannels := state.mDirectChannels.erase channel }
      else
        state)

theorem setOperationModeLocked_frame (device : Device) (state : SubHalState)
    (mode : OperationMode) (status : Status) :
    ∃ mCurrentOperationMode, (setOperationModeLocked device state mode status).2 =
      { state with mCurrentOperationMode } := by
  unfold setOperationModeLocked
  split_ifs
  · exact ⟨_, rfl⟩
  · exact ⟨_, rfl⟩
  · exact ⟨_, rfl⟩
  · exact ⟨_, rfl⟩
  · exact ⟨_, rfl⟩

/-- A new entry of `mActiveSince` is the time of a successful call that enables the
sensor. -/
theorem activate_frame (device : Device) (state : SubHalState) (handle : Handle)
    (enabled : Bool) (status : Status) (now : Int) :
    ∃ mActiveSince, (activate device state handle enabled status now).2 =
        { state with mActiveSince } ∧
      ∀ entry ∈ mActiveSince.entries, entry ∈ state.mActiveSince.entries ∨
        (enabled = true ∧ status = 0 ∧ entry = (handle, now)) := by
  unfold activate
  split_ifs with unready unlisted useless succeeded enables
  · exact ⟨_, rfl, fun _ => .inl⟩
  · exact ⟨_, rfl, fun _ => .inl⟩
  · exact ⟨_, rfl, fun _ => .inl⟩
  · constructor
    · constructor
      · rfl
      · intro entry member
        rcases OrderedMap.mem_emplace member with new | old
        · exact .inr ⟨enables, succeeded, new⟩
        · exact .inl old
  · exact ⟨_, rfl, fun _ member => .inl (OrderedMap.mem_retain.mp member).1⟩
  · exact ⟨_, rfl, fun _ => .inl⟩

theorem registerDirectChannel_frame (device : Device) (state : SubHalState) (valid : Bool)
    (answer : Int) :
    ∃ mDirectChannels, (registerDirectChannel device state valid answer).2 =
      { state with mDirectChannels } := by
  unfold registerDirectChannel
  split_ifs
  · exact ⟨_, rfl⟩
  · exact ⟨_, rfl⟩
  · exact ⟨_, rfl⟩
  · exact ⟨_, rfl⟩
  · exact ⟨_, rfl⟩

theorem unregisterDirectChannel_frame (device : Device) (state : SubHalState) (channel : Int)
    (status : Status) :
    ∃ mDirectChannels, (unregisterDirectChannel device state channel status).2 =
      { state with mDirectChannels } := by
  unfold unregisterDirectChannel
  split_ifs
  · exact ⟨_, rfl⟩
  · exact ⟨_, rfl⟩
  · exact ⟨_, rfl⟩
  · exact ⟨_, rfl⟩

/-! ## A new session -/

/-- The two loops of `initialize`: everything that can be released is forgotten, the
rest is kept and the last failure is the result. -/
def releaseAll {κ ν : Type} {rank : κ → Int} (release : κ → Status)
    (map : OrderedMap κ ν rank) (result : Result) : OrderedMap κ ν rank × Result :=
  (map.retain fun key => release key ≠ 0,
    map.entries.foldl (fun result entry =>
      if release entry.1 ≠ 0 then resultFromStatus (release entry.1) else result) result)

/-- What the device answers during `initialize`. -/
structure InitializeAnswers where
  deactivate : Handle → Status
  unregister : Int → Status
  setMode : Status

/-- `SensorsSubHal::initialize`. -/
def initializeSubHal (device : Device) (state : SubHalState) (callback : Bool)
    (answers : InitializeAnswers) : Result × SubHalState :=
  if device.isReady = false then
    (.invalidOperation, state)
  else if callback = false then
    (.badValue, state)
  else
    let (mActiveSince, result) := releaseAll answers.deactivate state.mActiveSince .ok
    let (mDirectChannels, result) := releaseAll answers.unregister state.mDirectChannels result
    let (modeResult, state) := setOperationModeLocked device
      { state with mEpoch := state.mEpoch + 1, mCallback := false, mActiveSince, mDirectChannels }
      .normal answers.setMode
    let result := if modeResult ≠ .ok then modeResult else result
    if result ≠ .ok then
      (result, state)
    else
      (.ok, { state with mCallback := true, mPollThread := state.mPollThread.started })

/-- The result stays `OK` only if every release succeeds. -/
theorem foldl_release_ok {κ ν : Type} {release : κ → Status} {entries : List (κ × ν)}
    {result : Result}
    (succeeded : entries.foldl (fun result entry =>
      if release entry.1 ≠ 0 then resultFromStatus (release entry.1) else result) result = .ok) :
    result = .ok ∧ ∀ entry ∈ entries, release entry.1 = 0 := by
  induction entries generalizing result with
  | nil => exact ⟨succeeded, fun _ member => absurd member List.not_mem_nil⟩
  | cons first rest ih =>
      obtain ⟨afterFirst, afterRest⟩ := ih succeeded
      dsimp only at afterFirst
      -- A failure at the first entry would have left its own error.
      have released : release first.1 = 0 := by
        by_contra failed
        rw [if_pos failed] at afterFirst
        exact failed ((resultFromStatus_eq_ok_iff _).mp afterFirst)
      rw [if_neg (not_not_intro released)] at afterFirst
      constructor
      · exact afterFirst
      · intro entry member
        rcases List.mem_cons.mp member with rfl | later
        · exact released
        · exact afterRest entry later

/-- Releasing succeeds only if nothing is left. -/
theorem releaseAll_ok {κ ν : Type} {rank : κ → Int} {release : κ → Status}
    {map rest : OrderedMap κ ν rank} {before : Result}
    (released : releaseAll release map before = (rest, .ok)) :
    before = .ok ∧ rest.entries = [] := by
  obtain ⟨rfl, succeeded⟩ := Prod.mk.inj released
  obtain ⟨wasOk, all⟩ := foldl_release_ok succeeded
  constructor
  · exact wasOk
  · apply List.filter_eq_nil_iff.mpr
    intro entry member
    simp [all entry member]

/-- What `initialize` does with the members that matter to the poll worker. -/
theorem initializeSubHal_cases {device : Device} {state after : SubHalState}
    {answers : InitializeAnswers} {result : Result}
    (called : initializeSubHal device state true answers = (result, after)) :
    (device.isReady = false ∧ result ≠ .ok ∧ after = state) ∨
      (device.isReady = true ∧ after.mEpoch = state.mEpoch + 1 ∧
        ((result ≠ .ok ∧ after.mCallback = false ∧ after.mPollThread = state.mPollThread) ∨
          (result = .ok ∧ after.mCallback = true ∧ after.mActiveSince.entries = [] ∧
            after.mPollThread = state.mPollThread.started))) := by
  unfold initializeSubHal at called
  split at called
  · rename_i unready
    obtain ⟨rfl, rfl⟩ := Prod.mk.inj called
    exact .inl ⟨unready, by simp, rfl⟩
  · rename_i isReady
    rw [if_neg (by simp)] at called
    right
    constructor
    · simpa using isReady
    cases deactivated : releaseAll answers.deactivate state.mActiveSince .ok with
    | mk mActiveSince deactivateResult =>
    cases unregistered : releaseAll answers.unregister state.mDirectChannels deactivateResult with
    | mk mDirectChannels unregisterResult =>
    simp only [deactivated, unregistered] at called
    obtain ⟨mCurrentOperationMode, frame⟩ := setOperationModeLocked_frame device
      { state with mEpoch := state.mEpoch + 1, mCallback := false, mActiveSince, mDirectChannels }
      .normal answers.setMode
    rw [frame] at called
    split at called
    · rename_i modeFailed
      obtain ⟨rfl, rfl⟩ := Prod.mk.inj called
      exact ⟨rfl, .inl ⟨modeFailed, rfl, rfl⟩⟩
    · split at called
      · rename_i failed
        obtain ⟨rfl, rfl⟩ := Prod.mk.inj called
        exact ⟨rfl, .inl ⟨failed, rfl, rfl⟩⟩
      · rename_i succeeded
        obtain ⟨rfl, rfl⟩ := Prod.mk.inj called
        -- No stage has failed, so the first loop has emptied the map.
        rw [not_not.mp succeeded] at unregistered
        obtain ⟨rfl, -⟩ := releaseAll_ok unregistered
        exact ⟨rfl, .inr ⟨rfl, rfl, (releaseAll_ok deactivated).2, rfl⟩⟩

/-! ## A batch of events -/

/-- Whether an event of a batch goes to the proxy. -/
def accepts (device : Device) (state : SubHalState) (epoch : Nat) (event : Event Sample) : Bool :=
  device.isListed event.sensorHandle &&
    match state.mActiveSince.find? event.sensorHandle with
    | none => false
    | some activatedAt =>
        event.payload.sensorType = .metaData ||
          belongsToSession epoch state.mEpoch event.payload.timestamp activatedAt

/-- The loop over the batch: the events that pass, and whether a wake-up sensor is
among them. -/
def acceptedEvents (device : Device) (state : SubHalState) (epoch : Nat)
    (data : List (Event Sample)) : List (Event Sample) × Bool :=
  data.foldl (fun (events, wakeup) event =>
    if accepts device state epoch event then
      (events ++ [event], wakeup || device.isWakeUpSensor event.sensorHandle)
    else
      (events, wakeup)) ([], false)

theorem foldl_accepts (device : Device) (state : SubHalState) (epoch : Nat)
    (data events : List (Event Sample)) (wakeup : Bool) :
    data.foldl (fun (events, wakeup) event =>
        if accepts device state epoch event then
          (events ++ [event], wakeup || device.isWakeUpSensor event.sensorHandle)
        else
          (events, wakeup)) (events, wakeup) =
      (events ++ data.filter (accepts device state epoch),
        wakeup || (data.filter (accepts device state epoch)).any
          fun event => device.isWakeUpSensor event.sensorHandle) := by
  induction data generalizing events wakeup with
  | nil => simp
  | cons event rest ih =>
      by_cases passes : accepts device state epoch event = true
      · simp [passes, ih, Bool.or_assoc]
      · simp [passes, ih]

theorem acceptedEvents_eq (device : Device) (state : SubHalState) (epoch : Nat)
    (data : List (Event Sample)) :
    acceptedEvents device state epoch data =
      (data.filter (accepts device state epoch),
        (data.filter (accepts device state epoch)).any
          fun event => device.isWakeUpSensor event.sensorHandle) := by
  rw [acceptedEvents, foldl_accepts, List.nil_append, Bool.false_or]

/-- An event that passes belongs to a listed sensor that is enabled, and is no older
than the recorded activation unless it is metadata. -/
theorem accepts_spec {device : Device} {state : SubHalState} {epoch : Nat}
    {event : Event Sample} (passes : accepts device state epoch event = true) :
    device.isListed event.sensorHandle = true ∧
      ∃ activatedAt, state.mActiveSince.find? event.sensorHandle = some activatedAt ∧
        (event.payload.sensorType = .metaData ∨ activatedAt ≤ event.payload.timestamp) := by
  unfold accepts at passes
  obtain ⟨listed, passes⟩ := Bool.and_eq_true_iff.mp passes
  split at passes
  · contradiction
  · rename_i activatedAt active
    constructor
    · exact listed
    · rcases Bool.or_eq_true_iff.mp passes with metaData | current
      · exact ⟨activatedAt, active, .inl (of_decide_eq_true metaData)⟩
      · exact ⟨activatedAt, active, .inr (of_decide_eq_true current).2⟩

end K50sv1.Sensors.SubHal
