import K50sv1.Sensors.SubHal.Backend
import K50sv1.Sensors.Wiring

/-!
# Routing of sensor handles

Four calls of the proxy take a sensor handle to the legacy device.  Three of them check
that the handle names a sub-HAL before they clear its index.  `configDirectReport` only
clears the index.  So a handle that is not reported can name a sensor that is, and the
reserved handle -1, by which the framework stops all reports of a channel, loses its
meaning on the way.
-/

namespace K50sv1.Sensors

open K50sv1.Data K50sv1.Transition K50sv1.Sensors.SubHal

/-! ## Calls of the proxy -/

/-- The sensors that the proxy reports to the framework. -/
def HalProxy.getSensorsList (device : Device) : List SensorInfo :=
  device.proxySensors.map Prod.snd

/-- `MASK_DIRECT_REPORT` and `MASK_DIRECT_CHANNEL`. -/
def directFlags : BitVec 32 := 0x380#32 ||| 0xC00#32

/-- `mDirectChannelSubHal` is set, by `setDirectChannelFlags`. -/
def SubHal.Device.isDirectChannelSubHal (device : Device) : Bool :=
  device.mSensors.any fun entry =>
    subHalIndexIsClear entry.2.sensorHandle && entry.2.flags &&& directFlags ≠ 0

/-- `SensorType::ADDITIONAL_INFO`. -/
def additionalInfo : SensorType := .other 33

namespace HalProxy

def activateTrace (device : Device) (subHal : SubHalState) (sensorHandle : Handle) (enabled : Bool)
    (status : Status) : Trace :=
  if isSubHalIndexValid sensorHandle then
    SubHal.activateTrace device subHal (clearSubHalIndex sensorHandle) enabled status
  else
    []

def batch (device : Device) (sensorHandle : Handle) (samplingPeriodNs maxReportLatencyNs : Int)
    (status : Status) : Result × Trace :=
  if isSubHalIndexValid sensorHandle then
    SubHal.batch device (clearSubHalIndex sensorHandle) samplingPeriodNs maxReportLatencyNs status
  else
    (.badValue, [])

def flush (device : Device) (subHal : SubHalState) (sensorHandle : Handle) (status : Status) :
    Result × Trace :=
  if isSubHalIndexValid sensorHandle then
    SubHal.flush device subHal (clearSubHalIndex sensorHandle) status
  else
    (.badValue, [])

def injectSensorData (device : Device) (mCurrentOperationMode : OperationMode)
    (hasInjection : Bool) (event : Event Sample) (status : Status) : Result × Trace :=
  if mCurrentOperationMode = .normal ∧ event.payload.sensorType ≠ additionalInfo then
    (.badValue, [])
  else if isSubHalIndexValid event.sensorHandle then
    SubHal.injectSensorData device hasInjection
      { event with sensorHandle := clearSubHalIndex event.sensorHandle } status
  else
    (.badValue, [])

def registerDirectChannel (device : Device) (subHal : SubHalState) (valid : Bool) (answer : Int) :
    (Result × Int) × SubHalState :=
  if device.isDirectChannelSubHal then
    SubHal.registerDirectChannel device subHal valid answer
  else
    ((.invalidOperation, -1), subHal)

def unregisterDirectChannel (device : Device) (subHal : SubHalState) (channelHandle : Int)
    (status : Status) : Result × SubHalState :=
  if device.isDirectChannelSubHal then
    SubHal.unregisterDirectChannel device subHal channelHandle status
  else
    (.invalidOperation, subHal)

/-- The index of the handle is not looked at. -/
def configDirectReport (device : Device) (subHal : SubHalState) (sensorHandle : Handle)
    (channelHandle : Int) (rate : RateLevel) (answer : Int) : (Result × Int) × Trace :=
  if device.isDirectChannelSubHal then
    SubHal.configDirectReport device subHal (clearSubHalIndex sensorHandle) channelHandle rate
      answer
  else
    ((.invalidOperation, -1), [])

def disableAllSensors (device : Device) (subHal : SubHalState) (disable : Handle → Status) :
    SubHalState :=
  device.proxySensors.foldl (fun subHal entry =>
    (activate device subHal entry.1 false (disable entry.1) 0).2) subHal

end HalProxy

/-- The members of both components that the calls of the framework read and write. -/
structure CallState where
  subHal : SubHalState
  /-- The mode of the proxy. -/
  mCurrentOperationMode : OperationMode

def CallState.initial : CallState where
  subHal := .initial
  mCurrentOperationMode := .normal

/-- The calls that change something, with the answers of the device. -/
inductive FrameworkCall where
  /-- `usable` tells whether the callback is set and both queues are valid. -/
  | initializeProxy (usable : Bool) (disable : Handle → Status) (answers : InitializeAnswers)
  | activate (sensorHandle : Handle) (enabled : Bool) (status : Status) (now : Int)
  | setOperationMode (mode : OperationMode) (status : Status)
  | registerDirectChannel (valid : Bool) (answer : Int)
  | unregisterDirectChannel (channelHandle : Int) (status : Status)

def callStep (device : Device) : Step FrameworkCall CallState
  | state, .initializeProxy usable disable answers =>
      let subHal := HalProxy.disableAllSensors device state.subHal disable
      if usable then
        let (result, subHal) := initializeSubHal device subHal true answers
        some { subHal
               mCurrentOperationMode := if result = .ok then .normal
                 else state.mCurrentOperationMode }
      else
        some { state with subHal }
  | state, .activate sensorHandle enabled status now =>
      some { state with
        subHal := (HalProxy.activate device state.subHal sensorHandle enabled status now).2 }
  | state, .setOperationMode mode status =>
      let (result, subHal) := setOperationModeLocked device state.subHal mode status
      some { subHal
             mCurrentOperationMode := if result = .ok then mode else state.mCurrentOperationMode }
  | state, .registerDirectChannel valid answer =>
      some { state with
        subHal := (HalProxy.registerDirectChannel device state.subHal valid answer).2 }
  | state, .unregisterDirectChannel channelHandle status =>
      some { state with
        subHal := (HalProxy.unregisterDirectChannel device state.subHal channelHandle status).2 }

/-! ## What the calls leave behind -/

section Left

variable {device : Device}

/-- Channels are registered only where direct channels are supported. -/
def ChannelsWired (device : Device) (subHal : SubHalState) : Prop :=
  ∀ channel, subHal.mDirectChannels.contains channel = true →
    device.isDirectChannelSubHal = true ∧ device.supportsDirectChannels = true

/-- What `mDirectChannels` and `mActiveSince` can hold. -/
structure CallInvariant (device : Device) (subHal : SubHalState) : Prop where
  wired : ChannelsWired device subHal
  /-- Only a sensor of the list is enabled. -/
  listed : ∀ handle, subHal.mActiveSince.contains handle = true → device.isListed handle = true

namespace CallInvariant

variable {subHal : SubHalState}

theorem proxyActivate (invariant : CallInvariant device subHal) (sensorHandle : Handle)
    (enabled : Bool) (status : Status) (now : Int) :
    CallInvariant device (HalProxy.activate device subHal sensorHandle enabled status now).2 := by
  unfold HalProxy.activate
  split
  · rcases activate_cases device subHal (clearSubHalIndex sensorHandle) enabled status now with
      ⟨-, same, -⟩ | ⟨listed, -, called⟩
    · rw [same]
      exact invariant
    · rw [called]
      split_ifs with succeeded enables
      · refine ⟨invariant.wired, fun handle active => ?_⟩
        obtain ⟨value, member⟩ := OrderedMap.contains_iff_mem.mp active
        rcases OrderedMap.mem_emplace member with new | old
        · rw [(Prod.mk.inj new).1]
          exact listed
        · exact invariant.listed handle (OrderedMap.contains_iff_mem.mpr ⟨value, old⟩)
      · refine ⟨invariant.wired, fun handle active => ?_⟩
        rw [OrderedMap.contains_erase, Bool.and_eq_true] at active
        exact invariant.listed handle active.2
      · exact invariant
  · exact invariant

theorem disableAllSensors (invariant : CallInvariant device subHal) (disable : Handle → Status) :
    CallInvariant device (HalProxy.disableAllSensors device subHal disable) :=
  List.foldlRecOn device.proxySensors _ invariant fun _ kept entry _ =>
    kept.proxyActivate entry.1 false (disable entry.1) 0

theorem registerDirectChannel (invariant : CallInvariant device subHal) (valid : Bool)
    (answer : Int) :
    CallInvariant device (HalProxy.registerDirectChannel device subHal valid answer).2 := by
  unfold HalProxy.registerDirectChannel SubHal.registerDirectChannel
  split_ifs with direct unsupported invalid registered
  all_goals first
    | exact invariant
    | exact ⟨fun _ _ => ⟨direct, Bool.eq_false_iff.not_left.mp unsupported⟩, invariant.listed⟩

theorem unregisterDirectChannel (invariant : CallInvariant device subHal) (channelHandle : Int)
    (status : Status) :
    CallInvariant device
      (HalProxy.unregisterDirectChannel device subHal channelHandle status).2 := by
  unfold HalProxy.unregisterDirectChannel SubHal.unregisterDirectChannel
  split_ifs with direct unsupported unknown released
  all_goals first
    | exact invariant
    | exact ⟨fun _ _ => ⟨direct, Bool.eq_false_iff.not_left.mp unsupported⟩, invariant.listed⟩

theorem initializeSubHal (invariant : CallInvariant device subHal) (answers : InitializeAnswers) :
    CallInvariant device (SubHal.initializeSubHal device subHal true answers).2 := by
  by_cases ready : device.isReady = true
  · obtain ⟨result, thread, called, -⟩ := initializeSubHal_ready ready subHal answers
    rw [called]
    constructor
    · intro channel registered
      rw [OrderedMap.contains_retain, Bool.and_eq_true] at registered
      exact invariant.wired channel registered.2
    · intro handle active
      rw [OrderedMap.contains_retain, Bool.and_eq_true] at active
      exact invariant.listed handle active.2
  · obtain ⟨result, -, same⟩ :=
      initializeSubHal_refused (.inl (Bool.eq_false_iff.mpr ready)) subHal answers
    rw [same]
    exact invariant

end CallInvariant

theorem callInvariant_step {state after : CallState} {call : FrameworkCall}
    (invariant : CallInvariant device state.subHal)
    (step : callStep device state call = some after) : CallInvariant device after.subHal := by
  cases call with
  | initializeProxy usable disable answers =>
      have kept := invariant.disableAllSensors disable
      rw [callStep] at step
      split at step
      · obtain rfl := Option.some.inj step
        exact kept.initializeSubHal answers
      · obtain rfl := Option.some.inj step
        exact kept
  | activate sensorHandle enabled status now =>
      obtain rfl := Option.some.inj step
      exact invariant.proxyActivate sensorHandle enabled status now
  | setOperationMode mode status =>
      obtain ⟨mCurrentOperationMode, frame⟩ :=
        setOperationModeLocked_frame device state.subHal mode status
      cases called : setOperationModeLocked device state.subHal mode status with
      | mk result subHal =>
      obtain rfl : subHal = _ := called ▸ frame
      rw [callStep, called] at step
      obtain rfl := Option.some.inj step
      exact ⟨invariant.wired, invariant.listed⟩
  | registerDirectChannel valid answer =>
      obtain rfl := Option.some.inj step
      exact invariant.registerDirectChannel valid answer
  | unregisterDirectChannel channelHandle status =>
      obtain rfl := Option.some.inj step
      exact invariant.unregisterDirectChannel channelHandle status

theorem reachable_callInvariant {state : CallState}
    (reachable : Reachable (callStep device) .initial state) :
    CallInvariant device state.subHal := by
  refine reachable.invariant (I := fun state => CallInvariant device state.subHal) ?_
    fun _ _ _ => callInvariant_step
  constructor
  · intro channel registered
    cases registered
  · intro handle active
    cases active

end Left

/-! ## Routing -/

/-- The calls that take a sensor handle to the device. -/
inductive SensorCall where
  | activate (sensorHandle : Handle) (enabled : Bool) (status : Status) (now : Int)
  | batch (sensorHandle : Handle) (samplingPeriodNs maxReportLatencyNs : Int) (status : Status)
  | injectSensorData (hasInjection : Bool) (event : Event Sample) (status : Status)
  | configDirectReport (sensorHandle : Handle) (channelHandle : Int) (rate : RateLevel)
      (answer : Int)

namespace SensorCall

def sensorHandle : SensorCall → Handle
  | .activate sensorHandle _ _ _ => sensorHandle
  | .batch sensorHandle _ _ _ => sensorHandle
  | .injectSensorData _ event _ => event.sensorHandle
  | .configDirectReport sensorHandle _ _ _ => sensorHandle

/-- The form of `configDirectReport` that stops all reports of a channel. -/
def isStopAll : SensorCall → Bool
  | .configDirectReport sensorHandle _ rate _ => sensorHandle = -1 ∧ rate = .stop
  | _ => false

/-- The result, and the calls of the device with its answers. -/
def run (device : Device) (state : CallState) : SensorCall → Result × Trace
  | .activate sensorHandle enabled status now =>
      ((HalProxy.activate device state.subHal sensorHandle enabled status now).1,
        HalProxy.activateTrace device state.subHal sensorHandle enabled status)
  | .batch sensorHandle samplingPeriodNs maxReportLatencyNs status =>
      HalProxy.batch device sensorHandle samplingPeriodNs maxReportLatencyNs status
  | .injectSensorData hasInjection event status =>
      HalProxy.injectSensorData device state.mCurrentOperationMode hasInjection event status
  | .configDirectReport sensorHandle channelHandle rate answer =>
      let (reply, trace) := HalProxy.configDirectReport device state.subHal sensorHandle
        channelHandle rate answer
      (reply.1, trace)

end SensorCall

/-- The handle that a call of the device is about. -/
def SubHal.DeviceCall.handle? : DeviceCall → Option Handle
  | .activate handle _ => some handle
  | .batch handle _ _ => some handle
  | .flush handle => some handle
  | .injectSensorData event => some event.sensorHandle
  | .configDirectReport handle _ _ => some handle
  | .setOperationMode _ | .registerDirectChannel | .unregisterDirectChannel _ => none

/-- The handle is that of a sensor which the proxy reports. -/
def Reported (device : Device) (sensorHandle : Handle) : Prop :=
  ∃ sensor ∈ HalProxy.getSensorsList device, sensor.sensorHandle = sensorHandle

/-- The handle by which the device knows what the call is about. -/
def OwnHandle (device : Device) (call : SensorCall) (own : Handle) : Prop :=
  (Reported device call.sensorHandle ∧ device.isListed own = true ∧
      setSubHalIndex own 0 = call.sensorHandle) ∨
    (call.isStopAll = true ∧ own = -1)

/-- What a call has to do with its handle. -/
structure Routed (device : Device) (state : CallState) (call : SensorCall) : Prop where
  /-- The device is called only about what the framework asked for. -/
  own : ∀ entry ∈ (call.run device state).2, ∃ own, entry.1.handle? = some own ∧
    OwnHandle device call own
  /-- A report on a registered channel can be configured and all of them stopped. -/
  reaches : ∀ sensorHandle channelHandle rate answer,
    call = .configDirectReport sensorHandle channelHandle rate answer →
    state.subHal.mDirectChannels.contains channelHandle = true →
    Reported device sensorHandle ∧ 0 ≤ convertFromRateLevel rate ∨ call.isStopAll = true →
    (call.run device state).2 ≠ []
  /-- Nothing else is accepted. -/
  rejects : ¬Reported device call.sensorHandle → call.isStopAll = false →
    (call.run device state).1 ≠ .ok ∧ (call.run device state).2 = []

section Route

variable {device : Device} {state : CallState}

theorem reported_iff {sensorHandle : Handle} :
    Reported device sensorHandle ↔
      subHalIndexIsClear sensorHandle = true ∧ device.isListed sensorHandle = true := by
  rw [Reported, HalProxy.getSensorsList, proxySensors_eq, Device.isListed, List.lookup_isSome_iff]
  constructor
  · rintro ⟨sensor, member, rfl⟩
    obtain ⟨entry, kept, rfl⟩ := List.mem_map.mp member
    obtain ⟨listed, clear⟩ := List.mem_filter.mp kept
    rw [sensorHandle_of_mem_mSensors listed]
    exact ⟨clear, entry, listed, beq_self_eq_true _⟩
  · rintro ⟨clear, entry, listed, same⟩
    obtain rfl := eq_of_beq same
    exact ⟨entry.2, List.mem_map_of_mem (List.mem_filter.mpr ⟨listed, clear⟩),
      sensorHandle_of_mem_mSensors listed⟩

theorem minusOne_not_clear : subHalIndexIsClear (-1) = false := by decide

theorem clearSubHalIndex_ne_minusOne (sensorHandle : Handle) :
    clearSubHalIndex sensorHandle ≠ -1 := by
  intro equal
  have clear := subHalIndexIsClear_clear sensorHandle
  rw [equal, minusOne_not_clear] at clear
  cases clear

/-- A call of the device that was checked: either it is refused, or the handle is reported
and reaches the device as it is. -/
def Checked (device : Device) (sensorHandle : Handle) (outcome : Result × Trace) : Prop :=
  (outcome.1 ≠ .ok ∧ outcome.2 = []) ∨
    (Reported device sensorHandle ∧ ∃ call status, outcome.2 = [(call, status)] ∧
      call.handle? = some sensorHandle)

theorem Checked.routed {call : SensorCall}
    (checked : Checked device call.sensorHandle (call.run device state))
    (unreserved : ∀ sensorHandle channelHandle rate answer,
      call ≠ .configDirectReport sensorHandle channelHandle rate answer) :
    Routed device state call := by
  constructor
  · intro entry member
    rcases checked with ⟨-, none⟩ | ⟨reported, called, status, one, handle⟩
    · rw [none] at member
      cases member
    · rw [one, List.mem_singleton] at member
      refine ⟨call.sensorHandle, by rw [member, handle], .inl ⟨reported, ?_, ?_⟩⟩
      · exact (reported_iff.mp reported).2
      · exact setSubHalIndex_zero _
  · intro sensorHandle channelHandle rate answer same
    exact absurd same (unreserved _ _ _ _)
  · intro unreported _
    exact checked.resolve_right fun reached => unreported reached.1

/-- The proxy checks the index, the sub-HAL the rest. -/
theorem checked_of_valid {sensorHandle : Handle} {outcome : Result × Trace}
    (refused : isSubHalIndexValid sensorHandle = false → outcome = (.badValue, []))
    (passed : clearSubHalIndex sensorHandle = sensorHandle →
      (outcome.1 ≠ .ok ∧ outcome.2 = []) ∨
        (device.isListed sensorHandle = true ∧ ∃ call status, outcome.2 = [(call, status)] ∧
          call.handle? = some sensorHandle)) :
    Checked device sensorHandle outcome := by
  cases valid : isSubHalIndexValid sensorHandle with
  | false =>
      rw [refused valid]
      exact .inl ⟨by simp, rfl⟩
  | true =>
      rw [isSubHalIndexValid_eq] at valid
      refine (passed (clearSubHalIndex_of_isClear valid)).imp_right ?_
      rintro ⟨listed, reached⟩
      exact ⟨reported_iff.mpr ⟨valid, listed⟩, reached⟩

theorem activate_checked (sensorHandle : Handle) (enabled : Bool) (status : Status) (now : Int) :
    Checked device sensorHandle
      (SensorCall.run device state (.activate sensorHandle enabled status now)) := by
  apply checked_of_valid
  · intro invalid
    simp [SensorCall.run, HalProxy.activate, HalProxy.activateTrace, invalid]
  · intro clear
    rw [SensorCall.run, HalProxy.activate, HalProxy.activateTrace, clear]
    split_ifs with valid
    · rcases activate_cases device state.subHal sensorHandle enabled status now with
        ⟨failed, -, none⟩ | ⟨listed, one, -⟩
      · exact .inl ⟨failed, none⟩
      · exact .inr ⟨listed, _, _, one, rfl⟩
    · exact .inl ⟨by simp, rfl⟩

theorem batch_checked (sensorHandle : Handle) (samplingPeriodNs maxReportLatencyNs : Int)
    (status : Status) :
    Checked device sensorHandle (SensorCall.run device state
      (.batch sensorHandle samplingPeriodNs maxReportLatencyNs status)) := by
  apply checked_of_valid
  · intro invalid
    simp [SensorCall.run, HalProxy.batch, invalid]
  · intro clear
    rw [SensorCall.run, HalProxy.batch, clear]
    unfold SubHal.batch
    split_ifs with valid unready refused
    · exact .inl ⟨by simp, rfl⟩
    · exact .inl ⟨by simp, rfl⟩
    · exact .inr ⟨by simpa using (not_or.mp refused).1, _, _, rfl, rfl⟩
    · exact .inl ⟨by simp, rfl⟩

theorem injectSensorData_checked (hasInjection : Bool) (event : Event Sample) (status : Status) :
    Checked device event.sensorHandle
      (SensorCall.run device state (.injectSensorData hasInjection event status)) := by
  apply checked_of_valid
  · intro invalid
    simp [SensorCall.run, HalProxy.injectSensorData, invalid]
  · intro clear
    rw [SensorCall.run, HalProxy.injectSensorData, clear]
    unfold SubHal.injectSensorData
    split_ifs with normal valid unready unlisted
    · exact .inl ⟨by simp, rfl⟩
    · exact .inl ⟨by simp, rfl⟩
    · exact .inl ⟨by simp, rfl⟩
    · exact .inr ⟨by simpa using unlisted, _, _, rfl, rfl⟩
    · exact .inl ⟨by simp, rfl⟩

/-- `flush` does not look at the list, but only what is on the list can be enabled. -/
theorem flush_checked (reachable : Reachable (callStep device) .initial state)
    (sensorHandle : Handle) (status : Status) :
    Checked device sensorHandle (HalProxy.flush device state.subHal sensorHandle status) := by
  apply checked_of_valid
  · intro invalid
    simp [HalProxy.flush, invalid]
  · intro clear
    rw [HalProxy.flush, clear]
    unfold SubHal.flush
    split_ifs with valid unready inactive
    · exact .inl ⟨by simp, rfl⟩
    · exact .inl ⟨by simp, rfl⟩
    · have active := Bool.eq_false_iff.not_left.mp inactive
      exact .inr ⟨(reachable_callInvariant reachable).listed _ active, _, _, rfl, rfl⟩
    · exact .inl ⟨by simp, rfl⟩

/-- The calls that go wrong: the index is cleared although it is not zero, and what is
left is a reported sensor, or the handle was the reserved one. -/
def Misrouted (device : Device) (state : CallState) : SensorCall → Prop
  | .configDirectReport sensorHandle channelHandle rate _ =>
      0 ≤ convertFromRateLevel rate ∧
        state.subHal.mDirectChannels.contains channelHandle = true ∧
        subHalIndexIsClear sensorHandle = false ∧
        (Reported device (clearSubHalIndex sensorHandle) ∨ sensorHandle = -1 ∧ rate = .stop)
  | _ => False

/-- What is left of the handle decides whether `configDirectReport` reaches the device. -/
theorem configDirectReport_run (wired : ChannelsWired device state.subHal) (sensorHandle : Handle)
    (channelHandle : Int) (rate : RateLevel) (answer : Int) :
    let outcome := SensorCall.run device state
      (.configDirectReport sensorHandle channelHandle rate answer)
    let known := 0 ≤ convertFromRateLevel rate ∧
      state.subHal.mDirectChannels.contains channelHandle = true ∧
      Reported device (clearSubHalIndex sensorHandle)
    (¬known ∧ outcome.1 ≠ .ok ∧ outcome.2 = []) ∨
      (known ∧ ∃ rateLevel, outcome.2 =
        [(.configDirectReport (clearSubHalIndex sensorHandle) channelHandle rateLevel,
          answer)]) := by
  intro outcome known
  by_cases direct : device.isDirectChannelSubHal = true
  · have same : outcome = ((SubHal.configDirectReport device state.subHal
        (clearSubHalIndex sensorHandle) channelHandle rate answer).1.1,
          (SubHal.configDirectReport device state.subHal (clearSubHalIndex sensorHandle)
            channelHandle rate answer).2) := by
      simp only [outcome, SensorCall.run, HalProxy.configDirectReport, direct, if_true]
    rw [same]
    rcases configDirectReport_cases device state.subHal (clearSubHalIndex sensorHandle)
      channelHandle rate answer with ⟨unknown, refused⟩ | ⟨valid, registered, handle, reached⟩
    · refine .inl ⟨?_, refused⟩
      rintro ⟨valid, registered, reported⟩
      exact unknown ⟨(wired channelHandle registered).2, valid, registered,
        .inl (reported_iff.mp reported).2⟩
    · have listed := handle.resolve_right fun all => clearSubHalIndex_ne_minusOne _ all.1
      exact .inr ⟨⟨valid, registered,
        reported_iff.mpr ⟨subHalIndexIsClear_clear sensorHandle, listed⟩⟩, _, reached⟩
  · refine .inl ⟨fun known => direct (wired channelHandle known.2.1).1, ?_⟩
    simp [outcome, SensorCall.run, HalProxy.configDirectReport, direct]

theorem configDirectReport_routed_iff (wired : ChannelsWired device state.subHal)
    (sensorHandle : Handle) (channelHandle : Int) (rate : RateLevel) (answer : Int) :
    Routed device state (.configDirectReport sensorHandle channelHandle rate answer) ↔
      ¬Misrouted device state (.configDirectReport sensorHandle channelHandle rate answer) := by
  have run := configDirectReport_run wired sensorHandle channelHandle rate answer
  constructor
  · rintro routed ⟨valid, registered, indexed, names⟩
    -- the device would be called with a handle that is not its own
    have reached : ∀ rateLevel, (SensorCall.run device state
        (.configDirectReport sensorHandle channelHandle rate answer)).2 ≠
          [(.configDirectReport (clearSubHalIndex sensorHandle) channelHandle rateLevel,
            answer)] := by
      intro rateLevel one
      obtain ⟨own, handle, ⟨reported, -⟩ | ⟨-, all⟩⟩ :=
        routed.own _ (one ▸ List.mem_singleton_self _)
      · exact absurd (reported_iff.mp reported).1 (Bool.eq_false_iff.mp indexed)
      · exact clearSubHalIndex_ne_minusOne sensorHandle (Option.some.inj handle ▸ all)
    rcases run with ⟨unknown, -, none⟩ | ⟨-, rateLevel, one⟩
    · have stopAll := names.resolve_left fun reported => unknown ⟨valid, registered, reported⟩
      exact routed.reaches _ _ _ _ rfl registered (.inr (decide_eq_true stopAll)) none
    · exact reached rateLevel one
  · intro well
    have clear : 0 ≤ convertFromRateLevel rate →
        state.subHal.mDirectChannels.contains channelHandle = true →
        (Reported device (clearSubHalIndex sensorHandle) ∨ sensorHandle = -1 ∧ rate = .stop) →
        subHalIndexIsClear sensorHandle = true := by
      intro valid registered names
      by_contra indexed
      exact well ⟨valid, registered, Bool.eq_false_iff.mpr indexed, names⟩
    constructor
    · intro entry member
      rcases run with ⟨-, -, none⟩ | ⟨⟨valid, registered, reported⟩, rateLevel, one⟩
      · rw [none] at member
        cases member
      · have same := clearSubHalIndex_of_isClear (clear valid registered (.inl reported))
        rw [one, List.mem_singleton] at member
        rw [same] at reported member
        exact ⟨sensorHandle, by rw [member]; rfl, .inl ⟨reported, (reported_iff.mp reported).2,
          setSubHalIndex_zero _⟩⟩
    · rintro _ _ _ _ ⟨⟩ registered (⟨reported, valid⟩ | stopAll)
      · have same := clearSubHalIndex_of_isClear (reported_iff.mp reported).1
        rcases run with ⟨unknown, -⟩ | ⟨-, rateLevel, one⟩
        · exact absurd ⟨valid, registered, same.symm ▸ reported⟩ unknown
        · simp [one]
      · obtain ⟨rfl, rfl⟩ := of_decide_eq_true stopAll
        have impossible := clear (by decide) registered (.inr ⟨rfl, rfl⟩)
        rw [minusOne_not_clear] at impossible
        cases impossible
    · intro unreported _
      rcases run with ⟨-, refused⟩ | ⟨⟨valid, registered, reported⟩, -⟩
      · exact refused
      · have same := clearSubHalIndex_of_isClear (clear valid registered (.inl reported))
        exact absurd (same ▸ reported) unreported

end Route

/-- In every state the framework can bring about, `activate`, `batch` and
`injectSensorData` take the reported handles to the device, unchanged, and refuse all
others.  `configDirectReport` does the same, and stops all reports for the handle -1,
except for a valid rate on a registered channel when the top byte of the handle is not
clear: then -1 never stops all reports, and the other handles stand for the reported
sensor whose handle is left when the top byte is cleared. -/
theorem handle_routing (device : Device) (state : CallState)
    (reachable : Reachable (callStep device) .initial state) (call : SensorCall) :
    Routed device state call ↔ ¬Misrouted device state call := by
  have wired := (reachable_callInvariant reachable).wired
  cases call with
  | activate sensorHandle enabled status now =>
      have routed : Routed device state (.activate sensorHandle enabled status now) :=
        (activate_checked sensorHandle enabled status now).routed nofun
      exact ⟨fun _ => id, fun _ => routed⟩
  | batch sensorHandle samplingPeriodNs maxReportLatencyNs status =>
      have routed : Routed device state
          (.batch sensorHandle samplingPeriodNs maxReportLatencyNs status) :=
        (batch_checked sensorHandle samplingPeriodNs maxReportLatencyNs status).routed nofun
      exact ⟨fun _ => id, fun _ => routed⟩
  | injectSensorData hasInjection event status =>
      have routed : Routed device state (.injectSensorData hasInjection event status) :=
        (injectSensorData_checked hasInjection event status).routed nofun
      exact ⟨fun _ => id, fun _ => routed⟩
  | configDirectReport sensorHandle channelHandle rate answer =>
      exact configDirectReport_routed_iff wired sensorHandle channelHandle rate answer

/-- A board with one sensor that supports direct reports. -/
def directBoard : Device where
  opened := true
  sensorList := [{ sensorHandle := 1, flags := 0x480 }]
  atLeastVersion14 := true
  hasOperationModes := true
  hasDirectChannels := true

/-- Channel 5 is registered. -/
def channelRegistered : CallState :=
  { CallState.initial with
    subHal := (HalProxy.registerDirectChannel directBoard .initial true 5).2 }

theorem channelRegistered_reachable :
    Reachable (callStep directBoard) .initial channelRegistered :=
  ⟨[.registerDirectChannel true 5], rfl⟩

/-- The framework cannot stop all reports of a channel. -/
theorem stopAll_misrouted :
    Reachable (callStep directBoard) .initial channelRegistered ∧
      SensorCall.run directBoard channelRegistered (.configDirectReport (-1) 5 .stop 0) =
        (.badValue, []) ∧
      ¬Routed directBoard channelRegistered (.configDirectReport (-1) 5 .stop 0) := by
  have refused : SensorCall.run directBoard channelRegistered
      (.configDirectReport (-1) 5 .stop 0) = (.badValue, []) := by decide
  refine ⟨channelRegistered_reachable, refused, fun routed => ?_⟩
  exact routed.reaches (-1) 5 .stop 0 rfl (by decide) (.inr (by decide)) (by rw [refused])

theorem handle_routing_listed :
    Routed directBoard channelRegistered (.configDirectReport 1 5 .stop 0) :=
  (handle_routing directBoard channelRegistered channelRegistered_reachable _).mpr
    fun misrouted => absurd misrouted.2.2.1 (by decide)

end K50sv1.Sensors
