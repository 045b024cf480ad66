import K50sv1.Sensors.SubHal.Core

/-!
# Calls of the legacy device

Which calls of the legacy device a call of the sub-HAL leads to, with what arguments and
with what answer.  The calls that only pass something on to the device are complete here;
for those of `K50sv1.Sensors.SubHal.Core` that change the state, the calls are given
beside the function and tied to it by a lemma.
-/

namespace K50sv1.Sensors.SubHal

open K50sv1.Data

/-- A call of the legacy device. -/
inductive DeviceCall where
  | activate (handle : Handle) (enabled : Bool)
  /-- The flags are always zero. -/
  | batch (handle : Handle) (period latency : Int)
  | flush (handle : Handle)
  | injectSensorData (event : Event Sample)
  | setOperationMode (mode : OperationMode)
  | registerDirectChannel
  | unregisterDirectChannel (channel : Int)
  | configDirectReport (handle : Handle) (channel rateLevel : Int)
  deriving DecidableEq, Repr

/-- The calls made of the device, in order, and what it answered. -/
abbrev Trace := List (DeviceCall × Status)

/-! ## Passing on -/

def batch (device : Device) (handle : Handle) (period latency : Int) (status : Status) :
    Result × Trace :=
  if device.isReady = false then
    (.invalidOperation, [])
  else if device.isListed handle = false ∨ period < 0 ∨ latency < 0 then
    (.badValue, [])
  else
    (resultFromStatus status, [(.batch handle period latency, status)])

def flush (device : Device) (state : SubHalState) (handle : Handle) (status : Status) :
    Result × Trace :=
  if device.isReady = false then
    (.invalidOperation, [])
  else if state.mActiveSince.contains handle = false then
    (.badValue, [])
  else
    (resultFromStatus status, [(.flush handle, status)])

/-- `hasInjection` tells whether `inject_sensor_data` exists. -/
def injectSensorData (device : Device) (hasInjection : Bool) (event : Event Sample)
    (status : Status) : Result × Trace :=
  if device.isReady = false ∨ device.atLeastVersion14 = false ∨ hasInjection = false then
    (.invalidOperation, [])
  else if device.isListed event.sensorHandle = false then
    (.badValue, [])
  else
    (resultFromStatus status, [(.injectSensorData event, status)])

inductive RateLevel where
  | stop
  | normal
  | fast
  | veryFast
  /-- A value outside of the enumeration. -/
  | other (code : Int)
  deriving DecidableEq, Repr

/-- The conversion of the sensors library. -/
def convertFromRateLevel : RateLevel → Int
  | .stop => 0
  | .normal => 1
  | .fast => 2
  | .veryFast => 3
  | .other _ => -1

/-- The second component of the reply is the report token. -/
def configDirectReport (device : Device) (state : SubHalState) (handle : Handle) (channel : Int)
    (rate : RateLevel) (answer : Int) : (Result × Int) × Trace :=
  let rateLevel := convertFromRateLevel rate
  if device.supportsDirectChannels = false then
    ((.invalidOperation, -1), [])
  else if rateLevel < 0 ∨ state.mDirectChannels.contains channel = false ∨
      (device.isListed handle = false ∧ ¬(handle = -1 ∧ rate = .stop)) then
    ((.badValue, -1), [])
  else
    let reply :=
      if rate = .stop then
        (resultFromStatus answer, -1)
      else
        (if 0 < answer then .ok else resultFromStatus (if answer = 0 then -22 else answer), answer)
    (reply, [(.configDirectReport handle channel rateLevel, answer)])

/-! ## Calls that change the state -/

def activateTrace (device : Device) (state : SubHalState) (handle : Handle) (enabled : Bool)
    (status : Status) : Trace :=
  if device.isReady = false ∨ device.isListed handle = false ∨
      (enabled = true ∧ state.mCallback = false) then
    []
  else
    [(.activate handle enabled, status)]

def setOperationModeTrace (device : Device) (state : SubHalState) (mode : OperationMode)
    (status : Status) : Trace :=
  if device.isReady = false ∨ mode = state.mCurrentOperationMode ∨
      device.atLeastVersion14 = false ∨ device.hasOperationModes = false then
    []
  else
    [(.setOperationMode mode, status)]

def registerTrace (device : Device) (valid : Bool) (answer : Int) : Trace :=
  if device.supportsDirectChannels = false ∨ valid = false then
    []
  else
    [(.registerDirectChannel, answer)]

def unregisterTrace (device : Device) (state : SubHalState) (channel : Int) (status : Status) :
    Trace :=
  if device.supportsDirectChannels = false ∨ state.mDirectChannels.contains channel = false then
    []
  else
    [(.unregisterDirectChannel channel, status)]

/-- The loops go through the maps in order; the mode is set last. -/
def initializeTrace (device : Device) (state : SubHalState) (callback : Bool)
    (answers : InitializeAnswers) : Trace :=
  if device.isReady = false ∨ callback = false then
    []
  else
    (state.mActiveSince.entries.map fun entry =>
        (.activate entry.1 false, answers.deactivate entry.1)) ++
      (state.mDirectChannels.entries.map fun entry =>
        (.unregisterDirectChannel entry.1, answers.unregister entry.1)) ++
      setOperationModeTrace device state .normal answers.setMode

/-! ## Refused and passed on -/

/-- `activate` is refused without a call, or its result is that of the call. -/
theorem activate_cases (device : Device) (state : SubHalState) (handle : Handle) (enabled : Bool)
    (status : Status) (now : Int) :
    ((activate device state handle enabled status now).1 ≠ .ok ∧
        (activate device state handle enabled status now).2 = state ∧
        activateTrace device state handle enabled status = []) ∨
      (device.isListed handle = true ∧
        activateTrace device state handle enabled status = [(.activate handle enabled, status)] ∧
        activate device state handle enabled status now =
          (resultFromStatus status,
            if status = 0 then
              if enabled then
                { state with mActiveSince := state.mActiveSince.emplace handle now }
              else
                { state with mActiveSince := state.mActiveSince.erase handle }
            else
              state)) := by
  unfold activate activateTrace
  by_cases unready : device.isReady = false
  · simp [unready]
  by_cases unlisted : device.isListed handle = false
  · simp [unready, unlisted]
  by_cases useless : enabled = true ∧ state.mCallback = false
  · simp [unready, unlisted, useless]
  · right
    rw [if_neg (by simp [unready, unlisted, useless]), if_neg unready, if_neg unlisted,
      if_neg useless]
    exact ⟨by simpa using unlisted, rfl, rfl⟩

/-- The mode is set by a call, or it is known without one whether it is right. -/
theorem setOperationModeLocked_cases (device : Device) (state : SubHalState) (mode : OperationMode)
    (status : Status) :
    (setOperationModeTrace device state mode status = [] ∧
        (setOperationModeLocked device state mode status).2 = state ∧
        ((setOperationModeLocked device state mode status).1 = .ok ↔
          device.isReady = true ∧ mode = state.mCurrentOperationMode)) ∨
      (device.atLeastVersion14 = true ∧ device.hasOperationModes = true ∧
        setOperationModeTrace device state mode status = [(.setOperationMode mode, status)] ∧
        setOperationModeLocked device state mode status =
          (resultFromStatus status,
            if status = 0 then { state with mCurrentOperationMode := mode } else state)) := by
  unfold setOperationModeLocked setOperationModeTrace
  by_cases unready : device.isReady = false
  · simp [unready]
  by_cases current : mode = state.mCurrentOperationMode
  · simp [unready, current]
  by_cases missing : device.atLeastVersion14 = false ∨ device.hasOperationModes = false
  · simp [unready, current, missing]
  · right
    rw [if_neg (by simp [unready, current, missing]), if_neg unready, if_neg current,
      if_neg missing]
    simpa using missing

theorem registerDirectChannel_cases (device : Device) (state : SubHalState) (valid : Bool)
    (answer : Int) :
    (registerTrace device valid answer = [] ∧
        (registerDirectChannel device state valid answer).2 = state) ∨
      (registerTrace device valid answer = [(.registerDirectChannel, answer)] ∧
        (registerDirectChannel device state valid answer).2 =
          if 0 < answer then
            { state with mDirectChannels := state.mDirectChannels.emplace answer () }
          else
            state) := by
  unfold registerDirectChannel registerTrace
  by_cases unsupported : device.supportsDirectChannels = false
  · simp [unsupported]
  by_cases invalid : valid = false
  · simp [unsupported, invalid]
  · right
    rw [if_neg (by simp [unsupported, invalid]), if_neg unsupported, if_neg invalid]
    split_ifs <;> exact ⟨rfl, rfl⟩

theorem unregisterDirectChannel_cases (device : Device) (state : SubHalState) (channel : Int)
    (status : Status) :
    (unregisterTrace device state channel status = [] ∧
        (unregisterDirectChannel device state channel status).2 = state) ∨
      (unregisterTrace device state channel status =
          [(.unregisterDirectChannel channel, status)] ∧
        (unregisterDirectChannel device state channel status).2 =
          if status = 0 then
            { state with mDirectChannels := state.mDirectChannels.erase channel }
          else
            state) := by
  unfold unregisterDirectChannel unregisterTrace
  by_cases unsupported : device.supportsDirectChannels = false
  · simp [unsupported]
  by_cases unknown : state.mDirectChannels.contains channel = false
  · simp [unsupported, unknown]
  · right
    rw [if_neg (by simp [unsupported, unknown]), if_neg unsupported, if_neg unknown]
    exact ⟨rfl, rfl⟩

/-- A report is configured exactly if the rate, the channel and the handle are known. -/
theorem configDirectReport_cases (device : Device) (state : SubHalState) (handle : Handle)
    (channel : Int) (rate : RateLevel) (answer : Int) :
    (¬(device.supportsDirectChannels = true ∧ 0 ≤ convertFromRateLevel rate ∧
          state.mDirectChannels.contains channel = true ∧
          (device.isListed handle = true ∨ handle = -1 ∧ rate = .stop)) ∧
        (configDirectReport device state handle channel rate answer).1.1 ≠ .ok ∧
        (configDirectReport device state handle channel rate answer).2 = []) ∨
      (0 ≤ convertFromRateLevel rate ∧ state.mDirectChannels.contains channel = true ∧
        (device.isListed handle = true ∨ handle = -1 ∧ rate = .stop) ∧
        (configDirectReport device state handle channel rate answer).2 =
          [(.configDirectReport handle channel (convertFromRateLevel rate), answer)]) := by
  unfold configDirectReport
  dsimp only
  by_cases unsupported : device.supportsDirectChannels = false
  · simp [unsupported]
  by_cases unknown : convertFromRateLevel rate < 0 ∨
      state.mDirectChannels.contains channel = false ∨
      (device.isListed handle = false ∧ ¬(handle = -1 ∧ rate = .stop))
  · left
    rw [if_neg unsupported, if_pos unknown]
    refine ⟨?_, by simp, rfl⟩
    rintro ⟨-, valid, registered, known⟩
    rcases unknown with invalid | unregistered | ⟨unlisted, notAll⟩
    · omega
    · simp [registered] at unregistered
    · exact known.elim (by simp [unlisted]) notAll
  · right
    rw [if_neg unsupported, if_neg unknown]
    obtain ⟨valid, rest⟩ := not_or.mp unknown
    obtain ⟨registered, known⟩ := not_or.mp rest
    refine ⟨by omega, by simpa using registered, ?_, rfl⟩
    by_cases listed : device.isListed handle = true
    · exact .inl listed
    · exact .inr (by_contra fun notAll => known ⟨by simpa using listed, notAll⟩)

/-! ## The result of `initialize` -/

theorem foldl_release_eq_ok_iff {κ ν : Type} {release : κ → Status} {entries : List (κ × ν)}
    {result : Result} :
    entries.foldl (fun result entry =>
        if release entry.1 ≠ 0 then resultFromStatus (release entry.1) else result) result = .ok ↔
      result = .ok ∧ ∀ entry ∈ entries, release entry.1 = 0 := by
  constructor
  · exact foldl_release_ok
  · rintro ⟨succeeded, released⟩
    refine List.foldlRecOn entries _ (motive := (· = Result.ok)) succeeded ?_
    intro before kept entry member
    rw [if_neg (not_not_intro (released entry member))]
    exact kept

/-- The mode is all that `setOperationModeLocked` looks at. -/
theorem setOperationModeLocked_eq (device : Device) (state : SubHalState) (mode : OperationMode)
    (status : Status) {other : SubHalState}
    (same : other.mCurrentOperationMode = state.mCurrentOperationMode) :
    setOperationModeLocked device other mode status =
      ((setOperationModeLocked device state mode status).1,
        { other with
          mCurrentOperationMode :=
            (setOperationModeLocked device state mode status).2.mCurrentOperationMode }) := by
  unfold setOperationModeLocked
  rw [same]
  split_ifs <;> simp [← same]

theorem initializeSubHal_refused {device : Device} {callback : Bool}
    (refused : device.isReady = false ∨ callback = false) (state : SubHalState)
    (answers : InitializeAnswers) :
    ∃ result, result ≠ .ok ∧
      initializeSubHal device state callback answers = (result, state) := by
  unfold initializeSubHal
  by_cases unready : device.isReady = false
  · rw [if_pos unready]
    exact ⟨.invalidOperation, by simp, rfl⟩
  · rw [if_neg unready, if_pos (refused.resolve_left unready)]
    exact ⟨.badValue, by simp, rfl⟩

/-- Everything that could be released is forgotten, the rest is still there, and the
callback is set exactly if nothing failed. -/
theorem initializeSubHal_ready {device : Device} (ready : device.isReady = true)
    (state : SubHalState) (answers : InitializeAnswers) :
    ∃ result mPollThread,
      initializeSubHal device state true answers =
        (result,
          { state with
            mEpoch := state.mEpoch + 1
            mCallback := decide (result = .ok)
            mActiveSince := state.mActiveSince.retain fun handle => answers.deactivate handle ≠ 0
            mDirectChannels :=
              state.mDirectChannels.retain fun channel => answers.unregister channel ≠ 0
            mCurrentOperationMode := (setOperationModeLocked device state .normal
              answers.setMode).2.mCurrentOperationMode
            mPollThread }) ∧
      (result = .ok ↔
        (∀ entry ∈ state.mActiveSince.entries, answers.deactivate entry.1 = 0) ∧
        (∀ entry ∈ state.mDirectChannels.entries, answers.unregister entry.1 = 0) ∧
        (setOperationModeLocked device state .normal answers.setMode).1 = .ok) := by
  unfold initializeSubHal
  rw [if_neg (by simp [ready]), if_neg (by simp)]
  dsimp only [releaseAll]
  rw [setOperationModeLocked_eq device state .normal answers.setMode (by rfl)]
  dsimp only
  generalize setOperationModeLocked device state .normal answers.setMode = mode
  generalize released : state.mDirectChannels.entries.foldl _ _ = result
  have released_iff : result = .ok ↔
      (∀ entry ∈ state.mActiveSince.entries, answers.deactivate entry.1 = 0) ∧
      ∀ entry ∈ state.mDirectChannels.entries, answers.unregister entry.1 = 0 := by
    rw [← released, foldl_release_eq_ok_iff, foldl_release_eq_ok_iff]
    simp only [true_and]
  rw [← and_assoc, ← released_iff]
  by_cases modeSet : mode.1 = .ok
  · rw [if_neg (not_not_intro modeSet)]
    by_cases succeeded : result = .ok
    · rw [if_neg (not_not_intro succeeded)]
      exact ⟨.ok, _, rfl, by simp [succeeded, modeSet]⟩
    · rw [if_pos succeeded]
      exact ⟨result, state.mPollThread, by simp [succeeded], by simp [modeSet]⟩
  · rw [if_pos modeSet, if_pos modeSet]
    exact ⟨mode.1, state.mPollThread, by simp [modeSet], by simp [modeSet]⟩

end K50sv1.Sensors.SubHal
