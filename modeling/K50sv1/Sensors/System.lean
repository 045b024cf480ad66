import K50sv1.Sensors.HalProxy.System
import K50sv1.Sensors.SubHal.Core

/-!
# The sensors service

The service wires one sub-HAL, at index 0, to the multi-HAL proxy.  The framework
calls the proxy, the proxy calls the sub-HAL under the sub-HAL's `mMutex`, and the
sub-HAL's worker polls the device and posts to the proxy.  The worker keeps `mMutex`
from the moment it looks at a batch until `postEvents` has returned, so a call of the
sub-HAL takes place only while the worker does not hold it.

Creating a wake lock, posting, and the last stage of `initialize` are steps of both
components; every other step belongs to one of them.
-/

namespace K50sv1.Sensors

open K50sv1.Transition K50sv1.Sensors.HalProxy K50sv1.Sensors.SubHal

/-! ## Wiring -/

/-- `HalProxy::initializeSensorList` for one sub-HAL; its own direct-channel flags are
left alone. -/
def initializeSensorList (list : SensorMap) (subHalIndex : Nat) : SensorMap :=
  (list.filter fun entry => subHalIndexIsClear entry.2.sensorHandle).map fun entry =>
    let sensorHandle := setSubHalIndex entry.2.sensorHandle subHalIndex
    (sensorHandle, { entry.2 with sensorHandle })

/-- The sensors the proxy reports. -/
def SubHal.Device.proxySensors (device : Device) : SensorMap :=
  initializeSensorList device.mSensors 0

/-- `mSubHalList` has one element. -/
def isSubHalIndexValid (sensorHandle : Handle) : Bool :=
  extractSubHalIndex sensorHandle < 1

/-- `HalProxy::activate`. -/
def HalProxy.activate (device : Device) (subHal : SubHalState) (sensorHandle : Handle)
    (enabled : Bool) (status : Status) (now : Int) : Result × SubHalState :=
  if isSubHalIndexValid sensorHandle then
    SubHal.activate device subHal (clearSubHalIndex sensorHandle) enabled status now
  else
    (.badValue, subHal)

structure SystemState (device : Device) where
  proxy : ProxyState device.proxySensors Sample
  subHal : SubHalState
  /-- How many sensors the loop of `disableAllSensors` has been through. -/
  disabled : Nat

def SystemState.initial (device : Device) (start reset : Nat) : SystemState device where
  proxy := .initial device.proxySensors Sample start reset
  subHal := .initial
  disabled := 0

variable {device : Device}

/-! ## Events -/

/-- What the worker of `pollForEvents` does next. -/
inductive PollEvent where
  | readEpoch
  | callPoll
  /-- `poll` returns; `data` is the filled part of the buffer. -/
  | returned (count : Int) (data : List (Event Sample))
  /-- The pause after a failure is over. -/
  | wake
  /-- Take `mMutex` and look at the batch. -/
  | lock
  | createScopedWakelock (acquired : Bool) (now : Nat)
  | postEvents
  /-- `postEvents` has returned; `mMutex` is released. -/
  | unlock
  deriving DecidableEq, Repr

inductive SystemEvent where
  /-- A step that belongs to the proxy alone. -/
  | proxy (event : ProxyEvent Sample)
  /-- The next call of `disableAllSensors`. -/
  | disable (status : Status) (now : Int)
  | activate (sensorHandle : Handle) (enabled : Bool) (status : Status) (now : Int)
  | setOperationMode (mode : OperationMode) (status : Status)
  | registerDirectChannel (valid : Bool) (answer : Int)
  | unregisterDirectChannel (channel : Int) (status : Status)
  /-- `HalProxy::initialize` calls `SensorsSubHal::initialize`. -/
  | initializeSubHal (answers : InitializeAnswers)
  | poll (event : PollEvent)

/-- The steps of the proxy that do not involve the sub-HAL. -/
def HalProxy.ProxyEvent.isOwn : ProxyEvent Sample → Bool
  | .object (.create _ _ _) | .post (.call _ _) | .control (.initializeSubHals _) => false
  | _ => true

/-! ## Steps -/

def setThread (state : SystemState device) (mPollThread : PollThread) : SystemState device :=
  { state with subHal := { state.subHal with mPollThread } }

def pollStep (state : SystemState device) : PollEvent → Option (SystemState device)
  | .readEpoch =>
      match state.subHal.mPollThread with
      | .atHead => some (setThread state (.ready state.subHal.mEpoch))
      | _ => none
  | .callPoll =>
      match state.subHal.mPollThread with
      | .ready epoch => some (setThread state (.polling epoch))
      | _ => none
  | .returned count data =>
      match state.subHal.mPollThread with
      | .polling epoch =>
          -- `EINTR` is 4.
          if count = -4 then
            some (setThread state .atHead)
          else if count ≤ 0 ∨ count > pollMaxBufferSize then
            let failures := min (state.subHal.failures + 1) 31
            some (setThread { state with subHal := { state.subHal with failures } }
              (.sleeping (retryDelayMs failures)))
          else if data.length = count then
            some (setThread { state with subHal := { state.subHal with failures := 0 } }
              (.polled epoch data))
          else
            none
      | _ => none
  | .wake =>
      match state.subHal.mPollThread with
      | .sleeping _ => some (setThread state .atHead)
      | _ => none
  | .lock =>
      match state.subHal.mPollThread with
      | .polled epoch data =>
          if state.subHal.mCallback = false ∨ epoch ≠ state.subHal.mEpoch then
            some (setThread state .atHead)
          else
            let (events, wakeup) := acceptedEvents device state.subHal epoch data
            if events.isEmpty then
              some (setThread state .atHead)
            else
              some (setThread state (.creating events wakeup))
      | _ => none
  | .createScopedWakelock acquired now =>
      match state.subHal.mPollThread with
      | .creating events wakeup =>
          (objectStep state.proxy (.create wakeup acquired now)).map fun proxy =>
            setThread { state with proxy } (.calling events state.proxy.wakelocks.length)
      | _ => none
  | .postEvents =>
      match state.subHal.mPollThread with
      | .calling events object =>
          (postStep 0 state.proxy (.call events object)).map fun proxy =>
            setThread { state with proxy } .posting
      | _ => none
  | .unlock =>
      match state.subHal.mPollThread, state.proxy.waiting, state.proxy.post with
      | .posting, [], .idle => some (setThread state .atHead)
      | _, _, _ => none

def systemStep (device : Device) : Step SystemEvent (SystemState device)
  | state, .proxy (.control .disableAllSensors) =>
      if state.disabled = device.proxySensors.length then
        (controlStep state.proxy .disableAllSensors).map fun proxy =>
          { state with proxy, disabled := 0 }
      else
        none
  | state, .proxy event =>
      if event.isOwn then
        (proxyStep 0 state.proxy event).map fun proxy => { state with proxy }
      else
        none
  | state, .disable status now =>
      match state.subHal.mPollThread.holdsMutex, state.proxy.control,
        device.proxySensors[state.disabled]? with
      | false, .disabling _, some (sensorHandle, _) =>
          some { state with
            subHal := (HalProxy.activate device state.subHal sensorHandle false status now).2
            disabled := state.disabled + 1 }
      | _, _, _ => none
  | state, .activate sensorHandle enabled status now =>
      if state.subHal.mPollThread.holdsMutex then
        none
      else
        some { state with
          subHal := (HalProxy.activate device state.subHal sensorHandle enabled status now).2 }
  | state, .setOperationMode mode status =>
      if state.subHal.mPollThread.holdsMutex then
        none
      else
        some { state with
          subHal := (setOperationModeLocked device state.subHal mode status).2 }
  | state, .registerDirectChannel valid answer =>
      if state.subHal.mPollThread.holdsMutex then
        none
      else
        some { state with
          subHal := (SubHal.registerDirectChannel device state.subHal valid answer).2 }
  | state, .unregisterDirectChannel channel status =>
      if state.subHal.mPollThread.holdsMutex then
        none
      else
        some { state with
          subHal := (SubHal.unregisterDirectChannel device state.subHal channel status).2 }
  | state, .initializeSubHal answers =>
      if state.subHal.mPollThread.holdsMutex then
        none
      else
        let (result, subHal) := SubHal.initializeSubHal device state.subHal true answers
        (controlStep state.proxy (.initializeSubHals (result = .ok))).map fun proxy =>
          { state with proxy, subHal }
  | state, .poll event => pollStep state event

/-! ## What a step can do -/

/-- What a step of the poll worker can do. -/
inductive PollTransition (state : SystemState device) :
    PollEvent → SystemState device → Prop where
  | readEpoch (head : state.subHal.mPollThread = .atHead) :
      PollTransition state .readEpoch (setThread state (.ready state.subHal.mEpoch))
  | callPoll (epoch : Nat) (ready : state.subHal.mPollThread = .ready epoch) :
      PollTransition state .callPoll (setThread state (.polling epoch))
  | interrupted (epoch : Nat) (data : List (Event Sample))
      (polling : state.subHal.mPollThread = .polling epoch) :
      PollTransition state (.returned (-4) data) (setThread state .atHead)
  | failed (epoch : Nat) (count : Int) (data : List (Event Sample)) (failures : Nat)
      (polling : state.subHal.mPollThread = .polling epoch)
      (counted : failures = min (state.subHal.failures + 1) 31) :
      PollTransition state (.returned count data)
        (setThread { state with subHal := { state.subHal with failures } }
          (.sleeping (retryDelayMs failures)))
  | returned (epoch : Nat) (count : Int) (data : List (Event Sample))
      (polling : state.subHal.mPollThread = .polling epoch)
      (nonempty : 0 < count) (fits : count ≤ pollMaxBufferSize) (filled : data.length = count) :
      PollTransition state (.returned count data)
        (setThread { state with subHal := { state.subHal with failures := 0 } }
          (.polled epoch data))
  | wake (delayMs : Nat) (sleeping : state.subHal.mPollThread = .sleeping delayMs) :
      PollTransition state .wake (setThread state .atHead)
  | discard (epoch : Nat) (data : List (Event Sample))
      (polled : state.subHal.mPollThread = .polled epoch data) :
      PollTransition state .lock (setThread state .atHead)
  | lock (epoch : Nat) (data events : List (Event Sample)) (wakeup : Bool)
      (polled : state.subHal.mPollThread = .polled epoch data)
      (callback : state.subHal.mCallback = true) (current : epoch = state.subHal.mEpoch)
      (accepted : acceptedEvents device state.subHal epoch data = (events, wakeup)) :
      PollTransition state .lock (setThread state (.creating events wakeup))
  | create (events : List (Event Sample)) (wakeup acquired : Bool) (now : Nat)
      (proxy : ProxyState device.proxySensors Sample)
      (creating : state.subHal.mPollThread = .creating events wakeup)
      (step : objectStep state.proxy (.create wakeup acquired now) = some proxy) :
      PollTransition state (.createScopedWakelock acquired now)
        (setThread { state with proxy } (.calling events state.proxy.wakelocks.length))
  | post (events : List (Event Sample)) (object : Nat)
      (proxy : ProxyState device.proxySensors Sample)
      (calling : state.subHal.mPollThread = .calling events object)
      (step : postStep 0 state.proxy (.call events object) = some proxy) :
      PollTransition state .postEvents (setThread { state with proxy } .posting)
  | unlock (posting : state.subHal.mPollThread = .posting) (nobody : state.proxy.waiting = [])
      (idle : state.proxy.post = .idle) :
      PollTransition state .unlock (setThread state .atHead)

theorem pollStep_transition {state after : SystemState device} {event : PollEvent}
    (step : pollStep state event = some after) : PollTransition state event after := by
  cases event with
  | readEpoch =>
      simp only [pollStep] at step
      split at step
      · obtain rfl := Option.some.inj step
        exact .readEpoch ‹_›
      · contradiction
  | callPoll =>
      simp only [pollStep] at step
      split at step
      · obtain rfl := Option.some.inj step
        exact .callPoll _ ‹_›
      · contradiction
  | returned count data =>
      simp only [pollStep] at step
      split at step
      · rename_i epoch polling
        split at step
        · rename_i interrupted
          subst interrupted
          obtain rfl := Option.some.inj step
          exact .interrupted epoch data polling
        · split at step
          · obtain rfl := Option.some.inj step
            exact .failed epoch count data _ polling rfl
          · rename_i inRange
            split at step
            · obtain rfl := Option.some.inj step
              exact .returned epoch count data polling (by omega) (by omega) ‹_›
            · contradiction
      · contradiction
  | wake =>
      simp only [pollStep] at step
      split at step
      · obtain rfl := Option.some.inj step
        exact .wake _ ‹_›
      · contradiction
  | lock =>
      simp only [pollStep] at step
      split at step
      · rename_i epoch data polled
        split at step
        · obtain rfl := Option.some.inj step
          exact .discard epoch data polled
        · rename_i current
          obtain ⟨callback, current⟩ := not_or.mp current
          cases accepted : acceptedEvents device state.subHal epoch data with
          | mk events wakeup =>
              rw [accepted] at step
              simp only at step
              split at step
              · obtain rfl := Option.some.inj step
                exact .discard epoch data polled
              · obtain rfl := Option.some.inj step
                exact .lock epoch data events wakeup polled (by simpa using callback)
                  (by simpa using current) accepted
      · contradiction
  | createScopedWakelock acquired now =>
      simp only [pollStep] at step
      split at step
      · rename_i events wakeup creating
        obtain ⟨proxy, created, rfl⟩ := Option.map_eq_some_iff.mp step
        exact .create events wakeup acquired now proxy creating created
      · contradiction
  | postEvents =>
      simp only [pollStep] at step
      split at step
      · rename_i events object calling
        obtain ⟨proxy, called, rfl⟩ := Option.map_eq_some_iff.mp step
        exact .post events object proxy calling called
      · contradiction
  | unlock =>
      simp only [pollStep] at step
      split at step
      · obtain rfl := Option.some.inj step
        exact .unlock ‹_› ‹_› ‹_›
      · contradiction

/-- What a step of the service can do. -/
inductive SystemTransition (state : SystemState device) :
    SystemEvent → SystemState device → Prop where
  | proxy (event : ProxyEvent Sample) (proxy : ProxyState device.proxySensors Sample)
      (disabled : Nat) (own : event.isOwn = true)
      (step : proxyStep 0 state.proxy event = some proxy) :
      SystemTransition state (.proxy event) { state with proxy, disabled }
  | disable (status : Status) (now : Int) (request : InitializeRequest) (sensorHandle : Handle)
      (sensor : SensorInfo) (unlocked : state.subHal.mPollThread.holdsMutex = false)
      (disabling : state.proxy.control = .disabling request)
      (next : device.proxySensors[state.disabled]? = some (sensorHandle, sensor)) :
      SystemTransition state (.disable status now)
        { state with
          subHal := (HalProxy.activate device state.subHal sensorHandle false status now).2
          disabled := state.disabled + 1 }
  | activate (sensorHandle : Handle) (enabled : Bool) (status : Status) (now : Int)
      (unlocked : state.subHal.mPollThread.holdsMutex = false) :
      SystemTransition state (.activate sensorHandle enabled status now)
        { state with
          subHal := (HalProxy.activate device state.subHal sensorHandle enabled status now).2 }
  | setOperationMode (mode : OperationMode) (status : Status)
      (unlocked : state.subHal.mPollThread.holdsMutex = false) :
      SystemTransition state (.setOperationMode mode status)
        { state with subHal := (setOperationModeLocked device state.subHal mode status).2 }
  | registerDirectChannel (valid : Bool) (answer : Int)
      (unlocked : state.subHal.mPollThread.holdsMutex = false) :
      SystemTransition state (.registerDirectChannel valid answer)
        { state with subHal := (SubHal.registerDirectChannel device state.subHal valid answer).2 }
  | unregisterDirectChannel (channel : Int) (status : Status)
      (unlocked : state.subHal.mPollThread.holdsMutex = false) :
      SystemTransition state (.unregisterDirectChannel channel status)
        { state with
          subHal := (SubHal.unregisterDirectChannel device state.subHal channel status).2 }
  | initializeSubHal (answers : InitializeAnswers) (result : Result) (subHal : SubHalState)
      (proxy : ProxyState device.proxySensors Sample)
      (unlocked : state.subHal.mPollThread.holdsMutex = false)
      (called : SubHal.initializeSubHal device state.subHal true answers = (result, subHal))
      (step : controlStep state.proxy (.initializeSubHals (result = .ok)) = some proxy) :
      SystemTransition state (.initializeSubHal answers) { state with proxy, subHal }
  | poll (event : PollEvent) (after : SystemState device)
      (step : PollTransition state event after) : SystemTransition state (.poll event) after

theorem systemStep_transition {state after : SystemState device} {event : SystemEvent}
    (step : systemStep device state event = some after) : SystemTransition state event after := by
  unfold systemStep at step
  split at step
  · split at step
    · obtain ⟨proxy, stepped, rfl⟩ := Option.map_eq_some_iff.mp step
      exact .proxy (.control .disableAllSensors) proxy 0 rfl stepped
    · contradiction
  · split at step
    · rename_i event _ own
      obtain ⟨proxy, stepped, rfl⟩ := Option.map_eq_some_iff.mp step
      exact .proxy event proxy state.disabled own stepped
    · contradiction
  · split at step
    · obtain rfl := Option.some.inj step
      exact .disable _ _ _ _ _ ‹_› ‹_› ‹_›
    · contradiction
  · split at step
    · contradiction
    · rename_i unlocked
      obtain rfl := Option.some.inj step
      exact .activate _ _ _ _ (by simpa using unlocked)
  · split at step
    · contradiction
    · rename_i unlocked
      obtain rfl := Option.some.inj step
      exact .setOperationMode _ _ (by simpa using unlocked)
  · split at step
    · contradiction
    · rename_i unlocked
      obtain rfl := Option.some.inj step
      exact .registerDirectChannel _ _ (by simpa using unlocked)
  · split at step
    · contradiction
    · rename_i unlocked
      obtain rfl := Option.some.inj step
      exact .unregisterDirectChannel _ _ (by simpa using unlocked)
  · split at step
    · contradiction
    · rename_i answers unlocked
      cases called : SubHal.initializeSubHal device state.subHal true answers with
      | mk result subHal =>
          rw [called] at step
          obtain ⟨proxy, stepped, rfl⟩ := Option.map_eq_some_iff.mp step
          exact .initializeSubHal answers result subHal proxy (by simpa using unlocked) called
            stepped
  · exact .poll _ _ (pollStep_transition step)

end K50sv1.Sensors
