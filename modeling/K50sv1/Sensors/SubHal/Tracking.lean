import K50sv1.Sensors.SubHal.Backend
import K50sv1.Transition.Run

/-!
# What the sub-HAL knows of the legacy device

The legacy device has no way to ask it what is enabled, so the sub-HAL keeps a record of
the calls that succeeded: `mActiveSince`, `mDirectChannels` and `mCurrentOperationMode`.
The device is modelled by the part of its state that these calls change.  The record is
exact in every state that calls of the sub-HAL can reach, whichever of them fail, and this
is why `initialize` can be repeated until nothing of an old session is left.
-/

namespace K50sv1.Sensors.SubHal

open K50sv1.Data K50sv1.Transition

/-! ## The device -/

/-- The part of the device's state that the sub-HAL is responsible for. -/
structure Backend where
  enabled : Handle → Bool
  channels : Int → Bool
  mode : OperationMode

namespace Backend

def initial : Backend where
  enabled := fun _ => false
  channels := fun _ => false
  mode := .normal

/-- A call that fails changes nothing.  A channel is registered by a positive answer. -/
def after (backend : Backend) : DeviceCall × Status → Backend
  | (.activate handle enabled, status) =>
      if status = 0 then
        { backend with enabled := Function.update backend.enabled handle enabled }
      else
        backend
  | (.registerDirectChannel, answer) =>
      if 0 < answer then
        { backend with channels := Function.update backend.channels answer true }
      else
        backend
  | (.unregisterDirectChannel channel, status) =>
      if status = 0 then
        { backend with channels := Function.update backend.channels channel false }
      else
        backend
  | (.setOperationMode mode, status) => if status = 0 then { backend with mode } else backend
  | _ => backend

end Backend

/-! ## Calls -/

inductive SubHalCall where
  | initializeSubHal (callback : Bool) (answers : InitializeAnswers)
  | activate (handle : Handle) (enabled : Bool) (status : Status) (now : Int)
  | registerDirectChannel (valid : Bool) (answer : Int)
  | unregisterDirectChannel (channel : Int) (status : Status)
  | setOperationMode (mode : OperationMode) (status : Status)

def SubHalCall.state (device : Device) (state : SubHalState) : SubHalCall → SubHalState
  | .initializeSubHal callback answers => (SubHal.initializeSubHal device state callback answers).2
  | .activate handle enabled status now =>
      (SubHal.activate device state handle enabled status now).2
  | .registerDirectChannel valid answer =>
      (SubHal.registerDirectChannel device state valid answer).2
  | .unregisterDirectChannel channel status =>
      (SubHal.unregisterDirectChannel device state channel status).2
  | .setOperationMode mode status => (setOperationModeLocked device state mode status).2

def SubHalCall.trace (device : Device) (state : SubHalState) : SubHalCall → Trace
  | .initializeSubHal callback answers => initializeTrace device state callback answers
  | .activate handle enabled status _ => activateTrace device state handle enabled status
  | .registerDirectChannel valid answer => registerTrace device valid answer
  | .unregisterDirectChannel channel status => unregisterTrace device state channel status
  | .setOperationMode mode status => setOperationModeTrace device state mode status

/-- The sub-HAL and its device. -/
structure Tracked where
  subHal : SubHalState
  backend : Backend

def Tracked.initial : Tracked where
  subHal := .initial
  backend := .initial

def trackStep (device : Device) : Step SubHalCall Tracked :=
  fun state call =>
    some {
      subHal := call.state device state.subHal
      backend := (call.trace device state.subHal).foldl Backend.after state.backend }

/-! ## The record is exact -/

/-- The sub-HAL's record of its device. -/
structure Exact (device : Device) (subHal : SubHalState) (backend : Backend) : Prop where
  enabled : ∀ handle, subHal.mActiveSince.contains handle = backend.enabled handle
  channels : ∀ channel, subHal.mDirectChannels.contains channel = backend.channels channel
  mode : subHal.mCurrentOperationMode = backend.mode
  /-- The mode can be set back. -/
  modes : subHal.mCurrentOperationMode ≠ .normal →
    device.atLeastVersion14 = true ∧ device.hasOperationModes = true

variable {device : Device} {subHal : SubHalState} {backend : Backend}

theorem exact_initial (device : Device) : Exact device .initial .initial where
  enabled := fun _ => rfl
  channels := fun _ => rfl
  mode := rfl
  modes := fun other => absurd rfl other

theorem toInt_injective : Function.Injective (BitVec.toInt : Handle → Int) :=
  fun _ _ => BitVec.eq_of_toInt_eq

theorem exact_activate (exact : Exact device subHal backend) (handle : Handle) (enabled : Bool)
    (status : Status) (now : Int) :
    Exact device (activate device subHal handle enabled status now).2
      ((activateTrace device subHal handle enabled status).foldl Backend.after backend) := by
  rcases activate_cases device subHal handle enabled status now with
    ⟨-, same, none⟩ | ⟨-, one, called⟩
  · rw [same, none]
    exact exact
  · rw [called, one, List.foldl_cons, List.foldl_nil, Backend.after]
    split_ifs with succeeded enables
    · refine ⟨fun other => ?_, exact.channels, exact.mode, exact.modes⟩
      rw [OrderedMap.contains_emplace toInt_injective, exact.enabled, enables]
      by_cases same : other = handle <;> simp [same]
    · refine ⟨fun other => ?_, exact.channels, exact.mode, exact.modes⟩
      rw [OrderedMap.contains_erase, exact.enabled, Bool.eq_false_iff.mpr enables]
      by_cases same : other = handle <;> simp [same]
    · exact exact

theorem exact_register (exact : Exact device subHal backend) (valid : Bool) (answer : Int) :
    Exact device (registerDirectChannel device subHal valid answer).2
      ((registerTrace device valid answer).foldl Backend.after backend) := by
  rcases registerDirectChannel_cases device subHal valid answer with ⟨none, same⟩ | ⟨one, called⟩
  · rw [same, none]
    exact exact
  · rw [called, one, List.foldl_cons, List.foldl_nil, Backend.after]
    split_ifs with registered
    · refine ⟨exact.enabled, fun other => ?_, exact.mode, exact.modes⟩
      rw [OrderedMap.contains_emplace Function.injective_id, exact.channels]
      by_cases same : other = answer <;> simp [same]
    · exact exact

theorem exact_unregister (exact : Exact device subHal backend) (channel : Int) (status : Status) :
    Exact device (unregisterDirectChannel device subHal channel status).2
      ((unregisterTrace device subHal channel status).foldl Backend.after backend) := by
  rcases unregisterDirectChannel_cases device subHal channel status with
    ⟨none, same⟩ | ⟨one, called⟩
  · rw [same, none]
    exact exact
  · rw [called, one, List.foldl_cons, List.foldl_nil, Backend.after]
    split_ifs with released
    · refine ⟨exact.enabled, fun other => ?_, exact.mode, exact.modes⟩
      rw [OrderedMap.contains_erase, exact.channels]
      by_cases same : other = channel <;> simp [same]
    · exact exact

theorem exact_setOperationMode (exact : Exact device subHal backend) (mode : OperationMode)
    (status : Status) :
    Exact device (setOperationModeLocked device subHal mode status).2
      ((setOperationModeTrace device subHal mode status).foldl Backend.after backend) := by
  rcases setOperationModeLocked_cases device subHal mode status with
    ⟨none, same, -⟩ | ⟨atLeast14, hasModes, one, called⟩
  · rw [same, none]
    exact exact
  · rw [called, one, List.foldl_cons, List.foldl_nil, Backend.after]
    split_ifs with succeeded
    · exact ⟨exact.enabled, exact.channels, rfl, fun _ => ⟨atLeast14, hasModes⟩⟩
    · exact exact

/-! ### A new session -/

/-- A loop over a map that clears the flag of every key it can release. -/
theorem foldl_clear {κ ν : Type} [DecidableEq κ] (entries : List (κ × ν)) (release : κ → Status)
    (flags : κ → Bool) :
    entries.foldl (fun flags entry =>
        if release entry.1 = 0 then Function.update flags entry.1 false else flags) flags =
      fun key => flags key && !((entries.lookup key).isSome && decide (release key = 0)) := by
  induction entries generalizing flags with
  | nil => simp
  | cons first rest ih =>
      rw [List.foldl_cons, ih]
      funext key
      rw [OrderedMap.lookup_entry]
      by_cases same : key = first.1
      · rw [if_pos same, same]
        split_ifs with succeeded <;> simp [succeeded]
      · rw [if_neg same]
        split_ifs with succeeded <;> simp [same]

theorem foldl_deactivate {ν : Type} (entries : List (Handle × ν)) (deactivate : Handle → Status)
    (backend : Backend) :
    (entries.map fun entry => (DeviceCall.activate entry.1 false, deactivate entry.1)).foldl
        Backend.after backend =
      { backend with
        enabled := fun handle => backend.enabled handle &&
          !((entries.lookup handle).isSome && decide (deactivate handle = 0)) } := by
  rw [← foldl_clear]
  induction entries generalizing backend with
  | nil => rfl
  | cons first rest ih =>
      rw [List.map_cons, List.foldl_cons, ih, Backend.after, List.foldl_cons]
      split_ifs <;> rfl

theorem foldl_unregister {ν : Type} (entries : List (Int × ν)) (unregister : Int → Status)
    (backend : Backend) :
    (entries.map fun entry =>
        (DeviceCall.unregisterDirectChannel entry.1, unregister entry.1)).foldl
        Backend.after backend =
      { backend with
        channels := fun channel => backend.channels channel &&
          !((entries.lookup channel).isSome && decide (unregister channel = 0)) } := by
  rw [← foldl_clear]
  induction entries generalizing backend with
  | nil => rfl
  | cons first rest ih =>
      rw [List.map_cons, List.foldl_cons, ih, Backend.after, List.foldl_cons]
      split_ifs <;> rfl

/-- Released keys leave the record and the device together. -/
theorem contains_released {κ ν : Type} [DecidableEq κ] {rank : κ → Int}
    (map : OrderedMap κ ν rank) (release : κ → Status) {flags : κ → Bool}
    (exact : ∀ key, map.contains key = flags key) (key : κ) :
    (map.retain fun key => release key ≠ 0).contains key =
      (flags key && !((map.entries.lookup key).isSome && decide (release key = 0))) := by
  have found : (map.entries.lookup key).isSome = flags key := exact key
  rw [OrderedMap.contains_retain, exact, found]
  cases flags key <;> simp

theorem exact_initialize (exact : Exact device subHal backend) (callback : Bool)
    (answers : InitializeAnswers) :
    Exact device (initializeSubHal device subHal callback answers).2
      ((initializeTrace device subHal callback answers).foldl Backend.after backend) := by
  by_cases refused : device.isReady = false ∨ callback = false
  · obtain ⟨result, -, same⟩ := initializeSubHal_refused refused subHal answers
    rw [same, initializeTrace, if_pos refused]
    exact exact
  · obtain ⟨ready, set⟩ := not_or.mp refused
    obtain rfl : callback = true := by simpa using set
    obtain ⟨result, mPollThread, called, -⟩ :=
      initializeSubHal_ready (by simpa using ready) subHal answers
    rw [called, initializeTrace, if_neg refused, List.foldl_append, List.foldl_append,
      foldl_deactivate, foldl_unregister]
    -- the record after both loops, before the mode is set
    have loops : Exact device
        { subHal with
          mActiveSince := subHal.mActiveSince.retain fun handle => answers.deactivate handle ≠ 0
          mDirectChannels :=
            subHal.mDirectChannels.retain fun channel => answers.unregister channel ≠ 0 }
        { backend with
          enabled := fun handle => backend.enabled handle &&
            !((subHal.mActiveSince.entries.lookup handle).isSome &&
              decide (answers.deactivate handle = 0))
          channels := fun channel => backend.channels channel &&
            !((subHal.mDirectChannels.entries.lookup channel).isSome &&
              decide (answers.unregister channel = 0)) } :=
      ⟨contains_released _ answers.deactivate exact.enabled,
        contains_released _ answers.unregister exact.channels, exact.mode, exact.modes⟩
    have released := exact_setOperationMode loops .normal answers.setMode
    rw [setOperationModeLocked_eq device subHal .normal answers.setMode (by rfl)] at released
    exact ⟨released.enabled, released.channels, released.mode, released.modes⟩

theorem exact_step {state after : Tracked} {call : SubHalCall}
    (exact : Exact device state.subHal state.backend)
    (step : trackStep device state call = some after) :
    Exact device after.subHal after.backend := by
  obtain rfl := Option.some.inj step
  cases call with
  | initializeSubHal callback answers => exact exact_initialize exact callback answers
  | activate handle enabled status now => exact exact_activate exact handle enabled status now
  | registerDirectChannel valid answer => exact exact_register exact valid answer
  | unregisterDirectChannel channel status => exact exact_unregister exact channel status
  | setOperationMode mode status => exact exact_setOperationMode exact mode status

/-! ## Initialization -/

/-- What `initialize` does with a callback on a device that is there. -/
structure NewSession (device : Device) (subHal : SubHalState) (answers : InitializeAnswers)
    (result : Result) (after : SubHalState) : Prop where
  /-- Success means that nothing of the old session is left. -/
  fresh : result = .ok → after.mCallback = true ∧ after.mActiveSince.entries = [] ∧
    after.mDirectChannels.entries = [] ∧ after.mCurrentOperationMode = .normal
  /-- Whatever could not be released is still known. -/
  kept : result ≠ .ok → after.mCallback = false ∧
    (∀ handle since, after.mActiveSince.find? handle = some since ↔
      subHal.mActiveSince.find? handle = some since ∧ answers.deactivate handle ≠ 0) ∧
    (∀ channel, after.mDirectChannels.contains channel = true ↔
      subHal.mDirectChannels.contains channel = true ∧ answers.unregister channel ≠ 0) ∧
    (after.mCurrentOperationMode = .normal ∨
      after.mCurrentOperationMode = subHal.mCurrentOperationMode ∧ answers.setMode ≠ 0)
  /-- It can be repeated until the device complies. -/
  succeeds : (∀ entry ∈ initializeTrace device subHal true answers, entry.2 = 0) → result = .ok

/-- The mode is left alone only if it is right already. -/
theorem Exact.normal_of_uncalled (exact : Exact device subHal backend)
    (ready : device.isReady = true) {status : Status}
    (uncalled : setOperationModeTrace device subHal .normal status = []) :
    subHal.mCurrentOperationMode = .normal := by
  by_contra other
  obtain ⟨atLeast14, hasModes⟩ := exact.modes other
  rw [setOperationModeTrace, if_neg] at uncalled
  · cases uncalled
  · simp [ready, atLeast14, hasModes, Ne.symm other]

theorem newSession {answers : InitializeAnswers} {result : Result} {after : SubHalState}
    (exact : Exact device subHal backend) (ready : device.isReady = true)
    (called : initializeSubHal device subHal true answers = (result, after)) :
    NewSession device subHal answers result after := by
  obtain ⟨_, mPollThread, closed, succeeded⟩ := initializeSubHal_ready ready subHal answers
  obtain ⟨rfl, rfl⟩ := Prod.mk.inj (closed.symm.trans called)
  have mode := setOperationModeLocked_cases device subHal .normal answers.setMode
  constructor
  · intro ok
    obtain ⟨deactivated, unregistered, modeSet⟩ := succeeded.mp ok
    refine ⟨decide_eq_true ok, ?_, ?_, ?_⟩
    · exact List.filter_eq_nil_iff.mpr fun entry member => by simp [deactivated entry member]
    · exact List.filter_eq_nil_iff.mpr fun entry member => by simp [unregistered entry member]
    · rcases mode with ⟨-, same, current⟩ | ⟨-, -, -, set⟩
      · rw [same]
        exact (current.mp modeSet).2.symm
      · rw [set] at modeSet ⊢
        rw [if_pos ((resultFromStatus_eq_ok_iff _).mp modeSet)]
  · intro failed
    refine ⟨decide_eq_false failed, ?_, ?_, ?_⟩
    · intro handle since
      rw [OrderedMap.find?_retain]
      split_ifs with kept <;> simp_all
    · intro channel
      rw [OrderedMap.contains_retain, Bool.and_eq_true, decide_eq_true_iff, and_comm]
    · rcases mode with ⟨none, same, -⟩ | ⟨-, -, -, set⟩
      · rw [same]
        exact .inl (exact.normal_of_uncalled ready none)
      · rw [set]
        split_ifs with done
        · exact .inl rfl
        · exact .inr ⟨rfl, done⟩
  · intro all
    rw [initializeTrace, if_neg (by simp [ready])] at all
    refine succeeded.mpr ⟨fun entry member => ?_, fun entry member => ?_, ?_⟩
    · exact all (.activate entry.1 false, answers.deactivate entry.1) (by
        simp only [List.mem_append, List.mem_map]
        exact .inl (.inl ⟨entry, member, rfl⟩))
    · exact all (.unregisterDirectChannel entry.1, answers.unregister entry.1) (by
        simp only [List.mem_append, List.mem_map]
        exact .inl (.inr ⟨entry, member, rfl⟩))
    · rcases mode with ⟨none, -, current⟩ | ⟨-, -, one, set⟩
      · exact current.mpr ⟨ready, (exact.normal_of_uncalled ready none).symm⟩
      · rw [set]
        apply (resultFromStatus_eq_ok_iff _).mpr
        exact all (.setOperationMode .normal, answers.setMode) (by simp [one])

/-! ## The sub-HAL and its device -/

/-- Whatever the device answers, the record of the sub-HAL is exact after every sequence
of calls.  A null callback is refused without any effect, and so is a device that is not
ready.  Otherwise `initialize` succeeds only with nothing left of the old session, keeps
track of all it could not release if it fails, and succeeds whenever the device does.
Enabling a sensor that is enabled already does not move the time of its activation. -/
theorem backend_tracked (device : Device) (calls : List SubHalCall) (state : Tracked)
    (run : Runs (trackStep device) .initial calls state) :
    (∀ handle, state.subHal.mActiveSince.contains handle = state.backend.enabled handle) ∧
    (∀ channel, state.subHal.mDirectChannels.contains channel = state.backend.channels channel) ∧
    state.subHal.mCurrentOperationMode = state.backend.mode ∧
    (∀ callback answers, device.isReady = false ∨ callback = false →
      (initializeSubHal device state.subHal callback answers).1 ≠ .ok ∧
      trackStep device state (.initializeSubHal callback answers) = some state) ∧
    (device.isReady = true → ∀ answers result after,
      initializeSubHal device state.subHal true answers = (result, after) →
      NewSession device state.subHal answers result after) ∧
    ∀ handle since status now, state.subHal.mActiveSince.find? handle = some since →
      (activate device state.subHal handle true status now).2.mActiveSince.find? handle =
        some since := by
  have exact : Exact device state.subHal state.backend :=
    run.invariant (I := fun state => Exact device state.subHal state.backend)
      (exact_initial device) fun _ _ _ => exact_step
  refine ⟨exact.enabled, exact.channels, exact.mode, ?_, ?_, ?_⟩
  · intro callback answers refused
    obtain ⟨result, failed, same⟩ := initializeSubHal_refused refused state.subHal answers
    have silent : initializeTrace device state.subHal callback answers = [] := if_pos refused
    refine ⟨by rw [same]; exact failed, ?_⟩
    rw [trackStep, SubHalCall.state, SubHalCall.trace, same, silent]
    rfl
  · exact fun ready _ _ _ => newSession exact ready
  · intro handle since status now active
    rcases activate_cases device state.subHal handle true status now with
      ⟨-, same, -⟩ | ⟨-, -, called⟩
    · rw [same]
      exact active
    · rw [called, if_pos rfl]
      split_ifs with succeeded
      · rw [OrderedMap.find?_emplace toInt_injective, if_pos rfl, active, Option.getD_some]
      · exact active

/-- A board with two sensors. -/
def twoSensors : Device where
  opened := true
  sensorList := [{ sensorHandle := 1, flags := 0 }, { sensorHandle := 2, flags := 1 }]
  atLeastVersion14 := true
  hasOperationModes := true
  hasDirectChannels := true

/-- Both sensors are enabled, and a new session can turn off only one of them. -/
def partialRelease : List SubHalCall :=
  [.initializeSubHal true ⟨fun _ => 0, fun _ => 0, 0⟩, .activate 1 true 0 10,
    .activate 2 true 0 20, .registerDirectChannel true 7, .setOperationMode .dataInjection 0,
    .initializeSubHal true ⟨fun handle => if handle = 1 then -5 else 0, fun _ => 0, -5⟩]

theorem backend_tracked_partialRelease :
    ∃ state, Runs (trackStep twoSensors) .initial partialRelease state ∧
      state.backend.enabled 1 = true ∧ state.backend.enabled 2 = false ∧
      ∀ result after, initializeSubHal twoSensors state.subHal true
        ⟨fun _ => 0, fun _ => 0, 0⟩ = (result, after) → result = .ok := by
  have run : Runs (trackStep twoSensors) .initial partialRelease _ := runs_get rfl
  obtain ⟨enabled, -, -, -, session, -⟩ := backend_tracked twoSensors partialRelease _ run
  refine ⟨_, run, by rw [← enabled]; decide, by rw [← enabled]; decide, ?_⟩
  intro result after called
  exact (session (by decide) _ result after called).succeeds (by decide)

end K50sv1.Sensors.SubHal
