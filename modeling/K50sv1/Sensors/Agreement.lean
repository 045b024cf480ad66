import K50sv1.Sensors.HalProxy.Delivery
import K50sv1.Sensors.Isolation
import K50sv1.Sensors.SubHal.Backend
import K50sv1.Sensors.Wiring

/-!
# Agreement of the sub-HAL and the proxy on batches

The sub-HAL filters a batch with its own table of sensors and asks for a locked wake
lock when it finds a wake-up sensor in it.  The proxy has a table of its own, which
leaves out handles with a nonzero top byte, looks every event up again and drops a
batch whose wake lock does not fit its own count.  The two agree because a sensor can
be enabled only through the proxy, so that every handle in `mActiveSince` has a clear
top byte, and because the worker keeps `mMutex` from the filter to the end of the
post, so that `initialize` cannot start a session in between.
-/

namespace K50sv1.Sensors

open K50sv1.Transition K50sv1.Data K50sv1.Sensors.HalProxy K50sv1.Sensors.SubHal

/-! ## Wake locks that nobody touches -/

namespace HalProxy

variable {mSensors : SensorMap} {π : Type}

/-- The operation moves from, assigns to or destroys the object. -/
def ObjectEvent.names (event : ObjectEvent) (object : Nat) : Bool :=
  match event with
  | .create _ _ _ => false
  | .moveConstruct source => source = object
  | .moveAssign target source => target = object || source = object
  | .destroy destroyed => destroyed = object

def ProxyEvent.names (event : ProxyEvent π) (object : Nat) : Bool :=
  match event with
  | .object event => event.names object
  | .post (.call _ posted) => posted = object
  | _ => false

theorem wakelock?_eq_some_iff {state : ProxyState mSensors π} {object : Nat}
    {wakelock : ScopedWakelock} :
    state.wakelock? object = some wakelock ↔
      state.wakelocks[object]? = some (some wakelock) :=
  Option.join_eq_some_iff

/-- An object keeps its number while others are created. -/
theorem getElem?_concat_of_some {α : Type} {items : List α} {index : Nat} {item : α}
    (present : items[index]? = some item) (last : α) :
    (items ++ [last])[index]? = some item := by
  obtain ⟨inside, -⟩ := List.getElem?_eq_some_iff.mp present
  rw [List.getElem?_append_left inside]
  exact present

theorem wakelock?_object {state after : ProxyState mSensors π} {event : ObjectEvent}
    {object : Nat} {wakelock : ScopedWakelock} (step : ObjectTransition state event after)
    (unnamed : event.names object = false) (live : state.wakelock? object = some wakelock) :
    after.wakelock? object = some wakelock := by
  rw [wakelock?_eq_some_iff] at live ⊢
  cases step with
  | create => exact getElem?_concat_of_some live _
  | moveConstruct source =>
      have other : source ≠ object := by simpa [ObjectEvent.names] using unnamed
      apply getElem?_concat_of_some
      rw [List.getElem?_set_ne other]
      exact live
  | selfAssign => exact live
  | moveAssign target source =>
      obtain ⟨otherTarget, otherSource⟩ : target ≠ object ∧ source ≠ object := by
        simpa [ObjectEvent.names] using unnamed
      dsimp only
      rw [List.getElem?_set_ne otherSource, List.getElem?_set_ne otherTarget]
      exact live
  | destroy destroyed =>
      have other : destroyed ≠ object := by simpa [ObjectEvent.names] using unnamed
      dsimp only
      rw [List.getElem?_set_ne other]
      exact live

/-- Steps that do not name an object leave it alone. -/
theorem wakelock?_step {mSubHalIndex object : Nat} {state after : ProxyState mSensors π}
    {event : ProxyEvent π} {wakelock : ScopedWakelock}
    (step : proxyStep mSubHalIndex state event = some after)
    (unnamed : event.names object = false) (live : state.wakelock? object = some wakelock) :
    after.wakelock? object = some wakelock := by
  cases event with
  | object event => exact wakelock?_object (objectStep_transition step) unnamed live
  | post event =>
      rw [wakelock?_eq_some_iff] at live ⊢
      cases postStep_transition step with
      | queued events posted =>
          have other : posted ≠ object := by simpa [ProxyEvent.names] using unnamed
          dsimp only
          rw [List.getElem?_set_ne other]
          exact live
      | late | refused | complete | push | overflow => exact getElem?_concat_of_some live _
      | ignored | accepted | startWrite | skipWrite | wrote | unwritten => exact live
  | pending event => cases pendingStep_transition step <;> exact live
  | wakelock event => cases wakelockStep_transition step <;> exact live
  | control event => cases controlStep_transition step <;> exact live

/-! ## When a wake lock is not locked -/

/-- A wake lock is locked only on request, and a request fails only without a session
or because the kernel refuses the first reference. -/
theorem createScopedWakelock_locked {refs after : RefCounter} {wakelock : ScopedWakelock}
    {mThreadsRun lock acquired : Bool} {now : Nat}
    (created : createScopedWakelock refs mThreadsRun lock acquired now = (wakelock, after)) :
    (wakelock.mLocked = true → lock = true) ∧
      (lock = true → wakelock.mLocked = true ∨ mThreadsRun = false ∨
        (mThreadsRun = true ∧ acquired = false ∧ refs.mWakelockRefCount = 0)) := by
  unfold createScopedWakelock incrementRefCountAndMaybeAcquireWakelock at created
  cases lock with
  | false =>
      obtain ⟨rfl, -⟩ := Prod.mk.inj created
      simp
  | true =>
      cases mThreadsRun with
      | false => simp
      | true =>
          by_cases refused : refs.mWakelockRefCount = 0 ∧ acquired = false
          · simp [refused.1, refused.2]
          · simp only [refused, if_true, if_false, Bool.true_eq_false, Nat.one_ne_zero,
              or_self] at created
            obtain ⟨rfl, -⟩ := Prod.mk.inj created
            simp

/-- A call whose wake lock fits its count is turned away in a session only if the kernel
refuses the first reference. -/
theorem takeReferences_refused {state : ProxyState mSensors π} {call : PostCall mSensors π}
    {acquired : Bool} {now : Nat} {refs : RefCounter} (running : state.mThreadsRun = true)
    (fits : call.wakelock.mLocked = true → 0 < call.numWakeupEvents)
    (refused : takeReferences state call acquired now = (false, refs)) :
    call.wakelock.mLocked = true ∧ acquired = false ∧ state.refs.mWakelockRefCount = 0 := by
  unfold takeReferences incrementRefCountAndMaybeAcquireWakelock at refused
  split at refused
  · rename_i locked
    have asked : ¬(state.mThreadsRun = false ∨ call.numWakeupEvents = 0) := by
      simpa [running] using Nat.pos_iff_ne_zero.mp (fits locked)
    rw [if_neg asked] at refused
    split at refused
    · rename_i kernel
      exact ⟨locked, kernel.2, kernel.1⟩
    · exact absurd (Prod.mk.inj refused).1 (by simp)
  · exact absurd (Prod.mk.inj refused).1 (by simp)

end HalProxy

variable {device : Device}

/-! ## The threads of the service -/

/-- The service has one binder thread, so the framework makes no call while it is inside
`initialize`.  The wake lock that the worker is about to post is a local variable of
`pollForEvents`, which no other thread can name. -/
def serviceAllows (state : SystemState device) : SystemEvent → Bool
  | .proxy event =>
      match state.subHal.mPollThread with
      | .calling _ object => !event.names object
      | _ => true
  | .activate _ _ _ _ | .setOperationMode _ _ | .registerDirectChannel _ _
  | .unregisterDirectChannel _ _ => state.proxy.control = .idle
  | _ => true

def serviceStep (device : Device) : Step SystemEvent (SystemState device) :=
  restrict (fun state event => serviceAllows state event = true) (systemStep device)

theorem SystemTransition.proxy_steps {state after : SystemState device} {event : SystemEvent}
    (step : SystemTransition state event after) :
    after.proxy = state.proxy ∨
      ∃ proxyEvent, proxyStep 0 state.proxy proxyEvent = some after.proxy := by
  cases step with
  | proxy event proxy disabled own step => exact .inr ⟨event, step⟩
  | disable | activate | setOperationMode | registerDirectChannel
  | unregisterDirectChannel => exact .inl rfl
  | initializeSubHal answers result subHal proxy unlocked called step =>
      exact .inr ⟨.control (.initializeSubHals (result = .ok)), step⟩
  | poll event after step =>
      cases step with
      | create events wakeup acquired now proxy creating step =>
          exact .inr ⟨.object (.create wakeup acquired now), step⟩
      | post events object proxy calling step => exact .inr ⟨.post (.call events object), step⟩
      | readEpoch | callPoll | interrupted | failed | returned | wake | discard | lock
      | unlock => exact .inl rfl

/-- What the proxy sees of a run of the service is a run of the proxy. -/
theorem proxy_reachable {start reset : Nat} {state : SystemState device}
    (reachable : Reachable (systemStep device) (SystemState.initial device start reset) state) :
    Reachable (proxyStep 0) (ProxyState.initial device.proxySensors Sample start reset)
      state.proxy := by
  apply reachable.simulates SystemState.proxy
  intro state event after step
  exact (systemStep_transition step).proxy_steps

/-! ## What the two components compute of a batch -/

/-- The events that passed the sub-HAL's filter, as the proxy sees them. -/
structure Agreed (device : Device) (events : List (Event Sample)) (wakeup : Bool) : Prop where
  nonempty : events ≠ []
  listed : (events.map (Event.withSubHalIndex · 0)).all (isListed device.proxySensors) = true
  wakeups : wakeup = true ↔
    0 < (events.map (Event.withSubHalIndex · 0)).countP (isWakeUp device.proxySensors)

/-- The proxy's table says of a handle with a clear top byte what the sub-HAL's table
says. -/
theorem wakeUpOf_proxySensors {event : Event Sample}
    (clear : subHalIndexIsClear event.sensorHandle = true) :
    wakeUpOf device.proxySensors (event.withSubHalIndex 0) =
      (device.mSensors.lookup event.sensorHandle).map SensorInfo.isWakeUp := by
  simp [wakeUpOf, Event.withSubHalIndex, lookup_proxySensors, clear]

theorem isListed_proxySensors {event : Event Sample}
    (clear : subHalIndexIsClear event.sensorHandle = true) :
    isListed device.proxySensors (event.withSubHalIndex 0) =
      device.isListed event.sensorHandle := by
  simp [isListed, Device.isListed, wakeUpOf_proxySensors clear]

theorem isWakeUp_proxySensors {event : Event Sample}
    (clear : subHalIndexIsClear event.sensorHandle = true) :
    isWakeUp device.proxySensors (event.withSubHalIndex 0) =
      device.isWakeUpSensor event.sensorHandle := by
  rw [isWakeUp, wakeUpOf_proxySensors clear, Device.isWakeUpSensor]
  cases device.mSensors.lookup event.sensorHandle with
  | none => simp
  | some sensor => simp

/-- The filter passes only what the proxy lists, and finds a wake-up sensor exactly if
the proxy counts one. -/
theorem agreed_acceptedEvents {subHal : SubHalState} {epoch : Nat}
    {data events : List (Event Sample)} {wakeup : Bool}
    (active : ∀ entry ∈ subHal.mActiveSince.entries, subHalIndexIsClear entry.1 = true)
    (accepted : acceptedEvents device subHal epoch data = (events, wakeup))
    (nonempty : events ≠ []) : Agreed device events wakeup := by
  rw [acceptedEvents_eq] at accepted
  obtain ⟨rfl, rfl⟩ := Prod.mk.inj accepted
  have passed : ∀ event ∈ data.filter (accepts device subHal epoch),
      device.isListed event.sensorHandle = true ∧
        subHalIndexIsClear event.sensorHandle = true := by
    intro event member
    obtain ⟨listed, activatedAt, recorded, -⟩ := accepts_spec (List.mem_filter.mp member).2
    exact ⟨listed, active _ (OrderedMap.mem_of_find? recorded)⟩
  constructor
  · exact nonempty
  · simp only [List.all_map, List.all_eq_true, Function.comp_apply]
    intro event member
    obtain ⟨listed, clear⟩ := passed event member
    rw [isListed_proxySensors clear]
    exact listed
  · rw [List.countP_map, List.countP_pos_iff, List.any_eq_true]
    apply exists_congr
    intro event
    apply and_congr_right
    intro member
    rw [Function.comp_apply, isWakeUp_proxySensors (passed event member).2]

theorem Agreed.processEvents {events : List (Event Sample)} {wakeup : Bool}
    (agreed : Agreed device events wakeup) :
    processEvents device.proxySensors 0 events =
      some (events.map (Event.withSubHalIndex · 0),
        (events.map (Event.withSubHalIndex · 0)).countP (isWakeUp device.proxySensors)) := by
  rw [Sensors.processEvents, foldlM_processed, if_pos agreed.listed, List.nil_append,
    Nat.zero_add]

theorem Agreed.lookup {events : List (Event Sample)} {wakeup : Bool}
    (agreed : Agreed device events wakeup) {event : Event Sample} (member : event ∈ events) :
    (device.proxySensors.lookup (setSubHalIndex event.sensorHandle 0)).isSome = true := by
  have listed := List.all_eq_true.mp agreed.listed _ (List.mem_map_of_mem member)
  rw [isListed, wakeUpOf, Option.isSome_map] at listed
  exact listed

/-! ## Along a run -/

/-- The kernel refused the first reference when the wake lock with this number was
created for a batch with wake-up events. -/
def AcquireFailed (device : Device) (start reset : Nat) (history : List SystemEvent)
    (events : List (Event Sample)) (object : Nat) : Prop :=
  ∃ past later before now,
    history = past ++ .poll (.createScopedWakelock false now) :: later ∧
    Runs (serviceStep device) (SystemState.initial device start reset) past before ∧
    before.subHal.mPollThread = .creating events true ∧
    before.proxy.wakelocks.length = object ∧
    before.proxy.mThreadsRun = true ∧
    before.proxy.refs.mWakelockRefCount = 0

theorem AcquireFailed.concat {start reset object : Nat} {history : List SystemEvent}
    {events : List (Event Sample)} (failed : AcquireFailed device start reset history events object)
    (event : SystemEvent) :
    AcquireFailed device start reset (history ++ [event]) events object := by
  obtain ⟨past, later, before, now, rfl, facts⟩ := failed
  exact ⟨past, later ++ [event], before, now, by simp, facts⟩

/-- The wake lock the worker holds for the batch it is about to post. -/
structure InHand (device : Device) (start reset : Nat) (past : List SystemEvent)
    (proxy : ProxyState device.proxySensors Sample) (events : List (Event Sample)) (object : Nat)
    (wakeup : Bool) (wakelock : ScopedWakelock) : Prop where
  agreed : Agreed device events wakeup
  live : proxy.wakelock? object = some wakelock
  requested : wakelock.mLocked = true → wakeup = true
  locked : wakeup = true → wakelock.mLocked = true ∨ proxy.mThreadsRun = false ∨
    AcquireFailed device start reset past events object

structure AgreementInvariant (start reset : Nat) (past : List SystemEvent)
    (state : SystemState device) : Prop where
  active : ∀ entry ∈ state.subHal.mActiveSince.entries, subHalIndexIsClear entry.1 = true
  creating : ∀ events wakeup, state.subHal.mPollThread = .creating events wakeup →
    Agreed device events wakeup
  calling : ∀ events object, state.subHal.mPollThread = .calling events object →
    ∃ wakeup wakelock, InHand device start reset past state.proxy events object wakeup wakelock
  waiting : ∀ call ∈ state.proxy.waiting, call.wakelock.mLocked = true → 0 < call.numWakeupEvents
  /-- A session is about to start and the worker has nothing to post. -/
  starting : state.proxy.control = .starting →
    state.subHal.mActiveSince.entries = [] ∧ state.subHal.mPollThread.holdsMutex = false

section Steps

variable {start reset : Nat} {past : List SystemEvent} {state after : SystemState device}

/-- Nothing is in hand while the worker does not hold `mMutex`. -/
theorem AgreementInvariant.of_unlocked
    (unlocked : after.subHal.mPollThread.holdsMutex = false)
    (active : ∀ entry ∈ after.subHal.mActiveSince.entries, subHalIndexIsClear entry.1 = true)
    (waiting : ∀ call ∈ after.proxy.waiting,
      call.wakelock.mLocked = true → 0 < call.numWakeupEvents)
    (starting : after.proxy.control = .starting → after.subHal.mActiveSince.entries = []) :
    AgreementInvariant start reset past after where
  active := active
  creating events wakeup creating := by simp [creating, PollThread.holdsMutex] at unlocked
  calling events object calling := by simp [calling, PollThread.holdsMutex] at unlocked
  waiting := waiting
  starting isStarting := ⟨starting isStarting, unlocked⟩

/-- No session starts while the worker holds `mMutex`. -/
theorem AgreementInvariant.not_starting (invariant : AgreementInvariant start reset past state)
    (locked : state.subHal.mPollThread.holdsMutex = true) : state.proxy.control ≠ .starting := by
  intro starting
  simp [(invariant.starting starting).2] at locked

/-- A step of the proxy leaves what the worker has in hand alone, and no session starts
meanwhile. -/
theorem InHand.step {event : SystemEvent} {proxyEvent : ProxyEvent Sample}
    {proxy after : ProxyState device.proxySensors Sample} {events : List (Event Sample)}
    {object : Nat} {wakeup : Bool} {wakelock : ScopedWakelock}
    (inHand : InHand device start reset past proxy events object wakeup wakelock)
    (step : proxyStep 0 proxy proxyEvent = some after)
    (unnamed : proxyEvent.names object = false) (notStarting : proxy.control ≠ .starting) :
    InHand device start reset (past ++ [event]) after events object wakeup wakelock where
  agreed := inHand.agreed
  live := wakelock?_step step unnamed inHand.live
  requested := inHand.requested
  locked needed := by
    rcases inHand.locked needed with locked | stopped | failed
    · exact .inl locked
    · right
      left
      by_contra running
      rcases running_step step (by simpa using running) with already | ⟨-, starting⟩
      · simp [already] at stopped
      · exact notStarting starting
    · exact .inr (.inr (failed.concat event))

theorem agreementInvariant_proxy {event : ProxyEvent Sample} {disabled : Nat}
    {proxy : ProxyState device.proxySensors Sample}
    (invariant : AgreementInvariant start reset past state) (own : event.isOwn = true)
    (allowed : serviceAllows state (.proxy event) = true)
    (step : proxyStep 0 state.proxy event = some proxy) :
    AgreementInvariant start reset (past ++ [.proxy event]) { state with proxy, disabled } where
  active := invariant.active
  creating := invariant.creating
  calling events object calling := by
    have calling : state.subHal.mPollThread = .calling events object := calling
    obtain ⟨wakeup, wakelock, inHand⟩ := invariant.calling events object calling
    have unnamed : event.names object = false := by
      simpa [serviceAllows, calling] using allowed
    have notStarting := invariant.not_starting (by rw [calling]; rfl)
    exact ⟨wakeup, wakelock, inHand.step step unnamed notStarting⟩
  waiting call waits := by
    rcases waiting_step step call waits with old | ⟨events, object, rfl, -⟩
    · exact invariant.waiting call old
    · exact absurd own (by simp [ProxyEvent.isOwn])
  starting isStarting := by
    rcases starting_step step isStarting with already | rfl
    · exact invariant.starting already
    · exact absurd own (by simp [ProxyEvent.isOwn])

/-- A call of the sub-HAL outside `initialize`. -/
theorem AgreementInvariant.call {event : SystemEvent}
    (invariant : AgreementInvariant start reset past state)
    (unlocked : state.subHal.mPollThread.holdsMutex = false)
    (notStarting : state.proxy.control ≠ .starting) (proxy : after.proxy = state.proxy)
    (thread : after.subHal.mPollThread = state.subHal.mPollThread)
    (active : ∀ entry ∈ after.subHal.mActiveSince.entries, subHalIndexIsClear entry.1 = true) :
    AgreementInvariant start reset (past ++ [event]) after := by
  apply AgreementInvariant.of_unlocked
  · rw [thread]
    exact unlocked
  · exact active
  · rw [proxy]
    exact invariant.waiting
  · rw [proxy]
    exact fun starting => absurd starting notStarting

/-- The proxy enables sensors under handles with a clear top byte only. -/
theorem AgreementInvariant.active_activate (invariant : AgreementInvariant start reset past state)
    (sensorHandle : Handle) (enabled : Bool) (status : Status) (now : Int) :
    ∃ mActiveSince,
      (HalProxy.activate device state.subHal sensorHandle enabled status now).2 =
          { state.subHal with mActiveSince } ∧
        ∀ entry ∈ mActiveSince.entries, subHalIndexIsClear entry.1 = true := by
  obtain ⟨mActiveSince, frame, entries⟩ :=
    activate_enables device state.subHal sensorHandle enabled status now
  refine ⟨mActiveSince, frame, ?_⟩
  intro entry member
  rcases entries entry member with old | ⟨-, enabledHandle, -, -, cleared⟩
  · exact invariant.active entry old
  · rw [← cleared]
    exact subHalIndexIsClear_clear enabledHandle

/-- `initialize` of the sub-HAL keeps some entries of `mActiveSince` and adds none. -/
theorem mem_mActiveSince_initializeSubHal {subHal after : SubHalState}
    {answers : InitializeAnswers} {result : Result}
    (called : initializeSubHal device subHal true answers = (result, after))
    {entry : Handle × Int} (member : entry ∈ after.mActiveSince.entries) :
    entry ∈ subHal.mActiveSince.entries := by
  by_cases ready : device.isReady = true
  · obtain ⟨result, thread, returned, -⟩ := initializeSubHal_ready ready subHal answers
    obtain ⟨-, rfl⟩ := Prod.mk.inj (called.symm.trans returned)
    exact (OrderedMap.mem_retain.mp member).1
  · obtain ⟨result, -, returned⟩ :=
      initializeSubHal_refused (.inl (Bool.eq_false_iff.mpr ready)) subHal answers
    obtain ⟨-, rfl⟩ := Prod.mk.inj (called.symm.trans returned)
    exact member

theorem agreementInvariant_initialize {answers : InitializeAnswers} {result : Result}
    {subHal : SubHalState} {proxy : ProxyState device.proxySensors Sample}
    (invariant : AgreementInvariant start reset past state)
    (unlocked : state.subHal.mPollThread.holdsMutex = false)
    (called : SubHal.initializeSubHal device state.subHal true answers = (result, subHal))
    (step : controlStep state.proxy (.initializeSubHals (result = .ok)) = some proxy) :
    AgreementInvariant start reset (past ++ [.initializeSubHal answers])
      { state with proxy, subHal } := by
  have stepped : proxyStep 0 state.proxy (.control (.initializeSubHals (result = .ok))) =
      some proxy := step
  apply AgreementInvariant.of_unlocked
  · rcases initializeSubHal_cases called with
      ⟨-, -, rfl⟩ | ⟨-, -, ⟨-, -, same⟩ | ⟨-, -, -, started⟩⟩
    · exact unlocked
    · exact same ▸ unlocked
    · exact started ▸ started_unlocked unlocked
  · intro entry member
    exact invariant.active entry (mem_mActiveSince_initializeSubHal called member)
  · intro call waits
    rcases waiting_step stepped call waits with old | ⟨events, object, isCall, -⟩
    · exact invariant.waiting call old
    · contradiction
  · intro starting
    rcases starting_step stepped starting with already | succeeded
    · -- The control thread is waiting for the sub-HAL.
      cases controlStep_transition step with
      | stop event request free idle stops => simp at stops
      | subHals success initializing => simp [initializing] at already
    · rcases initializeSubHal_cases called with
        ⟨-, failed, -⟩ | ⟨-, -, ⟨failed, -, -⟩ | ⟨-, -, empty, -⟩⟩
      · simp [failed] at succeeded
      · simp [failed] at succeeded
      · exact empty

/-- The worker takes a batch in hand only if something has passed the filter. -/
theorem nonempty_of_creating {events : List (Event Sample)} {wakeup : Bool}
    (step : pollStep state .lock = some after)
    (creating : after.subHal.mPollThread = .creating events wakeup) : events ≠ [] := by
  simp only [pollStep] at step
  split at step
  · split_ifs at step with outdated empty
    · obtain rfl := Option.some.inj step
      simp [setThread] at creating
    · obtain rfl := Option.some.inj step
      simp [setThread] at creating
    · obtain rfl := Option.some.inj step
      obtain ⟨rfl, -⟩ := PollThread.creating.inj creating
      simpa using empty
  · contradiction

/-- The worker asks for a wake lock. -/
theorem agreementInvariant_create {events : List (Event Sample)} {wakeup acquired : Bool}
    {now : Nat} {proxy : ProxyState device.proxySensors Sample}
    (run : Runs (serviceStep device) (SystemState.initial device start reset) past state)
    (invariant : AgreementInvariant start reset past state)
    (creating : state.subHal.mPollThread = .creating events wakeup)
    (step : objectStep state.proxy (.create wakeup acquired now) = some proxy) :
    AgreementInvariant start reset (past ++ [.poll (.createScopedWakelock acquired now)])
      (setThread { state with proxy } (.calling events state.proxy.wakelocks.length)) := by
  cases objectStep_transition step with
  | create wakeup acquired now wakelock refs created =>
      obtain ⟨requested, locked⟩ := createScopedWakelock_locked created
      constructor
      · exact invariant.active
      · intro events wakeup creating
        contradiction
      · intro posted object calling
        obtain ⟨rfl, rfl⟩ := PollThread.calling.inj calling
        refine ⟨wakeup, wakelock, invariant.creating _ _ creating, ?_, requested, ?_⟩
        · simp [setThread, wakelock?_eq_some_iff]
        · intro needed
          refine (locked needed).imp_right (Or.imp_right ?_)
          rintro ⟨running, rfl, zero⟩
          exact ⟨past, [], state, now, rfl, run, needed ▸ creating, rfl, running, zero⟩
      · exact invariant.waiting
      · intro starting
        exact absurd starting (invariant.not_starting (by rw [creating]; rfl))

/-- The worker posts. -/
theorem agreementInvariant_post {events : List (Event Sample)} {object : Nat}
    {proxy : ProxyState device.proxySensors Sample}
    (invariant : AgreementInvariant start reset past state)
    (calling : state.subHal.mPollThread = .calling events object)
    (step : postStep 0 state.proxy (.call events object) = some proxy) :
    AgreementInvariant start reset (past ++ [.poll .postEvents])
      (setThread { state with proxy } .posting) := by
  obtain ⟨wakeup, wakelock, inHand⟩ := invariant.calling events object calling
  have notStarting := invariant.not_starting (by rw [calling]; rfl)
  constructor
  · exact invariant.active
  · intro events wakeup creating
    contradiction
  · intro events object calling
    contradiction
  · cases postStep_transition step with
    | ignored => exact invariant.waiting
    | queued _ _ call live running processed =>
        intro other waits locked
        rcases List.mem_append.mp waits with old | new
        · exact invariant.waiting other old locked
        · obtain rfl := List.mem_singleton.mp new
          obtain rfl : wakelock = other.wakelock := Option.some.inj (inHand.live.symm.trans live)
          rw [other.numWakeupEvents_eq, processed]
          exact inHand.agreed.wakeups.mp (inHand.requested locked)
  · intro starting
    cases postStep_transition step with
    | ignored => exact absurd starting notStarting
    | queued => exact absurd starting notStarting

theorem agreementInvariant_poll {event : PollEvent}
    (run : Runs (serviceStep device) (SystemState.initial device start reset) past state)
    (invariant : AgreementInvariant start reset past state)
    (step : pollStep state event = some after) :
    AgreementInvariant start reset (past ++ [.poll event]) after := by
  -- Steps after which the worker does not hold `mMutex`.
  have released : after.subHal.mPollThread.holdsMutex = false → after.proxy = state.proxy →
      after.subHal.mActiveSince = state.subHal.mActiveSince →
      AgreementInvariant start reset (past ++ [.poll event]) after := by
    intro unlocked proxy active
    apply AgreementInvariant.of_unlocked unlocked
    · rw [active]
      exact invariant.active
    · rw [proxy]
      exact invariant.waiting
    · rw [proxy, active]
      exact fun starting => (invariant.starting starting).1
  cases pollStep_transition step with
  | lock epoch data events wakeup polled callback current accepted =>
      have agreed := agreed_acceptedEvents invariant.active accepted
        (nonempty_of_creating step rfl)
      constructor
      · exact invariant.active
      · intro inHand needed creating
        obtain ⟨rfl, rfl⟩ := PollThread.creating.inj creating
        exact agreed
      · intro events object calling
        contradiction
      · exact invariant.waiting
      · -- With no sensor enabled nothing passes the filter.
        intro starting
        have empty : state.subHal.mActiveSince.entries = [] := (invariant.starting starting).1
        obtain ⟨event, rest, rfl⟩ := List.exists_cons_of_ne_nil agreed.nonempty
        rw [acceptedEvents_eq] at accepted
        have member : event ∈ data.filter (accepts device state.subHal epoch) := by
          rw [(Prod.mk.inj accepted).1]
          exact List.mem_cons_self
        obtain ⟨-, activatedAt, recorded, -⟩ := accepts_spec (List.mem_filter.mp member).2
        have enabled := OrderedMap.mem_of_find? recorded
        simp [empty] at enabled
  | create events wakeup acquired now proxy creating created =>
      exact agreementInvariant_create run invariant creating created
  | post events object proxy calling called =>
      exact agreementInvariant_post invariant calling called
  | readEpoch | callPoll | interrupted | failed | returned | wake | discard | unlock =>
      exact released rfl rfl rfl

theorem agreementInvariant_step {event : SystemEvent}
    (run : Runs (serviceStep device) (SystemState.initial device start reset) past state)
    (invariant : AgreementInvariant start reset past state)
    (step : serviceStep device state event = some after) :
    AgreementInvariant start reset (past ++ [event]) after := by
  obtain ⟨allowed, step⟩ := restrict_eq_some_iff.mp step
  -- A call of the framework finds no other call in progress.
  have idle : (decide (state.proxy.control = .idle)) = true → state.proxy.control ≠ .starting := by
    intro isIdle starting
    simp [starting] at isIdle
  cases systemStep_transition step with
  | proxy event proxy disabled own stepped =>
      exact agreementInvariant_proxy invariant own allowed stepped
  | disable status now request sensorHandle sensor unlocked disabling =>
      obtain ⟨mActiveSince, frame, active⟩ :=
        invariant.active_activate sensorHandle false status now
      rw [frame]
      exact invariant.call unlocked (by simp [disabling]) rfl rfl active
  | activate sensorHandle enabled status now unlocked =>
      obtain ⟨mActiveSince, frame, active⟩ :=
        invariant.active_activate sensorHandle enabled status now
      rw [frame]
      exact invariant.call unlocked (idle allowed) rfl rfl active
  | setOperationMode mode status unlocked =>
      obtain ⟨mCurrentOperationMode, frame⟩ :=
        setOperationModeLocked_frame device state.subHal mode status
      rw [frame]
      exact invariant.call unlocked (idle allowed) rfl rfl invariant.active
  | registerDirectChannel valid answer unlocked =>
      obtain ⟨mDirectChannels, frame⟩ :=
        registerDirectChannel_frame device state.subHal valid answer
      rw [frame]
      exact invariant.call unlocked (idle allowed) rfl rfl invariant.active
  | unregisterDirectChannel channel status unlocked =>
      obtain ⟨mDirectChannels, frame⟩ :=
        unregisterDirectChannel_frame device state.subHal channel status
      rw [frame]
      exact invariant.call unlocked (idle allowed) rfl rfl invariant.active
  | initializeSubHal answers result subHal proxy unlocked called stepped =>
      exact agreementInvariant_initialize invariant unlocked called stepped
  | poll event after _ => exact agreementInvariant_poll run invariant step

end Steps

theorem agreementInvariant_initial (start reset : Nat) :
    AgreementInvariant start reset [] (SystemState.initial device start reset) := by
  apply AgreementInvariant.of_unlocked
  · rfl
  · exact fun _ member => absurd member List.not_mem_nil
  · exact fun _ member => absurd member List.not_mem_nil
  · exact fun _ => rfl

theorem agreementInvariant_run {start reset : Nat} {history : List SystemEvent}
    {state : SystemState device}
    (run : Runs (serviceStep device) (SystemState.initial device start reset) history state) :
    AgreementInvariant start reset history state := by
  apply run.history
  · exact agreementInvariant_initial start reset
  · intro past state event after earlier invariant step
    exact agreementInvariant_step earlier invariant step

/-! ## What happens to a batch in a session -/

/-- A batch in hand is let through by `postEvents` unless its wake lock could not be
acquired. -/
theorem InHand.post {start reset object : Nat} {past : List SystemEvent}
    {proxy : ProxyState device.proxySensors Sample} {events : List (Event Sample)}
    {wakeup : Bool} {wakelock : ScopedWakelock}
    (inHand : InHand device start reset past proxy events object wakeup wakelock)
    (running : proxy.mThreadsRun = true) :
    ∃ after, postStep 0 proxy (.call events object) = some after ∧
      ((∃ call, after.waiting = proxy.waiting ++ [call] ∧
          call.events = events.map (Event.withSubHalIndex · 0)) ∨
        AcquireFailed device start reset past events object) := by
  have busy : ¬(events.isEmpty = true ∨ proxy.mThreadsRun = false) := by
    simp [running, inHand.agreed.nonempty]
  simp only [postStep, inHand.live, if_neg busy]
  split
  · rename_i thrown
    rw [inHand.agreed.processEvents] at thrown
    contradiction
  · rename_i processedEvents numWakeupEvents processed
    rw [inHand.agreed.processEvents] at processed
    obtain ⟨rfl, rfl⟩ := Prod.mk.inj (Option.some.inj processed)
    split
    · exact ⟨_, rfl, .inl ⟨_, rfl, rfl⟩⟩
    · rename_i unlocked
      obtain ⟨wakeups, unlocked⟩ := Classical.not_imp.mp unlocked
      rcases inHand.locked (inHand.agreed.wakeups.mpr wakeups) with locked | stopped | failed
      · exact absurd locked unlocked
      · simp [running] at stopped
      · exact ⟨_, rfl, .inr failed⟩

/-- A call that takes the mutex in a session is accepted unless the kernel refuses the
first reference. -/
theorem take_accepted {proxy : ProxyState device.proxySensors Sample} {index : Nat}
    {call : PostCall device.proxySensors Sample} (free : proxy.post = .idle)
    (waits : proxy.waiting[index]? = some call) (running : proxy.mThreadsRun = true)
    (fits : call.wakelock.mLocked = true → 0 < call.numWakeupEvents) (acquired : Bool)
    (now : Nat) :
    ∃ after, postStep 0 proxy (.take index acquired now) = some after ∧
      (after.post = .accepted call ∨
        call.wakelock.mLocked = true ∧ acquired = false ∧ proxy.refs.mWakelockRefCount = 0) := by
  cases stepped : postStep 0 proxy (.take index acquired now) with
  | none =>
      simp only [postStep, free, waits, running] at stepped
      split_ifs at stepped
  | some after =>
      refine ⟨after, rfl, ?_⟩
      cases postStep_transition stepped with
      | late _ _ _ taken _ _ stopped => simp [running] at stopped
      | refused _ _ _ taken refs _ same _ refused =>
          obtain rfl := Option.some.inj (waits.symm.trans same)
          exact .inr (takeReferences_refused running fits refused)
      | accepted _ _ _ taken refs _ same =>
          obtain rfl := Option.some.inj (waits.symm.trans same)
          exact .inl rfl

/-! ## Results -/

/-- The sub-HAL and the proxy agree on every batch. -/
structure BatchAgreement (device : Device) (start reset : Nat) (history : List SystemEvent)
    (state : SystemState device) : Prop where
  /-- What the worker is about to post is in the proxy's table. -/
  listed : ∀ event ∈ state.subHal.mPollThread.events,
    (device.proxySensors.lookup (setSubHalIndex event.sensorHandle 0)).isSome = true
  /-- `processEvents` does not throw on it, and its wake lock is requested locked exactly
  if `processEvents` counts a wake-up event. -/
  requested : ∀ events wakeup, state.subHal.mPollThread = .creating events wakeup →
    events ≠ [] ∧ ∃ numWakeupEvents,
      processEvents device.proxySensors 0 events =
        some (events.map (Event.withSubHalIndex · 0), numWakeupEvents) ∧
      (wakeup = true ↔ 0 < numWakeupEvents)
  /-- `countNumWakeupEvents` throws neither on the batch that is being written nor on one
  of the pending queue. -/
  counted : ∀ n,
    (countNumWakeupEvents device.proxySensors state.proxy.post.events n).isSome = true ∧
      ∀ batch ∈ state.proxy.delivery.mPendingWriteEventsQueue,
        (countNumWakeupEvents device.proxySensors batch.1 n).isSome = true
  /-- Posted in a session, it goes on to the event mutex unless its wake lock could not be
  acquired. -/
  posted : ∀ events object, state.subHal.mPollThread = .calling events object →
    state.proxy.mThreadsRun = true →
    ∃ after, serviceStep device state (.poll .postEvents) = some after ∧
      ((∃ call, after.proxy.waiting = state.proxy.waiting ++ [call] ∧
          call.events = events.map (Event.withSubHalIndex · 0)) ∨
        AcquireFailed device start reset history events object)
  /-- If the session still lasts when it takes the mutex, it goes on to the FMQ and the
  pending queue unless the wake lock cannot be acquired again. -/
  taken : ∀ index call acquired now, state.proxy.post = .idle →
    state.proxy.waiting[index]? = some call → state.proxy.mThreadsRun = true →
    ∃ after, serviceStep device state (.proxy (.post (.take index acquired now))) = some after ∧
      (after.proxy.post = .accepted call ∨
        call.wakelock.mLocked = true ∧ acquired = false ∧
          state.proxy.refs.mWakelockRefCount = 0)

/-- In every run of the service, for every list of board sensors and every history of
calls and batches. -/
theorem batch_agreement {start reset : Nat} {history : List SystemEvent}
    {state : SystemState device}
    (run : Runs (serviceStep device) (SystemState.initial device start reset) history state) :
    BatchAgreement device start reset history state := by
  have invariant := agreementInvariant_run run
  have delivery := reachable_deliveryInvariant (proxy_reachable run.of_restrict.reachable)
  constructor
  · intro event member
    -- The worker has a batch in its hands in two of its phases.
    cases thread : state.subHal.mPollThread with
    | creating events wakeup =>
        rw [thread] at member
        exact (invariant.creating _ _ thread).lookup member
    | calling events object =>
        rw [thread] at member
        obtain ⟨wakeup, wakelock, inHand⟩ := invariant.calling _ _ thread
        exact inHand.agreed.lookup member
    | notStarted | atHead | ready | polling | sleeping | polled | posting =>
        rw [thread] at member
        exact absurd member List.not_mem_nil
  · intro events wakeup creating
    have agreed := invariant.creating events wakeup creating
    exact ⟨agreed.nonempty, _, agreed.processEvents, agreed.wakeups⟩
  · intro n
    constructor
    · cases state.proxy.post with
      | idle => simp [PostPhase.events, countNumWakeupEvents]
      | accepted call | writing call | leftover call =>
          simp [PostPhase.events, countNumWakeupEvents_of_listed call.listed]
    · intro batch member
      rw [countNumWakeupEvents_of_listed (delivery.queue.counted batch member).1]
      rfl
  · intro events object calling running
    obtain ⟨wakeup, wakelock, inHand⟩ := invariant.calling events object calling
    obtain ⟨proxy, posted, fate⟩ := inHand.post running
    refine ⟨setThread { state with proxy } .posting, ?_, fate⟩
    apply restrict_eq_some_iff.mpr
    exact ⟨rfl, by simp [systemStep, pollStep, calling, posted]⟩
  · intro index call acquired now free waits running
    have fits := invariant.waiting call (List.mem_of_getElem? waits)
    obtain ⟨proxy, taken, fate⟩ := take_accepted free waits running fits acquired now
    refine ⟨{ state with proxy }, ?_, fate⟩
    apply restrict_eq_some_iff.mpr
    constructor
    · cases thread : state.subHal.mPollThread <;> simp [serviceAllows, thread, ProxyEvent.names]
    · simp [systemStep, ProxyEvent.isOwn, proxyStep, taken]

/-- A wake-up sensor and two sensors whose handles the proxy does not take, one of them
negative. -/
def mixedHandles : Device where
  opened := true
  sensorList := [⟨42#32, 1#32⟩, ⟨0x01000007#32, 0#32⟩, ⟨-3#32, 1#32⟩]
  atLeastVersion14 := false
  hasOperationModes := false
  hasDirectChannels := false

/-- A session in which the framework tries to enable all three and `poll` returns an event
of each. -/
def mixedBatch : List SystemEvent :=
  [.proxy (.control (.beginInitialize ⟨4, true⟩))] ++ initializeStages 10 ++
    [.activate 42#32 true 0 20, .activate 0x01000007#32 true 0 21, .activate (-3#32) true 0 22,
      .poll .readEpoch, .poll .callPoll,
      .poll (.returned 3 [⟨-3#32, .other 1, 60⟩, ⟨42#32, .other 1, 61⟩,
        ⟨0x01000007#32, .other 1, 62⟩]),
      .poll .lock, .poll (.createScopedWakelock true 80)]

theorem batch_agreement_mixedBatch :
    ∃ state : SystemState mixedHandles,
      Runs (serviceStep mixedHandles) (SystemState.initial mixedHandles 0 1) mixedBatch state ∧
        state.subHal.mPollThread = .calling [⟨42#32, .other 1, 61⟩] 0 ∧
        state.proxy.mThreadsRun = true ∧
        BatchAgreement mixedHandles 0 1 mixedBatch state := by
  have enabled : (exec (serviceStep mixedHandles) (SystemState.initial mixedHandles 0 1)
      mixedBatch).isSome := rfl
  have run := runs_get enabled
  exact ⟨_, run, rfl, rfl, batch_agreement run⟩

end K50sv1.Sensors
