import Mathlib.Data.List.DropRight
import K50sv1.Sensors.HalProxy.Provenance
import K50sv1.Sensors.System

/-!
# Isolation of framework sessions

`poll` cannot be cancelled, so a batch may be returned any number of sessions after
the call that reads it began.  That none of it reaches a later session's FMQ rests on
both components: the sub-HAL compares the epoch it read before the call with the
present one, forgets every activation before it accepts a new callback, and keeps
`mMutex` while it posts; the proxy accepts posts only while `mThreadsRun` is set,
which happens after the sub-HAL has been initialized, and clears the pending queue
before it installs a new FMQ.

The result is stated about histories.  What an FMQ may contain is described by the
events since it was installed.
-/

namespace K50sv1.Sensors

open K50sv1.Transition K50sv1.Data K50sv1.Sensors.HalProxy K50sv1.Sensors.SubHal

variable {device : Device}

/-! ## Histories -/

/-- The event installs a new FMQ. -/
def SystemEvent.installs : SystemEvent → Bool
  | .proxy (.control .replaceQueues) => true
  | _ => false

/-- The event advances `mEpoch`. -/
def SystemEvent.advances (device : Device) : SystemEvent → Bool
  | .initializeSubHal _ => device.isReady
  | _ => false

def SystemEvent.poll? : SystemEvent → Option PollEvent
  | .poll event => some event
  | _ => none

/-- The events since the present FMQ was installed. -/
def sinceInstall (history : List SystemEvent) : List SystemEvent :=
  history.rtakeWhile fun event => !event.installs

/-- The events since `mEpoch` was last advanced. -/
def sinceAdvance (device : Device) (history : List SystemEvent) : List SystemEvent :=
  history.rtakeWhile fun event => !event.advances device

/-- What the poll worker did, in order. -/
def pollEvents (history : List SystemEvent) : List PollEvent :=
  history.filterMap SystemEvent.poll?

/-- The event is a call of `HalProxy::activate` that succeeds in enabling the sensor
with the sub-HAL's handle `handle` and reads the clock as `now`. -/
def SystemEvent.Enables (event : SystemEvent) (handle : Handle) (now : Int) : Prop :=
  ∃ sensorHandle, event = .activate sensorHandle true 0 now ∧
    isSubHalIndexValid sensorHandle = true ∧ clearSubHalIndex sensorHandle = handle

section Append

variable {past : List SystemEvent} {event : SystemEvent}

theorem sinceInstall_concat (other : event.installs = false) :
    sinceInstall (past ++ [event]) = sinceInstall past ++ [event] :=
  List.rtakeWhile_concat_pos _ _ _ (by simp [other])

theorem sinceAdvance_concat (other : event.advances device = false) :
    sinceAdvance device (past ++ [event]) = sinceAdvance device past ++ [event] :=
  List.rtakeWhile_concat_pos _ _ _ (by simp [other])

theorem sinceAdvance_advance (advances : event.advances device = true) :
    sinceAdvance device (past ++ [event]) = [] :=
  List.rtakeWhile_concat_neg _ _ _ (by simp [advances])

theorem pollEvents_concat (other : event.poll? = none) :
    pollEvents (past ++ [event]) = pollEvents past := by
  simp [pollEvents, other]

theorem pollEvents_poll (event : PollEvent) :
    pollEvents (past ++ [.poll event]) = pollEvents past ++ [event] := by
  simp [pollEvents, SystemEvent.poll?]

end Append

/-! ## The sub-HAL's side -/

def SubHal.PollThread.epoch? : PollThread → Option Nat
  | .ready epoch | .polling epoch | .polled epoch _ => some epoch
  | _ => none

/-- What the sub-HAL's state says about the events since `mEpoch` was advanced. -/
structure EpochInvariant (device : Device) (past : List SystemEvent) (subHal : SubHalState) :
    Prop where
  bounded : ∀ epoch, subHal.mPollThread.epoch? = some epoch → epoch ≤ subHal.mEpoch
  polling : subHal.mPollThread = .polling subHal.mEpoch →
    ∃ earlier, pollEvents (sinceAdvance device past) = earlier ++ [.callPoll]
  polled : ∀ data, subHal.mPollThread = .polled subHal.mEpoch data →
    ∃ earlier count,
      pollEvents (sinceAdvance device past) = earlier ++ [.callPoll, .returned count data]
  active : subHal.mCallback = true → ∀ entry ∈ subHal.mActiveSince.entries,
    ∃ event ∈ sinceAdvance device past, event.Enables entry.1 entry.2

theorem epochInvariant_initial : EpochInvariant device [] .initial where
  bounded := by simp [SubHalState.initial, PollThread.epoch?]
  polling := by simp [SubHalState.initial]
  polled := by simp [SubHalState.initial]
  active := by simp [SubHalState.initial]

namespace EpochInvariant

variable {past : List SystemEvent} {subHal after : SubHalState}

/-- Activations stay on record until the epoch advances. -/
theorem active_concat (invariant : EpochInvariant device past subHal) {event : SystemEvent}
    (other : event.advances device = false) (callback : after.mCallback = subHal.mCallback)
    (entries : ∀ entry ∈ after.mActiveSince.entries,
      entry ∈ subHal.mActiveSince.entries ∨ event.Enables entry.1 entry.2) :
    after.mCallback = true → ∀ entry ∈ after.mActiveSince.entries,
      ∃ event' ∈ sinceAdvance device (past ++ [event]), event'.Enables entry.1 entry.2 := by
  rw [callback, sinceAdvance_concat other]
  intro set entry member
  rcases entries entry member with old | new
  · obtain ⟨earlier, recorded, enables⟩ := invariant.active set entry old
    exact ⟨earlier, List.mem_append_left _ recorded, enables⟩
  · exact ⟨event, List.mem_append_right _ List.mem_cons_self, new⟩

/-- Steps of the other threads. -/
theorem extend (invariant : EpochInvariant device past subHal) {event : SystemEvent}
    (other : event.advances device = false) (silent : event.poll? = none)
    (epoch : after.mEpoch = subHal.mEpoch) (thread : after.mPollThread = subHal.mPollThread)
    (callback : after.mCallback = subHal.mCallback)
    (entries : ∀ entry ∈ after.mActiveSince.entries,
      entry ∈ subHal.mActiveSince.entries ∨ event.Enables entry.1 entry.2) :
    EpochInvariant device (past ++ [event]) after := by
  constructor
  · rw [thread, epoch]
    exact invariant.bounded
  · rw [thread, epoch, sinceAdvance_concat other, pollEvents_concat silent]
    exact invariant.polling
  · rw [thread, epoch, sinceAdvance_concat other, pollEvents_concat silent]
    exact invariant.polled
  · exact invariant.active_concat other callback entries

/-- Steps of the worker after which it has no epoch in hand. -/
theorem leave (invariant : EpochInvariant device past subHal) (event : PollEvent)
    (thread : after.mPollThread.epoch? = none) (callback : after.mCallback = subHal.mCallback)
    (entries : after.mActiveSince = subHal.mActiveSince) :
    EpochInvariant device (past ++ [.poll event]) after := by
  constructor
  · simp [thread]
  · intro polling
    simp [polling, PollThread.epoch?] at thread
  · intro data polled
    simp [polled, PollThread.epoch?] at thread
  · exact invariant.active_concat rfl callback (by rw [entries]; exact fun _ => .inl)

end EpochInvariant

theorem epochInvariant_poll {past : List SystemEvent} {state after : SystemState device}
    {event : PollEvent} (invariant : EpochInvariant device past state.subHal)
    (step : PollTransition state event after) :
    EpochInvariant device (past ++ [.poll event]) after.subHal := by
  have active : state.subHal.mCallback = true → ∀ entry ∈ state.subHal.mActiveSince.entries,
      ∃ event' ∈ sinceAdvance device (past ++ [.poll event]), event'.Enables entry.1 entry.2 :=
    invariant.active_concat rfl rfl (fun _ => .inl)
  have appended : sinceAdvance device (past ++ [.poll event]) =
      sinceAdvance device past ++ [.poll event] := sinceAdvance_concat rfl
  cases step with
  | readEpoch =>
      constructor
      · rintro epoch ⟨rfl⟩
        exact Nat.le_refl _
      · simp [setThread]
      · simp [setThread]
      · exact active
  | callPoll epoch ready =>
      constructor
      · rintro other ⟨rfl⟩
        exact invariant.bounded epoch (by simp [ready, PollThread.epoch?])
      · intro _
        rw [appended, pollEvents_poll]
        exact ⟨_, rfl⟩
      · simp [setThread]
      · exact active
  | returned epoch count data polling =>
      constructor
      · rintro other ⟨rfl⟩
        exact invariant.bounded epoch (by simp [polling, PollThread.epoch?])
      · simp [setThread]
      · intro batch polled
        obtain ⟨current, rfl⟩ := PollThread.polled.inj polled
        obtain ⟨earlier, calls⟩ :=
          invariant.polling (polling.trans (congrArg PollThread.polling current))
        rw [appended, pollEvents_poll, calls, List.append_assoc]
        exact ⟨earlier, count, rfl⟩
      · exact active
  | interrupted => exact invariant.leave _ rfl rfl rfl
  | failed => exact invariant.leave _ rfl rfl rfl
  | wake => exact invariant.leave _ rfl rfl rfl
  | discard => exact invariant.leave _ rfl rfl rfl
  | lock => exact invariant.leave _ rfl rfl rfl
  | create => exact invariant.leave _ rfl rfl rfl
  | post => exact invariant.leave _ rfl rfl rfl
  | unlock => exact invariant.leave _ rfl rfl rfl

theorem epochInvariant_initialize {past : List SystemEvent} {subHal after : SubHalState}
    {answers : InitializeAnswers} {result : Result}
    (invariant : EpochInvariant device past subHal)
    (called : initializeSubHal device subHal true answers = (result, after)) :
    EpochInvariant device (past ++ [.initializeSubHal answers]) after := by
  rcases initializeSubHal_cases called with
    ⟨unready, -, rfl⟩ | ⟨isReady, epoch, outcome⟩
  · exact invariant.extend unready rfl rfl rfl rfl (fun _ => .inl)
  · -- Whatever epoch the worker has in hand is now an old one.
    have thread : ∀ other, after.mPollThread.epoch? = some other →
        subHal.mPollThread.epoch? = some other := by
      intro other inHand
      rcases outcome with ⟨-, -, same⟩ | ⟨-, -, -, started⟩
      · rw [← same]
        exact inHand
      · rw [started] at inHand
        cases before : subHal.mPollThread <;> rw [before] at inHand <;> exact inHand
    have stale : ∀ other, after.mPollThread.epoch? = some other → other < after.mEpoch := by
      intro other inHand
      rw [epoch]
      exact Nat.lt_succ_of_le (invariant.bounded other (thread other inHand))
    constructor
    · exact fun other inHand => Nat.le_of_lt (stale other inHand)
    · intro polling
      exact absurd (stale after.mEpoch (by simp [polling, PollThread.epoch?])) (Nat.lt_irrefl _)
    · intro data polled
      exact absurd (stale after.mEpoch (by simp [polled, PollThread.epoch?])) (Nat.lt_irrefl _)
    · intro set
      rcases outcome with ⟨-, unset, -⟩ | ⟨-, -, empty, -⟩
      · rw [unset] at set
        contradiction
      · simp [empty]

/-- A call of `HalProxy::activate` changes `mActiveSince` only, and adds to it only what
it enables. -/
theorem activate_enables (device : Device) (subHal : SubHalState) (sensorHandle : Handle)
    (enabled : Bool) (status : Status) (now : Int) :
    ∃ mActiveSince,
      (HalProxy.activate device subHal sensorHandle enabled status now).2 =
          { subHal with mActiveSince } ∧
        ∀ entry ∈ mActiveSince.entries, entry ∈ subHal.mActiveSince.entries ∨
          enabled = true ∧
            (SystemEvent.activate sensorHandle enabled status now).Enables entry.1 entry.2 := by
  unfold HalProxy.activate
  split
  · rename_i valid
    obtain ⟨mActiveSince, frame, entries⟩ :=
      activate_frame device subHal (clearSubHalIndex sensorHandle) enabled status now
    constructor
    · constructor
      · exact frame
      · intro entry member
        rcases entries entry member with old | ⟨rfl, rfl, rfl⟩
        · exact .inl old
        · exact .inr ⟨rfl, sensorHandle, rfl, valid, rfl⟩
  · exact ⟨_, rfl, fun _ => .inl⟩

theorem epochInvariant_step {past : List SystemEvent} {state after : SystemState device}
    {event : SystemEvent} (invariant : EpochInvariant device past state.subHal)
    (step : SystemTransition state event after) :
    EpochInvariant device (past ++ [event]) after.subHal := by
  cases step with
  | proxy => exact invariant.extend rfl rfl rfl rfl rfl (fun _ => .inl)
  | disable status now request sensorHandle =>
      obtain ⟨mActiveSince, frame, entries⟩ :=
        activate_enables device state.subHal sensorHandle false status now
      simp only [frame]
      exact invariant.extend rfl rfl rfl rfl rfl fun entry member =>
        (entries entry member).imp_right fun new => absurd new.1 (by simp)
  | activate sensorHandle enabled status now =>
      obtain ⟨mActiveSince, frame, entries⟩ :=
        activate_enables device state.subHal sensorHandle enabled status now
      simp only [frame]
      exact invariant.extend rfl rfl rfl rfl rfl fun entry member =>
        (entries entry member).imp_right And.right
  | setOperationMode mode status =>
      obtain ⟨mCurrentOperationMode, frame⟩ :=
        setOperationModeLocked_frame device state.subHal mode status
      simp only [frame]
      exact invariant.extend rfl rfl rfl rfl rfl (fun _ => .inl)
  | registerDirectChannel valid answer =>
      obtain ⟨mDirectChannels, frame⟩ :=
        registerDirectChannel_frame device state.subHal valid answer
      simp only [frame]
      exact invariant.extend rfl rfl rfl rfl rfl (fun _ => .inl)
  | unregisterDirectChannel channel status =>
      obtain ⟨mDirectChannels, frame⟩ :=
        unregisterDirectChannel_frame device state.subHal channel status
      simp only [frame]
      exact invariant.extend rfl rfl rfl rfl rfl (fun _ => .inl)
  | initializeSubHal answers result subHal proxy unlocked called =>
      exact epochInvariant_initialize invariant called
  | poll event after step => exact epochInvariant_poll invariant step

/-! ## Admission -/

/-- `event` entered the history through the sub-HAL's filter while the present FMQ was
installed.  `taken` is the history up to the moment the worker took `mMutex` with the
batch `data` in hand, and `state` the state at that moment. -/
inductive Admitted (device : Device) (start reset : Nat) (history : List SystemEvent)
    (event : Event Sample) : Prop where
  | intro (taken later before session : List SystemEvent) (state : SystemState device)
      (answers : InitializeAnswers) (epoch : Nat) (earlier : List PollEvent) (count : Int)
      (data : List (Event Sample)) (source : Event Sample) (activatedAt : Int)
      (split : history = taken ++ .poll .lock :: later)
      (run : Runs (systemStep device) (SystemState.initial device start reset) taken state)
      (polled : state.subHal.mPollThread = .polled epoch data)
      -- No other FMQ has been installed since.
      (sameQueue : ∀ event ∈ later, event.installs = false)
      -- The `initialize` that installed it has advanced `mEpoch`, once.
      (advanced : sinceInstall taken = before ++ .initializeSubHal answers :: session)
      (isReady : device.isReady = true)
      (once : ∀ event ∈ session, event.advances device = false)
      -- The batch is what a call of `poll` returned that began after that.
      (batch : pollEvents session = earlier ++ [.callPoll, .returned count data])
      (member : source ∈ data)
      (posted : event = source.withSubHalIndex 0)
      -- The sensor was enabled after that, at the time on record.
      (enabled : ∃ event ∈ session, event.Enables source.sensorHandle activatedAt)
      (recorded : state.subHal.mActiveSince.find? source.sensorHandle = some activatedAt)
      (fresh : source.payload.sensorType = .metaData ∨ activatedAt ≤ source.payload.timestamp) :
      Admitted device start reset history event

/-- `event` is from a listed sensor, the `initialize` that installed the FMQ has
succeeded, and the sub-HAL let the event pass. -/
structure Entered (device : Device) (start reset : Nat) (history : List SystemEvent)
    (event : Event Sample) : Prop where
  listed : isListed device.proxySensors event = true
  started : .proxy (.control .run) ∈ sinceInstall history
  admitted : Admitted device start reset history event

section Concat

variable {start reset : Nat} {past : List SystemEvent} {last : SystemEvent}
  {event : Event Sample}

theorem Admitted.concat (admitted : Admitted device start reset past event)
    (other : last.installs = false) : Admitted device start reset (past ++ [last]) event := by
  obtain ⟨taken, later, before, session, state, answers, epoch, earlier, count, data, source,
    activatedAt, split, run, polled, sameQueue, advanced, isReady, once, batch, member, posted,
    enabled, recorded, fresh⟩ := admitted
  have split' : past ++ [last] = taken ++ .poll .lock :: (later ++ [last]) := by
    rw [split, List.append_assoc, List.cons_append]
  have sameQueue' : ∀ event ∈ later ++ [last], event.installs = false := by
    intro event member
    rcases List.mem_append.mp member with old | new
    · exact sameQueue event old
    · rw [List.mem_singleton.mp new]
      exact other
  exact .intro taken (later ++ [last]) before session state answers epoch earlier count data
    source activatedAt split' run polled sameQueue' advanced isReady once batch member posted
    enabled recorded fresh

theorem Entered.concat (entered : Entered device start reset past event)
    (other : last.installs = false) : Entered device start reset (past ++ [last]) event := by
  constructor
  · exact entered.listed
  · rw [sinceInstall_concat other]
    exact List.mem_append_left _ entered.started
  · exact entered.admitted.concat other

end Concat

/-! ## The invariant -/

/-- The events that passed the filter and are still in the worker's hands. -/
def SubHal.PollThread.events : PollThread → List (Event Sample)
  | .creating events _ | .calling events _ => events
  | _ => []

structure IsolationInvariant (start reset : Nat) (past : List SystemEvent)
    (state : SystemState device) : Prop where
  session : SessionInvariant state.proxy
  epochs : EpochInvariant device past state.subHal
  /-- An open session was opened by the sub-HAL's `initialize`, after the FMQ was
  installed. -/
  opened : state.proxy.Opened → device.isReady = true ∧
    ∃ before answers,
      sinceInstall past = before ++ .initializeSubHal answers :: sinceAdvance device past
  started : state.proxy.mThreadsRun = true → .proxy (.control .run) ∈ sinceInstall past
  /-- Only the poll worker posts. -/
  quiet : state.subHal.mPollThread ≠ .posting →
    state.proxy.waiting = [] ∧ state.proxy.post = .idle
  worker : state.proxy.Opened → ∀ event ∈ state.subHal.mPollThread.events,
    Admitted device start reset past (event.withSubHalIndex 0)
  awaits : state.proxy.Opened → Awaits (Admitted device start reset past) state.proxy
  holds : Holds (Entered device start reset past) state.proxy

theorem isolationInvariant_initial (start reset : Nat) :
    IsolationInvariant start reset [] (SystemState.initial device start reset) where
  session := sessionInvariant_initial start reset
  epochs := epochInvariant_initial
  opened := by simp [SystemState.initial, ProxyState.initial, ProxyState.Opened]
  started := by simp [SystemState.initial, ProxyState.initial]
  quiet := fun _ => ⟨rfl, rfl⟩
  worker := by simp [SystemState.initial, SubHalState.initial, PollThread.events]
  awaits := by simp [SystemState.initial, ProxyState.initial, Awaits]
  holds := by constructor <;> simp [SystemState.initial, ProxyState.initial, PostPhase.events,
    Delivery.queued, Delivery.initial]

namespace IsolationInvariant

variable {start reset : Nat} {past : List SystemEvent} {state after : SystemState device}
  {event : SystemEvent}

/-- Steps that neither install an FMQ nor advance the epoch leave an open session as it
is. -/
theorem opened_concat (invariant : IsolationInvariant start reset past state)
    (sameQueue : event.installs = false) (sameEpoch : event.advances device = false)
    (opened : state.proxy.Opened) :
    device.isReady = true ∧ ∃ before answers, sinceInstall (past ++ [event]) =
      before ++ .initializeSubHal answers :: sinceAdvance device (past ++ [event]) := by
  obtain ⟨isReady, before, answers, split⟩ := invariant.opened opened
  constructor
  · exact isReady
  · rw [sinceInstall_concat sameQueue, sinceAdvance_concat sameEpoch, split]
    exact ⟨before, answers, by simp⟩

/-- Steps of the sub-HAL that leave the proxy alone. -/
theorem still (invariant : IsolationInvariant start reset past state)
    (sameQueue : event.installs = false) (sameEpoch : event.advances device = false)
    (step : SystemTransition state event after) (proxy : after.proxy = state.proxy)
    (quiet : after.subHal.mPollThread ≠ .posting →
      state.proxy.waiting = [] ∧ state.proxy.post = .idle)
    (worker : state.proxy.Opened → ∀ sample ∈ after.subHal.mPollThread.events,
      Admitted device start reset (past ++ [event]) (sample.withSubHalIndex 0)) :
    IsolationInvariant start reset (past ++ [event]) after := by
  constructor
  · rw [proxy]
    exact invariant.session
  · exact epochInvariant_step invariant.epochs step
  · rw [proxy]
    exact invariant.opened_concat sameQueue sameEpoch
  · rw [proxy, sinceInstall_concat sameQueue]
    exact fun running => List.mem_append_left _ (invariant.started running)
  · rw [proxy]
    exact quiet
  · rw [proxy]
    exact worker
  · rw [proxy]
    exact fun opened call waits sample member =>
      (invariant.awaits opened call waits sample member).concat sameQueue
  · rw [proxy]
    exact invariant.holds.imp fun _ entered => entered.concat sameQueue

/-- Calls of the sub-HAL by other threads than the worker. -/
theorem call (invariant : IsolationInvariant start reset past state)
    (sameQueue : event.installs = false) (sameEpoch : event.advances device = false)
    (step : SystemTransition state event after) (proxy : after.proxy = state.proxy)
    (thread : after.subHal.mPollThread = state.subHal.mPollThread) :
    IsolationInvariant start reset (past ++ [event]) after := by
  apply invariant.still sameQueue sameEpoch step proxy
  · rw [thread]
    exact invariant.quiet
  · rw [thread]
    exact fun opened sample member => (invariant.worker opened sample member).concat sameQueue

/-- Steps of the proxy that do not install an FMQ and do not wait for the sub-HAL. -/
theorem byProxy {proxyEvent : ProxyEvent Sample}
    (invariant : IsolationInvariant start reset past state)
    (sameQueue : event.installs = false) (sameEpoch : event.advances device = false)
    (systemStep : SystemTransition state event after)
    (step : proxyStep 0 state.proxy proxyEvent = some after.proxy)
    (notSubHals : proxyEvent ≠ .control (.initializeSubHals true))
    (run : proxyEvent = .control .run → event = .proxy (.control .run))
    (called : ∀ events object, proxyEvent = .post (.call events object) → state.proxy.Opened →
      ∀ sample ∈ events, Admitted device start reset past (sample.withSubHalIndex 0))
    (quiet : after.subHal.mPollThread ≠ .posting →
      after.proxy.waiting = [] ∧ after.proxy.post = .idle)
    (worker : state.proxy.Opened → ∀ sample ∈ after.subHal.mPollThread.events,
      Admitted device start reset past (sample.withSubHalIndex 0)) :
    IsolationInvariant start reset (past ++ [event]) after := by
  have openedBefore : after.proxy.Opened → state.proxy.Opened := fun opened =>
    (opened_step step opened).resolve_right notSubHals
  have awaits : state.proxy.mThreadsRun = true →
      Awaits (Entered device start reset past) state.proxy := by
    intro running call waits sample member
    exact ⟨List.all_eq_true.mp call.listed sample member, invariant.started running,
      invariant.awaits (.inl running) call waits sample member⟩
  constructor
  · exact sessionInvariant_step invariant.session step
  · exact epochInvariant_step invariant.epochs systemStep
  · exact fun opened => invariant.opened_concat sameQueue sameEpoch (openedBefore opened)
  · intro running
    rw [sinceInstall_concat sameQueue]
    rcases running_step step running with already | ⟨isRun, -⟩
    · exact List.mem_append_left _ (invariant.started already)
    · rw [run isRun]
      exact List.mem_append_right _ List.mem_cons_self
  · exact quiet
  · exact fun opened sample member =>
      (worker (openedBefore opened) sample member).concat sameQueue
  · intro opened call waits sample member
    rcases waiting_step step call waits with old | ⟨events, object, isCall, batch⟩
    · exact (invariant.awaits (openedBefore opened) call old sample member).concat sameQueue
    · rw [batch] at member
      obtain ⟨source, inBatch, rfl⟩ := List.mem_map.mp member
      exact (called events object isCall (openedBefore opened) source inBatch).concat sameQueue
  · exact (holds_step invariant.holds awaits step).imp fun _ entered => entered.concat sameQueue

/-- A new FMQ is installed while no session is open, and it is empty. -/
theorem install (invariant : IsolationInvariant start reset past state)
    (systemStep : SystemTransition state (.proxy (.control .replaceQueues)) after)
    (step : proxyStep 0 state.proxy (.control .replaceQueues) = some after.proxy)
    (thread : after.subHal.mPollThread = state.subHal.mPollThread) :
    IsolationInvariant start reset (past ++ [.proxy (.control .replaceQueues)]) after := by
  have closed := not_opened_of_replaceQueues invariant.session step
  constructor
  · exact sessionInvariant_step invariant.session step
  · exact epochInvariant_step invariant.epochs systemStep
  · exact fun opened => absurd opened closed
  · exact fun running => absurd (.inl running) closed
  · rw [thread]
    intro notPosting
    obtain ⟨nobody, idle⟩ := invariant.quiet notPosting
    exact quiet_step step nobody idle (by simp)
  · exact fun opened => absurd opened closed
  · exact fun opened => absurd opened closed
  · exact holds_replaceQueues invariant.session step

end IsolationInvariant

/-! ### Steps -/

section Steps

variable {start reset : Nat} {past : List SystemEvent} {state after : SystemState device}

theorem isolationInvariant_proxy {event : ProxyEvent Sample}
    {proxy : ProxyState device.proxySensors Sample} {disabled : Nat}
    (invariant : IsolationInvariant start reset past state) (own : event.isOwn = true)
    (step : proxyStep 0 state.proxy event = some proxy) :
    IsolationInvariant start reset (past ++ [.proxy event]) { state with proxy, disabled } := by
  have systemStep : SystemTransition state (.proxy event) { state with proxy, disabled } :=
    .proxy event proxy disabled own step
  by_cases installs : (SystemEvent.proxy event).installs = true
  · have isInstall : event = .control .replaceQueues := by
      unfold SystemEvent.installs at installs
      split at installs
      · rename_i same
        exact SystemEvent.proxy.inj same
      · contradiction
    subst isInstall
    exact invariant.install systemStep step rfl
  · have notCall : ∀ events object, event ≠ .post (.call events object) := by
      rintro events object rfl
      contradiction
    have notSubHals : event ≠ .control (.initializeSubHals true) := by
      rintro rfl
      contradiction
    apply invariant.byProxy (by simpa using installs) rfl systemStep step notSubHals
    · exact fun isRun => congrArg SystemEvent.proxy isRun
    · exact fun events object isCall => absurd isCall (notCall events object)
    · intro notPosting
      obtain ⟨nobody, idle⟩ := invariant.quiet notPosting
      exact quiet_step step nobody idle notCall
    · exact invariant.worker

theorem events_of_unlocked {thread : PollThread} (unlocked : thread.holdsMutex = false) :
    thread.events = [] := by
  cases thread with
  | creating | calling => contradiction
  | notStarted | atHead | ready | polling | sleeping | polled | posting => rfl

theorem started_unlocked {thread : PollThread} (unlocked : thread.holdsMutex = false) :
    thread.started.holdsMutex = false := by
  cases thread with
  | creating | calling | posting => contradiction
  | notStarted | atHead | ready | polling | sleeping | polled => rfl

/-- The sub-HAL is initialized while the worker does not hold `mMutex`, so nobody
posts and nobody has events in hand. -/
theorem isolationInvariant_initialize {answers : InitializeAnswers} {result : Result}
    {subHal : SubHalState} {proxy : ProxyState device.proxySensors Sample}
    (invariant : IsolationInvariant start reset past state)
    (unlocked : state.subHal.mPollThread.holdsMutex = false)
    (called : initializeSubHal device state.subHal true answers = (result, subHal))
    (step : controlStep state.proxy (.initializeSubHals (result = .ok)) = some proxy) :
    IsolationInvariant start reset (past ++ [.initializeSubHal answers])
      { state with proxy, subHal } := by
  have systemStep : SystemTransition state (.initializeSubHal answers)
      { state with proxy, subHal } :=
    .initializeSubHal answers result subHal proxy unlocked called step
  have proxyStepped : proxyStep 0 state.proxy
      (.control (.initializeSubHals (result = .ok))) = some proxy := step
  have appended : sinceInstall (past ++ [.initializeSubHal answers]) =
      sinceInstall past ++ [.initializeSubHal answers] := sinceInstall_concat rfl
  have notPosting : state.subHal.mPollThread ≠ .posting := by
    intro posting
    rw [posting] at unlocked
    contradiction
  obtain ⟨nobody, idle⟩ := invariant.quiet notPosting
  obtain ⟨stillNobody, stillIdle⟩ := quiet_step proxyStepped nobody idle (by simp)
  have stillUnlocked : subHal.mPollThread.holdsMutex = false := by
    rcases initializeSubHal_cases called with
      ⟨-, -, rfl⟩ | ⟨-, -, ⟨-, -, same⟩ | ⟨-, -, -, started⟩⟩
    · exact unlocked
    · rw [same]
      exact unlocked
    · rw [started]
      exact started_unlocked unlocked
  have closed := not_opened_of_initializeSubHals invariant.session step
  constructor
  · exact sessionInvariant_step invariant.session proxyStepped
  · exact epochInvariant_step invariant.epochs systemStep
  · intro opened
    -- The session is open because the call has succeeded.
    have succeeded : result = .ok := by
      have success := (opened_step proxyStepped opened).resolve_left closed
      simpa using success
    rcases initializeSubHal_cases called with ⟨-, failed, -⟩ | ⟨isReady, -, -⟩
    · exact absurd succeeded failed
    · have advances : (SystemEvent.initializeSubHal answers).advances device = true := isReady
      rw [appended, sinceAdvance_advance advances]
      exact ⟨isReady, sinceInstall past, answers, rfl⟩
  · intro running
    rcases running_step proxyStepped running with already | ⟨-, starting⟩
    · exact absurd (.inl already) closed
    · exact absurd (.inr starting) closed
  · exact fun _ => ⟨stillNobody, stillIdle⟩
  · intro _ event member
    rw [events_of_unlocked stillUnlocked] at member
    exact absurd member List.not_mem_nil
  · intro _ call waits
    rw [stillNobody] at waits
    exact absurd waits List.not_mem_nil
  · apply (holds_step invariant.holds _ proxyStepped).imp
    · exact fun _ entered => entered.concat rfl
    · exact fun running => absurd (.inl running) closed

/-- The filter lets only events of the present session pass. -/
theorem admitted_lock {epoch : Nat} {data events : List (Event Sample)} {wakeup : Bool}
    (run : Runs (systemStep device) (SystemState.initial device start reset) past state)
    (invariant : IsolationInvariant start reset past state) (opened : state.proxy.Opened)
    (polled : state.subHal.mPollThread = .polled epoch data)
    (callback : state.subHal.mCallback = true) (current : epoch = state.subHal.mEpoch)
    (accepted : acceptedEvents device state.subHal epoch data = (events, wakeup)) :
    ∀ event ∈ events,
      Admitted device start reset (past ++ [.poll .lock]) (event.withSubHalIndex 0) := by
  intro event member
  rw [acceptedEvents_eq] at accepted
  obtain ⟨rfl, -⟩ := Prod.mk.inj accepted
  obtain ⟨inBatch, passes⟩ := List.mem_filter.mp member
  obtain ⟨-, activatedAt, recorded, fresh⟩ := accepts_spec passes
  obtain ⟨isReady, before, answers, advanced⟩ := invariant.opened opened
  obtain ⟨earlier, count, batch⟩ := invariant.epochs.polled data (current ▸ polled)
  have enabled := invariant.epochs.active callback _ (OrderedMap.mem_of_find? recorded)
  have once : ∀ event ∈ sinceAdvance device past, event.advances device = false := by
    intro event since
    simpa using List.mem_rtakeWhile_imp since
  exact .intro past [] before (sinceAdvance device past) state answers epoch earlier count data
    event activatedAt rfl run polled (by simp) advanced isReady once batch inBatch rfl enabled
    recorded fresh

theorem isolationInvariant_poll {event : PollEvent}
    (run : Runs (systemStep device) (SystemState.initial device start reset) past state)
    (invariant : IsolationInvariant start reset past state)
    (step : PollTransition state event after) :
    IsolationInvariant start reset (past ++ [.poll event]) after := by
  have systemStep : SystemTransition state (.poll event) after := .poll event after step
  -- Steps after which the worker holds nothing.
  have idle : ∀ thread : PollThread, state.subHal.mPollThread ≠ .posting →
      thread.events = [] → after.subHal.mPollThread = thread → after.proxy = state.proxy →
      IsolationInvariant start reset (past ++ [.poll event]) after := by
    intro thread notPosting empty same proxy
    apply invariant.still rfl rfl systemStep proxy
    · exact fun _ => invariant.quiet notPosting
    · simp [same, empty]
  cases step with
  | readEpoch head => exact idle _ (by simp [head]) rfl rfl rfl
  | callPoll epoch ready => exact idle _ (by simp [ready]) rfl rfl rfl
  | interrupted epoch data polling => exact idle _ (by simp [polling]) rfl rfl rfl
  | failed epoch count data failures polling => exact idle _ (by simp [polling]) rfl rfl rfl
  | returned epoch count data polling => exact idle _ (by simp [polling]) rfl rfl rfl
  | wake delayMs sleeping => exact idle _ (by simp [sleeping]) rfl rfl rfl
  | discard epoch data polled => exact idle _ (by simp [polled]) rfl rfl rfl
  | lock epoch data events wakeup polled callback current accepted =>
      apply invariant.still rfl rfl systemStep rfl
      · exact fun _ => invariant.quiet (by simp [polled])
      · intro opened
        exact admitted_lock run invariant opened polled callback current accepted
  | create events wakeup acquired now proxy creating created =>
      have stepped : proxyStep 0 state.proxy (.object (.create wakeup acquired now)) =
          some proxy := created
      obtain ⟨nobody, free⟩ := invariant.quiet (by simp [creating])
      apply invariant.byProxy rfl rfl systemStep stepped (by simp) (by simp) (by simp)
      · exact fun _ => quiet_step stepped nobody free (by simp)
      · have inHand := invariant.worker
        rw [creating] at inHand
        exact inHand
  | post events object proxy calling called =>
      have stepped : proxyStep 0 state.proxy (.post (.call events object)) = some proxy := called
      have inHand := invariant.worker
      rw [calling] at inHand
      apply invariant.byProxy rfl rfl systemStep stepped (by simp) (by simp)
      · intro batch other isCall opened
        obtain ⟨rfl, -⟩ := PostEvent.call.inj (ProxyEvent.post.inj isCall)
        exact inHand opened
      · exact fun notPosting => absurd rfl notPosting
      · exact fun _ _ member => absurd member List.not_mem_nil
  | unlock posting nobody free =>
      apply invariant.still rfl rfl systemStep rfl
      · exact fun _ => ⟨nobody, free⟩
      · exact fun _ _ member => absurd member List.not_mem_nil

theorem isolationInvariant_step {event : SystemEvent}
    (run : Runs (systemStep device) (SystemState.initial device start reset) past state)
    (invariant : IsolationInvariant start reset past state)
    (step : SystemTransition state event after) :
    IsolationInvariant start reset (past ++ [event]) after := by
  have systemStep := step
  cases step with
  | proxy event proxy disabled own step => exact isolationInvariant_proxy invariant own step
  | disable status now request sensorHandle =>
      obtain ⟨mActiveSince, frame, -⟩ :=
        activate_enables device state.subHal sensorHandle false status now
      exact invariant.call rfl rfl systemStep rfl (by simp only [frame])
  | activate sensorHandle enabled status now =>
      obtain ⟨mActiveSince, frame, -⟩ :=
        activate_enables device state.subHal sensorHandle enabled status now
      exact invariant.call rfl rfl systemStep rfl (by simp only [frame])
  | setOperationMode mode status =>
      obtain ⟨mCurrentOperationMode, frame⟩ :=
        setOperationModeLocked_frame device state.subHal mode status
      exact invariant.call rfl rfl systemStep rfl (by simp only [frame])
  | registerDirectChannel valid answer =>
      obtain ⟨mDirectChannels, frame⟩ :=
        registerDirectChannel_frame device state.subHal valid answer
      exact invariant.call rfl rfl systemStep rfl (by simp only [frame])
  | unregisterDirectChannel channel status =>
      obtain ⟨mDirectChannels, frame⟩ :=
        unregisterDirectChannel_frame device state.subHal channel status
      exact invariant.call rfl rfl systemStep rfl (by simp only [frame])
  | initializeSubHal answers result subHal proxy unlocked called step =>
      exact isolationInvariant_initialize invariant unlocked called step
  | poll event after step => exact isolationInvariant_poll run invariant step

end Steps

/-! ## Results -/

/-- Isolation of framework sessions.  In every run of the service, whatever
`initialize` calls succeed or fail and however the worker's `poll` calls straddle them,
every event in the present FMQ or in the pending queue is of a sensor the proxy lists,
was returned by a call of `poll` that began after the sub-HAL was initialized for this
FMQ, and is of a sensor enabled after that point and no later than its timestamp,
unless it is metadata. -/
theorem session_isolation {start reset : Nat} {history : List SystemEvent}
    {state : SystemState device}
    (run : Runs (systemStep device) (SystemState.initial device start reset) history state)
    (event : Event Sample)
    (delivered : event ∈ state.proxy.delivery.written ∨ event ∈ state.proxy.delivery.queued) :
    Entered device start reset history event := by
  have invariant : IsolationInvariant start reset history state := by
    apply run.history
    · exact isolationInvariant_initial start reset
    · intro past state event after earlier invariant step
      exact isolationInvariant_step earlier invariant (systemStep_transition step)
  rcases delivered with written | queued
  · exact invariant.holds.written event written
  · exact invariant.holds.queued event queued

/-- A device with one wake-up sensor. -/
def oneSensor : Device where
  opened := true
  sensorList := [⟨42#32, 1#32⟩]
  atLeastVersion14 := false
  hasOperationModes := false
  hasDirectChannels := false

/-- The stages of `initialize` from the reset on; the device answers every call. -/
def initializeStages (now : Nat) : List SystemEvent :=
  [.proxy (.control .join), .proxy (.control (.reset now)), .disable 0 0,
    .proxy (.control .disableAllSensors), .proxy (.control .clearPending),
    .proxy (.control .replaceQueues), .initializeSubHal ⟨fun _ => 0, fun _ => 0, 0⟩,
    .proxy (.control .run), .proxy (.control .spawnPending), .proxy (.control .spawnWakelock)]

/-- A call of `poll` that begins in one session and returns in the next, and a second
call whose batch has a sample older than the activation and a metadata event. -/
def straddlingPoll : List SystemEvent :=
  [.proxy (.control (.beginInitialize ⟨4, true⟩))] ++ initializeStages 10 ++
    [.activate 42#32 true 0 20, .poll .readEpoch, .poll .callPoll,
      .proxy (.control (.beginInitialize ⟨4, true⟩)), .proxy (.pending .take),
      .proxy (.wakelock (.take 30 31))] ++
    initializeStages 40 ++
    [.activate 42#32 true 0 50, .poll (.returned 1 [⟨42#32, .other 1, 60⟩]), .poll .lock,
      .poll .readEpoch, .poll .callPoll,
      .poll (.returned 3 [⟨42#32, .other 1, 45⟩, ⟨42#32, .other 1, 70⟩, ⟨42#32, .metaData, 0⟩]),
      .poll .lock, .poll (.createScopedWakelock true 80), .poll .postEvents,
      .proxy (.post (.take 0 true 81)), .proxy (.post (.measure 4)),
      .proxy (.post (.wrote true)), .proxy (.post .finish), .poll .unlock]

theorem session_isolation_straddlingPoll :
    ∃ state : SystemState oneSensor,
      Runs (systemStep oneSensor) (SystemState.initial oneSensor 0 1) straddlingPoll state ∧
        state.proxy.delivery.written.map (fun event => event.payload.timestamp) = [70, 0] ∧
        ∀ event ∈ state.proxy.delivery.written,
          Entered oneSensor 0 1 straddlingPoll event := by
  have enabled : (exec (systemStep oneSensor) (SystemState.initial oneSensor 0 1)
      straddlingPoll).isSome := rfl
  have run := runs_get enabled
  exact ⟨_, run, rfl, fun event written => session_isolation run event (.inl written)⟩

end K50sv1.Sensors
