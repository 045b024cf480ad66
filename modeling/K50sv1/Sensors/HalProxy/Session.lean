import K50sv1.Sensors.HalProxy.System

/-!
# Sessions of the multi-HAL proxy

A session lasts from the moment `initialize` sets `mThreadsRun` to the moment
`stopThreads` clears it.  The invariant of this file says what each thread may be
doing at each point of `initialize`: posts and references exist only while a session
runs, both workers have ended before the queues are touched, and once the
references of a session have been given up none are held until the queues have been
replaced.
-/

namespace K50sv1.Sensors.HalProxy

open K50sv1.Transition

variable {mSensors : SensorMap} {π : Type}

/-! ## What goes on at each point of `initialize` -/

/-- A session may run. -/
@[simp]
def Control.allowsRunning : Control → Bool
  | .idle | .spawningPending | .spawningWakelock => true
  | _ => false

/-- The pending-writes worker may exist. -/
@[simp]
def Control.allowsPendingWorker : Control → Bool
  | .idle | .stopping _ | .spawningWakelock => true
  | _ => false

/-- The wake-lock worker may exist. -/
@[simp]
def Control.allowsWakelockWorker : Control → Bool
  | .idle | .stopping _ => true
  | _ => false

/-- The references of the old session have been given up by `initialize`. -/
@[simp]
def Control.hasReset : Control → Bool
  | .disabling _ | .clearing _ | .replacing _ => true
  | _ => false

/-- The queues of the old session may still be in place. -/
@[simp]
def Control.allowsClosing : Control → Bool
  | .idle | .stopping _ | .resetting _ | .disabling _ | .clearing _ | .replacing _ => true
  | _ => false

structure SessionInvariant (state : ProxyState mSensors π) : Prop where
  running : state.mThreadsRun = true → state.control.allowsRunning = true
  posting : state.post ≠ .idle → state.mThreadsRun = true
  pending : state.pendingWorker ≠ .notRunning → state.control.allowsPendingWorker = true
  wakelock : state.wakelockWorker ≠ .notRunning → state.control.allowsWakelockWorker = true
  reset : state.control.hasReset = true → state.closing = true
  closed : state.closing = true →
    state.mThreadsRun = false ∧ state.refs.mWakelockRefCount = 0 ∧
      state.wakelockWorker = .notRunning ∧ state.control.allowsClosing = true
  cleared : ∀ request, state.control = .replacing request →
    state.delivery.mPendingWriteEventsQueue = [] ∧
      state.delivery.mSizePendingWriteEventsQueue = 0

theorem sessionInvariant_initial (start reset : Nat) :
    SessionInvariant (ProxyState.initial mSensors π start reset) where
  running := by simp [ProxyState.initial]
  posting := by simp [ProxyState.initial]
  pending := by simp [ProxyState.initial]
  wakelock := by simp [ProxyState.initial]
  reset := by simp [ProxyState.initial]
  closed := by simp [ProxyState.initial]
  cleared := by simp [ProxyState.initial]

/-- No session runs, and both workers have ended. -/
structure ProxyState.Alone (state : ProxyState mSensors π) : Prop where
  stopped : state.mThreadsRun = false
  pendingEnded : state.pendingWorker = .notRunning
  wakelockEnded : state.wakelockWorker = .notRunning

namespace SessionInvariant

variable {state : ProxyState mSensors π}

/-- No session runs at the points of `initialize` at which none may run. -/
theorem stopped_of_control (invariant : SessionInvariant state)
    (forbidden : state.control.allowsRunning = false) : state.mThreadsRun = false := by
  by_contra running
  have allowed := invariant.running (Bool.not_eq_false _ ▸ running)
  rw [forbidden] at allowed
  contradiction

/-- Nobody posts at these points. -/
theorem idle_of_control (invariant : SessionInvariant state)
    (forbidden : state.control.allowsRunning = false) : state.post = .idle := by
  by_contra busy
  have running := invariant.posting busy
  rw [invariant.stopped_of_control forbidden] at running
  contradiction

/-- The pending-writes worker has ended at the points of `initialize` at which it may
not exist. -/
theorem pendingWorker_of_control (invariant : SessionInvariant state)
    (forbidden : state.control.allowsPendingWorker = false) :
    state.pendingWorker = .notRunning := by
  by_contra alive
  have allowed := invariant.pending alive
  rw [forbidden] at allowed
  contradiction

theorem wakelockWorker_of_control (invariant : SessionInvariant state)
    (forbidden : state.control.allowsWakelockWorker = false) :
    state.wakelockWorker = .notRunning := by
  by_contra alive
  have allowed := invariant.wakelock alive
  rw [forbidden] at allowed
  contradiction

/-- At the points from the joining of the workers to the start of the next session nobody is
left. -/
theorem alone_of_control {control : Control} (invariant : SessionInvariant state)
    (point : state.control = control)
    (forbidden : control.allowsRunning = false ∧ control.allowsPendingWorker = false ∧
      control.allowsWakelockWorker = false) : state.Alone := by
  rw [← point] at forbidden
  exact ⟨invariant.stopped_of_control forbidden.1, invariant.pendingWorker_of_control forbidden.2.1,
    invariant.wakelockWorker_of_control forbidden.2.2⟩

/-- The queues have been replaced at the points at which the old ones may not be there. -/
theorem replaced_of_control (invariant : SessionInvariant state)
    (forbidden : state.control.allowsClosing = false) : state.closing = false := by
  by_contra closing
  have allowed := (invariant.closed (Bool.not_eq_false _ ▸ closing)).2.2.2
  rw [forbidden] at allowed
  contradiction

theorem control_of_running (invariant : SessionInvariant state)
    (running : state.mThreadsRun = true) (request : InitializeRequest) :
    state.control ≠ .replacing request := by
  intro replacing
  have allowed := invariant.running running
  rw [replacing] at allowed
  contradiction

/-- Steps that keep the session and the workers, and that leave a closed session and
a cleared queue alone. -/
theorem congr {after : ProxyState mSensors π} (invariant : SessionInvariant state)
    (session : after.mThreadsRun = state.mThreadsRun ∧ after.control = state.control ∧
      after.closing = state.closing)
    (posting : after.post ≠ .idle → state.mThreadsRun = true)
    (pending : after.pendingWorker ≠ .notRunning → state.pendingWorker ≠ .notRunning)
    (wakelock : after.wakelockWorker ≠ .notRunning → state.wakelockWorker ≠ .notRunning)
    (closed : state.closing = true → state.mThreadsRun = false →
      state.refs.mWakelockRefCount = 0 → after.refs.mWakelockRefCount = 0)
    (cleared : ∀ request, state.control = .replacing request →
      state.delivery.mPendingWriteEventsQueue = [] ∧
        state.delivery.mSizePendingWriteEventsQueue = 0 →
      after.delivery.mPendingWriteEventsQueue = [] ∧
        after.delivery.mSizePendingWriteEventsQueue = 0) :
    SessionInvariant after := by
  obtain ⟨threads, control, closing⟩ := session
  constructor
  · rw [threads, control]
    exact invariant.running
  · rw [threads]
    exact posting
  · rw [control]
    exact fun alive => invariant.pending (pending alive)
  · rw [control]
    exact fun alive => invariant.wakelock (wakelock alive)
  · rw [control, closing]
    exact invariant.reset
  · rw [threads, control, closing]
    intro closes
    obtain ⟨stopped, none, ended, allowed⟩ := invariant.closed closes
    have ended : after.wakelockWorker = .notRunning := by
      by_contra alive
      exact wakelock alive ended
    exact ⟨stopped, closed closes stopped none, ended, allowed⟩
  · rw [control]
    exact fun request replacing => cleared request replacing (invariant.cleared request replacing)

/-- `initialize` moves on to a point at which everything may exist that does. -/
theorem moves {control : Control} (invariant : SessionInvariant state)
    (running : state.mThreadsRun = true → control.allowsRunning = true)
    (pending : state.pendingWorker ≠ .notRunning → control.allowsPendingWorker = true)
    (wakelock : state.wakelockWorker ≠ .notRunning → control.allowsWakelockWorker = true)
    (reset : control.hasReset = true → state.closing = true)
    (closing : state.closing = true → control.allowsClosing = true)
    (elsewhere : ∀ request, control ≠ .replacing request) :
    SessionInvariant { state with control } where
  running := running
  posting := invariant.posting
  pending := pending
  wakelock := wakelock
  reset := reset
  closed closes :=
    have ⟨stopped, unheld, ended, _⟩ := invariant.closed closes
    ⟨stopped, unheld, ended, closing closes⟩
  cleared request replacing := absurd replacing (elsewhere request)

/-- Every point is allowed to a proxy in which nobody is left. -/
theorem moves_alone {control : Control} (invariant : SessionInvariant state) (alone : state.Alone)
    (reset : control.hasReset = true → state.closing = true)
    (closing : state.closing = true → control.allowsClosing = true)
    (elsewhere : ∀ request, control ≠ .replacing request) :
    SessionInvariant { state with control } :=
  invariant.moves (fun running => by simp [alone.stopped] at running)
    (fun alive => absurd alone.pendingEnded alive)
    (fun alive => absurd alone.wakelockEnded alive) reset closing elsewhere

end SessionInvariant

/-! ## Steps -/

theorem releaseScopedWakelock_of_zero {refs : RefCounter} (zero : refs.mWakelockRefCount = 0)
    (wakelock : ScopedWakelock) : releaseScopedWakelock refs wakelock = refs := by
  unfold releaseScopedWakelock
  split
  · exact decrement_of_zero zero 1 _
  · rfl

theorem createScopedWakelock_of_stopped (refs : RefCounter) (lock acquired : Bool) (now : Nat) :
    (createScopedWakelock refs false lock acquired now).2 = refs := by
  unfold createScopedWakelock
  rw [increment_of_stopped]
  split
  · rfl
  · rfl

theorem sessionInvariant_object {state after : ProxyState mSensors π} {event : ObjectEvent}
    (invariant : SessionInvariant state) (step : ObjectTransition state event after) :
    SessionInvariant after := by
  cases step with
  | create lock acquired now wakelock refs created =>
      have kept : state.mThreadsRun = false → refs = state.refs := by
        intro stopped
        have same := createScopedWakelock_of_stopped state.refs lock acquired now
        rw [← stopped, created] at same
        exact same
      exact invariant.congr ⟨rfl, rfl, rfl⟩ invariant.posting id id
        (fun _ stopped none => (congrArg RefCounter.mWakelockRefCount (kept stopped)).trans none)
        (fun _ _ => id)
  | moveConstruct source wakelock live =>
      exact invariant.congr ⟨rfl, rfl, rfl⟩ invariant.posting id id (fun _ _ => id)
        (fun _ _ => id)
  | selfAssign object => exact invariant
  | moveAssign target source old new distinct oldLive newLive =>
      exact invariant.congr ⟨rfl, rfl, rfl⟩ invariant.posting id id
        (fun _ _ none => (congrArg RefCounter.mWakelockRefCount
          (releaseScopedWakelock_of_zero none old)).trans none)
        (fun _ _ => id)
  | destroy object wakelock live =>
      exact invariant.congr ⟨rfl, rfl, rfl⟩ invariant.posting id id
        (fun _ _ none => (congrArg RefCounter.mWakelockRefCount
          (releaseScopedWakelock_of_zero none wakelock)).trans none)
        (fun _ _ => id)

theorem sessionInvariant_post {mSubHalIndex : Nat} {state after : ProxyState mSensors π}
    {event : PostEvent π} (invariant : SessionInvariant state)
    (step : PostTransition mSubHalIndex state event after) : SessionInvariant after := by
  cases step with
  | ignored events object => exact invariant
  | queued events object call live running processed =>
      exact invariant.congr ⟨rfl, rfl, rfl⟩ invariant.posting id id (fun _ _ => id)
        (fun _ _ => id)
  | late index acquired now call idle waits stopped =>
      exact invariant.congr ⟨rfl, rfl, rfl⟩ (fun busy => absurd rfl busy) id id
        (fun _ _ => id) (fun _ _ => id)
  | refused index acquired now call refs idle waits running taken =>
      exact invariant.congr ⟨rfl, rfl, rfl⟩ (fun _ => running) id id
        (fun _ stopped => absurd (running.symm.trans stopped) (by simp)) (fun _ _ => id)
  | accepted index acquired now call refs idle waits running taken =>
      exact invariant.congr ⟨rfl, rfl, rfl⟩ (fun _ => running) id id
        (fun _ stopped => absurd (running.symm.trans stopped) (by simp)) (fun _ _ => id)
  | startWrite available numToWrite call holds nonzero bounded empty =>
      exact invariant.congr ⟨rfl, rfl, rfl⟩ (fun _ => invariant.posting (by simp [holds])) id id
        (fun _ _ => id) (fun _ _ => id)
  | skipWrite available call holds =>
      exact invariant.congr ⟨rfl, rfl, rfl⟩ (fun _ => invariant.posting (by simp [holds])) id id
        (fun _ _ => id) (fun _ _ => id)
  | wrote call numToWrite holds =>
      exact invariant.congr ⟨rfl, rfl, rfl⟩ (fun _ => invariant.posting (by simp [holds])) id id
        (fun _ _ => id) (fun _ _ => id)
  | unwritten call numToWrite holds =>
      exact invariant.congr ⟨rfl, rfl, rfl⟩ (fun _ => invariant.posting (by simp [holds])) id id
        (fun _ _ => id) (fun _ _ => id)
  | complete call numToWrite holds nothingLeft =>
      exact invariant.congr ⟨rfl, rfl, rfl⟩ (fun busy => absurd rfl busy) id id
        (fun _ _ => id) (fun _ _ => id)
  | push call numToWrite wakeupsLeft holds left fits =>
      have running := invariant.posting (by simp [holds])
      exact invariant.congr ⟨rfl, rfl, rfl⟩ (fun busy => absurd rfl busy) id id
        (fun _ _ => id)
        (fun request replacing =>
          absurd replacing (invariant.control_of_running running request))
  | overflow call numToWrite wakeupsLeft holds left =>
      have running := invariant.posting (by simp [holds])
      exact invariant.congr ⟨rfl, rfl, rfl⟩ (fun busy => absurd rfl busy) id id
        (fun _ stopped => absurd (running.symm.trans stopped) (by simp)) (fun _ _ => id)

theorem sessionInvariant_pending {state after : ProxyState mSensors π} {event : PendingEvent}
    (invariant : SessionInvariant state) (step : PendingTransition state event after) :
    SessionInvariant after := by
  cases step with
  | leave idle waits stopped =>
      exact invariant.congr ⟨rfl, rfl, rfl⟩ invariant.posting (fun alive => absurd rfl alive) id
        (fun _ _ => id) (fun _ _ => id)
  | start idle waits running front rest queue numWakeupEvents queued installed counted =>
      exact invariant.congr ⟨rfl, rfl, rfl⟩ invariant.posting (fun _ => by simp [waits]) id
        (fun _ _ => id) (fun _ _ => id)
  | wrote write front rest writes queued =>
      exact invariant.congr ⟨rfl, rfl, rfl⟩ invariant.posting (fun _ => by simp [writes]) id
        (fun _ _ => id) (fun _ _ => id)
  | failed write front rest writes queued =>
      exact invariant.congr ⟨rfl, rfl, rfl⟩ invariant.posting (fun _ => by simp [writes]) id
        (fun _ _ => id) (fun _ _ => id)
  | drop write drops =>
      exact invariant.congr ⟨rfl, rfl, rfl⟩ invariant.posting (fun _ => by simp [drops]) id
        (fun _ _ none => (congrArg RefCounter.mWakelockRefCount
          (decrement_of_zero none write.numWakeupEvents (-1))).trans none)
        (fun _ _ => id)
  | update write front rest idle updates queued =>
      -- The worker has ended before the queue is cleared.
      have alive : state.control.allowsPendingWorker = true :=
        invariant.pending (by simp [updates])
      have notReplacing : ∀ request, state.control ≠ .replacing request := by
        intro request replacing
        rw [replacing] at alive
        contradiction
      exact invariant.congr ⟨rfl, rfl, rfl⟩ invariant.posting (fun _ => by simp [updates]) id
        (fun _ _ => id) (fun request replacing => absurd replacing (notReplacing request))

theorem sessionInvariant_wakelock {state after : ProxyState mSensors π} {event : WakelockEvent}
    (invariant : SessionInvariant state) (step : WakelockTransition state event after) :
    SessionInvariant after := by
  cases step with
  | leave now later waits stopped =>
      have alive : state.control.allowsWakelockWorker = true :=
        invariant.wakelock (by simp [waits])
      have allowed : state.control.allowsClosing = true := by
        cases control : state.control <;> rw [control] at alive <;> first | rfl | contradiction
      exact {
        running := invariant.running
        posting := invariant.posting
        pending := invariant.pending
        wakelock := fun alive => absurd rfl alive
        reset := fun _ => rfl
        closed := fun _ => ⟨stopped, reset_count state.refs now, rfl, allowed⟩
        cleared := invariant.cleared }
  | timeout now later waits running held overdue =>
      exact invariant.congr ⟨rfl, rfl, rfl⟩ invariant.posting id id
        (fun _ _ _ => reset_count _ later) (fun _ _ => id)
  | startRead now later waits running =>
      exact invariant.congr ⟨rfl, rfl, rfl⟩ invariant.posting id (fun _ => by simp [waits])
        (fun _ _ => id) (fun _ _ => id)
  | readNothing reads =>
      exact invariant.congr ⟨rfl, rfl, rfl⟩ invariant.posting id (fun _ => by simp [reads])
        (fun _ _ => id) (fun _ _ => id)
  | acknowledge numWakeLocksProcessed reads =>
      exact invariant.congr ⟨rfl, rfl, rfl⟩ invariant.posting id (fun _ => by simp [reads])
        (fun _ _ none => (congrArg RefCounter.mWakelockRefCount
          (decrement_of_zero none numWakeLocksProcessed (-1))).trans none)
        (fun _ _ => id)

theorem sessionInvariant_control {state after : ProxyState mSensors π} {event : ControlEvent}
    (invariant : SessionInvariant state) (step : ControlTransition state event after) :
    SessionInvariant after := by
  cases step with
  | stop event request free idle =>
      exact {
        running := nofun
        posting := fun busy => absurd idle busy
        pending := fun _ => rfl
        wakelock := fun _ => rfl
        reset := nofun
        closed := fun closing =>
          have ⟨_, unheld, ended, _⟩ := invariant.closed closing
          ⟨rfl, unheld, ended, rfl⟩
        cleared := nofun }
  | stopped joining pendingEnded wakelockEnded =>
      exact invariant.moves (fun _ => rfl) (fun _ => rfl) (fun _ => rfl) nofun (fun _ => rfl) nofun
  | joined request joining pendingEnded wakelockEnded =>
      have stopped := invariant.stopped_of_control (by rw [joining]; rfl)
      exact invariant.moves_alone ⟨stopped, pendingEnded, wakelockEnded⟩ nofun (fun _ => rfl) nofun
  | reset now request resetting =>
      -- the references are given up when nobody is left who could take one
      have alone := invariant.alone_of_control resetting ⟨rfl, rfl, rfl⟩
      exact {
        running := fun running => by simp [alone.stopped] at running
        posting := invariant.posting
        pending := fun alive => absurd alone.pendingEnded alive
        wakelock := fun alive => absurd alone.wakelockEnded alive
        reset := fun _ => rfl
        closed := fun _ => ⟨alone.stopped, reset_count state.refs now, alone.wakelockEnded, rfl⟩
        cleared := nofun }
  | disabled request disabling =>
      have alone := invariant.alone_of_control disabling ⟨rfl, rfl, rfl⟩
      exact invariant.moves_alone alone (fun _ => invariant.reset (by rw [disabling]; rfl))
        (fun _ => rfl) nofun
  | clear request clearing idle =>
      have alone := invariant.alone_of_control clearing ⟨rfl, rfl, rfl⟩
      have closing := invariant.reset (by rw [clearing]; rfl)
      exact {
        running := fun running => by simp [alone.stopped] at running
        posting := invariant.posting
        pending := fun alive => absurd alone.pendingEnded alive
        wakelock := fun alive => absurd alone.wakelockEnded alive
        reset := fun _ => closing
        closed := fun _ =>
          have ⟨stopped, unheld, ended, _⟩ := invariant.closed closing
          ⟨stopped, unheld, ended, rfl⟩
        cleared := fun _ _ => ⟨rfl, rfl⟩ }
  | replace request replacing =>
      have alone := invariant.alone_of_control replacing ⟨rfl, rfl, rfl⟩
      exact {
        running := fun running => by simp [alone.stopped] at running
        posting := invariant.posting
        pending := fun alive => absurd alone.pendingEnded alive
        wakelock := fun alive => absurd alone.wakelockEnded alive
        reset := fun reset => by cases usable : request.usable <;> simp [usable] at reset
        closed := nofun
        cleared := fun _ again => by cases usable : request.usable <;> simp [usable] at again }
  | subHals success initializing =>
      have alone := invariant.alone_of_control initializing ⟨rfl, rfl, rfl⟩
      have replaced := invariant.replaced_of_control (by rw [initializing]; rfl)
      exact invariant.moves_alone alone (fun reset => by cases success <;> simp at reset)
        (fun closing => by simp [replaced] at closing)
        (fun _ again => by cases success <;> simp at again)
  | run starting =>
      -- the session begins with both workers gone and nothing left of the old one
      have alone := invariant.alone_of_control starting ⟨rfl, rfl, rfl⟩
      have replaced := invariant.replaced_of_control (by rw [starting]; rfl)
      exact {
        running := fun _ => rfl
        posting := fun _ => rfl
        pending := fun alive => absurd alone.pendingEnded alive
        wakelock := fun alive => absurd alone.wakelockEnded alive
        reset := nofun
        closed := fun closing => by simp [replaced] at closing
        cleared := nofun }
  | spawnPending spawning =>
      have wakelockEnded := invariant.wakelockWorker_of_control (by rw [spawning]; rfl)
      have replaced := invariant.replaced_of_control (by rw [spawning]; rfl)
      exact {
        running := fun _ => rfl
        posting := invariant.posting
        pending := fun _ => rfl
        wakelock := fun alive => absurd wakelockEnded alive
        reset := nofun
        closed := fun closing => by simp [replaced] at closing
        cleared := nofun }
  | spawnWakelock spawning =>
      have replaced := invariant.replaced_of_control (by rw [spawning]; rfl)
      exact {
        running := fun _ => rfl
        posting := invariant.posting
        pending := fun _ => rfl
        wakelock := fun _ => rfl
        reset := nofun
        closed := fun closing => by simp [replaced] at closing
        cleared := nofun }

theorem sessionInvariant_step {mSubHalIndex : Nat} {state after : ProxyState mSensors π}
    {event : ProxyEvent π} (invariant : SessionInvariant state)
    (step : proxyStep mSubHalIndex state event = some after) : SessionInvariant after := by
  cases event with
  | object event => exact sessionInvariant_object invariant (objectStep_transition step)
  | post event => exact sessionInvariant_post invariant (postStep_transition step)
  | pending event => exact sessionInvariant_pending invariant (pendingStep_transition step)
  | wakelock event => exact sessionInvariant_wakelock invariant (wakelockStep_transition step)
  | control event => exact sessionInvariant_control invariant (controlStep_transition step)

end K50sv1.Sensors.HalProxy
