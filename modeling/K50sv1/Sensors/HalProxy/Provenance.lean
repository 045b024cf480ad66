import K50sv1.Sensors.HalProxy.Delivery

/-!
# Where the events of the proxy come from

Events enter the proxy in one place, the call of `postEvents`, and move from there to
the pending queue and the FMQ.  So a property that all waiting calls have when they
are accepted is a property of everything that is queued or written.
-/

namespace K50sv1.Sensors.HalProxy

open K50sv1.Transition

variable {mSensors : SensorMap} {π : Type}

/-- The batch of the call that holds the mutex. -/
def PostPhase.events : PostPhase mSensors π → List (Event π)
  | .idle => []
  | .accepted call | .writing call _ | .leftover call _ => call.events

/-- Every event of an accepted call, of the pending queue and of the FMQ has a
property. -/
structure Holds (P : Event π → Prop) (state : ProxyState mSensors π) : Prop where
  posting : ∀ event ∈ state.post.events, P event
  queued : ∀ event ∈ state.delivery.queued, P event
  written : ∀ event ∈ state.delivery.written, P event

/-- Every event of a call that waits for the mutex has a property. -/
def Awaits (P : Event π → Prop) (state : ProxyState mSensors π) : Prop :=
  ∀ call ∈ state.waiting, ∀ event ∈ call.events, P event

namespace Holds

variable {P Q : Event π → Prop} {state after : ProxyState mSensors π}

theorem imp (holds : Holds P state) (weaker : ∀ event, P event → Q event) : Holds Q state where
  posting := fun event member => weaker event (holds.posting event member)
  queued := fun event member => weaker event (holds.queued event member)
  written := fun event member => weaker event (holds.written event member)

/-- Steps that bring no event in. -/
theorem congr (holds : Holds P state)
    (posting : ∀ event ∈ after.post.events, event ∈ state.post.events)
    (delivery : after.delivery = state.delivery) : Holds P after := by
  constructor
  · exact fun event member => holds.posting event (posting event member)
  · rw [delivery]
    exact holds.queued
  · rw [delivery]
    exact holds.written

end Holds

section Steps

variable {P : Event π → Prop} {mSubHalIndex : Nat} {state after : ProxyState mSensors π}

theorem holds_object {event : ObjectEvent} (holds : Holds P state)
    (step : ObjectTransition state event after) : Holds P after := by
  cases step with
  | create => exact holds.congr (fun _ => id) rfl
  | moveConstruct => exact holds.congr (fun _ => id) rfl
  | selfAssign => exact holds
  | moveAssign => exact holds.congr (fun _ => id) rfl
  | destroy => exact holds.congr (fun _ => id) rfl

theorem holds_post {event : PostEvent π} (holds : Holds P state)
    (awaits : state.mThreadsRun = true → Awaits P state)
    (step : PostTransition mSubHalIndex state event after) : Holds P after := by
  have called : ∀ call : PostCall mSensors π, state.post.events = call.events →
      ∀ event ∈ call.events, P event :=
    fun call same event member => holds.posting event (same ▸ member)
  cases step with
  | ignored => exact holds
  | queued => exact holds.congr (fun _ => id) rfl
  | late => exact holds.congr (fun _ member => absurd member List.not_mem_nil) rfl
  | refused => exact holds.congr (fun _ member => absurd member List.not_mem_nil) rfl
  | accepted index acquired now call refs idle waits running =>
      constructor
      · exact awaits running call (List.mem_of_getElem? waits)
      · exact holds.queued
      · exact holds.written
  | startWrite available numToWrite call holder =>
      exact holds.congr (fun _ => by rw [holder]; exact id) rfl
  | skipWrite available call holder =>
      exact holds.congr (fun _ => by rw [holder]; exact id) rfl
  | wrote call numToWrite holder =>
      have batch := called call (by rw [holder]; rfl)
      constructor
      · exact batch
      · exact holds.queued
      · intro event member
        rcases List.mem_append.mp member with old | new
        · exact holds.written event old
        · exact batch event (List.mem_of_mem_take new)
  | unwritten call numToWrite holder =>
      exact holds.congr (fun _ => by rw [holder]; exact id) rfl
  | complete => exact holds.congr (fun _ member => absurd member List.not_mem_nil) rfl
  | push call numToWrite wakeupsLeft holder =>
      have batch := called call (by rw [holder]; rfl)
      constructor
      · exact fun _ member => absurd member List.not_mem_nil
      · intro event member
        change event ∈ (state.delivery.push _ _).queued at member
        rw [Delivery.queued_push] at member
        rcases List.mem_append.mp member with old | new
        · exact holds.queued event old
        · exact batch event (List.mem_of_mem_drop new)
      · exact holds.written
  | overflow call numToWrite wakeupsLeft holder =>
      constructor
      · exact fun _ member => absurd member List.not_mem_nil
      · exact holds.queued
      · exact holds.written

theorem holds_pending {event : PendingEvent} (holds : Holds P state)
    (step : PendingTransition state event after) : Holds P after := by
  have inQueue : ∀ front rest, state.delivery.mPendingWriteEventsQueue = front :: rest →
      ∀ event ∈ front.1, P event := by
    intro front rest queued event member
    apply holds.queued
    rw [Delivery.queued, queued, List.flatMap_cons]
    exact List.mem_append_left _ member
  cases step with
  | leave => exact holds.congr (fun _ => id) rfl
  | start => exact holds.congr (fun _ => id) rfl
  | wrote write front rest writes queued =>
      constructor
      · exact holds.posting
      · exact holds.queued
      · intro event member
        rcases List.mem_append.mp member with old | new
        · exact holds.written event old
        · exact inQueue front rest queued event (List.mem_of_mem_take new)
  | failed =>
      constructor
      · exact holds.posting
      · exact holds.queued
      · exact holds.written
  | drop => exact holds.congr (fun _ => id) rfl
  | update write front rest idle updates queued =>
      constructor
      · exact holds.posting
      · intro event member
        have inRest : event ∈ rest.flatMap Prod.fst → P event := by
          intro later
          apply holds.queued
          rw [Delivery.queued, queued, List.flatMap_cons]
          exact List.mem_append_right _ later
        simp only [Delivery.queued, Delivery.afterBlockingWrite] at member
        split at member
        · rw [List.flatMap_cons] at member
          rcases List.mem_append.mp member with remaining | later
          · exact inQueue front rest queued event (List.mem_of_mem_drop remaining)
          · exact inRest later
        · exact inRest member
      · exact holds.written

theorem holds_wakelock {event : WakelockEvent} (holds : Holds P state)
    (step : WakelockTransition state event after) : Holds P after := by
  cases step with
  | leave => exact holds.congr (fun _ => id) rfl
  | timeout => exact holds.congr (fun _ => id) rfl
  | startRead => exact holds.congr (fun _ => id) rfl
  | readNothing => exact holds.congr (fun _ => id) rfl
  | acknowledge => exact holds.congr (fun _ => id) rfl

theorem holds_control {event : ControlEvent} (holds : Holds P state)
    (step : ControlTransition state event after) : Holds P after := by
  cases step with
  | stop => exact holds.congr (fun _ => id) rfl
  | stopped => exact holds.congr (fun _ => id) rfl
  | joined => exact holds.congr (fun _ => id) rfl
  | reset => exact holds.congr (fun _ => id) rfl
  | disabled => exact holds.congr (fun _ => id) rfl
  | clear =>
      constructor
      · exact holds.posting
      · exact fun _ member => absurd member List.not_mem_nil
      · exact holds.written
  | replace =>
      constructor
      · exact holds.posting
      · exact holds.queued
      · exact fun _ member => absurd member List.not_mem_nil
  | subHals => exact holds.congr (fun _ => id) rfl
  | run => exact holds.congr (fun _ => id) rfl
  | spawnPending => exact holds.congr (fun _ => id) rfl
  | spawnWakelock => exact holds.congr (fun _ => id) rfl

/-- Nothing is accepted, queued or written that was not part of a waiting call. -/
theorem holds_step {event : ProxyEvent π} (holds : Holds P state)
    (awaits : state.mThreadsRun = true → Awaits P state)
    (step : proxyStep mSubHalIndex state event = some after) : Holds P after := by
  cases event with
  | object event => exact holds_object holds (objectStep_transition step)
  | post event => exact holds_post holds awaits (postStep_transition step)
  | pending event => exact holds_pending holds (pendingStep_transition step)
  | wakelock event => exact holds_wakelock holds (wakelockStep_transition step)
  | control event => exact holds_control holds (controlStep_transition step)

/-- A new FMQ starts out empty, and so does everything that feeds it. -/
theorem holds_replaceQueues (session : SessionInvariant state)
    (step : controlStep state .replaceQueues = some after) : Holds P after := by
  cases controlStep_transition step with
  | stop event request free idle stops => simp at stops
  | replace request replacing =>
      have idle := session.idle_of_control (by rw [replacing]; rfl)
      have empty := (session.cleared request replacing).1
      constructor
      · simp [idle, PostPhase.events]
      · simp [Delivery.queued, Delivery.install, empty]
      · simp [Delivery.install]

/-! ## Calls -/

/-- A waiting call has been waiting or is the one that is made. -/
theorem waiting_step {event : ProxyEvent π}
    (step : proxyStep mSubHalIndex state event = some after) (call : PostCall mSensors π)
    (waits : call ∈ after.waiting) :
    call ∈ state.waiting ∨
      ∃ events object, event = .post (.call events object) ∧
        call.events = events.map (Event.withSubHalIndex · mSubHalIndex) := by
  cases event with
  | object event => cases objectStep_transition step <;> exact .inl waits
  | post event =>
      cases postStep_transition step with
      | queued events object new live running processed =>
          rcases List.mem_append.mp waits with old | new
          · exact .inl old
          · rw [List.mem_singleton.mp new]
            exact .inr ⟨events, object, rfl, processed⟩
      | late => exact .inl (List.mem_of_mem_eraseIdx waits)
      | refused => exact .inl (List.mem_of_mem_eraseIdx waits)
      | accepted => exact .inl (List.mem_of_mem_eraseIdx waits)
      | ignored | startWrite | skipWrite | wrote | unwritten | complete | push | overflow =>
          exact .inl waits
  | pending event => cases pendingStep_transition step <;> exact .inl waits
  | wakelock event => cases wakelockStep_transition step <;> exact .inl waits
  | control event => cases controlStep_transition step <;> exact .inl waits

/-- While nobody posts, the proxy's own steps do not make anyone post. -/
theorem quiet_step {event : ProxyEvent π}
    (step : proxyStep mSubHalIndex state event = some after) (nobody : state.waiting = [])
    (idle : state.post = .idle) (notCall : ∀ events object, event ≠ .post (.call events object)) :
    after.waiting = [] ∧ after.post = .idle := by
  have noCall : ∀ index : Nat, state.waiting[index]? = none := by simp [nobody]
  cases event with
  | object event => cases objectStep_transition step <;> exact ⟨nobody, idle⟩
  | post event =>
      cases postStep_transition step with
      | ignored => exact ⟨nobody, idle⟩
      | queued events object => exact absurd rfl (notCall events object)
      | late index acquired now call _ waits => exact absurd waits (by simp [noCall])
      | refused index acquired now call refs _ waits => exact absurd waits (by simp [noCall])
      | accepted index acquired now call refs _ waits => exact absurd waits (by simp [noCall])
      | startWrite available numToWrite call holder => exact absurd holder (by simp [idle])
      | skipWrite available call holder => exact absurd holder (by simp [idle])
      | wrote call numToWrite holder => exact absurd holder (by simp [idle])
      | unwritten call numToWrite holder => exact absurd holder (by simp [idle])
      | complete call numToWrite holder => exact absurd holder (by simp [idle])
      | push call numToWrite wakeupsLeft holder => exact absurd holder (by simp [idle])
      | overflow call numToWrite wakeupsLeft holder => exact absurd holder (by simp [idle])
  | pending event => cases pendingStep_transition step <;> exact ⟨nobody, idle⟩
  | wakelock event => cases wakelockStep_transition step <;> exact ⟨nobody, idle⟩
  | control event => cases controlStep_transition step <;> exact ⟨nobody, idle⟩

/-! ## Opening a session -/

/-- A session runs, or `initialize` is about to start it. -/
def ProxyState.Opened (state : ProxyState mSensors π) : Prop :=
  state.mThreadsRun = true ∨ state.control = .starting

/-- Only the last stage of `initialize` sets `mThreadsRun`. -/
theorem running_step {event : ProxyEvent π}
    (step : proxyStep mSubHalIndex state event = some after)
    (running : after.mThreadsRun = true) :
    state.mThreadsRun = true ∨ event = .control .run ∧ state.control = .starting := by
  cases event with
  | object event => cases objectStep_transition step <;> exact .inl running
  | post event => cases postStep_transition step <;> exact .inl running
  | pending event => cases pendingStep_transition step <;> exact .inl running
  | wakelock event => cases wakelockStep_transition step <;> exact .inl running
  | control event =>
      cases controlStep_transition step with
      | stop => contradiction
      | run starting => exact .inr ⟨rfl, starting⟩
      | stopped | joined | reset | disabled | clear | replace | subHals | spawnPending
      | spawnWakelock => exact .inl running

/-- Only the success of the sub-HALs makes `initialize` start a session. -/
theorem starting_step {event : ProxyEvent π}
    (step : proxyStep mSubHalIndex state event = some after)
    (starting : after.control = .starting) :
    state.control = .starting ∨ event = .control (.initializeSubHals true) := by
  cases event with
  | object event => cases objectStep_transition step <;> exact .inl starting
  | post event => cases postStep_transition step <;> exact .inl starting
  | pending event => cases pendingStep_transition step <;> exact .inl starting
  | wakelock event => cases wakelockStep_transition step <;> exact .inl starting
  | control event =>
      cases controlStep_transition step with
      | replace request =>
          dsimp only at starting
          split at starting <;> contradiction
      | subHals success =>
          cases success with
          | true => exact .inr rfl
          | false => contradiction
      | stop | stopped | joined | reset | disabled | clear | run | spawnPending
      | spawnWakelock => contradiction

/-- A session is opened by the success of the sub-HALs alone. -/
theorem opened_step {event : ProxyEvent π}
    (step : proxyStep mSubHalIndex state event = some after) (opened : after.Opened) :
    state.Opened ∨ event = .control (.initializeSubHals true) := by
  rcases opened with running | starting
  · rcases running_step step running with already | ⟨-, starting⟩
    · exact .inl (.inl already)
    · exact .inl (.inr starting)
  · exact (starting_step step starting).imp_left .inr

/-- No session is open while `initialize` replaces the queues. -/
theorem not_opened_of_replaceQueues (session : SessionInvariant state)
    (step : controlStep state .replaceQueues = some after) : ¬after.Opened := by
  cases controlStep_transition step with
  | stop event request free idle stops => simp at stops
  | replace request replacing =>
      rintro (running | starting)
      · exact session.control_of_running running request replacing
      · dsimp only at starting
        split at starting <;> contradiction

/-- No session is open while `initialize` waits for the sub-HALs. -/
theorem not_opened_of_initializeSubHals {success : Bool} (session : SessionInvariant state)
    (step : controlStep state (.initializeSubHals success) = some after) : ¬state.Opened := by
  cases controlStep_transition step with
  | stop event request free idle stops => simp at stops
  | subHals success initializing =>
      rintro (running | starting)
      · simpa [initializing] using session.running running
      · simp [initializing] at starting

end Steps

end K50sv1.Sensors.HalProxy
