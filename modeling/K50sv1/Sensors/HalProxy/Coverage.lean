import K50sv1.Sensors.HalProxy.InFlight

/-!
# Coverage of wake-up events across timeouts

When the framework is slow the wake-lock worker gives all references up at once.  A
`ScopedWakelock` knows from its time stamp that its reference has gone with them, but
an acknowledgement, a failed blocking write and an overflow carry no time: what they
give back for events accepted before the reset is taken from the references of events
accepted after it.  And an event that was accepted before the reset may be queued, or
written from the queue, after it: it has no reference any more.

The count is exact as long as nothing is given back at the expense of later events.  If
besides nothing is queued or written without its reference, the wake lock covers every
wake-up event that was queued or written since the last reset.
-/

namespace K50sv1.Sensors.HalProxy

open K50sv1.Transition K50sv1.Data

variable {mSensors : SensorMap} {π : Type}

/-! ## Steps -/

structure CoverInvariant (state : CoverState mSensors π) : Prop where
  session : SessionInvariant state.proxy
  queue : QueueInvariant state.proxy
  dates : DateInvariant state.proxy
  tracks : state.inFlight.Tracks state.proxy
  exact : state.pool.Exact

section Steps

variable {mSubHalIndex : Nat} {state : CoverState mSensors π} {proxy : ProxyState mSensors π}

/-- A new object takes a reference if it is locked. -/
theorem moves_create {lock acquired : Bool} {now : Nat} {wakelock : ScopedWakelock}
    {refs : RefCounter} (later : state.proxy.refs.clock < now)
    (created : createScopedWakelock state.proxy.refs state.proxy.mThreadsRun lock acquired now =
      (wakelock, refs)) :
    RefPool.Moves state.pool
      (CoverState.mk { state.proxy with
        refs, wakelocks := state.proxy.wakelocks ++ [some wakelock] } state.inFlight).pool := by
  obtain ⟨between, count, dated⟩ := createScopedWakelock_spec later created
  have locked := lockedWakelocks_create state.proxy wakelock refs
  by_cases isLocked : wakelock.mLocked = true
  · have generation := (dated isLocked).2.2
    rw [ScopedWakelock.current, if_pos ⟨isLocked, generation⟩] at count
    rw [ScopedWakelock.reference, if_pos isLocked] at locked
    apply CoverState.moves_take count between
    simp only [CoverState.pool, locked, Multiset.map_add, Multiset.map_singleton, generation,
      Multiset.replicate_one, add_assoc]
  · rw [ScopedWakelock.current, if_neg (fun both => isLocked both.1)] at count
    rw [ScopedWakelock.reference, if_neg isLocked, Multiset.zero_add] at locked
    exact CoverState.moves_keep count between locked rfl

/-- An object gives its reference back, unless a reset has done so. -/
theorem CoverInvariant.release (invariant : CoverInvariant state) {wakelock : ScopedWakelock}
    (refs : proxy.refs = releaseScopedWakelock state.proxy.refs wakelock)
    (locked : state.proxy.lockedWakelocks = wakelock.reference + proxy.lockedWakelocks) :
    RefPool.Moves state.pool (CoverState.mk proxy state.inFlight).pool := by
  have dated : wakelock.mLocked = true → Dated state.proxy.refs wakelock := by
    intro isLocked
    apply invariant.dates.dated
    rw [locked]
    exact Multiset.mem_add.mpr (.inl (by simp [ScopedWakelock.reference, isLocked]))
  have count := releaseScopedWakelock_count dated
  have split : state.pool.holders = wakelock.reference.map ScopedWakelock.generation +
      (CoverState.mk proxy state.inFlight).pool.holders := by
    simp only [CoverState.pool, locked, Multiset.map_add, add_assoc]
  have owned : (wakelock.reference.map ScopedWakelock.generation).count state.pool.resets =
      wakelock.current state.proxy.refs := by
    unfold CoverState.pool ScopedWakelock.reference ScopedWakelock.current
    by_cases isLocked : wakelock.mLocked = true
    · simp [isLocked, Multiset.count_singleton, eq_comm]
    · simp [isLocked]
  have next : (CoverState.mk proxy state.inFlight).pool =
      { state.pool with
        count := state.pool.count - wakelock.current state.proxy.refs
        holders := (CoverState.mk proxy state.inFlight).pool.holders } := by
    simp only [CoverState.pool, refs, count, (later_release _ _).1]
  rw [next]
  apply RefPool.Moves.giveBack _ _ _ split
  have counted := invariant.exact.counted
  rw [split, Multiset.count_add] at counted
  omega

theorem CoverInvariant.object {event : ObjectEvent} (invariant : CoverInvariant state)
    (reading : timely state.proxy (.object event) = true)
    (step : ObjectTransition state.proxy event proxy) :
    state.inFlight.Tracks proxy ∧ state.Follows (.object event) ⟨proxy, state.inFlight⟩ := by
  obtain ⟨posted, queued, written⟩ := invariant.tracks
  cases step with
  | create lock acquired now wakelock refs created =>
      exact ⟨⟨posted, queued, written⟩,
        .inl ⟨rfl, moves_create (by simpa [timely] using reading) created⟩⟩
  | moveConstruct source wakelock live =>
      exact ⟨⟨posted, queued, written⟩,
        .keep rfl rfl (later_refl _) (lockedWakelocks_moveConstruct live) rfl⟩
  | selfAssign => exact ⟨⟨posted, queued, written⟩, .inl ⟨rfl, .refl⟩⟩
  | moveAssign target source old new distinct oldLive newLive =>
      exact ⟨⟨posted, queued, written⟩, .inl ⟨rfl,
        invariant.release rfl (lockedWakelocks_moveAssign distinct oldLive newLive _)⟩⟩
  | destroy object wakelock live =>
      exact ⟨⟨posted, queued, written⟩,
        .inl ⟨rfl, invariant.release rfl (lockedWakelocks_destroy live _)⟩⟩

/-- A post that returns without queueing anything has nothing left or no room for it. -/
theorem overflows_or_nothingLeft {state after : ProxyState mSensors π}
    {call : PostCall mSensors π} {numToWrite : Nat} (holds : state.post = .leftover call numToWrite)
    (step : postStep mSubHalIndex state .finish = some after)
    (same : after.delivery.mPendingWriteEventsQueue = state.delivery.mPendingWriteEventsQueue) :
    state.overflows = true ∨ call.events.drop numToWrite = [] := by
  by_contra fits
  obtain ⟨fits, some⟩ := not_or.mp fits
  have some : (call.events.drop numToWrite).length ≠ 0 := mt List.length_eq_zero_iff.mp some
  have fits : state.delivery.mSizePendingWriteEventsQueue +
      (call.events.drop numToWrite).length ≤ maxSizePendingWriteEventsQueue := by
    simpa [ProxyState.overflows, holds] using fits
  simp only [postStep, holds, countNumWakeupEvents_of_listed call.listed, if_neg some] at step
  split at step
  · obtain rfl := Option.some.inj step
    simp [Delivery.push, ProxyState.returnCall] at same
  · contradiction

/-- A call of which nothing is left changes nothing when it returns. -/
theorem InFlight.record_finish_of_nil (inFlight : InFlight) (state after : ProxyState mSensors π)
    (none : inFlight.posted = []) :
    inFlight.record state after (.post .finish) = inFlight := by
  obtain ⟨posted, queued, written⟩ := inFlight
  obtain rfl : posted = [] := none
  simp [InFlight.record, InFlight.overflow, InFlight.push, place]

/-- The call inside the mutex returns. -/
theorem CoverInvariant.finish (invariant : CoverInvariant state)
    (step : postStep mSubHalIndex state.proxy .finish = some proxy) :
    (state.inFlight.record state.proxy proxy (.post .finish)).Tracks proxy ∧
      state.Follows (.post .finish) (state.next (.post .finish) proxy) := by
  have transition := postStep_transition step
  have locked := lockedWakelocks_post transition
  have later := later_post rfl transition
  have unchanged := state.inFlight.record_finish_of_nil state.proxy proxy
  have nothing : state.inFlight.posted = [] → state.returned (.post .finish) = [] := by
    intro none
    simp [CoverState.returned, none]
  obtain ⟨posted, queued, written⟩ := invariant.tracks
  cases transition with
  | complete call numToWrite holds nothingLeft =>
      rw [postedWakeUps_of_leftover holds, nothingLeft] at posted
      have none := List.length_eq_zero_iff.mp posted
      rw [CoverState.next, unchanged none]
      exact ⟨⟨posted, queued, written⟩, .keep (nothing none) rfl later locked rfl⟩
  | push call numToWrite wakeupsLeft holds left fits =>
      rw [postedWakeUps_of_leftover holds] at posted
      have room : state.proxy.overflows = false := by
        simpa [ProxyState.overflows, holds] using fits
      simp only [CoverState.next, InFlight.record, room, Bool.false_eq_true, if_false]
      constructor
      · refine ⟨rfl, ?_, written⟩
        change (state.inFlight.queued ++ place state.proxy.refs.resets
          state.inFlight.posted).length + state.proxy.settledWakeUps =
            (state.proxy.delivery.push _ _).queued.countP (isWakeUp mSensors)
        rw [Delivery.queued_push, List.countP_append, ← posted, List.length_append, length_place]
        change _ = state.proxy.queuedWakeUps + _
        omega
      · exact .keep (by simp [CoverState.returned, room]) rfl later locked
          (InFlight.stamps_push _ _)
  | overflow call numToWrite wakeupsLeft holds left =>
      rw [postedWakeUps_of_leftover holds] at posted
      have count : (decrementRefCountAndMaybeReleaseWakelock state.proxy.refs wakeupsLeft
          (-1)).mWakelockRefCount =
            state.proxy.refs.mWakelockRefCount - state.inFlight.posted.length := by
        rw [decrement_untimed_count, left, posted]
      rcases overflows_or_nothingLeft holds step rfl with overflows | nothingLeft
      · simp only [CoverState.next, CoverState.Follows, InFlight.record, CoverState.returned,
          overflows, if_true]
        exact ⟨⟨rfl, queued, written⟩, .inr ⟨count, later, locked, InFlight.stamps_overflow _⟩⟩
      · rw [nothingLeft] at posted
        have none := List.length_eq_zero_iff.mp posted
        rw [CoverState.next, unchanged none]
        rw [posted] at count
        exact ⟨⟨posted, queued, written⟩, .keep (nothing none) count later locked rfl⟩

/-- A call passes the checks: its wake-up events take the references. -/
theorem CoverInvariant.accept {index now : Nat} {acquired : Bool} {call : PostCall mSensors π}
    {refs : RefCounter} {delivery : Delivery π} (invariant : CoverInvariant state)
    (reading : state.proxy.refs.clock < now) (idle : state.proxy.post = .idle)
    (waits : state.proxy.waiting[index]? = some call)
    (taken : takeReferences state.proxy call acquired now = (true, refs)) :
    RefPool.Moves state.pool
      (CoverState.mk { state.proxy with
        refs
        waiting := state.proxy.waiting.eraseIdx index
        post := .accepted call
        delivery } (state.inFlight.accept call.numWakeupEvents state.proxy.refs.resets)).pool := by
  obtain ⟨between, count⟩ := takeReferences_spec reading taken
  have locked := lockedWakelocks_accepted idle waits refs delivery
  have posted := invariant.tracks.posted
  rw [postedWakeUps_of_idle idle] at posted
  have none : state.inFlight.posted = [] := List.length_eq_zero_iff.mp posted
  refine CoverState.moves_take count between ?_
  simp only [CoverState.pool, locked, InFlight.stamps, InFlight.accept, none, Multiset.coe_nil,
    zero_add, Multiset.coe_replicate]
  ac_rfl

theorem CoverInvariant.post {event : PostEvent π} (invariant : CoverInvariant state)
    (reading : timely state.proxy (.post event) = true)
    (step : postStep mSubHalIndex state.proxy event = some proxy) :
    (state.inFlight.record state.proxy proxy (.post event)).Tracks proxy ∧
      state.Follows (.post event) (state.next (.post event) proxy) := by
  have transition := postStep_transition step
  have locked := lockedWakelocks_post transition
  have later := later_post reading transition
  obtain ⟨posted, queued, written⟩ := invariant.tracks
  cases transition with
  | ignored => exact ⟨⟨posted, queued, written⟩, .inl ⟨rfl, .refl⟩⟩
  | queued =>
      exact ⟨⟨posted, queued, written⟩, .keep rfl rfl later locked rfl⟩
  | late index acquired now call idle =>
      rw [postedWakeUps_of_idle idle] at posted
      exact ⟨⟨posted, queued, written⟩, .keep rfl rfl later locked rfl⟩
  | refused index acquired now call refs idle waits running taken =>
      obtain ⟨-, count⟩ := takeReferences_spec (by simpa [timely] using reading) taken
      rw [postedWakeUps_of_idle idle] at posted
      exact ⟨⟨posted, queued, written⟩, .keep rfl count later locked rfl⟩
  | accepted index acquired now call refs idle waits running taken =>
      constructor
      · refine ⟨?_, queued, written⟩
        change (List.replicate call.numWakeupEvents _).length =
          call.events.countP (isWakeUp mSensors)
        rw [List.length_replicate, call.numWakeupEvents_eq]
      · exact .inl ⟨rfl, invariant.accept (by simpa [timely] using reading) idle waits taken⟩
  | startWrite available numToWrite call holds | skipWrite available call holds
  | unwritten call numToWrite holds =>
      rw [ProxyState.postedWakeUps, holds] at posted
      exact ⟨⟨posted, queued, written⟩, .keep rfl rfl later locked rfl⟩
  | wrote call numToWrite holds =>
      rw [postedWakeUps_of_writing holds] at posted
      simp only [CoverState.next, InFlight.record, holds]
      constructor
      · constructor
        · change (state.inFlight.posted.drop _).length =
            (call.events.drop numToWrite).countP (isWakeUp mSensors)
          rw [List.length_drop]
          omega
        · exact queued
        · change (state.inFlight.written ++ place state.proxy.refs.resets
            (state.inFlight.posted.take _)).length + state.proxy.acknowledged =
              (state.proxy.delivery.written ++ call.events.take numToWrite).countP
                (isWakeUp mSensors)
          rw [List.length_append, length_place, List.length_take, List.countP_append]
          change _ = state.proxy.writtenWakeUps + _
          omega
      · exact .keep rfl rfl later locked (InFlight.stamps_write _ _ _)
  | complete | push | overflow => exact invariant.finish step

theorem CoverInvariant.pending {event : PendingEvent} (invariant : CoverInvariant state)
    (step : PendingTransition state.proxy event proxy) :
    (state.inFlight.record state.proxy proxy (.pending event)).Tracks proxy ∧
      state.Follows (.pending event) (state.next (.pending event) proxy) := by
  obtain ⟨posted, queued, written⟩ := invariant.tracks
  cases step with
  | leave idle waits | start idle waits =>
      rw [settledWakeUps_of_not_updating (by simp [waits])] at queued
      exact ⟨⟨posted, queued, written⟩, .keep rfl rfl (later_refl _) rfl rfl⟩
  | wrote write front rest writes inQueue =>
      have round : state.proxy.pendingWorker.write? = some write := by
        simp [writes, PendingWorker.write?]
      have available := invariant.queue.round_le round
      obtain ⟨-, wakeUps⟩ := invariant.queue.round_wakeUps round inQueue
      rw [settledWakeUps_of_not_updating (by simp [writes])] at queued
      simp only [CoverState.next, InFlight.record, writes]
      constructor
      · constructor
        · exact posted
        · change (state.inFlight.queued.drop _).length + write.numWakeupEvents =
            state.proxy.queuedWakeUps
          rw [List.length_drop]
          omega
        · change (state.inFlight.written ++ place state.proxy.refs.resets
            (state.inFlight.front _)).length + state.proxy.acknowledged =
              (state.proxy.delivery.written ++ front.1.take write.numToWrite).countP
                (isWakeUp mSensors)
          rw [List.length_append, length_place, InFlight.length_front, List.countP_append,
            ← wakeUps]
          change _ = state.proxy.writtenWakeUps + _
          omega
      · exact .keep rfl rfl (later_refl _) rfl (InFlight.stamps_writeQueued _ _ _)
  | failed write front rest writes =>
      rw [settledWakeUps_of_not_updating (by simp [writes])] at queued
      exact ⟨⟨posted, queued, written⟩, .keep rfl rfl (later_refl _) rfl rfl⟩
  | drop write drops =>
      have round : state.proxy.pendingWorker.write? = some write := by
        simp [drops, PendingWorker.write?]
      have available := invariant.queue.round_le round
      rw [settledWakeUps_of_not_updating (by simp [drops])] at queued
      have length : (state.inFlight.front write.numWakeupEvents).length =
          write.numWakeupEvents := by
        rw [InFlight.length_front]
        omega
      simp only [CoverState.next, CoverState.Follows, InFlight.record, CoverState.returned, drops]
      constructor
      · refine ⟨posted, ?_, written⟩
        change (state.inFlight.queued.drop _).length + write.numWakeupEvents =
          state.proxy.queuedWakeUps
        rw [List.length_drop]
        omega
      · refine .inr ⟨?_, later_decrement .., rfl, InFlight.stamps_dropQueued _ _⟩
        rw [length]
        exact decrement_untimed_count ..
  | update write front rest idle updates inQueue =>
      have round : state.proxy.pendingWorker.write? = some write := by
        simp [updates, PendingWorker.write?]
      obtain ⟨numToWrite, wakeUps⟩ := invariant.queue.round_wakeUps round inQueue
      have split : state.proxy.queuedWakeUps = write.numWakeupEvents +
          (state.proxy.delivery.queued.drop write.numToWrite).countP (isWakeUp mSensors) := by
        rw [wakeUps, ← invariant.queue.take_queued round inQueue, ← List.countP_append,
          List.take_append_drop]
        rfl
      rw [settledWakeUps_of_updating updates] at queued
      constructor
      · refine ⟨posted, ?_, written⟩
        change state.inFlight.queued.length + 0 =
          (state.proxy.delivery.afterBlockingWrite write front rest).queued.countP
            (isWakeUp mSensors)
        rw [Delivery.queued_afterBlockingWrite inQueue numToWrite]
        omega
      · exact .keep rfl rfl (later_refl _) rfl rfl

theorem CoverInvariant.wakelock {event : WakelockEvent} (invariant : CoverInvariant state)
    (reading : timely state.proxy (.wakelock event) = true)
    (acknowledges : acknowledgesWritten state.proxy (.wakelock event) = true)
    (step : WakelockTransition state.proxy event proxy) :
    (state.inFlight.record state.proxy proxy (.wakelock event)).Tracks proxy ∧
      state.Follows (.wakelock event) (state.next (.wakelock event) proxy) := by
  obtain ⟨posted, queued, written⟩ := invariant.tracks
  cases step with
  | leave now | timeout now later =>
      exact ⟨⟨posted, queued, written⟩,
        .inl ⟨rfl, CoverState.moves_reset (reset_count _ _) rfl rfl rfl⟩⟩
  | startRead now later =>
      simp only [timely, decide_eq_true_eq] at reading
      exact ⟨⟨posted, queued, written⟩, .keep rfl rfl ⟨rfl, rfl, Nat.le_of_lt reading.1⟩ rfl rfl⟩
  | readNothing =>
      exact ⟨⟨posted, queued, written⟩, .keep rfl rfl (later_refl _) rfl rfl⟩
  | acknowledge numWakeLocksProcessed =>
      simp only [acknowledgesWritten, decide_eq_true_eq] at acknowledges
      have length : (state.inFlight.oldest numWakeLocksProcessed).length =
          numWakeLocksProcessed := by
        rw [InFlight.length_oldest]
        omega
      constructor
      · refine ⟨posted, queued, ?_⟩
        change (state.inFlight.written.drop _).length +
          (state.proxy.acknowledged + numWakeLocksProcessed) = state.proxy.writtenWakeUps
        rw [List.length_drop]
        omega
      · refine .inr ⟨?_, later_decrement .., rfl, InFlight.stamps_acknowledge _ _⟩
        rw [CoverState.returned, length]
        exact decrement_untimed_count ..

/-- Events leave with a session whose references have been given up. -/
theorem CoverInvariant.abandon (invariant : CoverInvariant state)
    (closing : state.proxy.closing = true) {leaving : List Nat} {inFlight : InFlight}
    (refs : proxy.refs = state.proxy.refs)
    (locked : proxy.lockedWakelocks = state.proxy.lockedWakelocks)
    (stamps : state.inFlight.stamps = leaving + inFlight.stamps) :
    RefPool.Moves state.pool (CoverState.mk proxy inFlight).pool := by
  have split : state.pool.holders = leaving + (CoverState.mk proxy inFlight).pool.holders := by
    simp only [CoverState.pool, locked, stamps]
    exact add_left_comm ..
  have next : (CoverState.mk proxy inFlight).pool =
      { state.pool with holders := (CoverState.mk proxy inFlight).pool.holders } := by
    simp only [CoverState.pool, refs]
  rw [next]
  exact .leave leaving _ split
    (invariant.exact.deprived (invariant.session.closed closing).2.1 split)

theorem CoverInvariant.control {event : ControlEvent} (invariant : CoverInvariant state)
    (step : ControlTransition state.proxy event proxy) :
    (state.inFlight.record state.proxy proxy (.control event)).Tracks proxy ∧
      state.Follows (.control event) (state.next (.control event) proxy) := by
  obtain ⟨posted, queued, written⟩ := invariant.tracks
  cases step with
  | reset =>
      exact ⟨⟨posted, queued, written⟩,
        .inl ⟨rfl, CoverState.moves_reset (reset_count _ _) rfl rfl rfl⟩⟩
  | clear request clearing =>
      have closing := invariant.session.reset (by simp [clearing])
      have ended := invariant.session.pendingWorker_of_control (by rw [clearing]; rfl)
      have settled : state.proxy.settledWakeUps = 0 :=
        settledWakeUps_of_not_updating (by simp [ended])
      exact ⟨⟨posted, congrArg (0 + ·) settled, written⟩,
        .inl ⟨rfl, invariant.abandon closing rfl rfl (InFlight.stamps_clearQueued _)⟩⟩
  | replace request replacing =>
      have closing := invariant.session.reset (by simp [replacing])
      exact ⟨⟨posted, queued, rfl⟩,
        .inl ⟨rfl, invariant.abandon closing rfl rfl (InFlight.stamps_clearWritten _)⟩⟩
  | stop event request free idle stops =>
      rcases stops with rfl | ⟨-, rfl⟩
      · exact ⟨⟨posted, queued, written⟩, .keep rfl rfl (later_refl _) rfl rfl⟩
      · exact ⟨⟨posted, queued, written⟩, .keep rfl rfl (later_refl _) rfl rfl⟩
  | spawnPending spawning =>
      have ended := invariant.session.pendingWorker_of_control (by rw [spawning]; rfl)
      rw [settledWakeUps_of_not_updating (by simp [ended])] at queued
      exact ⟨⟨posted, queued, written⟩, .keep rfl rfl (later_refl _) rfl rfl⟩
  | stopped | joined | disabled | subHals | run | spawnWakelock =>
      exact ⟨⟨posted, queued, written⟩, .keep rfl rfl (later_refl _) rfl rfl⟩

/-- A step that meets the assumptions. -/
theorem CoverInvariant.timely {after : CoverState mSensors π} {event : ProxyEvent π}
    (invariant : CoverInvariant state)
    (step : timelyStep mSubHalIndex state event = some after) :
    after.inFlight.Tracks after.proxy ∧ state.Follows event after := by
  obtain ⟨⟨reading, acknowledges⟩, step⟩ := restrict_eq_some_iff.mp step
  obtain ⟨proxy, stepped, rfl⟩ := Option.map_eq_some_iff.mp step
  cases event with
  | object event => exact invariant.object reading (objectStep_transition stepped)
  | post event => exact invariant.post reading stepped
  | pending event => exact invariant.pending (pendingStep_transition stepped)
  | wakelock event =>
      exact invariant.wakelock reading acknowledges (wakelockStep_transition stepped)
  | control event => exact invariant.control (controlStep_transition stepped)

theorem coverInvariant_step {after : CoverState mSensors π} {event : ProxyEvent π}
    (invariant : CoverInvariant state)
    (step : sparingStep mSubHalIndex state event = some after) : CoverInvariant after := by
  obtain ⟨spares, timelyStepped⟩ := restrict_eq_some_iff.mp step
  obtain ⟨tracks, follows⟩ := invariant.timely timelyStepped
  obtain ⟨⟨reading, -⟩, coverStepped⟩ := restrict_eq_some_iff.mp timelyStepped
  obtain ⟨proxy, stepped, rfl⟩ := Option.map_eq_some_iff.mp coverStepped
  constructor
  · exact sessionInvariant_step invariant.session stepped
  · exact queueInvariant_step invariant.session invariant.queue stepped
  · exact dateInvariant_step invariant.dates reading stepped
  · exact tracks
  · exact invariant.exact.moves (follows.moves invariant.exact spares)

end Steps

theorem coverInvariant_initial (start reset : Nat) :
    CoverInvariant (CoverState.initial mSensors π start reset) where
  session := sessionInvariant_initial start reset
  queue := queueInvariant_initial start reset
  dates := dateInvariant_initial start reset
  tracks := ⟨rfl, rfl, rfl⟩
  exact := ⟨rfl, fun _ member => absurd member (Multiset.notMem_zero _)⟩

theorem cover_proxy_reachable {mSubHalIndex start reset : Nat} {state : CoverState mSensors π}
    (reachable : Reachable (coverStep mSubHalIndex) (CoverState.initial mSensors π start reset)
      state) :
    Reachable (proxyStep mSubHalIndex) (ProxyState.initial mSensors π start reset)
      state.proxy := by
  apply reachable.simulates CoverState.proxy
  intro state event after step
  obtain ⟨proxy, stepped, rfl⟩ := Option.map_eq_some_iff.mp step
  exact .inr ⟨event, stepped⟩

/-! ## Events without a reference -/

/-- No event was queued or written before its reference was taken. -/
def CoverState.Ordered (state : CoverState mSensors π) : Prop :=
  ∀ stamp ∈ state.inFlight.delivered,
    stamp.taken ≤ stamp.placed ∧ stamp.placed ≤ state.proxy.refs.resets

structure BackedInvariant (state : CoverState mSensors π) : Prop where
  cover : CoverInvariant state
  ordered : state.Ordered
  backed : ∀ stamp ∈ state.inFlight.delivered,
    stamp.placed = state.proxy.refs.resets → stamp.taken = state.proxy.refs.resets

section Placing

variable {mSubHalIndex : Nat} {state after : CoverState mSensors π} {event : ProxyEvent π}

theorem CoverInvariant.ordered (invariant : CoverInvariant state) (ordered : state.Ordered)
    (step : timelyStep mSubHalIndex state event = some after) : after.Ordered := by
  have later := (invariant.timely step).2.resets_le
  obtain ⟨-, step⟩ := restrict_eq_some_iff.mp step
  obtain ⟨proxy, -, rfl⟩ := Option.map_eq_some_iff.mp step
  intro stamp member
  rcases mem_delivered_record member with old | ⟨new, placed⟩
  · exact ⟨(ordered stamp old).1, (ordered stamp old).2.trans later⟩
  · have taken : stamp.taken ≤ state.proxy.refs.resets :=
      invariant.exact.past _ (Multiset.mem_add.mpr (.inr (mem_stamps_of_placing new)))
    exact ⟨placed ▸ taken, placed ▸ later⟩

theorem backedInvariant_step (invariant : BackedInvariant state)
    (step : backedStep mSubHalIndex state event = some after) : BackedInvariant after := by
  obtain ⟨backs, sparingStepped⟩ := restrict_eq_some_iff.mp step
  have timelyStepped := (restrict_eq_some_iff.mp sparingStepped).2
  have later := (invariant.cover.timely timelyStepped).2.resets_le
  refine ⟨coverInvariant_step invariant.cover sparingStepped,
    invariant.cover.ordered invariant.ordered timelyStepped, ?_⟩
  obtain ⟨proxy, -, rfl⟩ :=
    Option.map_eq_some_iff.mp (restrict_eq_some_iff.mp timelyStepped).2
  intro stamp member present
  rcases mem_delivered_record member with old | ⟨new, placed⟩
  · -- the step was no reset, since the event came to its place after the last one
    have bound := (invariant.ordered stamp old).2
    have same : stamp.placed = state.proxy.refs.resets :=
      Nat.le_antisymm bound (present ▸ later)
    exact (invariant.backed stamp old same).trans (same.symm.trans present)
  · have owned : stamp.taken = state.proxy.refs.resets :=
      of_decide_eq_true (List.all_eq_true.mp backs _ new)
    exact owned.trans (placed.symm.trans present)

end Placing

theorem backedInvariant_run {mSubHalIndex start reset : Nat} {history : List (ProxyEvent π)}
    {state : CoverState mSensors π}
    (run : Runs (backedStep mSubHalIndex) (CoverState.initial mSensors π start reset) history
      state) : BackedInvariant state := by
  apply run.invariant
  · exact ⟨coverInvariant_initial start reset, fun _ member => absurd member List.not_mem_nil,
      fun _ member => absurd member List.not_mem_nil⟩
  · intro state event after invariant step
    exact backedInvariant_step invariant step

/-! ## Results -/

/-- While a wake-up event queued or written since the last reset is neither acknowledged
nor dropped, the count is positive and the wake lock is held. -/
def CoverState.Covered (state : CoverState mSensors π) : Prop :=
  (∃ stamp ∈ state.inFlight.delivered, stamp.placed = state.proxy.refs.resets) →
    0 < state.proxy.refs.mWakelockRefCount ∧ Runs kernelStep false state.proxy.refs.kernel true

/-- Coverage across timeouts.  Clock readings increase, the framework acknowledges each
delivered wake-up event at most once and in delivery order, and there is any number of
timeouts.  In every such run in which no acknowledgement, failed blocking write or overflow
takes more from the count than belongs to events accepted since the last reset, and no event
is queued or written after a reset has taken its reference, the wake lock covers every event
that was queued or written since the last reset. -/
theorem wakelock_coverage {mSubHalIndex start reset : Nat} {history : List (ProxyEvent π)}
    {state : CoverState mSensors π}
    (run : Runs (backedStep mSubHalIndex) (CoverState.initial mSensors π start reset) history
      state) :
    state.inFlight.Tracks state.proxy ∧ state.Covered := by
  have invariant := backedInvariant_run run
  have kernel := reachable_kernelInvariant
    (cover_proxy_reachable run.of_restrict.of_restrict.of_restrict.reachable)
  constructor
  · exact invariant.cover.tracks
  · rintro ⟨stamp, member, present⟩
    have owner := invariant.backed stamp member present
    have positive : 0 < state.proxy.refs.mWakelockRefCount := by
      have counted : state.proxy.refs.mWakelockRefCount =
          state.pool.holders.count state.proxy.refs.resets := invariant.cover.exact.counted
      rw [counted]
      apply Multiset.count_pos.mpr
      simp only [CoverState.pool, InFlight.stamps, Multiset.mem_add, Multiset.mem_coe, ← owner]
      rcases List.mem_append.mp member with queued | written
      · exact .inr (.inl (.inr (List.mem_map_of_mem queued)))
      · exact .inr (.inr (List.mem_map_of_mem written))
    unfold KernelInvariant at kernel
    rw [decide_eq_true positive] at kernel
    exact ⟨positive, kernel⟩

section Overdrawn

variable {mSubHalIndex : Nat} {state after : CoverState mSensors π} {event : ProxyEvent π}

/-- A step that queues or writes something is no reset. -/
theorem resets_of_placing {taken : Nat} (member : taken ∈ state.placing event)
    (step : timelyStep mSubHalIndex state event = some after) :
    after.proxy.refs.resets = state.proxy.refs.resets := by
  obtain ⟨⟨reading, -⟩, step⟩ := restrict_eq_some_iff.mp step
  obtain ⟨proxy, stepped, rfl⟩ := Option.map_eq_some_iff.mp step
  cases event with
  | post event => exact (later_post reading (postStep_transition stepped)).1
  | pending event =>
      cases pendingStep_transition stepped with
      | wrote => rfl
      | leave | start | failed | drop | update => exact absurd member List.not_mem_nil
  | object event | wakelock event | control event => exact absurd member List.not_mem_nil

theorem CoverState.Ordered.placed_of_taken (ordered : state.Ordered) {stamp : Stamp}
    (member : stamp ∈ state.inFlight.delivered)
    (taken : decide (stamp.taken = state.proxy.refs.resets) = true) :
    decide (stamp.placed = state.proxy.refs.resets) = true := by
  have bounds := ordered stamp member
  have taken := of_decide_eq_true taken
  exact decide_eq_true (by omega)

/-- Every owner among the events has come to its place since the last reset. -/
theorem CoverState.Ordered.count_stamps_le (ordered : state.Ordered) :
    state.inFlight.stamps.count state.proxy.refs.resets ≤
      state.inFlight.claims state.proxy.refs.resets := by
  rw [InFlight.count_stamps, InFlight.claims]
  exact Nat.add_le_add_left
    (List.countP_mono_left fun _ member => ordered.placed_of_taken member) _

/-- An event that came to its place since the last reset without a reference is not among
the owners. -/
theorem CoverState.Ordered.count_stamps_lt (ordered : state.Ordered) {stamp : Stamp}
    (member : stamp ∈ state.inFlight.delivered) (placed : stamp.placed = state.proxy.refs.resets)
    (orphan : stamp.taken ≠ state.proxy.refs.resets) :
    state.inFlight.stamps.count state.proxy.refs.resets <
      state.inFlight.claims state.proxy.refs.resets := by
  rw [InFlight.count_stamps, InFlight.claims]
  apply Nat.add_lt_add_left
  obtain ⟨before, rest, split⟩ := List.append_of_mem member
  have owners (part : List Stamp) (inside : part ⊆ state.inFlight.delivered) :
      (part.countP fun stamp => stamp.taken = state.proxy.refs.resets) ≤
        part.countP fun stamp => stamp.placed = state.proxy.refs.resets :=
    List.countP_mono_left fun _ member => ordered.placed_of_taken (inside member)
  have first := owners before (by rw [split]; exact List.subset_append_left _ _)
  have last := owners rest (by
    rw [split]
    exact fun _ member => List.mem_append_right _ (List.mem_cons_of_mem _ member))
  rw [split, List.countP_append, List.countP_append,
    List.countP_cons_of_neg (by simpa using orphan),
    List.countP_cons_of_pos (by simpa using placed)]
  omega

end Overdrawn

/-- The first step that breaks the condition leaves fewer references than there are locked
objects since the last reset and events accepted, queued or written since then. -/
theorem overdrawn_of_breaking {mSubHalIndex start reset : Nat}
    {history : List (ProxyEvent π)} {state after : CoverState mSensors π} {event : ProxyEvent π}
    (run : Runs (backedStep mSubHalIndex) (CoverState.initial mSensors π start reset) history
      state)
    (step : timelyStep mSubHalIndex state event = some after)
    (breaking : sparing state event = false ∨ backed state event = false) :
    after.proxy.refs.mWakelockRefCount <
      after.proxy.lockedSinceReset + after.inFlight.claims after.proxy.refs.resets := by
  have invariant := backedInvariant_run run
  have ordered := invariant.cover.ordered invariant.ordered step
  have follows := (invariant.cover.timely step).2
  rw [lockedSinceReset_eq]
  cases spares : sparing state event with
  | false =>
      have overdrawn := follows.overdrawn invariant.cover.exact spares
      simp only [CoverState.pool, Multiset.count_add] at overdrawn
      exact overdrawn.trans_le (Nat.add_le_add_left ordered.count_stamps_le _)
  | true =>
      have unbacked := breaking.resolve_left (by simp [spares])
      obtain ⟨taken, member, lost⟩ : ∃ taken ∈ state.placing event,
          taken ≠ state.proxy.refs.resets := by
        simpa [backed] using unbacked
      have exact := invariant.cover.exact.moves (follows.moves invariant.cover.exact spares)
      have counted := exact.counted
      simp only [CoverState.pool, Multiset.count_add] at counted
      rw [counted]
      have same := resets_of_placing member step
      obtain ⟨proxy, -, rfl⟩ := Option.map_eq_some_iff.mp (restrict_eq_some_iff.mp step).2
      exact Nat.add_lt_add_left
        (ordered.count_stamps_lt (delivered_of_placing member proxy) same.symm (same ▸ lost)) _

/-- Two wake-up events, one written before a timeout and one after it.  The framework has
acknowledged neither. -/
def slowFramework : List (ProxyEvent Nat) :=
  openSession 10 ++
    [.object (.create true true 20), .post (.call [⟨1#32, 0⟩] 0), .post (.take 0 true 21),
      .post (.measure 2), .post (.wrote true), .post .finish, .object (.destroy 0),
      .object (.destroy 1), .wakelock (.take 30 31), .wakelock (.read none),
      .wakelock (.take 1000000030 1000000031),
      .object (.create true true 1000000040), .post (.call [⟨1#32, 1⟩] 2),
      .post (.take 0 true 1000000041), .post (.measure 1), .post (.wrote true), .post .finish,
      .object (.destroy 2), .object (.destroy 3)]

theorem wakelock_coverage_slowFramework :
    ∃ state : CoverState twoSensors Nat,
      Runs (backedStep 0) (CoverState.initial twoSensors Nat 0 1) slowFramework state ∧
        state.inFlight = ⟨[], [], [⟨1, 1⟩, ⟨2, 2⟩]⟩ ∧ state.proxy.refs.resets = 2 ∧
        state.inFlight.Tracks state.proxy ∧ state.Covered := by
  have enabled : (exec (backedStep 0) (CoverState.initial twoSensors Nat 0 1)
      slowFramework).isSome := rfl
  have run := runs_get enabled
  exact ⟨_, run, rfl, rfl, wakelock_coverage run⟩

/-- The framework acknowledges the first of the two events. -/
def lateAcknowledgement : List (ProxyEvent Nat) :=
  slowFramework ++ [.wakelock (.take 1000000050 1000000051), .wakelock (.read (some 1))]

/-- The acknowledgement of the first event takes the reference of the second: the wake
lock is released while the second event is in the FMQ. -/
theorem lateAcknowledgement_uncovered :
    ∃ state : CoverState twoSensors Nat,
      Runs (timelyStep 0) (CoverState.initial twoSensors Nat 0 1) lateAcknowledgement state ∧
        state.inFlight = ⟨[], [], [⟨2, 2⟩]⟩ ∧ state.proxy.refs.resets = 2 ∧
        state.proxy.refs.mWakelockRefCount = 0 ∧ ¬state.Covered := by
  have enabled : (exec (timelyStep 0) (CoverState.initial twoSensors Nat 0 1)
      lateAcknowledgement).isSome := rfl
  have run := runs_get enabled
  refine ⟨_, run, rfl, rfl, rfl, ?_⟩
  intro covered
  exact absurd (covered ⟨⟨2, 2⟩, List.mem_singleton.mpr rfl, rfl⟩).1 (Nat.lt_irrefl 0)

end K50sv1.Sensors.HalProxy
