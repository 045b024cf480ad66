import K50sv1.Sensors.HalProxy.Delivery
import K50sv1.Sensors.HalProxy.Wakelock

/-!
# Owners of wake-lock references

A reference of the shared wake lock is owned by a locked `ScopedWakelock` or by a
wake-up event on its way to the framework.  This file defines how many of each there
are and shows that the time stored in an object decides whether a reset has taken its
reference away, provided that the clock moves on between two readings.
-/

namespace K50sv1.Sensors.HalProxy

open K50sv1.Transition

variable {mSensors : SensorMap} {π : Type}

/-! ## The figures -/

/-- The locked objects whose reference was taken since the last reset. -/
def ProxyState.lockedSinceReset (state : ProxyState mSensors π) : Nat :=
  state.lockedWakelocks.countP (ScopedWakelock.generation · = state.refs.resets)

/-- The wake-up events written to the FMQ. -/
def ProxyState.writtenWakeUps (state : ProxyState mSensors π) : Nat :=
  state.delivery.written.countP (isWakeUp mSensors)

/-- The wake-up events in the pending queue. -/
def ProxyState.queuedWakeUps (state : ProxyState mSensors π) : Nat :=
  state.delivery.queued.countP (isWakeUp mSensors)

/-- The wake-up events of the call inside the mutex that are neither written nor
queued. -/
def ProxyState.postedWakeUps (state : ProxyState mSensors π) : Nat :=
  state.post.remaining.countP (isWakeUp mSensors)

/-- The wake-up events at the front of the queue whose references have moved on. -/
def ProxyState.settledWakeUps (state : ProxyState mSensors π) : Nat :=
  match state.pendingWorker with
  | .updating write => write.numWakeupEvents
  | _ => 0

theorem postedWakeUps_of_idle {state : ProxyState mSensors π} (idle : state.post = .idle) :
    state.postedWakeUps = 0 := by
  rw [ProxyState.postedWakeUps, idle]
  rfl

theorem postedWakeUps_of_writing {state : ProxyState mSensors π} {call : PostCall mSensors π}
    {numToWrite : Nat} (holds : state.post = .writing call numToWrite) :
    state.postedWakeUps =
      (call.events.take numToWrite).countP (isWakeUp mSensors) +
        (call.events.drop numToWrite).countP (isWakeUp mSensors) := by
  rw [ProxyState.postedWakeUps, holds, PostPhase.remaining, ← List.countP_append,
    List.take_append_drop]

theorem postedWakeUps_of_leftover {state : ProxyState mSensors π} {call : PostCall mSensors π}
    {numToWrite : Nat} (holds : state.post = .leftover call numToWrite) :
    state.postedWakeUps = (call.events.drop numToWrite).countP (isWakeUp mSensors) := by
  rw [ProxyState.postedWakeUps, holds]
  rfl

/-- The round's wake-up events are those at the front of the queue. -/
theorem QueueInvariant.round_wakeUps {state : ProxyState mSensors π}
    (invariant : QueueInvariant state) {write : PendingWrite} {front : List (Event π) × Nat}
    {rest : List (List (Event π) × Nat)} (round : state.pendingWorker.write? = some write)
    (queued : state.delivery.mPendingWriteEventsQueue = front :: rest) :
    write.numToWrite = min front.1.length write.eventQueueSize ∧
      write.numWakeupEvents = (front.1.take write.numToWrite).countP (isWakeUp mSensors) := by
  obtain ⟨front', rest', queue, facts⟩ := invariant.front write round
  obtain ⟨rfl, rfl⟩ := List.cons.inj (queued.symm.trans queue)
  exact facts

theorem settledWakeUps_of_updating {state : ProxyState mSensors π} {write : PendingWrite}
    (updates : state.pendingWorker = .updating write) :
    state.settledWakeUps = write.numWakeupEvents := by
  rw [ProxyState.settledWakeUps, updates]

theorem settledWakeUps_of_not_updating {state : ProxyState mSensors π}
    (other : ∀ write, state.pendingWorker ≠ .updating write) : state.settledWakeUps = 0 := by
  unfold ProxyState.settledWakeUps
  split
  · exact absurd ‹_› (other _)
  · rfl

/-- The front of the queue contains what the worker has taken from it. -/
theorem QueueInvariant.round_le {state : ProxyState mSensors π}
    (invariant : QueueInvariant state) {write : PendingWrite}
    (round : state.pendingWorker.write? = some write) :
    write.numWakeupEvents ≤ state.queuedWakeUps := by
  obtain ⟨front, rest, queue, -, wakeups⟩ := invariant.front write round
  rw [wakeups, ProxyState.queuedWakeUps, Delivery.queued, queue, List.flatMap_cons,
    List.countP_append]
  have part := (List.take_sublist write.numToWrite front.1).countP_le (p := isWakeUp mSensors)
  omega

/-! ## The clock -/

/-- Every reading of the clock is later than the one before.  The wake-lock worker reads
it a second time if it finds a timeout. -/
def timely (state : ProxyState mSensors π) : ProxyEvent π → Bool
  | .object (.create _ _ now) | .post (.take _ _ now) | .control (.reset now) =>
      state.refs.clock < now
  | .wakelock (.take now later) =>
      state.refs.clock < now ∧
        (state.mThreadsRun = true → sharedWakelockDidTimeout state.refs now = true → now < later)
  | _ => true

/-! ## Dates -/

/-- The time stored in a locked object tells on which side of the last reset its
reference was taken. -/
def Dated (refs : RefCounter) (wakelock : ScopedWakelock) : Prop :=
  0 ≤ wakelock.mCreatedAtTimeNs ∧ wakelock.mCreatedAtTimeNs ≤ refs.clock ∧
    ((wakelock.generation = refs.resets ∧
        refs.mWakelockTimeoutResetTime ≤ wakelock.mCreatedAtTimeNs) ∨
      (wakelock.generation < refs.resets ∧
        wakelock.mCreatedAtTimeNs < refs.mWakelockTimeoutResetTime))

structure DateInvariant (state : ProxyState mSensors π) : Prop where
  resetTime : state.refs.mWakelockTimeoutResetTime ≤ state.refs.clock
  dated : ∀ wakelock ∈ state.lockedWakelocks, Dated state.refs wakelock

/-- No reset lies between two states of the counter. -/
def Later (refs after : RefCounter) : Prop :=
  after.resets = refs.resets ∧
    after.mWakelockTimeoutResetTime = refs.mWakelockTimeoutResetTime ∧ refs.clock ≤ after.clock

theorem later_refl (refs : RefCounter) : Later refs refs :=
  ⟨rfl, rfl, Nat.le_refl _⟩

theorem later_decrement (refs : RefCounter) (delta : Nat) (timeoutStart : Int) :
    Later refs (decrementRefCountAndMaybeReleaseWakelock refs delta timeoutStart) := by
  obtain ⟨count, kernel, changed⟩ := decrement_frame refs delta timeoutStart
  rw [changed]
  exact later_refl refs

theorem later_release (refs : RefCounter) (wakelock : ScopedWakelock) :
    Later refs (releaseScopedWakelock refs wakelock) := by
  unfold releaseScopedWakelock
  split
  · exact later_decrement refs 1 _
  · exact later_refl refs

/-- What taking references does to the count and to the dates. -/
theorem increment_spec {refs after : RefCounter} {mThreadsRun acquired success : Bool}
    {delta now : Nat} (later : refs.clock < now)
    (taken : incrementRefCountAndMaybeAcquireWakelock refs mThreadsRun delta acquired now =
      (success, after)) :
    Later refs after ∧
      after.mWakelockRefCount = refs.mWakelockRefCount + (if success then delta else 0) ∧
      (success = true → after.clock = now) := by
  rcases increment_cases refs mThreadsRun delta acquired now with
    same | ⟨-, refused⟩ | ⟨-, increased⟩
  · obtain ⟨rfl, rfl⟩ := Prod.mk.inj (same.symm.trans taken)
    exact ⟨later_refl refs, rfl, by simp⟩
  · obtain ⟨rfl, rfl⟩ := Prod.mk.inj (refused.symm.trans taken)
    exact ⟨⟨rfl, rfl, Nat.le_refl _⟩, rfl, by simp⟩
  · obtain ⟨rfl, rfl⟩ := Prod.mk.inj (increased.symm.trans taken)
    exact ⟨⟨rfl, rfl, Nat.le_of_lt later⟩, rfl, fun _ => rfl⟩

theorem Dated.later {refs after : RefCounter} {wakelock : ScopedWakelock}
    (dated : Dated refs wakelock) (later : Later refs after) : Dated after wakelock := by
  obtain ⟨resets, resetTime, clock⟩ := later
  obtain ⟨positive, past, side⟩ := dated
  unfold Dated
  rw [resets, resetTime]
  exact ⟨positive, by omega, side⟩

/-- A reset makes every reference a stale one. -/
theorem Dated.reset {refs : RefCounter} {wakelock : ScopedWakelock} {now : Nat}
    (dated : Dated refs wakelock) (later : refs.clock < now) :
    Dated (resetSharedWakelock refs now) wakelock := by
  obtain ⟨positive, past, side⟩ := dated
  have generation : wakelock.generation < refs.resets + 1 := by omega
  unfold Dated
  simp only [resetSharedWakelock]
  exact ⟨positive, by omega, .inr ⟨generation, by omega⟩⟩

theorem DateInvariant.later {state after : ProxyState mSensors π}
    (invariant : DateInvariant state) (later : Later state.refs after.refs)
    (locked : ∀ wakelock ∈ after.lockedWakelocks, wakelock ∈ state.lockedWakelocks) :
    DateInvariant after := by
  constructor
  · rw [later.2.1]
    have before := invariant.resetTime
    have clock := later.2.2
    omega
  · intro wakelock member
    exact (invariant.dated wakelock (locked wakelock member)).later later

theorem DateInvariant.reset {state after : ProxyState mSensors π} {now : Nat}
    (invariant : DateInvariant state) (later : state.refs.clock < now)
    (refs : after.refs = resetSharedWakelock state.refs now)
    (locked : after.lockedWakelocks = state.lockedWakelocks) : DateInvariant after := by
  constructor
  · rw [refs]
    exact Int.le_refl _
  · rw [refs, locked]
    exact fun wakelock member => (invariant.dated wakelock member).reset later

/-! ## Taking and giving back -/

/-- The references of an object that no reset has taken away, which is one or none. -/
def ScopedWakelock.current (wakelock : ScopedWakelock) (refs : RefCounter) : Nat :=
  if wakelock.mLocked = true ∧ wakelock.generation = refs.resets then 1 else 0

/-- A destructor gives back what its object owns and nothing else. -/
theorem releaseScopedWakelock_count {refs : RefCounter} {wakelock : ScopedWakelock}
    (dated : wakelock.mLocked = true → Dated refs wakelock) :
    (releaseScopedWakelock refs wakelock).mWakelockRefCount =
      refs.mWakelockRefCount - wakelock.current refs := by
  unfold releaseScopedWakelock ScopedWakelock.current
  by_cases locked : wakelock.mLocked = true
  · obtain ⟨positive, -, side⟩ := dated locked
    simp only [locked, if_true, true_and]
    rcases decrement_cases refs 1 wakelock.mCreatedAtTimeNs with
      ⟨same, zero | stale⟩ | ⟨-, fresh, changed⟩
    · rw [same, zero, Nat.zero_sub]
    · have old : wakelock.generation ≠ refs.resets := by omega
      rw [same, if_neg old, Nat.sub_zero]
    · have new : wakelock.generation = refs.resets := by omega
      rw [changed, if_pos new]
  · simp [locked]

/-- A constructor takes what its object owns. -/
theorem createScopedWakelock_spec {refs after : RefCounter}
    {mThreadsRun lock acquired : Bool} {now : Nat} {wakelock : ScopedWakelock}
    (later : refs.clock < now)
    (created : createScopedWakelock refs mThreadsRun lock acquired now = (wakelock, after)) :
    Later refs after ∧
      after.mWakelockRefCount = refs.mWakelockRefCount + wakelock.current refs ∧
      (wakelock.mLocked = true → wakelock.mCreatedAtTimeNs = now ∧ after.clock = now ∧
        wakelock.generation = refs.resets) := by
  unfold createScopedWakelock at created
  cases lock with
  | false =>
      obtain ⟨rfl, rfl⟩ := Prod.mk.inj created
      exact ⟨later_refl refs, by simp [ScopedWakelock.current], by simp⟩
  | true =>
      simp only [if_true] at created
      split at created
      · rename_i taken
        obtain ⟨between, count, clock⟩ := increment_spec later taken
        obtain ⟨rfl, rfl⟩ := Prod.mk.inj created
        exact ⟨between, by simp [count, between.1, ScopedWakelock.current],
          fun _ => ⟨rfl, clock rfl, between.1⟩⟩
      · rename_i taken
        obtain ⟨between, count, -⟩ := increment_spec later taken
        obtain ⟨rfl, rfl⟩ := Prod.mk.inj created
        exact ⟨between, by simp [count, ScopedWakelock.current], by simp⟩

/-- A call that passes the checks takes one reference for each of its wake-up events;
an unlocked call has none. -/
theorem takeReferences_spec {state : ProxyState mSensors π} {call : PostCall mSensors π}
    {acquired proceed : Bool} {now : Nat} {refs : RefCounter} (later : state.refs.clock < now)
    (taken : takeReferences state call acquired now = (proceed, refs)) :
    Later state.refs refs ∧
      refs.mWakelockRefCount =
        state.refs.mWakelockRefCount + (if proceed then call.numWakeupEvents else 0) := by
  unfold takeReferences at taken
  split at taken
  · obtain ⟨between, count, -⟩ := increment_spec later taken
    exact ⟨between, count⟩
  · rename_i unlocked
    obtain ⟨rfl, rfl⟩ := Prod.mk.inj taken
    have none : call.numWakeupEvents = 0 := by
      by_contra some
      exact unlocked (call.locked (Nat.pos_of_ne_zero some))
    exact ⟨later_refl _, by simp [none]⟩

/-! ## What a step does to the objects -/

section Steps

variable {mSubHalIndex : Nat} {state after : ProxyState mSensors π}

/-- Posting changes the place of a reference at most. -/
theorem lockedWakelocks_post {event : PostEvent π}
    (step : PostTransition mSubHalIndex state event after) :
    after.lockedWakelocks = state.lockedWakelocks := by
  cases step with
  | ignored => rfl
  | queued events object call live => exact lockedWakelocks_call live
  | late index acquired now call idle waits =>
      exact lockedWakelocks_turnedAway idle waits state.refs
  | refused index acquired now call refs idle waits =>
      exact lockedWakelocks_turnedAway idle waits refs
  | accepted index acquired now call refs idle waits =>
      exact lockedWakelocks_accepted idle waits refs _
  | startWrite available numToWrite call holds | skipWrite available call holds
  | wrote call numToWrite holds | unwritten call numToWrite holds =>
      simp only [ProxyState.lockedWakelocks, PostPhase.wakelocks, holds]
  | complete call numToWrite holds =>
      exact lockedWakelocks_returned holds state.refs state.delivery
  | push call numToWrite wakeupsLeft holds => exact lockedWakelocks_returned holds state.refs _
  | overflow call numToWrite wakeupsLeft holds => exact lockedWakelocks_returned holds _ _

theorem later_post {event : PostEvent π} (reading : timely state (.post event) = true)
    (step : PostTransition mSubHalIndex state event after) : Later state.refs after.refs := by
  cases step with
  | refused index acquired now call refs idle waits running taken
  | accepted index acquired now call refs idle waits running taken =>
      exact (takeReferences_spec (by simpa [timely] using reading) taken).1
  | overflow => exact later_decrement ..
  | ignored | queued | late | startWrite | skipWrite | wrote | unwritten | complete | push =>
      exact later_refl _

theorem later_object {event : ObjectEvent} (reading : timely state (.object event) = true)
    (step : ObjectTransition state event after) : Later state.refs after.refs := by
  cases step with
  | create lock acquired now wakelock refs created =>
      exact (createScopedWakelock_spec (by simpa [timely] using reading) created).1
  | moveAssign | destroy => exact later_release ..
  | moveConstruct | selfAssign => exact later_refl _

/-- A new object is dated after the last reset. -/
theorem DateInvariant.create (invariant : DateInvariant state) {lock acquired : Bool}
    {now : Nat} {wakelock : ScopedWakelock} {refs : RefCounter}
    (later : state.refs.clock < now)
    (created : createScopedWakelock state.refs state.mThreadsRun lock acquired now =
      (wakelock, refs)) :
    DateInvariant { state with refs, wakelocks := state.wakelocks ++ [some wakelock] } := by
  obtain ⟨between, -, dated⟩ := createScopedWakelock_spec later created
  have resetTime := invariant.resetTime
  constructor
  · have clock := between.2.2
    simp only [between.2.1]
    omega
  · intro other member
    rw [lockedWakelocks_create] at member
    rcases Multiset.mem_add.mp member with new | old
    · unfold ScopedWakelock.reference at new
      split at new
      · rename_i isLocked
        obtain rfl := Multiset.mem_singleton.mp new
        obtain ⟨time, clock, generation⟩ := dated isLocked
        change Dated refs other
        unfold Dated
        rw [time, clock, generation, between.1, between.2.1]
        exact ⟨by omega, Int.le_refl _, .inl ⟨rfl, by omega⟩⟩
      · exact absurd new (Multiset.notMem_zero other)
    · exact (invariant.dated other old).later between

theorem DateInvariant.release (invariant : DateInvariant state) {wakelock : ScopedWakelock}
    (refs : after.refs = releaseScopedWakelock state.refs wakelock)
    (locked : state.lockedWakelocks = wakelock.reference + after.lockedWakelocks) :
    DateInvariant after := by
  apply invariant.later
  · rw [refs]
    exact later_release state.refs wakelock
  · intro other member
    rw [locked]
    exact Multiset.mem_add.mpr (.inr member)

theorem dateInvariant_object {event : ObjectEvent} (invariant : DateInvariant state)
    (reading : timely state (.object event) = true)
    (step : ObjectTransition state event after) : DateInvariant after := by
  cases step with
  | create lock acquired now wakelock refs created =>
      exact invariant.create (by simpa [timely] using reading) created
  | moveConstruct source wakelock live =>
      exact invariant.later (later_refl _)
        (fun _ member => lockedWakelocks_moveConstruct live ▸ member)
  | selfAssign => exact invariant
  | moveAssign target source old new distinct oldLive newLive =>
      exact invariant.release rfl (lockedWakelocks_moveAssign distinct oldLive newLive _)
  | destroy object wakelock live => exact invariant.release rfl (lockedWakelocks_destroy live _)

theorem dateInvariant_step {event : ProxyEvent π} (invariant : DateInvariant state)
    (reading : timely state event = true)
    (step : proxyStep mSubHalIndex state event = some after) : DateInvariant after := by
  cases event with
  | object event => exact dateInvariant_object invariant reading (objectStep_transition step)
  | post event =>
      have transition := postStep_transition step
      apply invariant.later (later_post reading transition)
      rw [lockedWakelocks_post transition]
      exact fun _ => id
  | pending event =>
      cases pendingStep_transition step with
      | drop => exact invariant.later (later_decrement ..) (fun _ => id)
      | leave | start | wrote | failed | update =>
          exact invariant.later (later_refl _) (fun _ => id)
  | wakelock event =>
      cases wakelockStep_transition step with
      | leave now later =>
          simp only [timely, decide_eq_true_eq] at reading
          exact invariant.reset reading.1 rfl rfl
      | timeout now later waits running held overdue =>
          simp only [timely, decide_eq_true_eq] at reading
          have read : DateInvariant { state with refs := { state.refs with clock := now } } :=
            invariant.later ⟨rfl, rfl, Nat.le_of_lt reading.1⟩ (fun _ => id)
          exact read.reset (reading.2 running overdue) rfl rfl
      | startRead now later =>
          simp only [timely, decide_eq_true_eq] at reading
          exact invariant.later ⟨rfl, rfl, Nat.le_of_lt reading.1⟩ (fun _ => id)
      | readNothing => exact invariant.later (later_refl _) (fun _ => id)
      | acknowledge => exact invariant.later (later_decrement ..) (fun _ => id)
  | control event =>
      cases controlStep_transition step with
      | reset now => exact invariant.reset (by simpa [timely] using reading) rfl rfl
      | stop | stopped | joined | disabled | clear | replace | subHals | run | spawnPending
      | spawnWakelock => exact invariant.later (later_refl _) (fun _ => id)

end Steps

theorem dateInvariant_initial (start reset : Nat) :
    DateInvariant (ProxyState.initial mSensors π start reset) := by
  constructor
  · exact Int.le_refl _
  · intro wakelock member
    exact absurd member (Multiset.notMem_zero wakelock)

end K50sv1.Sensors.HalProxy
