import K50sv1.Sensors.HalProxy.Coverage

/-!
# The balance of the wake-lock references

References are taken in bulk before a batch is split into written, queued and
dropped events, and they are given back by three threads with a subtraction that
saturates.  Under three assumptions about the environment (clock readings strictly
increase, the running worker meets no timeout, the framework acknowledges no more
than was written) the count is exact: no subtraction ever saturates, and no object
gives a reference back twice or after a reset.

Without a timeout every event in flight has been accepted since the last reset, so
that no step gives back more than belongs to such events.
-/

namespace K50sv1.Sensors.HalProxy

open K50sv1.Transition

variable {mSensors : SensorMap} {π : Type}

/-! ## The figures -/

/-- The wake-up events that have a reference of their own. -/
def ProxyState.referredWakeUps (state : ProxyState mSensors π) : Nat :=
  (state.writtenWakeUps - state.acknowledged) + state.queuedWakeUps + state.postedWakeUps

def ProxyState.Balanced (state : ProxyState mSensors π) : Prop :=
  state.refs.mWakelockRefCount + state.settledWakeUps =
    state.lockedSinceReset + state.referredWakeUps

/-! ## The assumptions -/

/-- The events the assumptions allow: every clock reading is later than the one
before, the running wake-lock worker finds no timeout, and acknowledged wake-up
events have been written. -/
def orderly (state : ProxyState mSensors π) : ProxyEvent π → Bool
  | .object (.create _ _ now) => state.refs.clock < now
  | .post (.take _ _ now) => state.refs.clock < now
  | .wakelock (.take now _) =>
      state.refs.clock < now ∧
        ¬(state.mThreadsRun = true ∧ sharedWakelockDidTimeout state.refs now = true)
  | .wakelock (.read (some numWakeLocksProcessed)) =>
      state.acknowledged + numWakeLocksProcessed ≤ state.writtenWakeUps
  | .control (.reset now) => state.refs.clock < now
  | _ => true

/-- The proxy in an environment that meets the assumptions. -/
def orderlyStep (mSubHalIndex : Nat) : Step (ProxyEvent π) (ProxyState mSensors π) :=
  restrict (fun state event => orderly state event = true) (proxyStep mSubHalIndex)

theorem timely_of_orderly {state : ProxyState mSensors π} {event : ProxyEvent π}
    (allowed : orderly state event = true) :
    timely state event = true ∧ acknowledgesWritten state event = true := by
  cases event with
  | object event =>
      cases event with
      | create lock acquired now => exact ⟨allowed, rfl⟩
      | moveConstruct | moveAssign | destroy => exact ⟨rfl, rfl⟩
  | post event =>
      cases event with
      | take index acquired now => exact ⟨allowed, rfl⟩
      | call | measure | wrote | finish => exact ⟨rfl, rfl⟩
  | pending event => exact ⟨rfl, rfl⟩
  | wakelock event =>
      cases event with
      | take now later =>
          obtain ⟨reading, noTimeout⟩ := of_decide_eq_true allowed
          constructor
          · exact decide_eq_true
              ⟨reading, fun running overdue => absurd ⟨running, overdue⟩ noTimeout⟩
          · rfl
      | read processed =>
          cases processed with
          | none => exact ⟨rfl, rfl⟩
          | some numWakeLocksProcessed => exact ⟨rfl, allowed⟩
  | control event =>
      cases event with
      | reset now => exact ⟨allowed, rfl⟩
      | stopThreads | beginInitialize | join | disableAllSensors | clearPending | replaceQueues
      | initializeSubHals | run | spawnPending | spawnWakelock => exact ⟨rfl, rfl⟩

/-! ## Events in flight without a timeout -/

theorem mem_stamps_of_returned {state : CoverState mSensors π} {event : ProxyEvent π}
    {stamp : Nat} (member : stamp ∈ state.returned event) : stamp ∈ state.inFlight.stamps := by
  simp only [InFlight.stamps, Multiset.mem_add, Multiset.mem_coe]
  unfold CoverState.returned at member
  split at member
  · split at member
    · exact .inl (.inl member)
    · exact absurd member List.not_mem_nil
  · split at member
    · exact .inl (.inr (InFlight.front_subset _ _ member))
    · exact absurd member List.not_mem_nil
  · exact .inr (InFlight.oldest_subset _ _ member)
  · exact absurd member List.not_mem_nil

/-- New stamps carry the present number of resets. -/
theorem mem_stamps_record {inFlight : InFlight} {state after : ProxyState mSensors π}
    {event : ProxyEvent π} {stamp : Nat}
    (member : stamp ∈ (inFlight.record state after event).stamps) :
    stamp ∈ inFlight.stamps ∨ stamp = state.refs.resets := by
  -- What is left after some have gone.
  have rest : ∀ {leaving : List Nat} {remaining : InFlight},
      inFlight.stamps = leaving + remaining.stamps → stamp ∈ remaining.stamps →
      stamp ∈ inFlight.stamps ∨ stamp = state.refs.resets := by
    intro leaving remaining split stays
    rw [split]
    exact .inl (Multiset.mem_add.mpr (.inr stays))
  unfold InFlight.record at member
  split at member
  · split at member
    · simp only [InFlight.stamps, InFlight.accept, Multiset.mem_add, Multiset.mem_coe] at member ⊢
      rcases member with (new | queued) | written
      · exact .inr (List.eq_of_mem_replicate new)
      · exact .inl (.inl (.inr queued))
      · exact .inl (.inr written)
    · exact .inl member
  · split at member
    · exact .inl (InFlight.stamps_write .. ▸ member)
    · exact .inl member
  · split at member
    · exact rest (InFlight.stamps_overflow _) member
    · exact .inl (InFlight.stamps_push .. ▸ member)
  · split at member
    · exact .inl (InFlight.stamps_writeQueued .. ▸ member)
    · exact .inl member
  · split at member
    · exact rest (InFlight.stamps_dropQueued _ _) member
    · exact .inl member
  · exact rest (InFlight.stamps_acknowledge _ _) member
  · exact rest (InFlight.stamps_clearQueued _) member
  · exact rest (InFlight.stamps_clearWritten _) member
  · exact .inl member

/-- No reset happens in a session that goes on, and only a new FMQ opens one. -/
theorem resets_of_orderly {mSubHalIndex : Nat} {state after : ProxyState mSensors π}
    {event : ProxyEvent π} (allowed : orderly state event = true)
    (step : proxyStep mSubHalIndex state event = some after) (opened : after.closing = false) :
    state.closing = false ∧ after.refs.resets = state.refs.resets ∨
      event = .control .replaceQueues := by
  have reading := (timely_of_orderly allowed).1
  cases event with
  | object event =>
      have later := later_object reading (objectStep_transition step)
      cases objectStep_transition step <;> exact .inl ⟨opened, later.1⟩
  | post event =>
      have later := later_post reading (postStep_transition step)
      cases postStep_transition step <;> exact .inl ⟨opened, later.1⟩
  | pending event =>
      cases pendingStep_transition step with
      | drop => exact .inl ⟨opened, (later_decrement ..).1⟩
      | leave | start | wrote | failed | update => exact .inl ⟨opened, rfl⟩
  | wakelock event =>
      cases wakelockStep_transition step with
      | leave => contradiction
      | timeout now later waits running held overdue =>
          exact absurd ⟨running, overdue⟩ (of_decide_eq_true allowed).2
      | startRead | readNothing => exact .inl ⟨opened, rfl⟩
      | acknowledge => exact .inl ⟨opened, (later_decrement ..).1⟩
  | control event =>
      cases controlStep_transition step with
      | reset => contradiction
      | replace => exact .inr rfl
      | stop | stopped | joined | disabled | clear | subHals | run | spawnPending
      | spawnWakelock => exact .inl ⟨opened, rfl⟩

/-- The record of a run without a timeout. -/
structure OrderlyInvariant (state : CoverState mSensors π) : Prop where
  cover : CoverInvariant state
  fresh : state.proxy.closing = false →
    ∀ stamp ∈ state.inFlight.stamps, stamp = state.proxy.refs.resets

namespace OrderlyInvariant

variable {mSubHalIndex : Nat} {state : CoverState mSensors π} {event : ProxyEvent π}

/-- While a session lasts every event that is given back for owns a reference, and
afterwards there is nothing to take. -/
theorem sparing (invariant : OrderlyInvariant state) (event : ProxyEvent π) :
    HalProxy.sparing state event = true := by
  apply decide_eq_true
  cases closing : state.proxy.closing with
  | true =>
      rw [(invariant.cover.session.closed closing).2.1, Nat.zero_min]
      exact Nat.zero_le _
  | false =>
      have all : (state.returned event).count state.proxy.refs.resets =
          (state.returned event).length := by
        apply List.count_eq_length.mpr
        intro stamp member
        exact (invariant.fresh closing stamp (mem_stamps_of_returned member)).symm
      rw [all]
      exact Nat.min_le_right ..

/-- Nothing is in flight when a new FMQ is installed. -/
theorem stamps_of_replaceQueues {proxy : ProxyState mSensors π}
    (invariant : CoverInvariant state)
    (step : controlStep state.proxy .replaceQueues = some proxy) :
    (state.next (.control .replaceQueues) proxy).inFlight.stamps = 0 := by
  obtain ⟨posted, queued, -⟩ := invariant.tracks
  cases controlStep_transition step with
  | stop event request free idle stops => simp at stops
  | replace request replacing =>
      have empty := (invariant.session.cleared request replacing).1
      have idle := invariant.session.idle_of_control (by rw [replacing]; rfl)
      rw [postedWakeUps_of_idle idle] at posted
      rw [ProxyState.queuedWakeUps, Delivery.queued, empty] at queued
      have noneQueued := List.length_eq_zero_iff.mp (Nat.add_eq_zero_iff.mp queued).1
      have nonePosted := List.length_eq_zero_iff.mp posted
      simp [CoverState.next, InFlight.record, InFlight.clearWritten, InFlight.stamps, noneQueued,
        nonePosted]

theorem step {after : ProxyState mSensors π} (invariant : OrderlyInvariant state)
    (step : orderlyStep mSubHalIndex state.proxy event = some after) :
    OrderlyInvariant (state.next event after) := by
  obtain ⟨allowed, stepped⟩ := restrict_eq_some_iff.mp step
  constructor
  · apply coverInvariant_step invariant.cover
    apply restrict_eq_some_iff.mpr
    refine ⟨invariant.sparing event, restrict_eq_some_iff.mpr ⟨timely_of_orderly allowed, ?_⟩⟩
    rw [coverStep, stepped]
    rfl
  · intro opened stamp member
    rcases resets_of_orderly allowed stepped opened with ⟨already, same⟩ | rfl
    · rw [CoverState.next, same]
      rcases mem_stamps_record member with old | new
      · exact invariant.fresh already stamp old
      · exact new
    · rw [stamps_of_replaceQueues invariant.cover stepped] at member
      exact absurd member (Multiset.notMem_zero stamp)

end OrderlyInvariant

/-! ## The balance -/

structure BalanceInvariant (state : ProxyState mSensors π) : Prop where
  session : SessionInvariant state
  queue : QueueInvariant state
  dates : DateInvariant state
  acknowledged : state.acknowledged ≤ state.writtenWakeUps
  closed : state.closing = true → state.lockedSinceReset = 0
  balance : state.closing = false → state.Balanced

theorem OrderlyInvariant.balanceInvariant {state : CoverState mSensors π}
    (invariant : OrderlyInvariant state) : BalanceInvariant state.proxy := by
  obtain ⟨posted, queued, written⟩ := invariant.cover.tracks
  -- The count is the number of owners since the last reset.
  have counted : state.proxy.refs.mWakelockRefCount = state.proxy.lockedSinceReset +
      state.inFlight.stamps.count state.proxy.refs.resets := by
    rw [lockedSinceReset_eq, ← Multiset.count_add]
    exact invariant.cover.exact.counted
  constructor
  · exact invariant.cover.session
  · exact invariant.cover.queue
  · exact invariant.cover.dates
  · omega
  · intro closing
    have none := (invariant.cover.session.closed closing).2.1
    omega
  · intro opened
    have all : state.inFlight.stamps.count state.proxy.refs.resets =
        state.inFlight.posted.length + state.inFlight.queued.length +
          state.inFlight.written.length := by
      rw [Multiset.count_eq_card.mpr fun stamp member => (invariant.fresh opened stamp member).symm]
      simp [InFlight.stamps, Nat.add_assoc]
    unfold ProxyState.Balanced ProxyState.referredWakeUps
    omega

theorem reachable_orderlyInvariant {mSubHalIndex start reset : Nat}
    {state : ProxyState mSensors π}
    (reachable : Reachable (orderlyStep mSubHalIndex)
      (ProxyState.initial mSensors π start reset) state) :
    ∃ inFlight, OrderlyInvariant ⟨state, inFlight⟩ := by
  apply reachable.invariant (I := fun state => ∃ inFlight, OrderlyInvariant ⟨state, inFlight⟩)
  · exact ⟨.initial, coverInvariant_initial start reset,
      fun _ _ member => absurd member (Multiset.notMem_zero _)⟩
  · rintro state event after ⟨inFlight, invariant⟩ step
    exact ⟨_, invariant.step step⟩

theorem reachable_balanceInvariant {mSubHalIndex start reset : Nat}
    {state : ProxyState mSensors π}
    (reachable : Reachable (orderlyStep mSubHalIndex)
      (ProxyState.initial mSensors π start reset) state) : BalanceInvariant state := by
  obtain ⟨inFlight, invariant⟩ := reachable_orderlyInvariant reachable
  exact invariant.balanceInvariant

/-! ## Results -/

/-- Wake-lock accounting.  The kernel's wake lock is held exactly while the count is
positive, and a failed acquisition leaves the count alone.  In runs that meet the
assumptions, while no post holds the mutex and the worker is not between a blocking
write and its queue update, the count is the number of locked objects since the last
reset, of wake-up events written and not acknowledged, and of wake-up events in the
queue.  The one exception is the time from the reset that closes a session to the
replacement of its queues: the count is zero then, whatever the queues still hold. -/
theorem wakelock_accounting {mSubHalIndex start reset : Nat} {state : ProxyState mSensors π}
    (reachable : Reachable (proxyStep mSubHalIndex)
      (ProxyState.initial mSensors π start reset) state) :
    Runs kernelStep false state.refs.kernel (decide (0 < state.refs.mWakelockRefCount)) ∧
      (∀ event after, proxyStep mSubHalIndex state event = some after →
        after.refs.kernel = state.refs.kernel ++ [.acquireFailed] →
          after.refs.mWakelockRefCount = state.refs.mWakelockRefCount) ∧
      (Reachable (orderlyStep mSubHalIndex) (ProxyState.initial mSensors π start reset) state →
        state.acknowledged ≤ state.writtenWakeUps ∧
          (state.closing = true → state.refs.mWakelockRefCount = 0) ∧
          (state.closing = false → state.post = .idle →
            (∀ write, state.pendingWorker ≠ .dropping write ∧
              state.pendingWorker ≠ .updating write) →
            state.refs.mWakelockRefCount =
              state.lockedSinceReset + (state.writtenWakeUps - state.acknowledged) +
                state.queuedWakeUps)) := by
  constructor
  · exact reachable_kernelInvariant reachable
  constructor
  · intro event after step failed
    exact (proxyStep_refStep step).count_of_acquireFailed failed
  · intro ordered
    have invariant := reachable_balanceInvariant ordered
    constructor
    · exact invariant.acknowledged
    constructor
    · intro closing
      exact (invariant.session.closed closing).2.1
    · intro opened idle between
      have settled : state.settledWakeUps = 0 :=
        settledWakeUps_of_not_updating (fun write => (between write).2)
      have posted := postedWakeUps_of_idle idle
      have balance := invariant.balance opened
      unfold ProxyState.Balanced ProxyState.referredWakeUps at balance
      omega

theorem wakelock_accounting_overlappingPosts :
    ∃ state : ProxyState twoSensors Nat,
      Reachable (orderlyStep 0) (ProxyState.initial twoSensors Nat 0 1) state ∧
        state.writtenWakeUps = 2 ∧ state.queuedWakeUps = 1 ∧
        state.refs.mWakelockRefCount =
          state.lockedSinceReset + (state.writtenWakeUps - state.acknowledged) +
            state.queuedWakeUps := by
  have enabled : (exec (orderlyStep 0) (ProxyState.initial twoSensors Nat 0 1)
      overlappingPosts).isSome := rfl
  have run := runs_get enabled
  exact ⟨_, run.reachable, rfl, rfl,
    ((wakelock_accounting run.reachable.of_restrict).2.2 run.reachable).2.2 rfl rfl
      (fun _ => ⟨nofun, nofun⟩)⟩

/-- One wake-up event is written, its wake lock is destroyed, and the session is
stopped before the framework acknowledges the event. -/
def stoppedUnacknowledged : List (ProxyEvent Nat) :=
  openSession 10 ++
    [.object (.create true true 20), .post (.call [⟨1#32, 0⟩] 0), .post (.take 0 true 21),
      .post (.measure 2), .post (.wrote true), .post .finish, .object (.destroy 0),
      .object (.destroy 1), .control .stopThreads, .wakelock (.take 30 31)]

/-- The departing wake-lock worker resets the count and leaves the queues in place, so
an event that was written and never acknowledged is not counted. -/
theorem count_of_stoppedUnacknowledged :
    ∃ state : ProxyState twoSensors Nat,
      Reachable (orderlyStep 0) (ProxyState.initial twoSensors Nat 0 1) state ∧
        state.post = .idle ∧ state.waiting = [] ∧ state.pendingWorker = .waiting ∧
        state.refs.mWakelockRefCount = 0 ∧
        state.lockedSinceReset + (state.writtenWakeUps - state.acknowledged) +
          state.queuedWakeUps = 1 := by
  have enabled : (exec (orderlyStep 0) (ProxyState.initial twoSensors Nat 0 1)
      stoppedUnacknowledged).isSome := rfl
  have run := runs_get enabled
  exact ⟨_, run.reachable, rfl, rfl, rfl, rfl, rfl⟩

end K50sv1.Sensors.HalProxy
