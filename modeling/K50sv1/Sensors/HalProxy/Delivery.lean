import Mathlib.Algebra.GroupWithZero.Nat
import K50sv1.Data.Ledger
import K50sv1.Sensors.HalProxy.Session

/-!
# Ordered delivery of events

Events reach the FMQ on two paths: a post writes what fits at once, and the
pending-writes worker writes the rest from the queue, one FMQ-sized part at a time
and without the mutex.  The fast path is taken only while the queue is empty, and
the front of the queue stays in place while the worker writes it, so the two paths
never overtake each other.

The results are stated with a ledger of everything accepted in the session: each
entry is written, lost for one of three reasons, or still pending, and the pending
entries are the contents of the queue.
-/

namespace K50sv1.Sensors.HalProxy

open K50sv1.Transition K50sv1.Data

variable {mSensors : SensorMap} {π : Type}

/-! ## The queue of pending writes -/

/-- The events in the queue, front first. -/
def Delivery.queued (delivery : Delivery π) : List (Event π) :=
  delivery.mPendingWriteEventsQueue.flatMap Prod.fst

/-- The round of writing that the worker is in. -/
def PendingWorker.write? : PendingWorker → Option PendingWrite
  | .writing write | .dropping write | .updating write => some write
  | .notRunning | .waiting => none

structure QueueInvariant (state : ProxyState mSensors π) : Prop where
  size : state.delivery.mSizePendingWriteEventsQueue = state.delivery.queued.length
  bounded : state.delivery.mSizePendingWriteEventsQueue ≤ maxSizePendingWriteEventsQueue
  counted : ∀ batch ∈ state.delivery.mPendingWriteEventsQueue,
    batch.1.all (isListed mSensors) = true ∧ batch.2 = batch.1.countP (isWakeUp mSensors)
  /-- The worker's locals describe the front of the queue. -/
  front : ∀ write, state.pendingWorker.write? = some write →
    ∃ front rest, state.delivery.mPendingWriteEventsQueue = front :: rest ∧
      write.numToWrite = min front.1.length write.eventQueueSize ∧
      write.numWakeupEvents = (front.1.take write.numToWrite).countP (isWakeUp mSensors)
  /-- The fast path is taken only while the queue is empty. -/
  fastPath : ∀ call numToWrite, state.post = .writing call numToWrite →
    state.delivery.mPendingWriteEventsQueue = []

theorem queueInvariant_initial (start reset : Nat) :
    QueueInvariant (ProxyState.initial mSensors π start reset) where
  size := rfl
  bounded := Nat.zero_le _
  counted := by simp [ProxyState.initial, Delivery.initial]
  front := by simp [ProxyState.initial, PendingWorker.write?]
  fastPath := by simp [ProxyState.initial]

/-- Steps that do not touch the queue, the worker's round or the fast path. -/
theorem QueueInvariant.congr {state after : ProxyState mSensors π}
    (invariant : QueueInvariant state)
    (queue : after.delivery.mPendingWriteEventsQueue = state.delivery.mPendingWriteEventsQueue)
    (size : after.delivery.mSizePendingWriteEventsQueue =
      state.delivery.mSizePendingWriteEventsQueue)
    (round : ∀ write, after.pendingWorker.write? = some write →
      state.pendingWorker.write? = some write)
    (fastPath : ∀ call numToWrite, after.post = .writing call numToWrite →
      state.delivery.mPendingWriteEventsQueue = []) :
    QueueInvariant after := by
  constructor
  · rw [size, invariant.size, Delivery.queued, Delivery.queued, queue]
  · rw [size]
    exact invariant.bounded
  · rw [queue]
    exact invariant.counted
  · rw [queue]
    exact fun write holds => invariant.front write (round write holds)
  · rw [queue]
    exact fastPath

theorem Delivery.queued_push (delivery : Delivery π) (eventsLeft : List (Event π))
    (wakeupsLeft : Nat) :
    (delivery.push eventsLeft wakeupsLeft).queued = delivery.queued ++ eventsLeft := by
  simp [Delivery.queued, Delivery.push]

/-- The update after a blocking write removes what was written from the front. -/
theorem Delivery.queued_afterBlockingWrite {delivery : Delivery π} {write : PendingWrite}
    {front : List (Event π) × Nat} {rest : List (List (Event π) × Nat)}
    (queue : delivery.mPendingWriteEventsQueue = front :: rest)
    (numToWrite : write.numToWrite = min front.1.length write.eventQueueSize) :
    (delivery.afterBlockingWrite write front rest).queued =
      delivery.queued.drop write.numToWrite := by
  simp only [Delivery.queued, Delivery.afterBlockingWrite, queue, List.flatMap_cons]
  by_cases large : front.1.length > write.eventQueueSize
  · have all : write.numToWrite = write.eventQueueSize := by omega
    rw [if_pos large, List.flatMap_cons, all, List.drop_append_of_le_length (by omega)]
  · have all : write.numToWrite = front.1.length := by omega
    rw [if_neg large, all, List.drop_left]

theorem queueInvariant_object {state after : ProxyState mSensors π} {event : ObjectEvent}
    (invariant : QueueInvariant state) (step : ObjectTransition state event after) :
    QueueInvariant after := by
  cases step with
  | create => exact invariant.congr rfl rfl (fun _ => id) invariant.fastPath
  | moveConstruct => exact invariant.congr rfl rfl (fun _ => id) invariant.fastPath
  | selfAssign => exact invariant
  | moveAssign => exact invariant.congr rfl rfl (fun _ => id) invariant.fastPath
  | destroy => exact invariant.congr rfl rfl (fun _ => id) invariant.fastPath

theorem queueInvariant_post {mSubHalIndex : Nat} {state after : ProxyState mSensors π}
    {event : PostEvent π} (invariant : QueueInvariant state)
    (step : PostTransition mSubHalIndex state event after) : QueueInvariant after := by
  cases step with
  | ignored => exact invariant
  | queued => exact invariant.congr rfl rfl (fun _ => id) invariant.fastPath
  | late =>
      exact invariant.congr rfl rfl (fun _ => id) (fun _ _ => by simp [ProxyState.returnCall])
  | refused =>
      exact invariant.congr rfl rfl (fun _ => id) (fun _ _ => by simp [ProxyState.returnCall])
  | accepted => exact invariant.congr rfl rfl (fun _ => id) (fun _ _ => by simp)
  | startWrite available numToWrite call holds nonzero bounded empty =>
      exact invariant.congr rfl rfl (fun _ => id) (fun _ _ _ => empty)
  | skipWrite => exact invariant.congr rfl rfl (fun _ => id) (fun _ _ => by simp)
  | wrote => exact invariant.congr rfl rfl (fun _ => id) (fun _ _ => by simp)
  | unwritten => exact invariant.congr rfl rfl (fun _ => id) (fun _ _ => by simp)
  | complete =>
      exact invariant.congr rfl rfl (fun _ => id) (fun _ _ => by simp [ProxyState.returnCall])
  | overflow =>
      exact invariant.congr rfl rfl (fun _ => id) (fun _ _ => by simp [ProxyState.returnCall])
  | push call numToWrite wakeupsLeft holds left fits =>
      constructor
      · change _ = (state.delivery.push _ _).queued.length
        rw [Delivery.queued_push, List.length_append, ← invariant.size]
        rfl
      · exact fits
      · intro batch member
        rcases List.mem_append.mp member with old | new
        · exact invariant.counted batch old
        · rw [List.mem_singleton.mp new]
          exact ⟨listed_drop call.listed numToWrite, left⟩
      · -- The new batch goes to the back; the worker's front stays where it is.
        intro write round
        obtain ⟨front, rest, queue, facts⟩ := invariant.front write round
        refine ⟨front, rest ++ [(call.events.drop numToWrite, wakeupsLeft)], ?_, facts⟩
        change state.delivery.mPendingWriteEventsQueue ++ _ = _
        rw [queue, List.cons_append]
      · simp [ProxyState.returnCall]

theorem queueInvariant_pending {state after : ProxyState mSensors π} {event : PendingEvent}
    (invariant : QueueInvariant state) (step : PendingTransition state event after) :
    QueueInvariant after := by
  cases step with
  | leave =>
      exact invariant.congr rfl rfl (fun _ => by simp [PendingWorker.write?]) invariant.fastPath
  | start idle waits running front rest queue numWakeupEvents queued installed counted =>
      have listed := (invariant.counted front (by simp [queued])).1
      rw [countNumWakeupEvents_of_listed listed] at counted
      constructor
      · exact invariant.size
      · exact invariant.bounded
      · exact invariant.counted
      · intro write round
        obtain rfl := Option.some.inj round
        exact ⟨front, rest, queued, rfl, (Option.some.inj counted).symm⟩
      · exact invariant.fastPath
  | wrote write front rest writes queued =>
      exact invariant.congr rfl rfl (fun _ => by simp [writes, PendingWorker.write?])
        invariant.fastPath
  | failed write front rest writes queued =>
      exact invariant.congr rfl rfl (fun _ => by simp [writes, PendingWorker.write?])
        invariant.fastPath
  | drop write drops =>
      exact invariant.congr rfl rfl (fun _ => by simp [drops, PendingWorker.write?])
        invariant.fastPath
  | update write front rest idle updates queued =>
      obtain ⟨front', rest', queue, numToWrite, numWakeupEvents⟩ :=
        invariant.front write (by simp [updates, PendingWorker.write?])
      obtain ⟨rfl, rfl⟩ := List.cons.inj (queued.symm.trans queue)
      have remaining := Delivery.queued_afterBlockingWrite queued numToWrite
      obtain ⟨listed, wakeups⟩ := invariant.counted front (by simp [queued])
      constructor
      · change state.delivery.mSizePendingWriteEventsQueue - write.numToWrite = _
        rw [invariant.size, remaining, List.length_drop]
      · exact Nat.le_trans (Nat.sub_le ..) invariant.bounded
      · intro batch member
        simp only [Delivery.afterBlockingWrite] at member
        split at member
        · rename_i large
          rcases List.mem_cons.mp member with rfl | old
          · have all : write.numToWrite = write.eventQueueSize := by omega
            rw [all] at numWakeupEvents
            exact ⟨listed_drop listed write.eventQueueSize, by
              rw [wakeups, numWakeupEvents, wakeUps_drop]⟩
          · exact invariant.counted batch (by simp [queued, old])
        · exact invariant.counted batch (by simp [queued, member])
      · simp [PendingWorker.write?]
      · simp [idle]

theorem queueInvariant_wakelock {state after : ProxyState mSensors π} {event : WakelockEvent}
    (invariant : QueueInvariant state) (step : WakelockTransition state event after) :
    QueueInvariant after := by
  cases step with
  | leave => exact invariant.congr rfl rfl (fun _ => id) invariant.fastPath
  | timeout => exact invariant.congr rfl rfl (fun _ => id) invariant.fastPath
  | startRead => exact invariant.congr rfl rfl (fun _ => id) invariant.fastPath
  | readNothing => exact invariant.congr rfl rfl (fun _ => id) invariant.fastPath
  | acknowledge => exact invariant.congr rfl rfl (fun _ => id) invariant.fastPath

theorem queueInvariant_control {state after : ProxyState mSensors π} {event : ControlEvent}
    (session : SessionInvariant state) (invariant : QueueInvariant state)
    (step : ControlTransition state event after) : QueueInvariant after := by
  cases step with
  | stop => exact invariant.congr rfl rfl (fun _ => id) invariant.fastPath
  | stopped => exact invariant.congr rfl rfl (fun _ => id) invariant.fastPath
  | joined => exact invariant.congr rfl rfl (fun _ => id) invariant.fastPath
  | reset => exact invariant.congr rfl rfl (fun _ => id) invariant.fastPath
  | disabled => exact invariant.congr rfl rfl (fun _ => id) invariant.fastPath
  | clear request clearing idle =>
      have ended := session.pendingWorker_of_control (by rw [clearing]; rfl)
      constructor
      · rfl
      · exact Nat.zero_le _
      · simp [Delivery.clearPending]
      · simp [ended, PendingWorker.write?]
      · simp [idle]
  | replace => exact invariant.congr rfl rfl (fun _ => id) invariant.fastPath
  | subHals => exact invariant.congr rfl rfl (fun _ => id) invariant.fastPath
  | run => exact invariant.congr rfl rfl (fun _ => id) invariant.fastPath
  | spawnPending =>
      exact invariant.congr rfl rfl (fun _ => by simp [PendingWorker.write?]) invariant.fastPath
  | spawnWakelock => exact invariant.congr rfl rfl (fun _ => id) invariant.fastPath

theorem queueInvariant_step {mSubHalIndex : Nat} {state after : ProxyState mSensors π}
    {event : ProxyEvent π} (session : SessionInvariant state) (invariant : QueueInvariant state)
    (step : proxyStep mSubHalIndex state event = some after) : QueueInvariant after := by
  cases event with
  | object event => exact queueInvariant_object invariant (objectStep_transition step)
  | post event => exact queueInvariant_post invariant (postStep_transition step)
  | pending event => exact queueInvariant_pending invariant (pendingStep_transition step)
  | wakelock event => exact queueInvariant_wakelock invariant (wakelockStep_transition step)
  | control event => exact queueInvariant_control session invariant (controlStep_transition step)

/-! ## The ledger of a session -/

/-- Why an accepted event may never be written. -/
inductive Loss where
  /-- The remainder of its post did not fit in the pending queue. -/
  | overflow
  /-- Its blocking write failed. -/
  | writeFailed
  /-- The session ended while it was queued. -/
  | stopped
  deriving DecidableEq, Repr

/-- The events of the call inside the mutex that are neither written nor queued. -/
def PostPhase.remaining : PostPhase mSensors π → List (Event π)
  | .idle => []
  | .accepted call | .writing call _ => call.events
  | .leftover call numToWrite => call.events.drop numToWrite

/-- How many events at the front of the queue are written or lost already. -/
def PendingWorker.settled : PendingWorker → Nat
  | .dropping write | .updating write => write.numToWrite
  | .notRunning | .waiting | .writing _ => 0

/-- The events of each fate, as the proxy's own state and logs have them. -/
def ProxyState.eventsWith (state : ProxyState mSensors π) : Fate Loss → List (Event π)
  | .pending => state.delivery.queued.drop state.pendingWorker.settled
  | .delivered => state.delivery.written
  | .lost .overflow => state.delivery.overflowed
  | .lost .writeFailed => state.delivery.failed
  | .lost .stopped => state.delivery.abandoned

/-- The fates that are given out from the front of the queue. -/
def servedInOrder (fate : Fate Loss) : Prop :=
  fate ≠ .pending ∧ fate ≠ .lost .overflow

/-- `ledger` accounts for every event accepted since the FMQ was installed. -/
structure Accounts (state : ProxyState mSensors π) (ledger : Ledger (Event π) Loss) : Prop where
  entries : state.delivery.accepted.flatten = ledger.entries ++ state.post.remaining
  fates : ∀ fate, ledger.withFate fate = state.eventsWith fate
  inOrder : ∀ fate, servedInOrder fate → ledger.InOrder fate
  /-- Queued events are given up only by an `initialize` in progress. -/
  ended : state.delivery.abandoned ≠ [] → ∃ request, state.control = .replacing request

theorem accounts_initial (start reset : Nat) :
    Accounts (ProxyState.initial mSensors π start reset) [] where
  entries := rfl
  fates := by
    intro fate
    rcases fate with _ | _ | ⟨_ | _ | _⟩ <;> rfl
  inOrder := fun fate _ => Ledger.inOrder_nil fate
  ended := by simp [ProxyState.initial, Delivery.initial]

namespace Accounts

variable {state after : ProxyState mSensors π} {ledger : Ledger (Event π) Loss}

/-- Steps that move no event. -/
theorem congr (accounts : Accounts state ledger) (delivery : after.delivery = state.delivery)
    (remaining : after.post.remaining = state.post.remaining)
    (settled : after.pendingWorker.settled = state.pendingWorker.settled)
    (ended : ∀ request, state.control = .replacing request → after.control = state.control) :
    Accounts after ledger := by
  constructor
  · rw [delivery, remaining]
    exact accounts.entries
  · intro fate
    have same : after.eventsWith fate = state.eventsWith fate := by
      rcases fate with _ | _ | ⟨_ | _ | _⟩ <;> simp [ProxyState.eventsWith, delivery, settled]
    rw [same]
    exact accounts.fates fate
  · exact accounts.inOrder
  · rw [delivery]
    intro some
    obtain ⟨request, replacing⟩ := accounts.ended some
    exact ⟨request, (ended request replacing).trans replacing⟩

/-- The fast path: with an empty queue, the first events of the call are written. -/
theorem fastWrite (accounts : Accounts state ledger)
    (empty : state.delivery.mPendingWriteEventsQueue = []) {call : PostCall mSensors π}
    {numToWrite : Nat} (holds : state.post = .writing call numToWrite) :
    Accounts
      { state with
        post := .leftover call numToWrite
        delivery := { state.delivery with
          written := state.delivery.written ++ call.events.take numToWrite } }
      (ledger.record .delivered (call.events.take numToWrite)) := by
  have idle : ledger.withFate .pending = [] := by
    rw [accounts.fates]
    simp [ProxyState.eventsWith, Delivery.queued, empty]
  constructor
  · change _ = _ ++ call.events.drop numToWrite
    rw [Ledger.entries_record, List.append_assoc, List.take_append_drop, accounts.entries, holds]
    rfl
  · intro fate
    rw [Ledger.withFate_record, accounts.fates]
    rcases fate with _ | _ | ⟨_ | _ | _⟩ <;> simp [ProxyState.eventsWith, Delivery.queued]
  · intro fate served
    exact (accounts.inOrder fate served).record_of_idle (by simp) idle _
  · exact accounts.ended

/-- A call returns with the rest of its events recorded. -/
theorem entries_finish (accounts : Accounts state ledger) {call : PostCall mSensors π}
    {numToWrite : Nat} (holds : state.post = .leftover call numToWrite) (fate : Fate Loss) :
    state.delivery.accepted.flatten =
      (ledger.record fate (call.events.drop numToWrite)).entries ++
        (PostPhase.idle : PostPhase mSensors π).remaining := by
  rw [Ledger.entries_record, accounts.entries, holds]
  exact (List.append_nil _).symm

/-- The remainder of a post joins the queue. -/
theorem push (accounts : Accounts state ledger) {call : PostCall mSensors π}
    {numToWrite wakeupsLeft : Nat} (holds : state.post = .leftover call numToWrite)
    (inFront : state.pendingWorker.settled ≤ state.delivery.queued.length) :
    Accounts
      { state.returnCall call with
        delivery := state.delivery.push (call.events.drop numToWrite) wakeupsLeft }
      (ledger.record .pending (call.events.drop numToWrite)) := by
  constructor
  · exact accounts.entries_finish holds .pending
  · intro fate
    rw [Ledger.withFate_record, accounts.fates]
    rcases fate with _ | _ | ⟨_ | _ | _⟩
    · rw [if_pos rfl]
      change state.delivery.queued.drop state.pendingWorker.settled ++ _ =
        (state.delivery.push _ _).queued.drop state.pendingWorker.settled
      rw [Delivery.queued_push, List.drop_append_of_le_length inFront]
    all_goals simp [ProxyState.eventsWith, Delivery.push]
  · intro fate served
    exact (accounts.inOrder fate served).record_of_ne served.1.symm _
  · exact accounts.ended

/-- The remainder of a post is dropped. -/
theorem overflow (accounts : Accounts state ledger) {call : PostCall mSensors π}
    {numToWrite : Nat} (holds : state.post = .leftover call numToWrite) (refs : RefCounter) :
    Accounts
      { state.returnCall call with
        refs
        delivery := { state.delivery with
          overflowed := state.delivery.overflowed ++ call.events.drop numToWrite } }
      (ledger.record (.lost .overflow) (call.events.drop numToWrite)) := by
  constructor
  · exact accounts.entries_finish holds (.lost .overflow)
  · intro fate
    rw [Ledger.withFate_record, accounts.fates]
    rcases fate with _ | _ | ⟨_ | _ | _⟩ <;>
      simp [ProxyState.eventsWith, ProxyState.returnCall, Delivery.queued]
  · intro fate served
    exact (accounts.inOrder fate served).record_of_ne served.2.symm _
  · exact accounts.ended

/-- The events at the front of the queue meet their fate. -/
theorem serve (accounts : Accounts state ledger) (fate : Fate Loss) (served : servedInOrder fate)
    (count : Nat)
    (entries : after.delivery.accepted = state.delivery.accepted)
    (remaining : after.post.remaining = state.post.remaining)
    (gained : after.eventsWith fate =
      state.eventsWith fate ++ (state.eventsWith .pending).take count)
    (pending : after.eventsWith .pending = (state.eventsWith .pending).drop count)
    (others : ∀ other, other ≠ fate → other ≠ .pending →
      after.eventsWith other = state.eventsWith other)
    (ended : after.delivery.abandoned ≠ [] → ∃ request, after.control = .replacing request) :
    Accounts after (ledger.settle fate count) := by
  constructor
  · rw [entries, remaining, Ledger.entries_settle]
    exact accounts.entries
  · intro other
    by_cases isPending : other = .pending
    · rw [isPending, Ledger.pending_settle served.1, accounts.fates, pending]
    by_cases same : other = fate
    · rw [same, Ledger.withFate_settle served.1 (accounts.inOrder fate served),
        accounts.fates, accounts.fates, gained]
    · rw [Ledger.withFate_settle_of_ne (Ne.symm same) isPending, accounts.fates,
        others other same isPending]
  · intro other otherServed
    exact (accounts.inOrder other otherServed).settle served.1 count
  · exact ended

end Accounts

/-! ### Steps -/

/-- What the worker has settled is still at the front of the queue. -/
theorem QueueInvariant.settled_le {state : ProxyState mSensors π}
    (invariant : QueueInvariant state) :
    state.pendingWorker.settled ≤ state.delivery.queued.length := by
  have bound : ∀ write, state.pendingWorker.write? = some write →
      write.numToWrite ≤ state.delivery.queued.length := by
    intro write round
    obtain ⟨front, rest, queue, numToWrite, -⟩ := invariant.front write round
    rw [Delivery.queued, queue, List.flatMap_cons, List.length_append]
    omega
  cases worker : state.pendingWorker with
  | dropping write => exact bound write (by simp [worker, PendingWorker.write?])
  | updating write => exact bound write (by simp [worker, PendingWorker.write?])
  | notRunning => exact Nat.zero_le _
  | waiting => exact Nat.zero_le _
  | writing write => exact Nat.zero_le _

/-- The part of the queue that the worker writes. -/
theorem QueueInvariant.take_queued {state : ProxyState mSensors π}
    (invariant : QueueInvariant state) {write : PendingWrite}
    {front : List (Event π) × Nat} {rest : List (List (Event π) × Nat)}
    (round : state.pendingWorker.write? = some write)
    (queued : state.delivery.mPendingWriteEventsQueue = front :: rest) :
    state.delivery.queued.take write.numToWrite = front.1.take write.numToWrite := by
  obtain ⟨front', rest', queue, numToWrite, -⟩ := invariant.front write round
  obtain ⟨rfl, rfl⟩ := List.cons.inj (queued.symm.trans queue)
  rw [Delivery.queued, queued, List.flatMap_cons, List.take_append_of_le_length (by omega)]

theorem accounts_object {state after : ProxyState mSensors π} {event : ObjectEvent}
    {ledger : Ledger (Event π) Loss} (accounts : Accounts state ledger)
    (step : ObjectTransition state event after) : Accounts after ledger := by
  cases step with
  | create => exact accounts.congr rfl rfl rfl (fun _ _ => rfl)
  | moveConstruct => exact accounts.congr rfl rfl rfl (fun _ _ => rfl)
  | selfAssign => exact accounts
  | moveAssign => exact accounts.congr rfl rfl rfl (fun _ _ => rfl)
  | destroy => exact accounts.congr rfl rfl rfl (fun _ _ => rfl)

theorem accounts_post {mSubHalIndex : Nat} {state after : ProxyState mSensors π}
    {event : PostEvent π} {ledger : Ledger (Event π) Loss} (queue : QueueInvariant state)
    (accounts : Accounts state ledger)
    (step : PostTransition mSubHalIndex state event after) :
    ∃ ledger, Accounts after ledger := by
  cases step with
  | ignored => exact ⟨ledger, accounts⟩
  | queued => exact ⟨ledger, accounts.congr rfl rfl rfl (fun _ _ => rfl)⟩
  | late index acquired now call idle =>
      exact ⟨ledger, accounts.congr rfl (by rw [idle]; rfl) rfl (fun _ _ => rfl)⟩
  | refused index acquired now call refs idle =>
      exact ⟨ledger, accounts.congr rfl (by rw [idle]; rfl) rfl (fun _ _ => rfl)⟩
  | accepted index acquired now call refs idle =>
      have entries := accounts.entries
      rw [idle] at entries
      constructor
      · exact {
          entries := by
            change (state.delivery.accepted ++ [call.events]).flatten =
              ledger.entries ++ call.events
            rw [List.flatten_append, entries]
            simp [PostPhase.remaining]
          fates := by
            intro fate
            rw [accounts.fates]
            rcases fate with _ | _ | ⟨_ | _ | _⟩ <;> rfl
          inOrder := accounts.inOrder
          ended := accounts.ended }
  | startWrite available numToWrite call holds =>
      exact ⟨ledger, accounts.congr rfl (by rw [holds]; rfl) rfl (fun _ _ => rfl)⟩
  | skipWrite available call holds =>
      exact ⟨ledger, accounts.congr rfl (by rw [holds]; rfl) rfl (fun _ _ => rfl)⟩
  | wrote call numToWrite holds =>
      exact ⟨_, accounts.fastWrite (queue.fastPath call numToWrite holds) holds⟩
  | unwritten call numToWrite holds =>
      exact ⟨ledger, accounts.congr rfl (by rw [holds]; rfl) rfl (fun _ _ => rfl)⟩
  | complete call numToWrite holds nothingLeft =>
      exact ⟨ledger, accounts.congr rfl (by rw [holds]; exact nothingLeft.symm) rfl
        (fun _ _ => rfl)⟩
  | push call numToWrite wakeupsLeft holds => exact ⟨_, accounts.push holds queue.settled_le⟩
  | overflow call numToWrite wakeupsLeft holds => exact ⟨_, accounts.overflow holds _⟩

/-- A blocking write returns: the events it was given meet their fate. -/
theorem Accounts.blockingWrite {state after : ProxyState mSensors π}
    {ledger : Ledger (Event π) Loss} (accounts : Accounts state ledger)
    (queue : QueueInvariant state) {write : PendingWrite} {front : List (Event π) × Nat}
    {rest : List (List (Event π) × Nat)} (writes : state.pendingWorker = .writing write)
    (queued : state.delivery.mPendingWriteEventsQueue = front :: rest)
    (fate : Fate Loss) (served : servedInOrder fate)
    (entries : after.delivery.accepted = state.delivery.accepted)
    (remaining : after.post.remaining = state.post.remaining)
    (gained : after.eventsWith fate = state.eventsWith fate ++ front.1.take write.numToWrite)
    (pending : after.eventsWith .pending = state.delivery.queued.drop write.numToWrite)
    (others : ∀ other, other ≠ fate → other ≠ .pending →
      after.eventsWith other = state.eventsWith other)
    (ended : after.delivery.abandoned ≠ [] → ∃ request, after.control = .replacing request) :
    Accounts after (ledger.settle fate write.numToWrite) := by
  have round : state.pendingWorker.write? = some write := by
    simp [writes, PendingWorker.write?]
  have whole : state.eventsWith .pending = state.delivery.queued := by
    simp [ProxyState.eventsWith, writes, PendingWorker.settled]
  apply accounts.serve fate served write.numToWrite entries remaining
  · rw [whole, queue.take_queued round queued]
    exact gained
  · rw [whole]
    exact pending
  · exact others
  · exact ended

theorem accounts_pending {state after : ProxyState mSensors π} {event : PendingEvent}
    {ledger : Ledger (Event π) Loss} (queue : QueueInvariant state)
    (accounts : Accounts state ledger) (step : PendingTransition state event after) :
    ∃ ledger, Accounts after ledger := by
  cases step with
  | leave idle waits =>
      exact ⟨ledger, accounts.congr rfl rfl (by rw [waits]; rfl) (fun _ _ => rfl)⟩
  | start idle waits =>
      exact ⟨ledger, accounts.congr rfl rfl (by rw [waits]; rfl) (fun _ _ => rfl)⟩
  | wrote write front rest writes queued =>
      exact ⟨_, accounts.blockingWrite queue writes queued .delivered (by simp [servedInOrder])
        rfl rfl rfl rfl (by
          intro other different settled
          rcases other with _ | _ | ⟨_ | _ | _⟩ <;> first | rfl | contradiction) accounts.ended⟩
  | failed write front rest writes queued =>
      exact ⟨_, accounts.blockingWrite queue writes queued (.lost .writeFailed)
        (by simp [servedInOrder]) rfl rfl rfl rfl (by
          intro other different settled
          rcases other with _ | _ | ⟨_ | _ | _⟩ <;> first | rfl | contradiction) accounts.ended⟩
  | drop write drops =>
      exact ⟨ledger, accounts.congr rfl rfl (by rw [drops]; rfl) (fun _ _ => rfl)⟩
  | update write front rest idle updates queued =>
      obtain ⟨front', rest', queue, numToWrite, -⟩ :=
        queue.front write (by simp [updates, PendingWorker.write?])
      obtain ⟨rfl, rfl⟩ := List.cons.inj (queued.symm.trans queue)
      constructor
      · exact {
          entries := accounts.entries
          fates := by
            intro fate
            rw [accounts.fates]
            rcases fate with _ | _ | ⟨_ | _ | _⟩
            · have remaining := Delivery.queued_afterBlockingWrite queued numToWrite
              simp [ProxyState.eventsWith, updates, PendingWorker.settled, remaining]
            all_goals rfl
          inOrder := accounts.inOrder
          ended := accounts.ended }

theorem accounts_control {state after : ProxyState mSensors π} {event : ControlEvent}
    {ledger : Ledger (Event π) Loss} (session : SessionInvariant state)
    (accounts : Accounts state ledger) (step : ControlTransition state event after) :
    ∃ ledger, Accounts after ledger := by
  cases step with
  | stop event request free =>
      exact ⟨ledger, accounts.congr rfl rfl rfl (by simp [free])⟩
  | stopped joining => exact ⟨ledger, accounts.congr rfl rfl rfl (by simp [joining])⟩
  | joined request joining => exact ⟨ledger, accounts.congr rfl rfl rfl (by simp [joining])⟩
  | reset now request resetting =>
      exact ⟨ledger, accounts.congr rfl rfl rfl (by simp [resetting])⟩
  | disabled request disabling =>
      exact ⟨ledger, accounts.congr rfl rfl rfl (by simp [disabling])⟩
  | clear request clearing idle =>
      have ended := session.pendingWorker_of_control (by rw [clearing]; rfl)
      have whole : state.eventsWith .pending = state.delivery.queued := by
        simp [ProxyState.eventsWith, ended, PendingWorker.settled]
      constructor
      · apply accounts.serve (.lost .stopped) (by simp [servedInOrder])
          state.delivery.queued.length
        · rfl
        · rfl
        · rw [whole, List.take_length]
          rfl
        · rw [whole, List.drop_length]
          simp [ProxyState.eventsWith, Delivery.queued, Delivery.clearPending]
        · intro other different settled
          rcases other with _ | _ | ⟨_ | _ | _⟩ <;> first | rfl | contradiction
        · exact fun _ => ⟨request, rfl⟩
  | replace request replacing =>
      have idle := session.idle_of_control (by rw [replacing]; rfl)
      have empty := (session.cleared request replacing).1
      constructor
      · exact {
          entries := by
            change [] = [] ++ state.post.remaining
            rw [idle]
            rfl
          fates := by
            intro fate
            rcases fate with _ | _ | ⟨_ | _ | _⟩
            · simp [ProxyState.eventsWith, Delivery.queued, Delivery.install, empty]
            all_goals rfl
          inOrder := fun fate _ => Ledger.inOrder_nil fate
          ended := fun some => absurd rfl some }
  | subHals success initializing =>
      exact ⟨ledger, accounts.congr rfl rfl rfl (by simp [initializing])⟩
  | run starting => exact ⟨ledger, accounts.congr rfl rfl rfl (by simp [starting])⟩
  | spawnPending spawning =>
      have ended := session.pendingWorker_of_control (by rw [spawning]; rfl)
      exact ⟨ledger, accounts.congr rfl rfl (by rw [ended]; rfl) (by simp [spawning])⟩
  | spawnWakelock spawning => exact ⟨ledger, accounts.congr rfl rfl rfl (by simp [spawning])⟩

theorem accounts_wakelock {state after : ProxyState mSensors π} {event : WakelockEvent}
    {ledger : Ledger (Event π) Loss} (accounts : Accounts state ledger)
    (step : WakelockTransition state event after) : Accounts after ledger := by
  cases step with
  | leave => exact accounts.congr rfl rfl rfl (fun _ _ => rfl)
  | timeout => exact accounts.congr rfl rfl rfl (fun _ _ => rfl)
  | startRead => exact accounts.congr rfl rfl rfl (fun _ _ => rfl)
  | readNothing => exact accounts.congr rfl rfl rfl (fun _ _ => rfl)
  | acknowledge => exact accounts.congr rfl rfl rfl (fun _ _ => rfl)

/-- Everything known about delivery in a reachable state. -/
structure DeliveryInvariant (state : ProxyState mSensors π) : Prop where
  session : SessionInvariant state
  queue : QueueInvariant state
  accounted : ∃ ledger, Accounts state ledger

theorem deliveryInvariant_step {mSubHalIndex : Nat} {state after : ProxyState mSensors π}
    {event : ProxyEvent π} (invariant : DeliveryInvariant state)
    (step : proxyStep mSubHalIndex state event = some after) : DeliveryInvariant after := by
  obtain ⟨session, queue, ledger, accounts⟩ := invariant
  constructor
  · exact sessionInvariant_step session step
  · exact queueInvariant_step session queue step
  · cases event with
    | object event => exact ⟨ledger, accounts_object accounts (objectStep_transition step)⟩
    | post event => exact accounts_post queue accounts (postStep_transition step)
    | pending event => exact accounts_pending queue accounts (pendingStep_transition step)
    | wakelock event =>
        exact ⟨ledger, accounts_wakelock accounts (wakelockStep_transition step)⟩
    | control event => exact accounts_control session accounts (controlStep_transition step)

theorem reachable_deliveryInvariant {mSubHalIndex start reset : Nat}
    {state : ProxyState mSensors π}
    (reachable : Reachable (proxyStep mSubHalIndex)
      (ProxyState.initial mSensors π start reset) state) : DeliveryInvariant state := by
  apply reachable.invariant
  · exact ⟨sessionInvariant_initial start reset, queueInvariant_initial start reset, [],
      accounts_initial start reset⟩
  · intro state event after invariant step
    exact deliveryInvariant_step invariant step

/-! ## Results -/

/-- The immediate path and the worker never write to the FMQ at the same time. -/
theorem QueueInvariant.one_writer {state : ProxyState mSensors π}
    (invariant : QueueInvariant state) {call : PostCall mSensors π} {numToWrite : Nat}
    (fastPath : state.post = .writing call numToWrite) (write : PendingWrite) :
    state.pendingWorker ≠ .writing write := by
  intro writes
  obtain ⟨front, rest, queue, -⟩ :=
    invariant.front write (by simp [writes, PendingWorker.write?])
  rw [invariant.fastPath call numToWrite fastPath] at queue
  contradiction

/-- Ordered delivery.  In every reachable state, whatever the interleaving of posts
with the pending-writes worker and whatever their writes return, there is a ledger of
the events accepted since the FMQ was installed in which every event has one fate:
those written are exactly what was written to the FMQ, in order; the others are
lost for a recorded reason, or pending, and then they are the contents of the queue.
No two writes overlap, and the size and the wake-up counts of the queue are exact. -/
theorem ordered_delivery {mSubHalIndex start reset : Nat} {state : ProxyState mSensors π}
    (reachable : Reachable (proxyStep mSubHalIndex)
      (ProxyState.initial mSensors π start reset) state) :
    (∃ ledger : Ledger (Event π) Loss,
      state.delivery.accepted.flatten = ledger.entries ++ state.post.remaining ∧
        ledger.withFate .delivered = state.delivery.written ∧
        ledger.withFate (.lost .overflow) = state.delivery.overflowed ∧
        ledger.withFate (.lost .writeFailed) = state.delivery.failed ∧
        ledger.withFate (.lost .stopped) = state.delivery.abandoned ∧
        ledger.withFate .pending =
          state.delivery.queued.drop state.pendingWorker.settled) ∧
      state.delivery.written.Sublist state.delivery.accepted.flatten ∧
      (state.mThreadsRun = true → state.delivery.abandoned = []) ∧
      (∀ call numToWrite write,
        ¬(state.post = .writing call numToWrite ∧ state.pendingWorker = .writing write)) ∧
      state.delivery.mSizePendingWriteEventsQueue =
        (state.delivery.mPendingWriteEventsQueue.map fun batch => batch.1.length).sum ∧
      state.delivery.mSizePendingWriteEventsQueue ≤ maxSizePendingWriteEventsQueue ∧
      ∀ batch ∈ state.delivery.mPendingWriteEventsQueue,
        countNumWakeupEvents mSensors batch.1 batch.1.length = some batch.2 := by
  obtain ⟨session, queue, ledger, accounts⟩ := reachable_deliveryInvariant reachable
  have written := accounts.fates .delivered
  constructor
  · exact ⟨ledger, accounts.entries, written, accounts.fates (.lost .overflow),
      accounts.fates (.lost .writeFailed), accounts.fates (.lost .stopped),
      accounts.fates .pending⟩
  constructor
  · have inLedger := ledger.withFate_sublist .delivered
    rw [written] at inLedger
    rw [accounts.entries]
    exact inLedger.trans (List.sublist_append_left ..)
  constructor
  · intro running
    by_contra some
    obtain ⟨request, replacing⟩ := accounts.ended some
    exact session.control_of_running running request replacing
  constructor
  · rintro call numToWrite write ⟨fastPath, writes⟩
    exact queue.one_writer fastPath write writes
  constructor
  · rw [queue.size, Delivery.queued, List.length_flatMap]
  constructor
  · exact queue.bounded
  · intro batch member
    obtain ⟨listed, wakeups⟩ := queue.counted batch member
    rw [countNumWakeupEvents_of_listed listed, List.take_length, wakeups]

theorem ordered_delivery_overlappingPosts :
    ∃ state : ProxyState twoSensors Nat,
      Reachable (proxyStep 0) (ProxyState.initial twoSensors Nat 0 1) state ∧
        state.delivery.written.map Event.payload = [0, 1, 2] ∧
        state.delivery.failed.map Event.payload = [3] ∧
        state.delivery.queued.map Event.payload = [4] ∧
        state.delivery.written.Sublist state.delivery.accepted.flatten := by
  have enabled : (exec (proxyStep 0) (ProxyState.initial twoSensors Nat 0 1)
      overlappingPosts).isSome := rfl
  have run := runs_get enabled
  exact ⟨_, run.reachable, rfl, rfl, rfl, (ordered_delivery run.reachable).2.1⟩

end K50sv1.Sensors.HalProxy
