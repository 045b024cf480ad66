import K50sv1.Sensors.HalProxy.Core
import K50sv1.Transition.Run

/-!
# The threads of the multi-HAL proxy

Sub-HALs create, move and destroy scoped wake locks and post events; the
pending-writes worker and the wake-lock worker run while a session lasts; one thread
at a time is inside `initialize` or `stopThreads`.  Every step is one locked region
or one call that blocks outside the locks, and steps of different threads interleave
freely.  A call holds `mEventQueueWriteMutex` from its acceptance to its return, so
the other users of that mutex step only while `post` is `idle`.
-/

namespace K50sv1.Sensors.HalProxy

open K50sv1.Transition

variable {mSensors : SensorMap} {π : Type}

/-! ## Scoped wake locks outside the proxy -/

inductive ObjectEvent where
  | create (lock acquired : Bool) (now : Nat)
  | moveConstruct (source : Nat)
  | moveAssign (target source : Nat)
  | destroy (object : Nat)
  deriving DecidableEq, Repr

/-- The live object with a number. -/
def ProxyState.wakelock? (state : ProxyState mSensors π) (object : Nat) :
    Option ScopedWakelock :=
  state.wakelocks[object]?.join

def objectStep (state : ProxyState mSensors π) : ObjectEvent → Option (ProxyState mSensors π)
  | .create lock acquired now =>
      let (wakelock, refs) :=
        createScopedWakelock state.refs state.mThreadsRun lock acquired now
      some { state with refs, wakelocks := state.wakelocks ++ [some wakelock] }
  | .moveConstruct source =>
      match state.wakelock? source with
      | some wakelock =>
          some { state with
            wakelocks := state.wakelocks.set source (some wakelock.movedFrom) ++ [some wakelock] }
      | none => none
  | .moveAssign target source =>
      match state.wakelock? target, state.wakelock? source with
      | some old, some new =>
          if target = source then
            some state
          else
            some { state with
              refs := releaseScopedWakelock state.refs old
              wakelocks :=
                (state.wakelocks.set target (some new)).set source (some new.movedFrom) }
      | _, _ => none
  | .destroy object =>
      match state.wakelock? object with
      | some wakelock =>
          some { state with
            refs := releaseScopedWakelock state.refs wakelock
            wakelocks := state.wakelocks.set object none }
      | none => none

/-- What an operation on a scoped wake lock can do. -/
inductive ObjectTransition (state : ProxyState mSensors π) :
    ObjectEvent → ProxyState mSensors π → Prop where
  | create (lock acquired : Bool) (now : Nat) (wakelock : ScopedWakelock) (refs : RefCounter)
      (created : createScopedWakelock state.refs state.mThreadsRun lock acquired now =
        (wakelock, refs)) :
      ObjectTransition state (.create lock acquired now)
        { state with refs, wakelocks := state.wakelocks ++ [some wakelock] }
  | moveConstruct (source : Nat) (wakelock : ScopedWakelock)
      (live : state.wakelock? source = some wakelock) :
      ObjectTransition state (.moveConstruct source)
        { state with
          wakelocks := state.wakelocks.set source (some wakelock.movedFrom) ++ [some wakelock] }
  | selfAssign (object : Nat) : ObjectTransition state (.moveAssign object object) state
  | moveAssign (target source : Nat) (old new : ScopedWakelock) (distinct : target ≠ source)
      (oldLive : state.wakelock? target = some old)
      (newLive : state.wakelock? source = some new) :
      ObjectTransition state (.moveAssign target source)
        { state with
          refs := releaseScopedWakelock state.refs old
          wakelocks :=
            (state.wakelocks.set target (some new)).set source (some new.movedFrom) }
  | destroy (object : Nat) (wakelock : ScopedWakelock)
      (live : state.wakelock? object = some wakelock) :
      ObjectTransition state (.destroy object)
        { state with
          refs := releaseScopedWakelock state.refs wakelock
          wakelocks := state.wakelocks.set object none }

theorem objectStep_transition {state after : ProxyState mSensors π} {event : ObjectEvent}
    (step : objectStep state event = some after) : ObjectTransition state event after := by
  cases event with
  | create lock acquired now =>
      obtain rfl := Option.some.inj step
      exact .create lock acquired now _ _ rfl
  | moveConstruct source =>
      simp only [objectStep] at step
      split at step
      · obtain rfl := Option.some.inj step
        exact .moveConstruct source _ ‹_›
      · contradiction
  | moveAssign target source =>
      simp only [objectStep] at step
      split at step
      · rename_i old new oldLive newLive
        split at step
        · rename_i same
          subst same
          obtain rfl := Option.some.inj step
          exact .selfAssign target
        · obtain rfl := Option.some.inj step
          exact .moveAssign target source old new ‹_› oldLive newLive
      · contradiction
  | destroy object =>
      simp only [objectStep] at step
      split at step
      · obtain rfl := Option.some.inj step
        exact .destroy object _ ‹_›
      · contradiction

/-! ## Posting -/

inductive PostEvent (π : Type) where
  /-- `HalProxyCallback::postEvents` with a batch and a wake lock. -/
  | call (events : List (Event π)) (object : Nat)
  /-- A waiting call takes the mutex and goes through the checks. -/
  | take (waiting : Nat) (acquired : Bool) (now : Nat)
  /-- It asks the FMQ how much can be written. -/
  | measure (available : Nat)
  /-- `mEventQueue->write` returns. -/
  | wrote (success : Bool)
  | finish
  deriving DecidableEq, Repr

def postStep (mSubHalIndex : Nat) (state : ProxyState mSensors π) :
    PostEvent π → Option (ProxyState mSensors π)
  | .call events object =>
      match state.wakelock? object with
      | none => none
      | some wakelock =>
          if events.isEmpty ∨ state.mThreadsRun = false then
            some state
          else
            match processed : processEvents mSensors mSubHalIndex events with
            | none => none
            | some (processedEvents, numWakeupEvents) =>
                if locked : 0 < numWakeupEvents → wakelock.mLocked = true then
                  some { state with
                    wakelocks := state.wakelocks.set object (some wakelock.movedFrom)
                    waiting := state.waiting ++ [
                      { events := processedEvents, numWakeupEvents, wakelock
                        counted := (processEvents_eq_some processed).2, locked }] }
                else
                  some state
  | .take index acquired now =>
      match state.post, state.waiting[index]? with
      | .idle, some call =>
          let state := { state with waiting := state.waiting.eraseIdx index }
          if state.mThreadsRun = false then
            some (state.returnCall call)
          else
            let (proceed, refs) :=
              if call.wakelock.mLocked then
                incrementRefCountAndMaybeAcquireWakelock state.refs state.mThreadsRun
                  call.numWakeupEvents acquired now
              else
                (true, state.refs)
            if proceed then
              some { state with
                refs
                post := .accepted call
                delivery := { state.delivery with
                  accepted := state.delivery.accepted ++ [call.events] } }
            else
              some ({ state with refs }.returnCall call)
      | _, _ => none
  | .measure available =>
      match state.post, state.delivery.mEventQueue with
      | .accepted call, some _ =>
          let numToWrite :=
            if state.delivery.mPendingWriteEventsQueue.isEmpty then
              min call.events.length available
            else
              0
          if 0 < numToWrite then
            some { state with post := .writing call numToWrite }
          else
            some { state with post := .leftover call 0 }
      | _, _ => none
  | .wrote success =>
      match state.post with
      | .writing call numToWrite =>
          if success then
            some { state with
              post := .leftover call numToWrite
              delivery := { state.delivery with
                written := state.delivery.written ++ call.events.take numToWrite } }
          else
            some { state with post := .leftover call 0 }
      | _ => none
  | .finish =>
      match state.post with
      | .leftover call numToWrite =>
          match countNumWakeupEvents mSensors call.events numToWrite with
          | none => none
          | some numWritten =>
              let eventsLeft := call.events.drop numToWrite
              let wakeupsLeft := call.numWakeupEvents - numWritten
              let state := state.returnCall call
              if eventsLeft.length = 0 then
                some state
              else if state.delivery.mSizePendingWriteEventsQueue + eventsLeft.length ≤
                  maxSizePendingWriteEventsQueue then
                some { state with delivery := state.delivery.push eventsLeft wakeupsLeft }
              else
                some { state with
                  refs := decrementRefCountAndMaybeReleaseWakelock state.refs wakeupsLeft (-1)
                  delivery := { state.delivery with
                    overflowed := state.delivery.overflowed ++ eventsLeft } }
      | _ => none

/-- The references a call takes when it passes the checks. -/
def takeReferences (state : ProxyState mSensors π) (call : PostCall mSensors π)
    (acquired : Bool) (now : Nat) : Bool × RefCounter :=
  if call.wakelock.mLocked then
    incrementRefCountAndMaybeAcquireWakelock state.refs state.mThreadsRun
      call.numWakeupEvents acquired now
  else
    (true, state.refs)

/-- What a step of a posting thread can do. -/
inductive PostTransition (mSubHalIndex : Nat) (state : ProxyState mSensors π) :
    PostEvent π → ProxyState mSensors π → Prop where
  | ignored (events : List (Event π)) (object : Nat) :
      PostTransition mSubHalIndex state (.call events object) state
  | queued (events : List (Event π)) (object : Nat) (call : PostCall mSensors π)
      (live : state.wakelock? object = some call.wakelock)
      (running : state.mThreadsRun = true)
      (processed : call.events = events.map (Event.withSubHalIndex · mSubHalIndex)) :
      PostTransition mSubHalIndex state (.call events object)
        { state with
          wakelocks := state.wakelocks.set object (some call.wakelock.movedFrom)
          waiting := state.waiting ++ [call] }
  | late (index : Nat) (acquired : Bool) (now : Nat) (call : PostCall mSensors π)
      (idle : state.post = .idle) (waits : state.waiting[index]? = some call)
      (stopped : state.mThreadsRun = false) :
      PostTransition mSubHalIndex state (.take index acquired now)
        ({ state with waiting := state.waiting.eraseIdx index }.returnCall call)
  | refused (index : Nat) (acquired : Bool) (now : Nat) (call : PostCall mSensors π)
      (refs : RefCounter) (idle : state.post = .idle)
      (waits : state.waiting[index]? = some call) (running : state.mThreadsRun = true)
      (taken : takeReferences state call acquired now = (false, refs)) :
      PostTransition mSubHalIndex state (.take index acquired now)
        ({ state with refs, waiting := state.waiting.eraseIdx index }.returnCall call)
  | accepted (index : Nat) (acquired : Bool) (now : Nat) (call : PostCall mSensors π)
      (refs : RefCounter) (idle : state.post = .idle)
      (waits : state.waiting[index]? = some call) (running : state.mThreadsRun = true)
      (taken : takeReferences state call acquired now = (true, refs)) :
      PostTransition mSubHalIndex state (.take index acquired now)
        { state with
          refs
          waiting := state.waiting.eraseIdx index
          post := .accepted call
          delivery := { state.delivery with
            accepted := state.delivery.accepted ++ [call.events] } }
  | startWrite (available numToWrite : Nat) (call : PostCall mSensors π)
      (holds : state.post = .accepted call) (nonzero : 0 < numToWrite)
      (bounded : numToWrite ≤ call.events.length)
      (empty : state.delivery.mPendingWriteEventsQueue = []) :
      PostTransition mSubHalIndex state (.measure available)
        { state with post := .writing call numToWrite }
  | skipWrite (available : Nat) (call : PostCall mSensors π)
      (holds : state.post = .accepted call) :
      PostTransition mSubHalIndex state (.measure available)
        { state with post := .leftover call 0 }
  | wrote (call : PostCall mSensors π) (numToWrite : Nat)
      (holds : state.post = .writing call numToWrite) :
      PostTransition mSubHalIndex state (.wrote true)
        { state with
          post := .leftover call numToWrite
          delivery := { state.delivery with
            written := state.delivery.written ++ call.events.take numToWrite } }
  | unwritten (call : PostCall mSensors π) (numToWrite : Nat)
      (holds : state.post = .writing call numToWrite) :
      PostTransition mSubHalIndex state (.wrote false) { state with post := .leftover call 0 }
  | complete (call : PostCall mSensors π) (numToWrite : Nat)
      (holds : state.post = .leftover call numToWrite)
      (nothingLeft : call.events.drop numToWrite = []) :
      PostTransition mSubHalIndex state .finish (state.returnCall call)
  | push (call : PostCall mSensors π) (numToWrite wakeupsLeft : Nat)
      (holds : state.post = .leftover call numToWrite)
      (left : wakeupsLeft = (call.events.drop numToWrite).countP (isWakeUp mSensors))
      (fits : state.delivery.mSizePendingWriteEventsQueue +
        (call.events.drop numToWrite).length ≤ maxSizePendingWriteEventsQueue) :
      PostTransition mSubHalIndex state .finish
        { state.returnCall call with
          delivery := state.delivery.push (call.events.drop numToWrite) wakeupsLeft }
  | overflow (call : PostCall mSensors π) (numToWrite wakeupsLeft : Nat)
      (holds : state.post = .leftover call numToWrite)
      (left : wakeupsLeft = (call.events.drop numToWrite).countP (isWakeUp mSensors)) :
      PostTransition mSubHalIndex state .finish
        { state.returnCall call with
          refs := decrementRefCountAndMaybeReleaseWakelock state.refs wakeupsLeft (-1)
          delivery := { state.delivery with
            overflowed := state.delivery.overflowed ++ call.events.drop numToWrite } }

/-! ### Facts about a call -/

theorem PostCall.listed (call : PostCall mSensors π) :
    call.events.all (isListed mSensors) = true :=
  (countNumWakeupEvents_of_counted call.counted).1

theorem PostCall.numWakeupEvents_eq (call : PostCall mSensors π) :
    call.numWakeupEvents = call.events.countP (isWakeUp mSensors) :=
  (countNumWakeupEvents_of_counted call.counted).2

theorem postStep_transition {mSubHalIndex : Nat} {state after : ProxyState mSensors π}
    {event : PostEvent π} (step : postStep mSubHalIndex state event = some after) :
    PostTransition mSubHalIndex state event after := by
  cases event with
  | call events object =>
      simp only [postStep] at step
      split at step
      · contradiction
      · rename_i wakelock live
        split at step
        · obtain rfl := Option.some.inj step
          exact .ignored events object
        · rename_i busy
          split at step
          · contradiction
          · rename_i processedEvents numWakeupEvents processed
            split at step
            · rename_i locked
              obtain rfl := Option.some.inj step
              exact .queued events object
                ⟨processedEvents, numWakeupEvents, wakelock,
                  (processEvents_eq_some processed).2, locked⟩
                live (by simpa using (not_or.mp busy).2) (processEvents_eq_some processed).1
            · obtain rfl := Option.some.inj step
              exact .ignored events object
  | take index acquired now =>
      simp only [postStep] at step
      split at step
      · rename_i call idle waits
        split at step
        · obtain rfl := Option.some.inj step
          exact .late index acquired now call idle waits ‹_›
        · rename_i running
          cases taken : takeReferences state call acquired now with
          | mk proceed refs =>
              have unfolded := taken
              unfold takeReferences at unfolded
              rw [unfolded] at step
              cases proceed with
              | true =>
                  obtain rfl := Option.some.inj step
                  exact .accepted index acquired now call refs idle waits
                    (by simpa using running) taken
              | false =>
                  obtain rfl := Option.some.inj step
                  exact .refused index acquired now call refs idle waits
                    (by simpa using running) taken
      · contradiction
  | measure available =>
      simp only [postStep] at step
      split at step
      · rename_i call queue holds _
        cases empty : state.delivery.mPendingWriteEventsQueue with
        | nil =>
            simp only [empty, List.isEmpty_nil, if_true] at step
            split at step
            · obtain rfl := Option.some.inj step
              exact .startWrite available _ call holds ‹_› (Nat.min_le_left ..) empty
            · obtain rfl := Option.some.inj step
              exact .skipWrite available call holds
        | cons front rest =>
            simp only [empty, List.isEmpty_cons, Bool.false_eq_true, if_false,
              Nat.lt_irrefl] at step
            obtain rfl := Option.some.inj step
            exact .skipWrite available call holds
      · contradiction
  | wrote success =>
      simp only [postStep] at step
      split at step
      · rename_i call numToWrite holds
        cases success with
        | true =>
            obtain rfl := Option.some.inj step
            exact .wrote call numToWrite holds
        | false =>
            obtain rfl := Option.some.inj step
            exact .unwritten call numToWrite holds
      · contradiction
  | finish =>
      simp only [postStep] at step
      split at step
      · rename_i call numToWrite holds
        rw [countNumWakeupEvents_of_listed call.listed] at step
        simp only [call.numWakeupEvents_eq, wakeUps_drop] at step
        split at step
        · rename_i nothingLeft
          obtain rfl := Option.some.inj step
          exact .complete call numToWrite holds (List.length_eq_zero_iff.mp nothingLeft)
        · split at step
          · obtain rfl := Option.some.inj step
            exact .push call numToWrite _ holds rfl ‹_›
          · obtain rfl := Option.some.inj step
            exact .overflow call numToWrite _ holds rfl
      · contradiction

/-! ## The workers -/

inductive PendingEvent where
  /-- The worker has the mutex and is past its wait. -/
  | take
  /-- `writeBlocking` returns. -/
  | wrote (success : Bool)
  /-- The references of a failed write are released. -/
  | drop
  /-- The worker has the mutex again and updates the queue. -/
  | update
  deriving DecidableEq, Repr

def pendingStep (state : ProxyState mSensors π) : PendingEvent → Option (ProxyState mSensors π)
  | .take =>
      match state.post, state.pendingWorker with
      | .idle, .waiting =>
          if state.mThreadsRun = false then
            some { state with pendingWorker := .notRunning }
          else
            match state.delivery.mPendingWriteEventsQueue, state.delivery.mEventQueue with
            | (pendingWriteEvents, _) :: _, some queue =>
                let numToWrite := min pendingWriteEvents.length queue.quantumCount
                match countNumWakeupEvents mSensors pendingWriteEvents numToWrite with
                | none => none
                | some numWakeupEvents =>
                    some { state with
                      pendingWorker :=
                        .writing ⟨queue.quantumCount, numToWrite, numWakeupEvents⟩ }
            | _, _ => none
      | _, _ => none
  | .wrote success =>
      match state.pendingWorker, state.delivery.mPendingWriteEventsQueue with
      | .writing write, (pendingWriteEvents, _) :: _ =>
          if success then
            some { state with
              pendingWorker := .updating write
              delivery := { state.delivery with
                written := state.delivery.written ++ pendingWriteEvents.take write.numToWrite } }
          else
            some { state with
              pendingWorker := .dropping write
              delivery := { state.delivery with
                failed := state.delivery.failed ++ pendingWriteEvents.take write.numToWrite } }
      | _, _ => none
  | .drop =>
      match state.pendingWorker with
      | .dropping write =>
          some { state with
            pendingWorker := .updating write
            refs := decrementRefCountAndMaybeReleaseWakelock state.refs write.numWakeupEvents (-1) }
      | _ => none
  | .update =>
      match state.post, state.pendingWorker, state.delivery.mPendingWriteEventsQueue with
      | .idle, .updating write, front :: rest =>
          some { state with
            pendingWorker := .waiting
            delivery := state.delivery.afterBlockingWrite write front rest }
      | _, _, _ => none

/-- What a step of the pending-writes worker can do. -/
inductive PendingTransition (state : ProxyState mSensors π) :
    PendingEvent → ProxyState mSensors π → Prop where
  | leave (idle : state.post = .idle) (waits : state.pendingWorker = .waiting)
      (stopped : state.mThreadsRun = false) :
      PendingTransition state .take { state with pendingWorker := .notRunning }
  | start (idle : state.post = .idle) (waits : state.pendingWorker = .waiting)
      (running : state.mThreadsRun = true) (front : List (Event π) × Nat)
      (rest : List (List (Event π) × Nat)) (queue : EventMessageQueue) (numWakeupEvents : Nat)
      (queued : state.delivery.mPendingWriteEventsQueue = front :: rest)
      (installed : state.delivery.mEventQueue = some queue)
      (counted : countNumWakeupEvents mSensors front.1 (min front.1.length queue.quantumCount) =
        some numWakeupEvents) :
      PendingTransition state .take
        { state with
          pendingWorker := .writing
            ⟨queue.quantumCount, min front.1.length queue.quantumCount, numWakeupEvents⟩ }
  | wrote (write : PendingWrite) (front : List (Event π) × Nat)
      (rest : List (List (Event π) × Nat)) (writes : state.pendingWorker = .writing write)
      (queued : state.delivery.mPendingWriteEventsQueue = front :: rest) :
      PendingTransition state (.wrote true)
        { state with
          pendingWorker := .updating write
          delivery := { state.delivery with
            written := state.delivery.written ++ front.1.take write.numToWrite } }
  | failed (write : PendingWrite) (front : List (Event π) × Nat)
      (rest : List (List (Event π) × Nat)) (writes : state.pendingWorker = .writing write)
      (queued : state.delivery.mPendingWriteEventsQueue = front :: rest) :
      PendingTransition state (.wrote false)
        { state with
          pendingWorker := .dropping write
          delivery := { state.delivery with
            failed := state.delivery.failed ++ front.1.take write.numToWrite } }
  | drop (write : PendingWrite) (drops : state.pendingWorker = .dropping write) :
      PendingTransition state .drop
        { state with
          pendingWorker := .updating write
          refs := decrementRefCountAndMaybeReleaseWakelock state.refs write.numWakeupEvents (-1) }
  | update (write : PendingWrite) (front : List (Event π) × Nat)
      (rest : List (List (Event π) × Nat)) (idle : state.post = .idle)
      (updates : state.pendingWorker = .updating write)
      (queued : state.delivery.mPendingWriteEventsQueue = front :: rest) :
      PendingTransition state .update
        { state with
          pendingWorker := .waiting
          delivery := state.delivery.afterBlockingWrite write front rest }

theorem pendingStep_transition {state after : ProxyState mSensors π} {event : PendingEvent}
    (step : pendingStep state event = some after) : PendingTransition state event after := by
  cases event with
  | take =>
      simp only [pendingStep] at step
      split at step
      · rename_i idle waits
        split at step
        · obtain rfl := Option.some.inj step
          exact .leave idle waits ‹_›
        · rename_i running
          split at step
          · rename_i events wakeups rest queue queued installed
            split at step
            · contradiction
            · rename_i numWakeupEvents counted
              obtain rfl := Option.some.inj step
              exact .start idle waits (by simpa using running) (events, wakeups) rest queue
                numWakeupEvents queued installed counted
          · contradiction
      · contradiction
  | wrote success =>
      simp only [pendingStep] at step
      split at step
      · rename_i write events wakeups rest writes queued
        cases success with
        | true =>
            obtain rfl := Option.some.inj step
            exact .wrote write (events, wakeups) rest writes queued
        | false =>
            obtain rfl := Option.some.inj step
            exact .failed write (events, wakeups) rest writes queued
      · contradiction
  | drop =>
      simp only [pendingStep] at step
      split at step
      · obtain rfl := Option.some.inj step
        exact .drop _ ‹_›
      · contradiction
  | update =>
      simp only [pendingStep] at step
      split at step
      · rename_i write front rest idle updates queued
        obtain rfl := Option.some.inj step
        exact .update write front rest idle updates queued
      · contradiction

inductive WakelockEvent where
  /-- The worker is past its wait; it reads the clock, and once more if it resets. -/
  | take (now later : Nat)
  /-- `readBlocking` returns, on success with the number of processed wake-ups. -/
  | read (numWakeLocksProcessed : Option Nat)
  deriving DecidableEq, Repr

def wakelockStep (state : ProxyState mSensors π) : WakelockEvent → Option (ProxyState mSensors π)
  | .take now later =>
      match state.wakelockWorker with
      | .waiting =>
          if state.mThreadsRun = false then
            some { state with
              refs := resetSharedWakelock state.refs now
              wakelockWorker := .notRunning
              closing := true }
          else if state.refs.mWakelockRefCount = 0 then
            none
          else if sharedWakelockDidTimeout state.refs now then
            some { state with refs := resetSharedWakelock { state.refs with clock := now } later }
          else
            some { state with
              refs := { state.refs with clock := now }
              wakelockWorker := .reading }
      | _ => none
  | .read none =>
      match state.wakelockWorker with
      | .reading => some { state with wakelockWorker := .waiting }
      | _ => none
  | .read (some numWakeLocksProcessed) =>
      match state.wakelockWorker with
      | .reading =>
          some { state with
            refs :=
              decrementRefCountAndMaybeReleaseWakelock state.refs numWakeLocksProcessed (-1)
            acknowledged := state.acknowledged + numWakeLocksProcessed
            wakelockWorker := .waiting }
      | _ => none

/-- What a step of the wake-lock worker can do. -/
inductive WakelockTransition (state : ProxyState mSensors π) :
    WakelockEvent → ProxyState mSensors π → Prop where
  | leave (now later : Nat) (waits : state.wakelockWorker = .waiting)
      (stopped : state.mThreadsRun = false) :
      WakelockTransition state (.take now later)
        { state with
          refs := resetSharedWakelock state.refs now
          wakelockWorker := .notRunning
          closing := true }
  | timeout (now later : Nat) (waits : state.wakelockWorker = .waiting)
      (running : state.mThreadsRun = true)
      (held : state.refs.mWakelockRefCount ≠ 0)
      (overdue : sharedWakelockDidTimeout state.refs now = true) :
      WakelockTransition state (.take now later)
        { state with refs := resetSharedWakelock { state.refs with clock := now } later }
  | startRead (now later : Nat) (waits : state.wakelockWorker = .waiting)
      (running : state.mThreadsRun = true) :
      WakelockTransition state (.take now later)
        { state with
          refs := { state.refs with clock := now }
          wakelockWorker := .reading }
  | readNothing (reads : state.wakelockWorker = .reading) :
      WakelockTransition state (.read none) { state with wakelockWorker := .waiting }
  | acknowledge (numWakeLocksProcessed : Nat) (reads : state.wakelockWorker = .reading) :
      WakelockTransition state (.read (some numWakeLocksProcessed))
        { state with
          refs :=
            decrementRefCountAndMaybeReleaseWakelock state.refs numWakeLocksProcessed (-1)
          acknowledged := state.acknowledged + numWakeLocksProcessed
          wakelockWorker := .waiting }

theorem wakelockStep_transition {state after : ProxyState mSensors π} {event : WakelockEvent}
    (step : wakelockStep state event = some after) : WakelockTransition state event after := by
  cases event with
  | take now later =>
      simp only [wakelockStep] at step
      split at step
      · rename_i waits
        split at step
        · obtain rfl := Option.some.inj step
          exact .leave now later waits ‹_›
        · rename_i running
          have running : state.mThreadsRun = true := by simpa using running
          split at step
          · contradiction
          · rename_i held
            split at step
            · obtain rfl := Option.some.inj step
              exact .timeout now later waits running held ‹_›
            · obtain rfl := Option.some.inj step
              exact .startRead now later waits running
      · contradiction
  | read processed =>
      cases processed with
      | none =>
          simp only [wakelockStep] at step
          split at step
          · obtain rfl := Option.some.inj step
            exact .readNothing ‹_›
          · contradiction
      | some numWakeLocksProcessed =>
          simp only [wakelockStep] at step
          split at step
          · obtain rfl := Option.some.inj step
            exact .acknowledge numWakeLocksProcessed ‹_›
          · contradiction

/-! ## Sessions -/

inductive ControlEvent where
  | stopThreads
  | beginInitialize (request : InitializeRequest)
  /-- Both workers have ended. -/
  | join
  | reset (now : Nat)
  | disableAllSensors
  | clearPending
  | replaceQueues
  | initializeSubHals (success : Bool)
  | run
  | spawnPending
  | spawnWakelock
  deriving DecidableEq, Repr

def controlStep (state : ProxyState mSensors π) : ControlEvent → Option (ProxyState mSensors π)
  | .stopThreads =>
      match state.control, state.post with
      | .idle, .idle => some { state with mThreadsRun := false, control := .stopping none }
      | _, _ => none
  | .beginInitialize request =>
      match state.control, state.post with
      | .idle, .idle =>
          some { state with mThreadsRun := false, control := .stopping (some request) }
      | _, _ => none
  | .join =>
      match state.control, state.pendingWorker, state.wakelockWorker with
      | .stopping none, .notRunning, .notRunning => some { state with control := .idle }
      | .stopping (some request), .notRunning, .notRunning =>
          some { state with control := .resetting request }
      | _, _, _ => none
  | .reset now =>
      match state.control with
      | .resetting request =>
          some { state with
            refs := resetSharedWakelock state.refs now
            control := .disabling request
            closing := true }
      | _ => none
  | .disableAllSensors =>
      match state.control with
      | .disabling request => some { state with control := .clearing request }
      | _ => none
  | .clearPending =>
      match state.control, state.post with
      | .clearing request, .idle =>
          some { state with
            delivery := state.delivery.clearPending
            control := .replacing request }
      | _, _ => none
  | .replaceQueues =>
      match state.control with
      | .replacing request =>
          some { state with
            delivery := state.delivery.install ⟨request.quantumCount⟩
            acknowledged := 0
            closing := false
            control := if request.usable then .initializingSubHals else .idle }
      | _ => none
  | .initializeSubHals success =>
      match state.control with
      | .initializingSubHals =>
          some { state with control := if success then .starting else .idle }
      | _ => none
  | .run =>
      match state.control with
      | .starting => some { state with mThreadsRun := true, control := .spawningPending }
      | _ => none
  | .spawnPending =>
      match state.control with
      | .spawningPending =>
          some { state with pendingWorker := .waiting, control := .spawningWakelock }
      | _ => none
  | .spawnWakelock =>
      match state.control with
      | .spawningWakelock => some { state with wakelockWorker := .waiting, control := .idle }
      | _ => none

/-- What a step inside `initialize` or `stopThreads` can do. -/
inductive ControlTransition (state : ProxyState mSensors π) :
    ControlEvent → ProxyState mSensors π → Prop where
  | stop (event : ControlEvent) (request : Option InitializeRequest)
      (free : state.control = .idle) (idle : state.post = .idle)
      (stops : event = .stopThreads ∨ ∃ request, event = .beginInitialize request) :
      ControlTransition state event
        { state with mThreadsRun := false, control := .stopping request }
  | stopped (joining : state.control = .stopping none)
      (pendingEnded : state.pendingWorker = .notRunning)
      (wakelockEnded : state.wakelockWorker = .notRunning) :
      ControlTransition state .join { state with control := .idle }
  | joined (request : InitializeRequest) (joining : state.control = .stopping (some request))
      (pendingEnded : state.pendingWorker = .notRunning)
      (wakelockEnded : state.wakelockWorker = .notRunning) :
      ControlTransition state .join { state with control := .resetting request }
  | reset (now : Nat) (request : InitializeRequest)
      (resetting : state.control = .resetting request) :
      ControlTransition state (.reset now)
        { state with
          refs := resetSharedWakelock state.refs now
          control := .disabling request
          closing := true }
  | disabled (request : InitializeRequest) (disabling : state.control = .disabling request) :
      ControlTransition state .disableAllSensors { state with control := .clearing request }
  | clear (request : InitializeRequest) (clearing : state.control = .clearing request)
      (idle : state.post = .idle) :
      ControlTransition state .clearPending
        { state with
          delivery := state.delivery.clearPending
          control := .replacing request }
  | replace (request : InitializeRequest) (replacing : state.control = .replacing request) :
      ControlTransition state .replaceQueues
        { state with
          delivery := state.delivery.install ⟨request.quantumCount⟩
          acknowledged := 0
          closing := false
          control := if request.usable then .initializingSubHals else .idle }
  | subHals (success : Bool) (initializing : state.control = .initializingSubHals) :
      ControlTransition state (.initializeSubHals success)
        { state with control := if success then .starting else .idle }
  | run (starting : state.control = .starting) :
      ControlTransition state .run
        { state with mThreadsRun := true, control := .spawningPending }
  | spawnPending (spawning : state.control = .spawningPending) :
      ControlTransition state .spawnPending
        { state with pendingWorker := .waiting, control := .spawningWakelock }
  | spawnWakelock (spawning : state.control = .spawningWakelock) :
      ControlTransition state .spawnWakelock
        { state with wakelockWorker := .waiting, control := .idle }

theorem controlStep_transition {state after : ProxyState mSensors π} {event : ControlEvent}
    (step : controlStep state event = some after) : ControlTransition state event after := by
  cases event with
  | stopThreads =>
      simp only [controlStep] at step
      split at step
      · obtain rfl := Option.some.inj step
        exact .stop _ none ‹_› ‹_› (.inl rfl)
      · contradiction
  | beginInitialize request =>
      simp only [controlStep] at step
      split at step
      · obtain rfl := Option.some.inj step
        exact .stop _ (some request) ‹_› ‹_› (.inr ⟨request, rfl⟩)
      · contradiction
  | join =>
      simp only [controlStep] at step
      split at step
      · obtain rfl := Option.some.inj step
        exact .stopped ‹_› ‹_› ‹_›
      · obtain rfl := Option.some.inj step
        exact .joined _ ‹_› ‹_› ‹_›
      · contradiction
  | reset now =>
      simp only [controlStep] at step
      split at step
      · obtain rfl := Option.some.inj step
        exact .reset now _ ‹_›
      · contradiction
  | disableAllSensors =>
      simp only [controlStep] at step
      split at step
      · obtain rfl := Option.some.inj step
        exact .disabled _ ‹_›
      · contradiction
  | clearPending =>
      simp only [controlStep] at step
      split at step
      · obtain rfl := Option.some.inj step
        exact .clear _ ‹_› ‹_›
      · contradiction
  | replaceQueues =>
      simp only [controlStep] at step
      split at step
      · obtain rfl := Option.some.inj step
        exact .replace _ ‹_›
      · contradiction
  | initializeSubHals success =>
      simp only [controlStep] at step
      split at step
      · obtain rfl := Option.some.inj step
        exact .subHals success ‹_›
      · contradiction
  | run =>
      simp only [controlStep] at step
      split at step
      · obtain rfl := Option.some.inj step
        exact .run ‹_›
      · contradiction
  | spawnPending =>
      simp only [controlStep] at step
      split at step
      · obtain rfl := Option.some.inj step
        exact .spawnPending ‹_›
      · contradiction
  | spawnWakelock =>
      simp only [controlStep] at step
      split at step
      · obtain rfl := Option.some.inj step
        exact .spawnWakelock ‹_›
      · contradiction

/-! ## The proxy -/

inductive ProxyEvent (π : Type) where
  | object (event : ObjectEvent)
  | post (event : PostEvent π)
  | pending (event : PendingEvent)
  | wakelock (event : WakelockEvent)
  | control (event : ControlEvent)
  deriving DecidableEq, Repr

def proxyStep (mSubHalIndex : Nat) : Step (ProxyEvent π) (ProxyState mSensors π)
  | state, .object event => objectStep state event
  | state, .post event => postStep mSubHalIndex state event
  | state, .pending event => pendingStep state event
  | state, .wakelock event => wakelockStep state event
  | state, .control event => controlStep state event

/-! ## A concrete run

Two sensors, the first of them a wake-up sensor, and an FMQ for two events. -/

def twoSensors : SensorMap :=
  [(1#32, ⟨1#32, 1#32⟩), (2#32, ⟨2#32, 0#32⟩)]

/-- All of `initialize`, which reads the clock once. -/
def openSession (now : Nat) : List (ProxyEvent Nat) :=
  [.control (.beginInitialize ⟨2, true⟩), .control .join, .control (.reset now),
    .control .disableAllSensors, .control .clearPending, .control .replaceQueues,
    .control (.initializeSubHals true), .control .run, .control .spawnPending,
    .control .spawnWakelock]

/-- A batch of four events of which one fits the FMQ, while the worker writes the
rest a batch of one event that has to queue behind it, and a blocking write that
fails. -/
def overlappingPosts : List (ProxyEvent Nat) :=
  openSession 10 ++
    [.object (.create true true 20),
      .post (.call [⟨1#32, 0⟩, ⟨2#32, 1⟩, ⟨1#32, 2⟩, ⟨1#32, 3⟩] 0), .post (.take 0 true 21),
      .post (.measure 1), .post (.wrote true), .post .finish, .object (.destroy 1),
      .pending .take,
      .object (.create true true 22), .post (.call [⟨1#32, 4⟩] 2), .post (.take 0 true 23),
      .post (.measure 2), .post .finish, .object (.destroy 3),
      .pending (.wrote true), .pending .update, .pending .take, .pending (.wrote false),
      .pending .drop, .pending .update]

end K50sv1.Sensors.HalProxy
