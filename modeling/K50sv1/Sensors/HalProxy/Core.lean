import K50sv1.Sensors.Core

/-!
# State of the multi-HAL proxy

The proxy keeps a shared wake lock under `mWakelockMutex` and a queue of pending
writes under `mEventQueueWriteMutex`.  This file holds both parts with the functions
that run inside one locked region, the `ScopedWakelock` objects that refer to the
count, and the control points of every thread that moves between regions.

Fields marked as ghost record what has happened; no function reads them to decide
what to do.
-/

namespace K50sv1.Sensors.HalProxy

/-! ## The shared wake lock -/

/-- `kWakelockTimeoutNs`: `SensorTimeout::WAKE_LOCK_SECONDS` is one second. -/
def wakelockTimeoutNs : Int := 1000000000

/-- A call of the kernel's wake-lock interface. -/
inductive KernelOp where
  | acquire
  | acquireFailed
  | release
  deriving DecidableEq, Repr

/-- The members under `mWakelockMutex`.  Times are nanoseconds since boot. -/
structure RefCounter where
  mWakelockRefCount : Nat
  mWakelockTimeoutStartTime : Int
  mWakelockTimeoutResetTime : Int
  /-- Ghost: the calls made to the kernel. -/
  kernel : List KernelOp
  /-- Ghost: how often `resetSharedWakelock` has run. -/
  resets : Nat
  /-- Ghost: the latest reading of `getTimeNow`. -/
  clock : Nat
  deriving DecidableEq, Repr

/-- The counter of a proxy constructed with two readings of the clock. -/
def RefCounter.initial (start reset : Nat) : RefCounter where
  mWakelockRefCount := 0
  mWakelockTimeoutStartTime := start
  mWakelockTimeoutResetTime := reset
  kernel := []
  resets := 0
  clock := reset

/-- The first component is the result; on success `now` is also what `*timeoutStart`
receives.  `acquired` tells whether `acquire_wake_lock` returns zero. -/
def incrementRefCountAndMaybeAcquireWakelock (refs : RefCounter) (mThreadsRun : Bool)
    (delta : Nat) (acquired : Bool) (now : Nat) : Bool × RefCounter :=
  if mThreadsRun = false ∨ delta = 0 then
    (false, refs)
  else if refs.mWakelockRefCount = 0 ∧ acquired = false then
    (false, { refs with kernel := refs.kernel ++ [.acquireFailed] })
  else
    (true,
      { refs with
        mWakelockRefCount := refs.mWakelockRefCount + delta
        mWakelockTimeoutStartTime := now
        kernel := if refs.mWakelockRefCount = 0 then refs.kernel ++ [.acquire] else refs.kernel
        clock := now })

/-- A `timeoutStart` of `-1` stands for the time of the last reset. -/
def decrementRefCountAndMaybeReleaseWakelock (refs : RefCounter) (delta : Nat)
    (timeoutStart : Int) : RefCounter :=
  let timeoutStart :=
    if timeoutStart = -1 then refs.mWakelockTimeoutResetTime else timeoutStart
  if refs.mWakelockRefCount = 0 ∨ timeoutStart < refs.mWakelockTimeoutResetTime then
    refs
  else
    let mWakelockRefCount := refs.mWakelockRefCount - min refs.mWakelockRefCount delta
    { refs with
      mWakelockRefCount
      kernel := if mWakelockRefCount = 0 then refs.kernel ++ [.release] else refs.kernel }

def resetSharedWakelock (refs : RefCounter) (now : Nat) : RefCounter :=
  { decrementRefCountAndMaybeReleaseWakelock refs refs.mWakelockRefCount (-1) with
    mWakelockTimeoutResetTime := now
    resets := refs.resets + 1
    clock := now }

def sharedWakelockDidTimeout (refs : RefCounter) (now : Nat) : Bool :=
  now - refs.mWakelockTimeoutStartTime > wakelockTimeoutNs

/-! ### The count -/

/-- Nothing can be taken while no session runs. -/
theorem increment_of_stopped (refs : RefCounter) (delta : Nat) (acquired : Bool) (now : Nat) :
    incrementRefCountAndMaybeAcquireWakelock refs false delta acquired now = (false, refs) := by
  simp [incrementRefCountAndMaybeAcquireWakelock]

/-- Taking references: nothing happens without a session or if none are asked for, the
kernel may refuse the first one, and otherwise all are taken at once. -/
theorem increment_cases (refs : RefCounter) (mThreadsRun : Bool) (delta : Nat)
    (acquired : Bool) (now : Nat) :
    incrementRefCountAndMaybeAcquireWakelock refs mThreadsRun delta acquired now =
        (false, refs) ∨
      (refs.mWakelockRefCount = 0 ∧
        incrementRefCountAndMaybeAcquireWakelock refs mThreadsRun delta acquired now =
          (false, { refs with kernel := refs.kernel ++ [.acquireFailed] })) ∨
      (0 < delta ∧
        incrementRefCountAndMaybeAcquireWakelock refs mThreadsRun delta acquired now =
          (true,
            { refs with
              mWakelockRefCount := refs.mWakelockRefCount + delta
              mWakelockTimeoutStartTime := now
              kernel :=
                if refs.mWakelockRefCount = 0 then refs.kernel ++ [.acquire] else refs.kernel
              clock := now })) := by
  unfold incrementRefCountAndMaybeAcquireWakelock
  split
  · exact .inl rfl
  · rename_i asked
    split
    · rename_i refused
      exact .inr (.inl ⟨refused.1, rfl⟩)
    · exact .inr (.inr ⟨Nat.pos_of_ne_zero (not_or.mp asked).2, rfl⟩)

/-- Giving references back: nothing happens if there are none or if they were taken
before the last reset. -/
theorem decrement_cases (refs : RefCounter) (delta : Nat) (timeoutStart : Int) :
    (decrementRefCountAndMaybeReleaseWakelock refs delta timeoutStart = refs ∧
        (refs.mWakelockRefCount = 0 ∨
          timeoutStart ≠ -1 ∧ timeoutStart < refs.mWakelockTimeoutResetTime)) ∨
      (refs.mWakelockRefCount ≠ 0 ∧
        (timeoutStart = -1 ∨ refs.mWakelockTimeoutResetTime ≤ timeoutStart) ∧
        decrementRefCountAndMaybeReleaseWakelock refs delta timeoutStart =
          { refs with
            mWakelockRefCount := refs.mWakelockRefCount - delta
            kernel :=
              if refs.mWakelockRefCount - delta = 0 then refs.kernel ++ [.release]
              else refs.kernel }) := by
  have saturating : refs.mWakelockRefCount - min refs.mWakelockRefCount delta =
      refs.mWakelockRefCount - delta := by omega
  by_cases untimed : timeoutStart = -1
  · by_cases zero : refs.mWakelockRefCount = 0
    · simp [decrementRefCountAndMaybeReleaseWakelock, zero]
    · simp [decrementRefCountAndMaybeReleaseWakelock, untimed, zero, saturating]
  · by_cases idle : refs.mWakelockRefCount = 0 ∨ timeoutStart < refs.mWakelockTimeoutResetTime
    · left
      simp only [decrementRefCountAndMaybeReleaseWakelock, untimed, if_false, idle, if_true]
      exact ⟨trivial, idle.imp_right fun stale => ⟨untimed, stale⟩⟩
    · right
      have held := not_or.mp idle
      simp only [decrementRefCountAndMaybeReleaseWakelock, untimed, if_false, idle, saturating]
      exact ⟨held.1, .inr (by omega), trivial⟩

/-- Giving references back changes the count and the kernel's side only. -/
theorem decrement_frame (refs : RefCounter) (delta : Nat) (timeoutStart : Int) :
    ∃ count kernel,
      decrementRefCountAndMaybeReleaseWakelock refs delta timeoutStart =
        { refs with mWakelockRefCount := count, kernel } := by
  rcases decrement_cases refs delta timeoutStart with ⟨same, -⟩ | ⟨-, -, changed⟩
  · exact ⟨refs.mWakelockRefCount, refs.kernel, same⟩
  · exact ⟨_, _, changed⟩

/-- Giving references back calls the kernel at most once, to release the wake lock. -/
theorem decrement_kernel (refs : RefCounter) (delta : Nat) (timeoutStart : Int) :
    (decrementRefCountAndMaybeReleaseWakelock refs delta timeoutStart).kernel = refs.kernel ∨
      (decrementRefCountAndMaybeReleaseWakelock refs delta timeoutStart).kernel =
        refs.kernel ++ [.release] := by
  rcases decrement_cases refs delta timeoutStart with ⟨same, -⟩ | ⟨-, -, changed⟩
  · rw [same]
    exact .inl rfl
  · rw [changed]
    dsimp only
    split
    · exact .inr rfl
    · exact .inl rfl

/-- Nothing can be given back when nothing is held. -/
theorem decrement_of_zero {refs : RefCounter} (zero : refs.mWakelockRefCount = 0) (delta : Nat)
    (timeoutStart : Int) :
    decrementRefCountAndMaybeReleaseWakelock refs delta timeoutStart = refs := by
  rcases decrement_cases refs delta timeoutStart with ⟨same, -⟩ | ⟨held, -⟩
  · exact same
  · exact absurd zero held

@[simp]
theorem decrement_untimed_count (refs : RefCounter) (delta : Nat) :
    (decrementRefCountAndMaybeReleaseWakelock refs delta (-1)).mWakelockRefCount =
      refs.mWakelockRefCount - delta := by
  rcases decrement_cases refs delta (-1) with ⟨same, zero | stale⟩ | ⟨-, -, changed⟩
  · rw [same, zero, Nat.zero_sub]
  · exact absurd rfl stale.1
  · rw [changed]

@[simp]
theorem reset_count (refs : RefCounter) (now : Nat) :
    (resetSharedWakelock refs now).mWakelockRefCount = 0 := by
  simp [resetSharedWakelock]

/-! ## Scoped wake locks -/

/-- A `ScopedWakelock` object. -/
structure ScopedWakelock where
  mCreatedAtTimeNs : Int
  mLocked : Bool
  /-- Ghost: the number of resets before the reference was taken. -/
  generation : Nat
  deriving DecidableEq, Repr

/-- The constructor. -/
def createScopedWakelock (refs : RefCounter) (mThreadsRun lock acquired : Bool) (now : Nat) :
    ScopedWakelock × RefCounter :=
  if lock then
    match incrementRefCountAndMaybeAcquireWakelock refs mThreadsRun 1 acquired now with
    | (true, refs) => (⟨now, true, refs.resets⟩, refs)
    | (false, refs) => (⟨0, false, refs.resets⟩, refs)
  else
    (⟨0, false, refs.resets⟩, refs)

/-- What a move leaves in its source. -/
def ScopedWakelock.movedFrom (wakelock : ScopedWakelock) : ScopedWakelock :=
  { wakelock with mLocked := false }

/-- The destructor, and the first half of the move assignment. -/
def releaseScopedWakelock (refs : RefCounter) (wakelock : ScopedWakelock) : RefCounter :=
  if wakelock.mLocked then
    decrementRefCountAndMaybeReleaseWakelock refs 1 wakelock.mCreatedAtTimeNs
  else
    refs

/-! ## Event delivery -/

/-- `kMaxSizePendingWriteEventsQueue`. -/
def maxSizePendingWriteEventsQueue : Nat := 100000

/-- The event FMQ, by the number of events it holds. -/
structure EventMessageQueue where
  quantumCount : Nat
  deriving DecidableEq, Repr

/-- The members under `mEventQueueWriteMutex`.  The ghost logs concern the event FMQ
that is installed at present. -/
structure Delivery (π : Type) where
  mPendingWriteEventsQueue : List (List (Event π) × Nat)
  mSizePendingWriteEventsQueue : Nat
  mMostEventsObservedPendingWriteEventsQueue : Nat
  mEventQueue : Option EventMessageQueue
  /-- Ghost: the batches that passed the checks, in the order of the mutex. -/
  accepted : List (List (Event π))
  /-- Ghost: the events written to the FMQ. -/
  written : List (Event π)
  /-- Ghost: the events dropped because the pending queue was full. -/
  overflowed : List (Event π)
  /-- Ghost: the events of failed blocking writes. -/
  failed : List (Event π)
  /-- Ghost: the events that were still queued when the session ended. -/
  abandoned : List (Event π)
  deriving DecidableEq, Repr

variable {π : Type}

def Delivery.initial : Delivery π where
  mPendingWriteEventsQueue := []
  mSizePendingWriteEventsQueue := 0
  mMostEventsObservedPendingWriteEventsQueue := 0
  mEventQueue := none
  accepted := []
  written := []
  overflowed := []
  failed := []
  abandoned := []

/-- The remainder of a post joins the queue. -/
def Delivery.push (delivery : Delivery π) (eventsLeft : List (Event π)) (wakeupsLeft : Nat) :
    Delivery π :=
  let size := delivery.mSizePendingWriteEventsQueue + eventsLeft.length
  { delivery with
    mPendingWriteEventsQueue := delivery.mPendingWriteEventsQueue ++ [(eventsLeft, wakeupsLeft)]
    mSizePendingWriteEventsQueue := size
    mMostEventsObservedPendingWriteEventsQueue :=
      max delivery.mMostEventsObservedPendingWriteEventsQueue size }

/-- The locals of one round of `handlePendingWrites`. -/
structure PendingWrite where
  eventQueueSize : Nat
  numToWrite : Nat
  numWakeupEvents : Nat
  deriving DecidableEq, Repr

/-- The queue update after a blocking write. -/
def Delivery.afterBlockingWrite (delivery : Delivery π) (write : PendingWrite)
    (front : List (Event π) × Nat) (rest : List (List (Event π) × Nat)) : Delivery π :=
  { delivery with
    mPendingWriteEventsQueue :=
      if front.1.length > write.eventQueueSize then
        (front.1.drop write.eventQueueSize, front.2 - write.numWakeupEvents) :: rest
      else
        rest
    mSizePendingWriteEventsQueue := delivery.mSizePendingWriteEventsQueue - write.numToWrite }

/-- `initialize` throws the old queue away. -/
def Delivery.clearPending (delivery : Delivery π) : Delivery π :=
  { delivery with
    mPendingWriteEventsQueue := []
    mSizePendingWriteEventsQueue := 0
    abandoned := delivery.abandoned ++ delivery.mPendingWriteEventsQueue.flatMap Prod.fst }

/-- `initialize` installs a new event FMQ. -/
def Delivery.install (delivery : Delivery π) (queue : EventMessageQueue) : Delivery π :=
  { delivery with
    mEventQueue := some queue
    accepted := []
    written := []
    overflowed := []
    failed := []
    abandoned := [] }

/-! ## Control points -/

/-- A call of `postEventsToMessageQueue` with its arguments.  `HalProxyCallback` is
the only caller, so the count belongs to the batch and wake-up events come with a
locked wake lock. -/
structure PostCall (mSensors : SensorMap) (π : Type) where
  events : List (Event π)
  numWakeupEvents : Nat
  wakelock : ScopedWakelock
  counted : countNumWakeupEvents mSensors events events.length = some numWakeupEvents
  locked : 0 < numWakeupEvents → wakelock.mLocked = true

/-- Where the call that holds `mEventQueueWriteMutex` has got to. -/
inductive PostPhase (mSensors : SensorMap) (π : Type) where
  | idle
  /-- Past the checks; the references of its wake-up events are taken. -/
  | accepted (call : PostCall mSensors π)
  /-- Inside `mEventQueue->write`. -/
  | writing (call : PostCall mSensors π) (numToWrite : Nat)
  /-- The first `numToWrite` events are written, the rest is to be queued or dropped. -/
  | leftover (call : PostCall mSensors π) (numToWrite : Nat)

/-- Where the pending-writes worker has got to. -/
inductive PendingWorker where
  | notRunning
  /-- At the head of its loop or waiting on the condition variable. -/
  | waiting
  /-- Inside `writeBlocking`, without the mutex. -/
  | writing (write : PendingWrite)
  /-- The write failed and its references are still to be released. -/
  | dropping (write : PendingWrite)
  /-- About to take the mutex and update the queue. -/
  | updating (write : PendingWrite)
  deriving DecidableEq, Repr

/-- Where the wake-lock worker has got to. -/
inductive WakelockWorker where
  | notRunning
  | waiting
  /-- Inside `readBlocking`, without the mutex. -/
  | reading
  deriving DecidableEq, Repr

/-- The arguments of `initialize`: the capacity of the event FMQ, and whether the
callback is set, both queues are valid and both event flags can be created. -/
structure InitializeRequest where
  quantumCount : Nat
  usable : Bool
  deriving DecidableEq, Repr

/-- Where the thread inside `initialize`, or inside a bare `stopThreads`, has got
to. -/
inductive Control where
  | idle
  /-- `mThreadsRun` is cleared; the workers are being joined. -/
  | stopping (request : Option InitializeRequest)
  | resetting (request : InitializeRequest)
  | disabling (request : InitializeRequest)
  | clearing (request : InitializeRequest)
  | replacing (request : InitializeRequest)
  | initializingSubHals
  | starting
  | spawningPending
  | spawningWakelock
  deriving DecidableEq, Repr

structure ProxyState (mSensors : SensorMap) (π : Type) where
  mThreadsRun : Bool
  refs : RefCounter
  delivery : Delivery π
  /-- Every `ScopedWakelock` outside `postEventsToMessageQueue`; `none` is destroyed. -/
  wakelocks : List (Option ScopedWakelock)
  /-- The calls that wait for `mEventQueueWriteMutex`. -/
  waiting : List (PostCall mSensors π)
  post : PostPhase mSensors π
  pendingWorker : PendingWorker
  wakelockWorker : WakelockWorker
  control : Control
  /-- Ghost: the wake-up events acknowledged since the FMQ was installed. -/
  acknowledged : Nat
  /-- Ghost: the references of the session have been given up, and its queues are not
  replaced yet. -/
  closing : Bool

def ProxyState.initial (mSensors : SensorMap) (π : Type) (start reset : Nat) :
    ProxyState mSensors π where
  mThreadsRun := false
  refs := .initial start reset
  delivery := .initial
  wakelocks := []
  waiting := []
  post := .idle
  pendingWorker := .notRunning
  wakelockWorker := .notRunning
  control := .idle
  acknowledged := 0
  closing := false

/-- A call returns: its wake-lock argument is left to be destroyed. -/
def ProxyState.returnCall {mSensors : SensorMap} (state : ProxyState mSensors π)
    (call : PostCall mSensors π) : ProxyState mSensors π :=
  { state with
    post := .idle
    wakelocks := state.wakelocks ++ [some call.wakelock] }

end K50sv1.Sensors.HalProxy
