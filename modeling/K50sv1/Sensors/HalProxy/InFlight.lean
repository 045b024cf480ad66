import Mathlib.Algebra.Order.Group.Multiset
import K50sv1.Data.RefPool
import K50sv1.Sensors.HalProxy.References

/-!
# Wake-up events in flight

Between the check that takes its reference and its acknowledgement a wake-up event is
in the hands of a post, in the pending queue or in the FMQ.  This file records where
the events are, how many resets of the shared wake lock came before their checks, and how
many before they were queued or written.  Together with the locked `ScopedWakelock`
objects they are the owners of references, and the count is a pool in the sense of
`RefPool`.
-/

namespace K50sv1.Sensors.HalProxy

open K50sv1.Transition K50sv1.Data

variable {mSensors : SensorMap} {π : Type}

/-! ## Events in flight -/

/-- A wake-up event in the pending queue or in the FMQ. -/
structure Stamp where
  /-- The number of resets before its reference was taken. -/
  taken : Nat
  /-- The number of resets before it was queued or, once it is in the FMQ, written. -/
  placed : Nat
  deriving DecidableEq, Repr

/-- The wake-up events that have passed the checks and are neither acknowledged nor
dropped. -/
structure InFlight where
  /-- Of the call inside the mutex, by the number of resets before their references were
  taken. -/
  posted : List Nat
  /-- In the pending queue, in its order. -/
  queued : List Stamp
  /-- In the FMQ or read by the framework, in delivery order. -/
  written : List Stamp
  deriving DecidableEq, Repr

/-- Events are queued or written. -/
def place (resets : Nat) (taken : List Nat) : List Stamp :=
  taken.map fun taken => ⟨taken, resets⟩

theorem map_taken_place (resets : Nat) (taken : List Nat) :
    (place resets taken).map Stamp.taken = taken := by
  rw [place, List.map_map]
  exact List.map_id taken

theorem length_place (resets : Nat) (taken : List Nat) :
    (place resets taken).length = taken.length :=
  List.length_map _

theorem mem_place {resets : Nat} {taken : List Nat} {stamp : Stamp} :
    stamp ∈ place resets taken ↔ stamp.taken ∈ taken ∧ stamp.placed = resets := by
  obtain ⟨before, after⟩ := stamp
  simp [place, eq_comm]

namespace InFlight

def initial : InFlight where
  posted := []
  queued := []
  written := []

/-- A call takes `n` references. -/
def accept (inFlight : InFlight) (n resets : Nat) : InFlight :=
  { inFlight with posted := List.replicate n resets }

/-- The first `n` events of the call are written. -/
def write (inFlight : InFlight) (n resets : Nat) : InFlight :=
  { inFlight with
    posted := inFlight.posted.drop n
    written := inFlight.written ++ place resets (inFlight.posted.take n) }

/-- The rest of the call is queued. -/
def push (inFlight : InFlight) (resets : Nat) : InFlight :=
  { inFlight with
    posted := []
    queued := inFlight.queued ++ place resets inFlight.posted }

/-- The rest of the call is dropped. -/
def overflow (inFlight : InFlight) : InFlight :=
  { inFlight with posted := [] }

/-- The references that the first `n` events of the queue have taken. -/
def front (inFlight : InFlight) (n : Nat) : List Nat :=
  (inFlight.queued.take n).map Stamp.taken

/-- The references that the next `n` events to be acknowledged have taken. -/
def oldest (inFlight : InFlight) (n : Nat) : List Nat :=
  (inFlight.written.take n).map Stamp.taken

/-- The first `n` events of the queue are written. -/
def writeQueued (inFlight : InFlight) (n resets : Nat) : InFlight :=
  { inFlight with
    queued := inFlight.queued.drop n
    written := inFlight.written ++ place resets (inFlight.front n) }

/-- The first `n` events of the queue are dropped. -/
def dropQueued (inFlight : InFlight) (n : Nat) : InFlight :=
  { inFlight with queued := inFlight.queued.drop n }

/-- The framework acknowledges in delivery order. -/
def acknowledge (inFlight : InFlight) (n : Nat) : InFlight :=
  { inFlight with written := inFlight.written.drop n }

/-- The pending queue is thrown away. -/
def clearQueued (inFlight : InFlight) : InFlight :=
  { inFlight with queued := [] }

/-- The FMQ is replaced. -/
def clearWritten (inFlight : InFlight) : InFlight :=
  { inFlight with written := [] }

/-- The events that are queued or written. -/
def delivered (inFlight : InFlight) : List Stamp :=
  inFlight.queued ++ inFlight.written

/-- All events by the number of resets before their references were taken. -/
def stamps (inFlight : InFlight) : Multiset Nat :=
  inFlight.posted + inFlight.queued.map Stamp.taken + inFlight.written.map Stamp.taken

variable (inFlight : InFlight) (n resets : Nat)

theorem length_front : (inFlight.front n).length = min n inFlight.queued.length := by
  rw [front, List.length_map, List.length_take]

theorem front_subset : inFlight.front n ⊆ inFlight.queued.map Stamp.taken :=
  List.map_subset _ (List.take_subset _ _)

theorem oldest_subset : inFlight.oldest n ⊆ inFlight.written.map Stamp.taken :=
  List.map_subset _ (List.take_subset _ _)

theorem length_oldest : (inFlight.oldest n).length = min n inFlight.written.length := by
  rw [oldest, List.length_map, List.length_take]

theorem coe_take_add_drop {α : Type} (stamps : List α) :
    (stamps.take n + stamps.drop n : Multiset α) = stamps := by
  rw [Multiset.coe_add, List.take_append_drop]

/-- A list of events falls into its first `n` events and the others. -/
theorem coe_map_take_add_drop (stamps : List Stamp) :
    ((stamps.take n).map Stamp.taken + (stamps.drop n).map Stamp.taken : Multiset Nat) =
      stamps.map Stamp.taken := by
  rw [Multiset.coe_add, ← List.map_append, List.take_append_drop]

theorem stamps_write : (inFlight.write n resets).stamps = inFlight.stamps := by
  simp only [stamps, write, List.map_append, map_taken_place, ← Multiset.coe_add,
    ← coe_take_add_drop n inFlight.posted]
  ac_rfl

theorem stamps_push : (inFlight.push resets).stamps = inFlight.stamps := by
  simp only [stamps, push, List.map_append, map_taken_place, ← Multiset.coe_add,
    Multiset.coe_nil, zero_add]
  ac_rfl

theorem stamps_overflow : inFlight.stamps = inFlight.posted + inFlight.overflow.stamps := by
  simp only [stamps, overflow, Multiset.coe_nil, zero_add, add_assoc]

theorem stamps_writeQueued : (inFlight.writeQueued n resets).stamps = inFlight.stamps := by
  simp only [stamps, writeQueued, front, List.map_append, map_taken_place, ← Multiset.coe_add,
    ← coe_map_take_add_drop n inFlight.queued]
  ac_rfl

theorem stamps_dropQueued :
    inFlight.stamps = inFlight.front n + (inFlight.dropQueued n).stamps := by
  simp only [stamps, front, dropQueued, ← coe_map_take_add_drop n inFlight.queued]
  ac_rfl

theorem stamps_acknowledge :
    inFlight.stamps = inFlight.oldest n + (inFlight.acknowledge n).stamps := by
  simp only [stamps, oldest, acknowledge, ← coe_map_take_add_drop n inFlight.written]
  ac_rfl

theorem stamps_clearQueued :
    inFlight.stamps = inFlight.queued.map Stamp.taken + inFlight.clearQueued.stamps := by
  simp only [stamps, clearQueued, List.map_nil, Multiset.coe_nil, add_zero]
  ac_rfl

theorem stamps_clearWritten :
    inFlight.stamps = inFlight.written.map Stamp.taken + inFlight.clearWritten.stamps := by
  simp only [stamps, clearWritten, List.map_nil, Multiset.coe_nil, add_zero]
  ac_rfl

end InFlight

/-- What is left of the call inside the mutex does not fit in the pending queue. -/
def ProxyState.overflows (state : ProxyState mSensors π) : Bool :=
  match state.post with
  | .leftover call numToWrite =>
      maxSizePendingWriteEventsQueue <
        state.delivery.mSizePendingWriteEventsQueue + (call.events.drop numToWrite).length
  | _ => false

/-- Where the events in flight are after a step of the proxy. -/
def InFlight.record (inFlight : InFlight) (state after : ProxyState mSensors π) :
    ProxyEvent π → InFlight
  | .post (.take _ _ _) =>
      match after.post with
      | .accepted call => inFlight.accept call.numWakeupEvents state.refs.resets
      | _ => inFlight
  | .post (.wrote true) =>
      match state.post with
      | .writing call numToWrite =>
          inFlight.write ((call.events.take numToWrite).countP (isWakeUp mSensors))
            state.refs.resets
      | _ => inFlight
  | .post .finish => if state.overflows then inFlight.overflow else inFlight.push state.refs.resets
  | .pending (.wrote true) =>
      match state.pendingWorker with
      | .writing write => inFlight.writeQueued write.numWakeupEvents state.refs.resets
      | _ => inFlight
  | .pending .drop =>
      match state.pendingWorker with
      | .dropping write => inFlight.dropQueued write.numWakeupEvents
      | _ => inFlight
  | .wakelock (.read (some numWakeLocksProcessed)) => inFlight.acknowledge numWakeLocksProcessed
  | .control .clearPending => inFlight.clearQueued
  | .control .replaceQueues => inFlight.clearWritten
  | _ => inFlight

/-- The proxy with a record of the events in flight. -/
structure CoverState (mSensors : SensorMap) (π : Type) where
  proxy : ProxyState mSensors π
  inFlight : InFlight

def CoverState.initial (mSensors : SensorMap) (π : Type) (start reset : Nat) :
    CoverState mSensors π where
  proxy := .initial mSensors π start reset
  inFlight := .initial

def CoverState.next (state : CoverState mSensors π) (event : ProxyEvent π)
    (proxy : ProxyState mSensors π) : CoverState mSensors π where
  proxy := proxy
  inFlight := state.inFlight.record state.proxy proxy event

/-- The record follows the proxy and decides nothing. -/
def coverStep (mSubHalIndex : Nat) : Step (ProxyEvent π) (CoverState mSensors π) :=
  fun state event => (proxyStep mSubHalIndex state.proxy event).map (state.next event)

/-! ## The assumptions and the condition -/

/-- The framework acknowledges what has been written, and each event once. -/
def acknowledgesWritten (state : ProxyState mSensors π) : ProxyEvent π → Bool
  | .wakelock (.read (some numWakeLocksProcessed)) =>
      state.acknowledged + numWakeLocksProcessed ≤ state.writtenWakeUps
  | _ => true

/-- Clock readings increase and the framework acknowledges as it should. -/
def timelyStep (mSubHalIndex : Nat) : Step (ProxyEvent π) (CoverState mSensors π) :=
  restrict (fun state event =>
    timely state.proxy event = true ∧ acknowledgesWritten state.proxy event = true)
    (coverStep mSubHalIndex)

/-- The events in flight for which the step gives references back, by the number of resets
before these were taken. -/
def CoverState.returned (state : CoverState mSensors π) : ProxyEvent π → List Nat
  | .post .finish => if state.proxy.overflows then state.inFlight.posted else []
  | .pending .drop =>
      match state.proxy.pendingWorker with
      | .dropping write => state.inFlight.front write.numWakeupEvents
      | _ => []
  | .wakelock (.read (some numWakeLocksProcessed)) =>
      state.inFlight.oldest numWakeLocksProcessed
  | _ => []

/-- The events in flight that the step queues or writes, by the number of resets before
their references were taken. -/
def CoverState.placing (state : CoverState mSensors π) : ProxyEvent π → List Nat
  | .post (.wrote true) =>
      match state.proxy.post with
      | .writing call numToWrite =>
          state.inFlight.posted.take ((call.events.take numToWrite).countP (isWakeUp mSensors))
      | _ => []
  | .post .finish => if state.proxy.overflows then [] else state.inFlight.posted
  | .pending (.wrote true) =>
      match state.proxy.pendingWorker with
      | .writing write => state.inFlight.front write.numWakeupEvents
      | _ => []
  | _ => []

/-- The step takes no more from the count than the events it gives back for own, which
are those accepted since the last reset. -/
def sparing (state : CoverState mSensors π) (event : ProxyEvent π) : Bool :=
  min state.proxy.refs.mWakelockRefCount (state.returned event).length ≤
    (state.returned event).count state.proxy.refs.resets

def sparingStep (mSubHalIndex : Nat) : Step (ProxyEvent π) (CoverState mSensors π) :=
  restrict (fun state event => sparing state event = true) (timelyStep mSubHalIndex)

/-- No reset has taken the reference of an event that the step queues or writes. -/
def backed (state : CoverState mSensors π) (event : ProxyEvent π) : Bool :=
  (state.placing event).all fun taken => taken = state.proxy.refs.resets

def backedStep (mSubHalIndex : Nat) : Step (ProxyEvent π) (CoverState mSensors π) :=
  restrict (fun state event => backed state event = true) (sparingStep mSubHalIndex)

/-! ## The record is accurate -/

/-- The record has one stamp for each wake-up event in flight. -/
structure InFlight.Tracks (inFlight : InFlight) (state : ProxyState mSensors π) : Prop where
  posted : inFlight.posted.length = state.postedWakeUps
  queued : inFlight.queued.length + state.settledWakeUps = state.queuedWakeUps
  written : inFlight.written.length + state.acknowledged = state.writtenWakeUps

/-- The owners of references: locked objects and events in flight. -/
def CoverState.pool (state : CoverState mSensors π) : RefPool where
  count := state.proxy.refs.mWakelockRefCount
  resets := state.proxy.refs.resets
  holders := state.proxy.lockedWakelocks.map ScopedWakelock.generation + state.inFlight.stamps

theorem lockedSinceReset_eq (state : ProxyState mSensors π) :
    state.lockedSinceReset =
      (state.lockedWakelocks.map ScopedWakelock.generation).count state.refs.resets := by
  rw [ProxyState.lockedSinceReset, Multiset.count_map, Multiset.countP_eq_card_filter]
  simp only [eq_comm]

namespace CoverState

variable {state after : CoverState mSensors π}

/-- Nothing is taken or given back. -/
theorem moves_keep
    (count : after.proxy.refs.mWakelockRefCount = state.proxy.refs.mWakelockRefCount)
    (later : Later state.proxy.refs after.proxy.refs)
    (locked : after.proxy.lockedWakelocks = state.proxy.lockedWakelocks)
    (stamps : after.inFlight.stamps = state.inFlight.stamps) :
    RefPool.Moves state.pool after.pool := by
  have same : after.pool = state.pool := by
    simp only [pool, count, later.1, locked, stamps]
  rw [same]
  exact .refl

theorem moves_take {n : Nat}
    (count : after.proxy.refs.mWakelockRefCount = state.proxy.refs.mWakelockRefCount + n)
    (later : Later state.proxy.refs after.proxy.refs)
    (holders : after.pool.holders =
      Multiset.replicate n state.proxy.refs.resets + state.pool.holders) :
    RefPool.Moves state.pool after.pool := by
  have next : after.pool =
      { state.pool with count := state.pool.count + n, holders := after.pool.holders } := by
    simp only [pool, count, later.1]
  rw [next, holders]
  exact .take n

theorem moves_reset (count : after.proxy.refs.mWakelockRefCount = 0)
    (resets : after.proxy.refs.resets = state.proxy.refs.resets + 1)
    (locked : after.proxy.lockedWakelocks = state.proxy.lockedWakelocks)
    (stamps : after.inFlight.stamps = state.inFlight.stamps) :
    RefPool.Moves state.pool after.pool := by
  have next : after.pool = { state.pool with count := 0, resets := state.pool.resets + 1 } := by
    simp only [pool, count, resets, locked, stamps]
  rw [next]
  exact .reset

/-- Events leave, and as many references are given back. -/
structure GivesBack (state : CoverState mSensors π) (returned : List Nat)
    (after : CoverState mSensors π) : Prop where
  count : after.proxy.refs.mWakelockRefCount =
    state.proxy.refs.mWakelockRefCount - returned.length
  later : Later state.proxy.refs after.proxy.refs
  locked : after.proxy.lockedWakelocks = state.proxy.lockedWakelocks
  stamps : state.inFlight.stamps = returned + after.inFlight.stamps

theorem GivesBack.split {returned : List Nat} (gives : state.GivesBack returned after) :
    state.pool.holders = returned + after.pool.holders := by
  simp only [pool, gives.locked, gives.stamps]
  exact add_left_comm ..

theorem GivesBack.pool_eq {returned : List Nat} (gives : state.GivesBack returned after) :
    after.pool =
      { state.pool with
        count := state.pool.count - returned.length
        holders := after.pool.holders } := by
  simp only [pool, gives.count, gives.later.1]

/-- What a step can do to the owners. -/
def Follows (state : CoverState mSensors π) (event : ProxyEvent π)
    (after : CoverState mSensors π) : Prop :=
  (state.returned event = [] ∧ RefPool.Moves state.pool after.pool) ∨
    state.GivesBack (state.returned event) after

theorem Follows.keep {event : ProxyEvent π} (nothing : state.returned event = [])
    (count : after.proxy.refs.mWakelockRefCount = state.proxy.refs.mWakelockRefCount)
    (later : Later state.proxy.refs after.proxy.refs)
    (locked : after.proxy.lockedWakelocks = state.proxy.lockedWakelocks)
    (stamps : after.inFlight.stamps = state.inFlight.stamps) : state.Follows event after :=
  .inl ⟨nothing, moves_keep count later locked stamps⟩

/-- A sparing step takes from the count what the events it gives back for own. -/
theorem Follows.moves {event : ProxyEvent π} (follows : state.Follows event after)
    (exact : state.pool.Exact) (spares : sparing state event = true) :
    RefPool.Moves state.pool after.pool := by
  rcases follows with ⟨-, moves⟩ | gives
  · exact moves
  · rw [gives.pool_eq]
    apply RefPool.Moves.giveBack _ _ _ gives.split
    have counted := exact.counted
    rw [gives.split, Multiset.count_add, Multiset.coe_count] at counted
    have bounded : (state.returned event).count state.pool.resets ≤
        (state.returned event).length := List.count_le_length
    have spares : min state.pool.count (state.returned event).length ≤
        (state.returned event).count state.pool.resets := of_decide_eq_true spares
    rw [Multiset.coe_count]
    omega

theorem Follows.resets_le {event : ProxyEvent π} (follows : state.Follows event after) :
    state.proxy.refs.resets ≤ after.proxy.refs.resets := by
  rcases follows with ⟨-, moves⟩ | gives
  · exact moves.resets_le
  · exact Nat.le_of_eq gives.later.1.symm

/-- Any other step leaves fewer references than there are owners. -/
theorem Follows.overdrawn {event : ProxyEvent π} (follows : state.Follows event after)
    (exact : state.pool.Exact) (unsparing : sparing state event = false) :
    after.pool.count < after.pool.holders.count after.pool.resets := by
  have unsparing : ¬min state.pool.count (state.returned event).length ≤
      (state.returned event).count state.pool.resets := of_decide_eq_false unsparing
  rcases follows with ⟨nothing, -⟩ | gives
  · exact absurd (Nat.le_of_eq (by simp [nothing])) unsparing
  · have counted := exact.counted
    rw [gives.split, Multiset.count_add, Multiset.coe_count] at counted
    rw [gives.pool_eq]
    dsimp only
    omega

end CoverState

/-! ## Events that are queued or written -/

section Placing

variable {state : CoverState mSensors π} {event : ProxyEvent π} {proxy : ProxyState mSensors π}

theorem mem_stamps_of_placing {taken : Nat} (member : taken ∈ state.placing event) :
    taken ∈ state.inFlight.stamps := by
  simp only [InFlight.stamps, Multiset.mem_add, Multiset.mem_coe]
  unfold CoverState.placing at member
  split at member
  · split at member
    · exact .inl (.inl (List.mem_of_mem_take member))
    · exact absurd member List.not_mem_nil
  · split at member
    · exact absurd member List.not_mem_nil
    · exact .inl (.inl member)
  · split at member
    · exact .inl (.inr (InFlight.front_subset _ _ member))
    · exact absurd member List.not_mem_nil
  · exact absurd member List.not_mem_nil

/-- An event that is queued or written was so before the step, or the step has put it
there. -/
theorem mem_delivered_record {stamp : Stamp}
    (member : stamp ∈ (state.inFlight.record state.proxy proxy event).delivered) :
    stamp ∈ state.inFlight.delivered ∨
      stamp.taken ∈ state.placing event ∧ stamp.placed = state.proxy.refs.resets := by
  unfold InFlight.record at member
  unfold CoverState.placing
  simp only [InFlight.delivered, List.mem_append] at member ⊢
  split at member
  · split at member <;> exact .inl member
  · split at member
    · rcases member with queued | written
      · exact .inl (.inl queued)
      · exact (List.mem_append.mp written).imp .inr mem_place.mp
    · exact .inl member
  · split at member
    · exact .inl member
    · next fits =>
      simp only [fits]
      rcases member with queued | written
      · exact (List.mem_append.mp queued).imp .inl mem_place.mp
      · exact .inl (.inr written)
  · split at member
    · rcases member with queued | written
      · exact .inl (.inl (List.mem_of_mem_drop queued))
      · exact (List.mem_append.mp written).imp .inr mem_place.mp
    · exact .inl member
  · split at member
    · exact .inl (member.imp_left List.mem_of_mem_drop)
    · exact .inl member
  · exact .inl (member.imp_right List.mem_of_mem_drop)
  · exact .inl (.inr (member.resolve_left List.not_mem_nil))
  · exact .inl (.inl (member.resolve_right List.not_mem_nil))
  · exact .inl member

/-- The events that a step puts somewhere are there afterwards. -/
theorem delivered_of_placing {taken : Nat} (member : taken ∈ state.placing event)
    (proxy : ProxyState mSensors π) :
    ⟨taken, state.proxy.refs.resets⟩ ∈
      (state.inFlight.record state.proxy proxy event).delivered := by
  unfold CoverState.placing at member
  simp only [InFlight.delivered, List.mem_append]
  split at member
  · split at member
    · next writes =>
      simp only [InFlight.record, writes]
      exact .inr (List.mem_append_right _ (mem_place.mpr ⟨member, rfl⟩))
    · exact absurd member List.not_mem_nil
  · split at member
    · exact absurd member List.not_mem_nil
    · next fits =>
      simp only [InFlight.record, fits]
      exact .inl (List.mem_append_right _ (mem_place.mpr ⟨member, rfl⟩))
  · split at member
    · next writes =>
      simp only [InFlight.record, writes]
      exact .inr (List.mem_append_right _ (mem_place.mpr ⟨member, rfl⟩))
    · exact absurd member List.not_mem_nil
  · exact absurd member List.not_mem_nil

end Placing

/-- The events accepted, queued or written since the last of `resets` resets. -/
def InFlight.claims (inFlight : InFlight) (resets : Nat) : Nat :=
  inFlight.posted.count resets +
    inFlight.delivered.countP fun stamp => stamp.placed = resets

theorem InFlight.count_stamps (inFlight : InFlight) (resets : Nat) :
    inFlight.stamps.count resets = inFlight.posted.count resets +
      inFlight.delivered.countP fun stamp => stamp.taken = resets := by
  have counted (stamps : List Stamp) : (stamps.map Stamp.taken).count resets =
      stamps.countP fun stamp => stamp.taken = resets := by
    rw [List.count, List.countP_map]
    exact List.countP_congr fun stamp _ => by simp
  rw [InFlight.stamps, Multiset.count_add, Multiset.count_add, InFlight.delivered,
    List.countP_append, Multiset.coe_count, Multiset.coe_count, Multiset.coe_count, counted,
    counted, Nat.add_assoc]

end K50sv1.Sensors.HalProxy
