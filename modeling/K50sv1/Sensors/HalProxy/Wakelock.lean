import Mathlib.Data.List.Perm.Basic
import Mathlib.Data.List.ReduceOption
import Mathlib.Data.Multiset.Filter
import K50sv1.Sensors.HalProxy.System

/-!
# The shared wake lock and the objects that refer to it

Every step changes the reference count in one of a few ways.  From these alone it
follows that the kernel's wake lock is held exactly while the count is positive and
that acquisitions and releases alternate.  The second half of the file follows the
locked `ScopedWakelock` objects through moves, posts and returns: each step keeps
them, adds one or removes one.
-/

namespace K50sv1.Sensors.HalProxy

open K50sv1.Transition

variable {mSensors : SensorMap} {π : Type}

/-! ## The kernel's side -/

/-- The kernel's wake lock.  It is acquired only while it is free and released only
while it is held. -/
def kernelStep : Step KernelOp Bool
  | false, .acquire => some true
  | false, .acquireFailed => some false
  | true, .release => some false
  | _, _ => none

/-- The ways in which a step can change the reference count. -/
inductive RefStep (refs : RefCounter) : RefCounter → Prop where
  | same : RefStep refs refs
  | tick (now : Nat) : RefStep refs { refs with clock := now }
  | increment (mThreadsRun : Bool) (delta : Nat) (acquired : Bool) (now : Nat) :
      RefStep refs
        (incrementRefCountAndMaybeAcquireWakelock refs mThreadsRun delta acquired now).2
  | decrement (delta : Nat) (timeoutStart : Int) :
      RefStep refs (decrementRefCountAndMaybeReleaseWakelock refs delta timeoutStart)
  | reset (reading now : Nat) :
      RefStep refs (resetSharedWakelock { refs with clock := reading } now)

theorem releaseScopedWakelock_refStep (refs : RefCounter) (wakelock : ScopedWakelock) :
    RefStep refs (releaseScopedWakelock refs wakelock) := by
  unfold releaseScopedWakelock
  split
  · exact .decrement 1 _
  · exact .same

theorem createScopedWakelock_refStep (refs : RefCounter) (mThreadsRun lock acquired : Bool)
    (now : Nat) : RefStep refs (createScopedWakelock refs mThreadsRun lock acquired now).2 := by
  have taken : RefStep refs
      (incrementRefCountAndMaybeAcquireWakelock refs mThreadsRun 1 acquired now).2 :=
    .increment mThreadsRun 1 acquired now
  unfold createScopedWakelock
  cases lock with
  | false => exact .same
  | true =>
      simp only [if_true]
      split
      · rename_i result
        rw [result] at taken
        exact taken
      · rename_i result
        rw [result] at taken
        exact taken

theorem takeReferences_refStep {state : ProxyState mSensors π} {call : PostCall mSensors π}
    {acquired proceed : Bool} {now : Nat} {refs : RefCounter}
    (taken : takeReferences state call acquired now = (proceed, refs)) :
    RefStep state.refs refs := by
  unfold takeReferences at taken
  split at taken
  · have increment : RefStep state.refs
        (incrementRefCountAndMaybeAcquireWakelock state.refs state.mThreadsRun
          call.numWakeupEvents acquired now).2 :=
      .increment state.mThreadsRun call.numWakeupEvents acquired now
    rw [taken] at increment
    exact increment
  · rw [← (Prod.mk.inj taken).2]
    exact .same

theorem proxyStep_refStep {mSubHalIndex : Nat} {state after : ProxyState mSensors π}
    {event : ProxyEvent π} (step : proxyStep mSubHalIndex state event = some after) :
    RefStep state.refs after.refs := by
  cases event with
  | object event =>
      cases objectStep_transition step with
      | create lock acquired now wakelock refs created =>
          have refStep :=
            createScopedWakelock_refStep state.refs state.mThreadsRun lock acquired now
          rw [created] at refStep
          exact refStep
      | moveConstruct => exact .same
      | selfAssign => exact .same
      | moveAssign => exact releaseScopedWakelock_refStep _ _
      | destroy => exact releaseScopedWakelock_refStep _ _
  | post event =>
      cases postStep_transition step with
      | ignored => exact .same
      | queued => exact .same
      | late => exact .same
      | refused index acquired now call refs idle waits running taken =>
          exact takeReferences_refStep taken
      | accepted index acquired now call refs idle waits running taken =>
          exact takeReferences_refStep taken
      | startWrite => exact .same
      | skipWrite => exact .same
      | wrote => exact .same
      | unwritten => exact .same
      | complete => exact .same
      | push => exact .same
      | overflow => exact .decrement _ _
  | pending event =>
      cases pendingStep_transition step with
      | leave => exact .same
      | start => exact .same
      | wrote => exact .same
      | failed => exact .same
      | drop => exact .decrement _ _
      | update => exact .same
  | wakelock event =>
      cases wakelockStep_transition step with
      | leave now => exact .reset state.refs.clock now
      | timeout now later => exact .reset now later
      | startRead now => exact .tick now
      | readNothing => exact .same
      | acknowledge => exact .decrement _ _
  | control event =>
      cases controlStep_transition step with
      | stop => exact .same
      | stopped => exact .same
      | joined => exact .same
      | reset now => exact .reset state.refs.clock now
      | disabled => exact .same
      | clear => exact .same
      | replace => exact .same
      | subHals => exact .same
      | run => exact .same
      | spawnPending => exact .same
      | spawnWakelock => exact .same

/-- The calls made to the kernel are a run of its wake lock that ends held exactly
when the count is positive. -/
def KernelInvariant (refs : RefCounter) : Prop :=
  Runs kernelStep false refs.kernel (decide (0 < refs.mWakelockRefCount))

theorem kernelInvariant_increment {refs : RefCounter} (invariant : KernelInvariant refs)
    (mThreadsRun : Bool) (delta : Nat) (acquired : Bool) (now : Nat) :
    KernelInvariant
      (incrementRefCountAndMaybeAcquireWakelock refs mThreadsRun delta acquired now).2 := by
  rcases increment_cases refs mThreadsRun delta acquired now with
    same | ⟨zero, refused⟩ | ⟨positive, taken⟩
  · rw [same]
    exact invariant
  · rw [refused]
    unfold KernelInvariant at invariant ⊢
    simp only [zero] at invariant ⊢
    exact invariant.concat rfl
  · rw [taken]
    unfold KernelInvariant at invariant ⊢
    have held : decide (0 < refs.mWakelockRefCount + delta) = true :=
      decide_eq_true (Nat.add_pos_right _ positive)
    simp only [held]
    by_cases zero : refs.mWakelockRefCount = 0
    · simp only [zero, if_true] at invariant ⊢
      exact invariant.concat rfl
    · have already : decide (0 < refs.mWakelockRefCount) = true :=
        decide_eq_true (Nat.pos_of_ne_zero zero)
      rw [if_neg zero, ← already]
      exact invariant

theorem kernelInvariant_decrement {refs : RefCounter} (invariant : KernelInvariant refs)
    (delta : Nat) (timeoutStart : Int) :
    KernelInvariant (decrementRefCountAndMaybeReleaseWakelock refs delta timeoutStart) := by
  rcases decrement_cases refs delta timeoutStart with ⟨same, -⟩ | ⟨positive, -, changed⟩
  · rw [same]
    exact invariant
  · rw [changed]
    unfold KernelInvariant at invariant ⊢
    have held : decide (0 < refs.mWakelockRefCount) = true := by simp; omega
    rw [held] at invariant
    by_cases last : refs.mWakelockRefCount - delta = 0
    · simp only [last, if_true]
      exact invariant.concat rfl
    · have still : decide (0 < refs.mWakelockRefCount - delta) = true := by simp; omega
      simp only [last, if_false, still]
      exact invariant

theorem kernelInvariant_refStep {refs after : RefCounter} (invariant : KernelInvariant refs)
    (step : RefStep refs after) : KernelInvariant after := by
  cases step with
  | same => exact invariant
  | tick now => exact invariant
  | increment mThreadsRun delta acquired now =>
      exact kernelInvariant_increment invariant mThreadsRun delta acquired now
  | decrement delta timeoutStart => exact kernelInvariant_decrement invariant delta timeoutStart
  | reset reading now =>
      have ticked : KernelInvariant { refs with clock := reading } := invariant
      exact kernelInvariant_decrement ticked refs.mWakelockRefCount (-1)

theorem reachable_kernelInvariant {mSubHalIndex start reset : Nat}
    {state : ProxyState mSensors π}
    (reachable : Reachable (proxyStep mSubHalIndex)
      (ProxyState.initial mSensors π start reset) state) : KernelInvariant state.refs := by
  apply reachable.invariant (I := fun state => KernelInvariant state.refs)
  · rfl
  · intro state event after invariant step
    exact kernelInvariant_refStep invariant (proxyStep_refStep step)

/-- A failed acquisition leaves the count as it was, at zero. -/
theorem RefStep.count_of_acquireFailed {refs after : RefCounter} (step : RefStep refs after)
    (failed : after.kernel = refs.kernel ++ [.acquireFailed]) :
    after.mWakelockRefCount = refs.mWakelockRefCount := by
  cases step with
  | same => rfl
  | tick => rfl
  | increment mThreadsRun delta acquired now =>
      rcases increment_cases refs mThreadsRun delta acquired now with
        same | ⟨-, refused⟩ | ⟨-, taken⟩
      · rw [same]
      · rw [refused]
      · rw [taken] at failed
        dsimp only at failed
        split at failed
        · simp at failed
        · simp at failed
  | decrement delta timeoutStart =>
      rcases decrement_kernel refs delta timeoutStart with same | released
      · simp [same] at failed
      · simp [released] at failed
  | reset reading now =>
      change (decrementRefCountAndMaybeReleaseWakelock { refs with clock := reading }
        refs.mWakelockRefCount (-1)).kernel = _ at failed
      rcases decrement_kernel { refs with clock := reading } refs.mWakelockRefCount (-1) with
        same | released
      · simp [same] at failed
      · simp [released] at failed

/-! ## The locked objects -/

/-- The wake lock of the call that holds the mutex. -/
def PostPhase.wakelocks : PostPhase mSensors π → Multiset ScopedWakelock
  | .idle => 0
  | .accepted call | .writing call _ | .leftover call _ => call.wakelock ::ₘ 0

/-- The wake locks of the calls that wait for the mutex. -/
def waitingWakelocks (waiting : List (PostCall mSensors π)) : Multiset ScopedWakelock :=
  waiting.map PostCall.wakelock

/-- The live objects outside of calls. -/
def pooledWakelocks (wakelocks : List (Option ScopedWakelock)) : Multiset ScopedWakelock :=
  wakelocks.reduceOption

/-- The objects that own a reference, as far as they know, wherever they are. -/
def ProxyState.lockedWakelocks (state : ProxyState mSensors π) : Multiset ScopedWakelock :=
  (pooledWakelocks state.wakelocks + waitingWakelocks state.waiting +
    state.post.wakelocks).filter (ScopedWakelock.mLocked · = true)

@[simp]
theorem pooledWakelocks_concat (wakelocks : List (Option ScopedWakelock))
    (wakelock : ScopedWakelock) :
    pooledWakelocks (wakelocks ++ [some wakelock]) = wakelock ::ₘ pooledWakelocks wakelocks := by
  unfold pooledWakelocks
  rw [List.reduceOption_append]
  exact Multiset.coe_eq_coe.mpr (List.perm_append_singleton wakelock _)

@[simp]
theorem waitingWakelocks_concat (waiting : List (PostCall mSensors π))
    (call : PostCall mSensors π) :
    waitingWakelocks (waiting ++ [call]) = call.wakelock ::ₘ waitingWakelocks waiting := by
  unfold waitingWakelocks
  rw [List.map_append]
  exact Multiset.coe_eq_coe.mpr (List.perm_append_singleton call.wakelock _)

/-- Replacing one object of the pool exchanges it for another. -/
theorem pooledWakelocks_set {state : ProxyState mSensors π} {object : Nat}
    {wakelock : ScopedWakelock} (live : state.wakelock? object = some wakelock) :
    ∃ rest, pooledWakelocks state.wakelocks = wakelock ::ₘ rest ∧
      pooledWakelocks (state.wakelocks.set object none) = rest ∧
      ∀ other, pooledWakelocks (state.wakelocks.set object (some other)) = other ::ₘ rest := by
  have slot : state.wakelocks[object]? = some (some wakelock) := by
    simpa [ProxyState.wakelock?, Option.join_eq_some_iff] using live
  obtain ⟨bound, atObject⟩ := List.getElem?_eq_some_iff.mp slot
  have removed := List.getElem_cons_eraseIdx_perm bound
  rw [atObject] at removed
  refine ⟨pooledWakelocks (state.wakelocks.eraseIdx object), ?_, ?_, ?_⟩
  · exact Multiset.coe_eq_coe.mpr (removed.symm.filterMap id)
  · exact Multiset.coe_eq_coe.mpr ((List.set_perm_cons_eraseIdx bound none).filterMap id)
  · intro other
    exact Multiset.coe_eq_coe.mpr ((List.set_perm_cons_eraseIdx bound (some other)).filterMap id)

theorem waitingWakelocks_eraseIdx {waiting : List (PostCall mSensors π)} {index : Nat}
    {call : PostCall mSensors π} (waits : waiting[index]? = some call) :
    waitingWakelocks waiting = call.wakelock ::ₘ waitingWakelocks (waiting.eraseIdx index) := by
  obtain ⟨bound, atIndex⟩ := List.getElem?_eq_some_iff.mp waits
  have removed := List.getElem_cons_eraseIdx_perm bound
  rw [atIndex] at removed
  exact Multiset.coe_eq_coe.mpr (removed.symm.map PostCall.wakelock)

/-- The object itself if it is locked. -/
def ScopedWakelock.reference (wakelock : ScopedWakelock) : Multiset ScopedWakelock :=
  if wakelock.mLocked = true then {wakelock} else 0

@[simp]
theorem reference_movedFrom (wakelock : ScopedWakelock) : wakelock.movedFrom.reference = 0 := by
  simp [ScopedWakelock.reference, ScopedWakelock.movedFrom]

theorem filter_locked_cons (wakelock : ScopedWakelock) (rest : Multiset ScopedWakelock) :
    (wakelock ::ₘ rest).filter (ScopedWakelock.mLocked · = true) =
      wakelock.reference + rest.filter (ScopedWakelock.mLocked · = true) :=
  Multiset.filter_cons rest

/-- A new object brings its reference. -/
theorem lockedWakelocks_create (state : ProxyState mSensors π) (wakelock : ScopedWakelock)
    (refs : RefCounter) :
    ({ state with refs, wakelocks := state.wakelocks ++ [some wakelock] } :
        ProxyState mSensors π).lockedWakelocks =
      wakelock.reference + state.lockedWakelocks := by
  simp only [ProxyState.lockedWakelocks, pooledWakelocks_concat, Multiset.cons_add,
    filter_locked_cons]

/-- A move changes the place of a reference. -/
theorem lockedWakelocks_moveConstruct {state : ProxyState mSensors π} {source : Nat}
    {wakelock : ScopedWakelock} (live : state.wakelock? source = some wakelock) :
    ({ state with
        wakelocks := state.wakelocks.set source (some wakelock.movedFrom) ++ [some wakelock] } :
        ProxyState mSensors π).lockedWakelocks = state.lockedWakelocks := by
  obtain ⟨rest, pool, -, exchanged⟩ := pooledWakelocks_set live
  simp only [ProxyState.lockedWakelocks, pooledWakelocks_concat, exchanged, pool,
    Multiset.cons_add, filter_locked_cons, reference_movedFrom, Multiset.zero_add]

theorem lockedWakelocks_destroy {state : ProxyState mSensors π} {object : Nat}
    {wakelock : ScopedWakelock} (live : state.wakelock? object = some wakelock)
    (refs : RefCounter) :
    state.lockedWakelocks = wakelock.reference +
      ({ state with refs, wakelocks := state.wakelocks.set object none } :
        ProxyState mSensors π).lockedWakelocks := by
  obtain ⟨rest, pool, removed, -⟩ := pooledWakelocks_set live
  simp only [ProxyState.lockedWakelocks, pool, removed, Multiset.cons_add, filter_locked_cons]

/-- An assignment gives up the old reference of its target. -/
theorem lockedWakelocks_moveAssign {state : ProxyState mSensors π} {target source : Nat}
    {old new : ScopedWakelock} (distinct : target ≠ source)
    (oldLive : state.wakelock? target = some old) (newLive : state.wakelock? source = some new)
    (refs : RefCounter) :
    state.lockedWakelocks = old.reference +
      ({ state with
          refs
          wakelocks :=
            (state.wakelocks.set target (some new)).set source (some new.movedFrom) } :
        ProxyState mSensors π).lockedWakelocks := by
  obtain ⟨rest, pool, -, exchanged⟩ := pooledWakelocks_set oldLive
  -- After the first store the source still holds `new`.
  have stillLive : ({ state with wakelocks := state.wakelocks.set target (some new) } :
      ProxyState mSensors π).wakelock? source = some new := by
    simpa [ProxyState.wakelock?, List.getElem?_set_ne distinct] using newLive
  obtain ⟨rest', pool', -, exchanged'⟩ := pooledWakelocks_set stillLive
  have same : rest' = rest := by
    rw [exchanged new] at pool'
    exact ((Multiset.cons_inj_right new).mp pool').symm
  simp only [ProxyState.lockedWakelocks, pool, exchanged', same, Multiset.cons_add,
    filter_locked_cons, reference_movedFrom, Multiset.zero_add]

/-- Calling `postEvents` moves the wake lock into the call. -/
theorem lockedWakelocks_call {state : ProxyState mSensors π} {object : Nat}
    {call : PostCall mSensors π} (live : state.wakelock? object = some call.wakelock) :
    ({ state with
        wakelocks := state.wakelocks.set object (some call.wakelock.movedFrom)
        waiting := state.waiting ++ [call] } : ProxyState mSensors π).lockedWakelocks =
      state.lockedWakelocks := by
  obtain ⟨rest, pool, -, exchanged⟩ := pooledWakelocks_set live
  simp only [ProxyState.lockedWakelocks, waitingWakelocks_concat, exchanged, pool,
    Multiset.cons_add, Multiset.add_cons, filter_locked_cons, reference_movedFrom,
    Multiset.zero_add]

/-- A call that is turned away returns its wake lock. -/
theorem lockedWakelocks_turnedAway {state : ProxyState mSensors π} {index : Nat}
    {call : PostCall mSensors π} (idle : state.post = .idle)
    (waits : state.waiting[index]? = some call) (refs : RefCounter) :
    ({ state with refs, waiting := state.waiting.eraseIdx index }.returnCall
        call).lockedWakelocks = state.lockedWakelocks := by
  simp only [ProxyState.lockedWakelocks, ProxyState.returnCall, pooledWakelocks_concat,
    waitingWakelocks_eraseIdx waits, idle, Multiset.cons_add, Multiset.add_cons]

/-- A call that is accepted keeps its wake lock. -/
theorem lockedWakelocks_accepted {state : ProxyState mSensors π} {index : Nat}
    {call : PostCall mSensors π} (idle : state.post = .idle)
    (waits : state.waiting[index]? = some call) (refs : RefCounter) (delivery : Delivery π) :
    ({ state with
        refs
        waiting := state.waiting.eraseIdx index
        post := .accepted call
        delivery } : ProxyState mSensors π).lockedWakelocks = state.lockedWakelocks := by
  simp only [ProxyState.lockedWakelocks, PostPhase.wakelocks, waitingWakelocks_eraseIdx waits,
    idle, Multiset.add_cons, Multiset.cons_add]

/-- A call that returns hands its wake lock out again. -/
theorem lockedWakelocks_returned {state : ProxyState mSensors π} {call : PostCall mSensors π}
    {numToWrite : Nat} (holds : state.post = .leftover call numToWrite) (refs : RefCounter)
    (delivery : Delivery π) :
    ({ state.returnCall call with refs, delivery } :
        ProxyState mSensors π).lockedWakelocks = state.lockedWakelocks := by
  simp only [ProxyState.lockedWakelocks, ProxyState.returnCall, PostPhase.wakelocks,
    pooledWakelocks_concat, holds, Multiset.cons_add, Multiset.add_cons]

end K50sv1.Sensors.HalProxy
