import K50sv1.RilShim.Got.System
import K50sv1.RilShim.Got.Transaction
import Mathlib.Data.List.Nodup

/-!
# Hook transparency

At every moment a slot leads to its original, directly or through a hook whose
original is already published; this is what the order of the stores in
`installAttachApnHooks` is for.  Once the worker exists both slots are hooked for
good, so a token of the shim that comes back meets `completeHook`.

From these facts the calls received by the originals are the calls emitted,
channel by channel: a channel is a set of callbacks that do not overlap in time,
such as those of one vendor thread.
-/

namespace K50sv1.RilShim.Got

open K50sv1.Transition
open K50sv1.Transition.Program
open K50sv1.RilShim.AttachApn

variable {layout : Layout} {orig : GotSymbol → Nat}

/-! ## The process -/

/-- Every slot leads to its original. -/
structure Safe (layout : Layout) (orig : GotSymbol → Nat) (process : Process) : Prop where
  real : ∀ symbol, process.sReal symbol = .null ∨ process.sReal symbol = .function (orig symbol)
  slots : ∀ symbol, process.got (layout.slot symbol) = .function (orig symbol) ∨
    process.got (layout.slot symbol) = hookOf symbol ∧
      process.sReal symbol = .function (orig symbol)
  workers : 0 < process.workers → ∀ symbol, process.got (layout.slot symbol) = hookOf symbol

/-- No installation is running. -/
structure Settled (layout : Layout) (orig : GotSymbol → Nat) (process : Process) : Prop
    extends Safe layout orig process where
  disabled : process.sIaHookState = .disabled →
    process.workers = 0 ∧ ∀ symbol, process.got (layout.slot symbol) = .function (orig symbol)
  active : 0 < process.workers → process.sIaHookState = .active

theorem hookOf_ne_function (symbol : GotSymbol) (address : Nat) :
    hookOf symbol ≠ .function address := by
  cases symbol <;> simp [hookOf]

/-- The footprint of an installation that began with both originals in place. -/
theorem Settled.safe_of_footprint {start process : Process} (settled : Settled layout orig start)
    (disabled : start.sIaHookState = .disabled) (footprint : Footprint layout start process) :
    Safe layout orig process := by
  rcases settled.disabled disabled with ⟨noWorker, originals⟩
  constructor
  · intro symbol
    rcases footprint.real symbol with kept | published
    · rw [kept]
      exact settled.real symbol
    · rw [published, originals symbol]
      exact .inr rfl
  · intro symbol
    rcases footprint.slots symbol with kept | ⟨hooked, published⟩
    · rw [kept]
      exact .inl (originals symbol)
    · exact .inr ⟨hooked, published.trans (originals symbol)⟩
  · intro created
    rcases footprint.workers with kept | ⟨_, hooked⟩
    · omega
    · exact hooked

theorem Settled.safe_of_during {start process : Process} (settled : Settled layout orig start)
    (during : During layout start process) : Safe layout orig process := by
  unfold During at during
  split at during
  · rename_i disabled
    exact settled.safe_of_footprint disabled during
  · rw [during]
    exact settled.toSafe

/-- An installation leaves a settled process behind. -/
theorem Settled.of_outcome {start process : Process} {rc : Int}
    (settled : Settled layout orig start) (during : During layout start process)
    (outcome : InstallOutcome layout start rc process) : Settled layout orig process := by
  have safe := settled.safe_of_during during
  unfold InstallOutcome at outcome
  split at outcome
  · rename_i disabled
    rcases settled.disabled disabled with ⟨noWorker, originals⟩
    rcases outcome with ⟨_, committed⟩ | ⟨_, aborted⟩
    · refine ⟨safe, ?_, fun _ => committed.active⟩
      intro state
      rw [committed.active] at state
      contradiction
    · have noWorker : process.workers = 0 := aborted.worker.trans noWorker
      refine ⟨safe, ?_, fun created => by omega⟩
      intro state
      rcases aborted.state with ⟨_, restored⟩ | failed
      · exact ⟨noWorker, fun symbol => (restored symbol).1.trans (originals symbol)⟩
      · rw [failed] at state
        contradiction
  · rw [outcome.1]
    exact settled

/-- A call of the installer never takes a worker away. -/
theorem answer_workers (process : Process) (op : GotOp) (works : Bool) :
    process.workers ≤ (answer layout process op works).1.workers := by
  cases op with
  | exchangeHookState expected desired =>
      simp only [answer]
      split <;> exact Nat.le_refl _
  | mprotect page pageSize protection => cases works <;> exact Nat.le_refl _
  | exchangeGot slot expected desired =>
      simp only [answer]
      split_ifs <;> exact Nat.le_refl _
  | pthreadCreate =>
      cases works
      · exact Nat.le_refl _
      · exact Nat.le_succ _
  | _ => exact Nat.le_refl _

/-- A call of the installer never clears a published original. -/
theorem answer_sReal (process : Process) (op : GotOp) (works : Bool) (symbol : GotSymbol) :
    (answer layout process op works).1.sReal symbol = process.sReal symbol ∨
      (answer layout process op works).1.sReal symbol ≠ .null := by
  cases op with
  | exchangeHookState expected desired =>
      simp only [answer]
      split <;> exact .inl rfl
  | mprotect page pageSize protection => cases works <;> exact .inl rfl
  | exchangeGot slot expected desired =>
      simp only [answer]
      split_ifs <;> exact .inl rfl
  | pthreadCreate => cases works <;> exact .inl rfl
  | storeReal target original valid =>
      by_cases same : symbol = target
      · right
        subst same
        simpa [answer] using valid
      · left
        simp [answer, same]
  | _ => exact .inl rfl

/-- What is left of an installation, seen from the process it has reached. -/
def Installing (layout : Layout) (orig : GotSymbol → Nat) (program : GotProgram Int)
    (process : Process) : Prop :=
  ∃ start, Settled layout orig start ∧
    Ensures (answer layout) (During layout start) program (InstallOutcome layout start) process

/-- The process between two steps of the system. -/
def ProcessOk (layout : Layout) (orig : GotSymbol → Nat) (process : Process) :
    Option (GotProgram Int) → Prop
  | none => Settled layout orig process
  | some program => Installing layout orig program process

theorem ProcessOk.safe {process : Process} {installer : Option (GotProgram Int)}
    (ok : ProcessOk layout orig process installer) : Safe layout orig process := by
  cases installer with
  | none => exact Settled.toSafe ok
  | some program =>
      rcases ok with ⟨start, settled, ensures⟩
      exact settled.safe_of_during ensures.inv

/-- Originals stay published across a call of the installer. -/
theorem published_of_answer {process : Process} {op : GotOp} {works : Bool} {symbol : GotSymbol}
    (safe : Safe layout orig (answer layout process op works).1)
    (published : process.sReal symbol = .function (orig symbol)) :
    (answer layout process op works).1.sReal symbol = .function (orig symbol) := by
  rcases answer_sReal process op works symbol with kept | stored
  · rw [kept]
    exact published
  · exact (safe.real symbol).resolve_left stored

/-! ## The callbacks in progress -/

variable {simCount : Nat} [NeZero simCount]

/-- A callback in progress will reach its original, or be swallowed by
`completeHook` if it completes one of the shim's tokens. -/
def CallOk (orig : GotSymbol → Nat) (process : Process) (call : ActiveCall) : Prop :=
  match call.position with
  | .entered target =>
      target = .function (orig call.callback.symbol) ∧ call.callback.shimOwned = false ∨
        target = hookOf call.callback.symbol ∧
          process.sReal call.callback.symbol = .function (orig call.callback.symbol)
  | .forwarding =>
      call.callback.shimOwned = false ∧
        process.sReal call.callback.symbol = .function (orig call.callback.symbol)

theorem CallOk.congr {process after : Process} {call : ActiveCall}
    (ok : CallOk orig process call)
    (published : ∀ symbol, process.sReal symbol = .function (orig symbol) →
      after.sReal symbol = .function (orig symbol)) : CallOk orig after call := by
  unfold CallOk at ok ⊢
  cases position : call.position with
  | entered target =>
      rw [position] at ok
      rcases ok with direct | ⟨hooked, real⟩
      · exact .inl direct
      · exact .inr ⟨hooked, published _ real⟩
  | forwarding =>
      rw [position] at ok
      exact ⟨ok.1, published _ ok.2⟩

structure HookInvariant (layout : Layout) (orig : GotSymbol → Nat)
    (system : HookSystem simCount) : Prop where
  process : ProcessOk layout orig system.process system.installer
  handed : system.handed ≠ [] → 0 < system.process.workers
  calls : ∀ call ∈ system.calls, CallOk orig system.process call
  threads : (system.calls.map ActiveCall.thread).Nodup
  received : ∀ receipt ∈ system.received,
    receipt.receiver = .function (orig receipt.callback.symbol) ∧
      receipt.callback.shimOwned = false

omit [NeZero simCount] in
theorem activeCall_spec {system : HookSystem simCount} {thread : Nat} {call : ActiveCall}
    (active : system.activeCall thread = some call) :
    call ∈ system.calls ∧ call.thread = thread := by
  constructor
  · exact List.mem_of_find?_eq_some active
  · simpa using List.find?_some active

omit [NeZero simCount] in
/-- A thread has at most one callback in progress. -/
theorem HookInvariant.eq_of_thread {system : HookSystem simCount}
    (inv : HookInvariant layout orig system) {first second : ActiveCall}
    (firstMember : first ∈ system.calls) (secondMember : second ∈ system.calls)
    (thread : first.thread = second.thread) : first = second :=
  List.inj_on_of_nodup_map inv.threads firstMember secondMember thread

/-! ### One step -/

section Steps

variable {system : HookSystem simCount} (inv : HookInvariant layout orig system)
include inv
omit [NeZero simCount]

/-- Callbacks that end, and callbacks that are received. -/
theorem hookInvariant_finish (thread : Nat) (ia : IaSystem simCount) (receipts : List Receipt)
    (correct : ∀ receipt ∈ receipts,
      receipt.receiver = .function (orig receipt.callback.symbol) ∧
        receipt.callback.shimOwned = false) :
    HookInvariant layout orig { system.finish thread with
      ia, received := system.received ++ receipts } where
  process := inv.process
  handed := inv.handed
  calls call member := inv.calls call (List.mem_of_mem_filter member)
  threads := inv.threads.sublist (List.filter_sublist.map _)
  received receipt member := by
    rcases List.mem_append.mp member with earlier | new
    · exact inv.received receipt earlier
    · exact correct receipt new

theorem hookInvariant_installCall {op : GotOp} {next : op.Reply → GotProgram Int}
    (running : system.installer = some (.call op next)) (works : Bool) :
    HookInvariant layout orig { system with
      process := (answer layout system.process op works).1
      installer := some (next (answer layout system.process op works).2) } := by
  have process := inv.process
  rw [running] at process
  rcases process with ⟨start, settled, _, ensures⟩
  have safe := settled.safe_of_during (ensures works).inv
  constructor
  · exact ⟨start, settled, ensures works⟩
  · intro handed
    exact (inv.handed handed).trans_le (answer_workers ..)
  · intro call member
    exact (inv.calls call member).congr fun _ => published_of_answer safe
  · exact inv.threads
  · exact inv.received

theorem hookInvariant_machinery {event : IaEvent simCount} (ia : IaSystem simCount)
    (enabled : machineryEnabled system.process.workers event = true) :
    HookInvariant layout orig
      { system with ia, handed := handedOver system.ia event ++ system.handed } where
  process := inv.process
  handed := by
    cases event with
    | workerCall =>
        intro _
        simpa [machineryEnabled] using enabled
    | _ => exact inv.handed
  calls := inv.calls
  threads := inv.threads
  received := inv.received

theorem hookInvariant_emit {thread : Nat} {callback : Callback}
    (allowed : mayEmit system thread callback = true) :
    HookInvariant layout orig { system with
      calls := system.calls ++
        [⟨thread, callback, .entered (system.process.got (layout.slot callback.symbol))⟩]
      emitted := system.emitted ++ [(thread, callback)] } := by
  have safe := inv.process.safe
  rcases mayEmit_spec allowed with ⟨otherThreads, given⟩
  constructor
  · exact inv.process
  · exact inv.handed
  · intro call member
    rcases List.mem_append.mp member with earlier | new
    · exact inv.calls call earlier
    · cases List.mem_singleton.mp new
      rcases safe.slots callback.symbol with direct | hooked
      · left
        refine ⟨direct, ?_⟩
        -- a token of the shim is out only if the worker runs, and then the slot is hooked
        rw [← Bool.not_eq_true]
        intro owned
        have hooked := safe.workers (inv.handed (given owned)) callback.symbol
        exact hookOf_ne_function _ _ (hooked.symm.trans direct)
      · exact .inr hooked
  · rw [List.map_append, List.nodup_append]
    refine ⟨inv.threads, by simp, ?_⟩
    intro used member other new
    rcases List.mem_map.mp member with ⟨call, callMember, rfl⟩
    cases List.mem_singleton.mp new
    exact otherThreads call callMember
  · exact inv.received

theorem hookInvariant_proceed {thread : Nat} {call : ActiveCall} (ia : IaSystem simCount)
    (active : system.activeCall thread = some call)
    (inHook : call.position = .entered (hookOf call.callback.symbol))
    (visible : call.callback.shimOwned = false) :
    HookInvariant layout orig { system.proceed thread with ia } := by
  rcases activeCall_spec active with ⟨member, sameThread⟩
  have published : system.process.sReal call.callback.symbol =
      .function (orig call.callback.symbol) := by
    have ok := inv.calls call member
    rw [CallOk, inHook] at ok
    rcases ok with ⟨direct, _⟩ | ⟨_, real⟩
    · exact absurd direct (hookOf_ne_function _ _)
    · exact real
  constructor
  · exact inv.process
  · exact inv.handed
  · intro moved movedMember
    rcases List.mem_map.mp movedMember with ⟨before, beforeMember, rfl⟩
    by_cases onThread : before.thread = thread
    · have same := inv.eq_of_thread beforeMember member (onThread.trans sameThread.symm)
      subst same
      rw [ActiveCall.proceed, if_pos onThread]
      exact ⟨visible, published⟩
    · rw [ActiveCall.proceed, if_neg onThread]
      exact inv.calls before beforeMember
  · have threads : (system.proceed thread).calls.map ActiveCall.thread =
        system.calls.map ActiveCall.thread := by
      simp [HookSystem.proceed, Function.comp_def]
    exact threads ▸ inv.threads
  · exact inv.received

end Steps

theorem hookInvariant_step {system after : HookSystem simCount} {event : HookEvent simCount}
    (inv : HookInvariant layout orig system) (step : hookStep layout system event = some after) :
    HookInvariant layout orig after := by
  cases hookStep_transition step with
  | install idle =>
      have settled := inv.process
      rw [idle] at settled
      exact ⟨⟨system.process, settled, ensures_installAttachApnHooks system.process⟩,
        inv.handed, inv.calls, inv.threads, inv.received⟩
  | installDone works rc running =>
      have process := inv.process
      rw [running] at process
      rcases process with ⟨start, settled, during, outcome⟩
      exact ⟨settled.of_outcome during outcome, inv.handed, inv.calls, inv.threads,
        inv.received⟩
  | installCall works op next running => exact hookInvariant_installCall inv running works
  | machinery event ia enabled => exact hookInvariant_machinery inv ia enabled
  | emit thread callback allowed => exact hookInvariant_emit inv allowed
  | proceed thread call ia active inHook visible =>
      exact hookInvariant_proceed inv ia active inHook visible
  | swallow thread call ia active owned =>
      have finished := hookInvariant_finish inv thread ia [] (by simp)
      rwa [List.append_nil] at finished
  | direct thread call address active position =>
      apply hookInvariant_finish inv thread system.ia
      intro receipt member
      cases List.mem_singleton.mp member
      have ok := inv.calls call (activeCall_spec active).1
      rw [CallOk, position] at ok
      rcases ok with direct | ⟨hooked, _⟩
      · exact direct
      · exact absurd hooked.symm (hookOf_ne_function _ _)
  | original thread call active position published =>
      apply hookInvariant_finish inv thread system.ia
      intro receipt member
      cases List.mem_singleton.mp member
      have ok := inv.calls call (activeCall_spec active).1
      rw [CallOk, position] at ok
      exact ⟨ok.2, ok.1⟩
  | dropped thread call active position unpublished =>
      have ok := inv.calls call (activeCall_spec active).1
      rw [CallOk, position] at ok
      rw [ok.2] at unpublished
      contradiction

/-- The process before the first installation: both slots hold their originals. -/
structure Pristine (layout : Layout) (orig : GotSymbol → Nat) (process : Process) : Prop where
  disabled : process.sIaHookState = .disabled
  noWorker : process.workers = 0
  unpublished : ∀ symbol, process.sReal symbol = .null
  originals : ∀ symbol, process.got (layout.slot symbol) = .function (orig symbol)

theorem hookInvariant_initial {process : Process} (pristine : Pristine layout orig process) :
    HookInvariant layout orig (HookSystem.initial simCount process) where
  process := by
    refine ⟨⟨?_, ?_, ?_⟩, ?_, ?_⟩
    · intro symbol
      exact .inl (pristine.unpublished symbol)
    · intro symbol
      exact .inl (pristine.originals symbol)
    · intro created
      have noWorker : process.workers = 0 := pristine.noWorker
      exact absurd created (by simp [HookSystem.initial, noWorker])
    · intro _
      exact ⟨pristine.noWorker, pristine.originals⟩
    · intro created
      have noWorker : process.workers = 0 := pristine.noWorker
      exact absurd created (by simp [HookSystem.initial, noWorker])
  handed := by simp [HookSystem.initial]
  calls := by simp [HookSystem.initial]
  threads := by simp [HookSystem.initial]
  received := by simp [HookSystem.initial]

theorem reachable_hookInvariant {process : Process} (pristine : Pristine layout orig process)
    {system : HookSystem simCount}
    (reachable : Reachable (hookStep layout) (.initial simCount process) system) :
    HookInvariant layout orig system :=
  reachable.invariant (hookInvariant_initial pristine) fun _ _ _ inv step =>
    hookInvariant_step inv step

/-! ## Channels -/

section Removal

variable {system : HookSystem simCount} {thread : Nat} {call : ActiveCall}
  (active : system.activeCall thread = some call) {p : ActiveCall → Bool}
include active
omit [NeZero simCount]

/-- The end of a callback does not concern the others. -/
theorem finish_filter_of_not (inv : HookInvariant layout orig system)
    (outside : p call = false) :
    (system.finish thread).calls.filter p = system.calls.filter p := by
  rcases activeCall_spec active with ⟨member, rfl⟩
  rw [HookSystem.finish, List.filter_filter]
  apply List.filter_congr
  intro other otherMember
  by_cases sameThread : other.thread = call.thread
  · have same := inv.eq_of_thread otherMember member sameThread
    simp [same, outside]
  · simp [sameThread]

/-- The end of the only callback of a kind. -/
theorem finish_filter_of_single (single : (system.calls.filter p).length ≤ 1)
    (inside : p call = true) :
    system.calls.filter p = [call] ∧ (system.finish thread).calls.filter p = [] := by
  rcases activeCall_spec active with ⟨member, rfl⟩
  have only : system.calls.filter p = [call] := by
    have listed : call ∈ system.calls.filter p := List.mem_filter.mpr ⟨member, inside⟩
    have positive := List.length_pos_of_mem listed
    have one : (system.calls.filter p).length = 1 := by omega
    rcases List.length_eq_one_iff.mp one with ⟨only, onlyEq⟩
    rw [onlyEq, List.mem_singleton] at listed
    rw [onlyEq, listed]
  refine ⟨only, ?_⟩
  have commuted : (system.finish call.thread).calls.filter p =
      (system.calls.filter p).filter fun other => other.thread ≠ call.thread := by
    rw [HookSystem.finish, List.filter_filter, List.filter_filter]
    apply List.filter_congr
    intro other _
    exact Bool.and_comm ..
  rw [commuted, only]
  simp

end Removal

/-- Callbacks on a channel, identified by thread and callback. -/
abbrev Channel := Nat → Callback → Bool

/-- The callbacks of a channel that an original has to receive, in the order in which
the vendor made them. -/
def HookSystem.emittedOn (system : HookSystem simCount) (channel : Channel) : List Callback :=
  (system.emitted.filter fun call => channel call.1 call.2 && !call.2.shimOwned).map Prod.snd

/-- The callbacks of a channel that were received, in order. -/
def HookSystem.receivedOn (system : HookSystem simCount) (channel : Channel) : List Callback :=
  (system.received.filter fun receipt => channel receipt.thread receipt.callback).map
    Receipt.callback

/-- The callbacks of a channel that are on their way to an original. -/
def HookSystem.underwayOn (system : HookSystem simCount) (channel : Channel) : List Callback :=
  (system.calls.filter fun call =>
    channel call.thread call.callback && !call.callback.shimOwned).map ActiveCall.callback

structure ChannelInvariant (channel : Channel) (system : HookSystem simCount) : Prop where
  sequence : system.emittedOn channel = system.receivedOn channel ++ system.underwayOn channel
  single : (system.calls.filter fun call => channel call.thread call.callback).length ≤ 1

section ChannelSteps

variable {channel : Channel} {system : HookSystem simCount} (inv : ChannelInvariant channel system)
  (hooks : HookInvariant layout orig system)
include inv
omit [NeZero simCount]

theorem ChannelInvariant.single_visible :
    (system.calls.filter fun call =>
      channel call.thread call.callback && !call.callback.shimOwned).length ≤ 1 := by
  have split : (system.calls.filter fun call =>
      channel call.thread call.callback && !call.callback.shimOwned) =
      (system.calls.filter fun call => channel call.thread call.callback).filter
        fun call => !call.callback.shimOwned := by
    rw [List.filter_filter]
    apply List.filter_congr
    intro call _
    exact Bool.and_comm ..
  rw [split]
  exact (List.length_filter_le ..).trans inv.single

theorem channelInvariant_emit {thread : Nat} {callback : Callback} (target : CodePtr)
    (separate : channel thread callback = true →
      (system.calls.filter fun call => channel call.thread call.callback) = []) :
    ChannelInvariant channel { system with
      calls := system.calls ++ [⟨thread, callback, .entered target⟩]
      emitted := system.emitted ++ [(thread, callback)] } := by
  constructor
  · have sequence := inv.sequence
    simp only [HookSystem.emittedOn, HookSystem.receivedOn, HookSystem.underwayOn] at sequence ⊢
    rw [List.filter_append, List.filter_append, List.map_append, List.map_append, sequence,
      List.append_assoc]
    congr 2
    cases onChannel : channel thread callback && !callback.shimOwned with
    | false => simp [onChannel]
    | true => simp [onChannel]
  · rw [List.filter_append, List.length_append]
    cases onChannel : channel thread callback with
    | false => simpa [onChannel] using inv.single
    | true => simp [separate onChannel, onChannel]

theorem channelInvariant_proceed (thread : Nat) (ia : IaSystem simCount) :
    ChannelInvariant channel { system.proceed thread with ia } := by
  have kept : ∀ p : Nat → Callback → Bool,
      ((system.proceed thread).calls.filter fun call => p call.thread call.callback) =
        (system.calls.filter fun call => p call.thread call.callback).map
          (ActiveCall.proceed thread) := by
    intro p
    simp [HookSystem.proceed, List.filter_map, Function.comp_def]
  constructor
  · have underway : ({ system.proceed thread with ia } : HookSystem simCount).underwayOn channel =
        system.underwayOn channel := by
      have calls := kept fun thread callback => channel thread callback && !callback.shimOwned
      simp only [HookSystem.underwayOn, calls]
      simp [Function.comp_def]
    rw [underway]
    exact inv.sequence
  · rw [kept channel, List.length_map]
    exact inv.single

include hooks

theorem channelInvariant_swallow {thread : Nat} {call : ActiveCall} (ia : IaSystem simCount)
    (active : system.activeCall thread = some call)
    (owned : call.callback.shimOwned = true) :
    ChannelInvariant channel { system.finish thread with ia } := by
  constructor
  · have underway : ({ system.finish thread with ia } : HookSystem simCount).underwayOn channel =
        system.underwayOn channel := by
      have invisible : (channel call.thread call.callback && !call.callback.shimOwned) = false := by
        rw [owned, Bool.not_true, Bool.and_false]
      exact congrArg (List.map ActiveCall.callback)
        (finish_filter_of_not active hooks (p := fun call =>
          channel call.thread call.callback && !call.callback.shimOwned) invisible)
    rw [underway]
    exact inv.sequence
  · exact (List.filter_sublist.filter _).length_le.trans inv.single

theorem channelInvariant_receive {thread : Nat} {call : ActiveCall} (receiver : CodePtr)
    (active : system.activeCall thread = some call)
    (visible : call.callback.shimOwned = false) :
    ChannelInvariant channel (system.receive thread receiver call.callback) := by
  have sameThread := (activeCall_spec active).2
  constructor
  · have sequence := inv.sequence
    simp only [HookSystem.emittedOn, HookSystem.receivedOn, HookSystem.underwayOn,
      HookSystem.receive] at sequence ⊢
    cases onChannel : channel thread call.callback with
    | false =>
        have outside : (channel call.thread call.callback &&
            !call.callback.shimOwned) = false := by
          rw [sameThread, onChannel, Bool.false_and]
        rw [finish_filter_of_not active hooks (p := fun call =>
          channel call.thread call.callback && !call.callback.shimOwned) outside]
        simpa [onChannel, HookSystem.finish] using sequence
    | true =>
        have inside : (channel call.thread call.callback && !call.callback.shimOwned) = true := by
          rw [sameThread, onChannel, visible]
          rfl
        have single := inv.single_visible
        rcases finish_filter_of_single active (p := fun call =>
          channel call.thread call.callback && !call.callback.shimOwned) single inside with
          ⟨only, finished⟩
        rw [finished]
        rw [only] at sequence
        simpa [onChannel, HookSystem.finish] using sequence
  · exact (List.filter_sublist.filter _).length_le.trans inv.single

end ChannelSteps

/-- A callback on the channel is made only while no other one is in progress. -/
def serialOn (channel : Channel) (system : HookSystem simCount) : HookEvent simCount → Bool
  | .emit thread callback =>
      !channel thread callback ||
        (system.calls.filter fun call => channel call.thread call.callback).isEmpty
  | _ => true

theorem channelInvariant_step {channel : Channel} {system after : HookSystem simCount}
    {event : HookEvent simCount} (inv : ChannelInvariant channel system)
    (hooks : HookInvariant layout orig system) (serial : serialOn channel system event = true)
    (step : hookStep layout system event = some after) : ChannelInvariant channel after := by
  cases hookStep_transition step with
  | install _ => exact ⟨inv.sequence, inv.single⟩
  | installDone _ _ _ => exact ⟨inv.sequence, inv.single⟩
  | installCall _ _ _ _ => exact ⟨inv.sequence, inv.single⟩
  | machinery _ _ _ => exact ⟨inv.sequence, inv.single⟩
  | emit thread callback _ =>
      apply channelInvariant_emit inv
      intro onChannel
      simpa [serialOn, onChannel] using serial
  | proceed thread call ia _ _ _ => exact channelInvariant_proceed inv thread ia
  | swallow thread call ia active owned => exact channelInvariant_swallow inv hooks ia active owned
  | direct thread call address active position =>
      apply channelInvariant_receive inv hooks _ active
      have ok := hooks.calls call (activeCall_spec active).1
      rw [CallOk, position] at ok
      rcases ok with ⟨_, visible⟩ | ⟨hooked, _⟩
      · exact visible
      · exact absurd hooked.symm (hookOf_ne_function _ _)
  | original thread call active position _ =>
      apply channelInvariant_receive inv hooks _ active
      have ok := hooks.calls call (activeCall_spec active).1
      rw [CallOk, position] at ok
      exact ok.1
  | dropped thread call active position unpublished =>
      have ok := hooks.calls call (activeCall_spec active).1
      rw [CallOk, position] at ok
      rw [ok.2] at unpublished
      contradiction

theorem channelInvariant_initial (channel : Channel) (process : Process) :
    ChannelInvariant channel (HookSystem.initial simCount process) := by
  constructor
  · rfl
  · simp [HookSystem.initial]

/-! ## Transparency -/

/-- The callbacks of one vendor thread. -/
def threadChannel (thread : Nat) : Channel :=
  fun other _ => other = thread

/-- The callbacks through one slot. -/
def slotChannel (symbol : GotSymbol) : Channel :=
  fun _ callback => callback.symbol = symbol

theorem reachable_channelInvariant {process : Process}
    (pristine : Pristine layout orig process) {channel : Channel}
    {system : HookSystem simCount}
    (reachable : Reachable (restrict (fun system event => serialOn channel system event = true)
      (hookStep layout)) (.initial simCount process) system) :
    ChannelInvariant channel system := by
  have both : HookInvariant layout orig system ∧ ChannelInvariant channel system := by
    apply reachable.invariant
      ⟨hookInvariant_initial pristine, channelInvariant_initial channel process⟩
    rintro before event after ⟨hooks, inv⟩ step
    rcases restrict_eq_some_iff.mp step with ⟨serial, stepEq⟩
    exact ⟨hookInvariant_step hooks stepEq, channelInvariant_step inv hooks serial stepEq⟩
  exact both.2

/-- A thread makes one call at a time, so its channel is serial in every run. -/
theorem serialOn_threadChannel {system after : HookSystem simCount} {event : HookEvent simCount}
    (step : hookStep layout system event = some after) (thread : Nat) :
    serialOn (threadChannel thread) system event = true := by
  cases hookStep_transition step with
  | emit other callback allowed =>
      by_cases sameThread : other = thread
      · subst sameThread
        have free : (system.calls.filter fun call => call.thread = other) = [] := by
          rw [List.filter_eq_nil_iff]
          intro call member
          simpa using (mayEmit_spec allowed).1 call member
        simp [serialOn, threadChannel, free]
      · simp [serialOn, threadChannel, sameThread]
  | _ => rfl

omit [NeZero simCount] in
/-- The callback in progress on a thread is found by its thread. -/
theorem HookInvariant.activeCall_of_mem {system : HookSystem simCount}
    (inv : HookInvariant layout orig system) {call : ActiveCall} (member : call ∈ system.calls) :
    system.activeCall call.thread = some call := by
  cases active : system.activeCall call.thread with
  | none =>
      have absent := List.find?_eq_none.mp active call member
      simp at absent
  | some found =>
      rcases activeCall_spec active with ⟨foundMember, sameThread⟩
      rw [inv.eq_of_thread foundMember member sameThread]

/-- No callback in progress is stuck: its hook can run or its original can be called. -/
theorem HookInvariant.canMove {system : HookSystem simCount}
    (inv : HookInvariant layout orig system) {call : ActiveCall} (member : call ∈ system.calls) :
    (hookStep layout system (.runHook call.thread)).isSome ∨
      (hookStep layout system (.deliver call.thread)).isSome := by
  have active := inv.activeCall_of_mem member
  have ok := inv.calls call member
  rcases call with ⟨thread, callback, position⟩
  cases position with
  | entered target =>
      rcases ok with ⟨direct, _⟩ | ⟨hooked, _⟩
      · right
        have direct : target = .function (orig callback.symbol) := direct
        simp [hookStep, active, direct]
      · left
        have hooked : target = hookOf callback.symbol := hooked
        subst hooked
        cases callback with
        | unsol unsolResponse data datalen socketId =>
            simp [hookStep, active, Callback.symbol, hookOf]
        | complete token e response responselen =>
            cases token with
            | reissue index => simp [hookStep, active, Callback.symbol, hookOf]
            | foreign address => simp [hookStep, active, Callback.symbol, hookOf]
  | forwarding =>
      right
      simp [hookStep, active, ok.2]

/-- At every point of an installation, of a rollback and of the time afterwards, and
for any faults: only the originals are called, only with callbacks that do not
complete a token of the shim; the callbacks of each vendor thread are received one by
one as they were made; and no callback gets stuck on its way.  Callbacks through one
slot that do not overlap are received in the order of the whole vendor library. -/
theorem hook_transparency {process : Process} (pristine : Pristine layout orig process) :
    (∀ system : HookSystem simCount,
      Reachable (hookStep layout) (.initial simCount process) system →
      (∀ receipt ∈ system.received,
        receipt.receiver = .function (orig receipt.callback.symbol) ∧
          receipt.callback.shimOwned = false) ∧
      (∀ thread, system.emittedOn (threadChannel thread) =
        system.receivedOn (threadChannel thread) ++ system.underwayOn (threadChannel thread)) ∧
      ∀ call ∈ system.calls, (hookStep layout system (.runHook call.thread)).isSome ∨
        (hookStep layout system (.deliver call.thread)).isSome) ∧
    ∀ symbol, ∀ system : HookSystem simCount,
      Reachable (restrict (fun system event => serialOn (slotChannel symbol) system event = true)
        (hookStep layout)) (.initial simCount process) system →
      system.emittedOn (slotChannel symbol) =
        system.receivedOn (slotChannel symbol) ++ system.underwayOn (slotChannel symbol) := by
  constructor
  · intro system reachable
    have inv := reachable_hookInvariant pristine reachable
    refine ⟨inv.received, ?_, fun call member => inv.canMove member⟩
    intro thread
    have serial : Reachable
        (restrict (fun system event => serialOn (threadChannel thread) system event = true)
          (hookStep layout)) (.initial simCount process) system :=
      reachable.to_restrict fun _ _ _ step => serialOn_threadChannel step thread
    exact (reachable_channelInvariant pristine serial).sequence
  · intro symbol system reachable
    exact (reachable_channelInvariant pristine reachable).sequence

theorem pristine_freshProcess : Pristine sharedPage sharedPage.slot freshProcess :=
  ⟨rfl, rfl, fun _ => rfl, fun _ => rfl⟩

/-- An indication that arrives when one slot is hooked and the other is not. -/
def betweenTheStores : List (HookEvent 2) :=
  .install :: List.replicate 12 (.installStep true) ++
    [.emit 7 (.unsol rilUnsolResetAttachApn 0x7000 4 0), .runHook 7, .deliver 7]

theorem hook_transparency_betweenTheStores :
    ∃ system : HookSystem 2, Runs (hookStep sharedPage) (.initial 2 freshProcess)
        betweenTheStores system ∧
      system.process.got 0x1008 = .unsolHook ∧
      system.process.got 0x1010 = .function 0x1010 ∧
      system.received.length = 1 ∧
      ∀ thread, system.emittedOn (threadChannel thread) =
        system.receivedOn (threadChannel thread) ++ system.underwayOn (threadChannel thread) := by
  have enabled : (exec (hookStep sharedPage) (HookSystem.initial 2 freshProcess)
      betweenTheStores).isSome := rfl
  have run := runs_get enabled
  refine ⟨_, run, rfl, rfl, rfl, ?_⟩
  exact ((hook_transparency pristine_freshProcess).1 _ run.reachable).2.1

end K50sv1.RilShim.Got
