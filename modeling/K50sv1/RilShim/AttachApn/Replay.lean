import K50sv1.RilShim.AttachApn.System

/-!
# Replays against newer framework requests

The framework path caches a payload and then forwards it; the worker copies the
cache under `sIaLock` and calls the vendor after releasing it.  A framework
request that is forwarded between the worker's copy and the worker's call is
therefore overtaken by the older payload.  Short of that interleaving the vendor
always ends up with the framework's most recent request.
-/

namespace K50sv1.RilShim.AttachApn

open K50sv1.Transition

variable {simCount : Nat} [NeZero simCount]

/-! ## Assumptions on the environment -/

/-- The framework dispatches valid requests on a socket one at a time, and every
`copyIa` that the step makes succeeds. -/
def serialDispatch (system : IaSystem simCount) : IaEvent simCount → Bool
  | .dispatch socketId request strdup =>
      match checkedSocket simCount socketId, request.data with
      | none, _ => true
      | some _, none => false
      | some socket, some payload =>
          (system.framework socket).isEmpty && request.datalen = sizeofMtkInitialAttachApn &&
            copyIa strdup payload = some payload
  | .workerPass inputs =>
      match (iaWorkerPass system.shim inputs).exit with
      | .copyFailed _ => false
      | _ => true
  | _ => true

/-- A framework request is not forwarded while the worker is about to send a
different payload on the same socket. -/
def notOvertaken (system : IaSystem simCount) : IaEvent simCount → Bool
  | .forward socket =>
      match system.worker, system.framework socket with
      | .calling outgoing, request :: _ =>
          outgoing.socketId ≠ socket || request = .ofPayload outgoing.payload
      | _, _ => true
  | _ => true

/-- No call into `sRealOnRequest` is about to be made by either thread. -/
def IaSystem.Quiet (system : IaSystem simCount) : Prop :=
  system.worker.inTransit = [] ∧ ∀ socket, system.framework socket = []

/-! ## The invariant of one socket -/

/-- The worker is about to send `outgoing` on `socket`. -/
def SendsOn (system : IaSystem simCount) (socket : Fin simCount)
    (outgoing : Request simCount) : Prop :=
  system.worker = .calling outgoing ∧ outgoing.socketId = socket

structure ReplayInvariant (system : IaSystem simCount) (socket : Fin simCount) : Prop where
  cached : system.shim.sIaCached socket = true →
    system.frameworkLast socket = some (.ofPayload (system.shim.sIaCache socket))
  queued : ∀ request rest, system.framework socket = request :: rest →
    rest = [] ∧ system.frameworkLast socket = some request
  delivered : system.framework socket = [] → (∀ outgoing, ¬ SendsOn system socket outgoing) →
    system.vendorLast socket = system.frameworkLast socket
  outgoing : system.framework socket = [] → ∀ outgoing, SendsOn system socket outgoing →
    system.frameworkLast socket = some (.ofPayload outgoing.payload)

theorem replayInvariant_initial (socket : Fin simCount) :
    ReplayInvariant (IaSystem.initial simCount) socket := by
  constructor <;> simp [IaSystem.initial, IaState.initial, SendsOn]

omit [NeZero simCount] in
/-- Steps that touch neither the cache nor a request on its way. -/
theorem ReplayInvariant.congr {system after : IaSystem simCount} {socket : Fin simCount}
    (inv : ReplayInvariant system socket)
    (cache : after.shim.sIaCache socket = system.shim.sIaCache socket)
    (cached : after.shim.sIaCached socket = system.shim.sIaCached socket)
    (framework : after.framework socket = system.framework socket)
    (frameworkLast : after.frameworkLast socket = system.frameworkLast socket)
    (vendorLast : after.vendorLast socket = system.vendorLast socket)
    (sends : ∀ outgoing, SendsOn after socket outgoing ↔ SendsOn system socket outgoing) :
    ReplayInvariant after socket := by
  constructor
  · rw [cached, cache, frameworkLast]
    exact inv.cached
  · rw [framework, frameworkLast]
    exact inv.queued
  · rw [framework, vendorLast, frameworkLast]
    intro empty idle
    apply inv.delivered empty
    intro outgoing sending
    exact idle outgoing ((sends outgoing).mpr sending)
  · rw [framework, frameworkLast]
    intro empty outgoing sending
    exact inv.outgoing empty outgoing ((sends outgoing).mp sending)

/-! ## One step -/

/-- An admissible dispatch makes its payload the cached one, the queued one and the
framework's last one. -/
theorem dispatched_of_serialDispatch {system : IaSystem simCount} {socketId : Int}
    {request : SetInitialAttachApn} {strdup : StrdupResults}
    (serial : serialDispatch system (.dispatch socketId request strdup) = true) :
    system.dispatched .active socketId request strdup = system ∨
      ∃ socket payload, system.framework socket = [] ∧
        system.dispatched .active socketId request strdup =
          { system with
            shim := { system.shim with
              sIaCache := Function.update system.shim.sIaCache socket payload
              sIaCached := Function.update system.shim.sIaCached socket true }
            framework := Function.update system.framework socket [.ofPayload payload]
            frameworkLast := Function.update system.frameworkLast socket
              (some (.ofPayload payload)) } := by
  rcases request with ⟨data, datalen⟩
  cases socketEq : checkedSocket simCount socketId with
  | none =>
      left
      simp [IaSystem.dispatched, cacheInitialAttachApn, socketEq]
  | some socket =>
      right
      cases data with
      | none => simp [serialDispatch, socketEq] at serial
      | some payload =>
          simp only [serialDispatch, socketEq, Bool.and_eq_true, decide_eq_true_eq,
            List.isEmpty_iff] at serial
          rcases serial with ⟨⟨empty, rfl⟩, copied⟩
          refine ⟨socket, payload, empty, ?_⟩
          simp [IaSystem.dispatched, cacheInitialAttachApn, socketEq, copied, empty,
            SetInitialAttachApn.ofPayload]

theorem replayInvariant_dispatch {system : IaSystem simCount} {socket : Fin simCount}
    (inv : ReplayInvariant system socket) {socketId : Int} {request : SetInitialAttachApn}
    {strdup : StrdupResults}
    (serial : serialDispatch system (.dispatch socketId request strdup) = true) :
    ReplayInvariant (system.dispatched .active socketId request strdup) socket := by
  rcases dispatched_of_serialDispatch serial with same | ⟨target, payload, _, dispatched⟩
  · rw [same]
    exact inv
  · rw [dispatched]
    by_cases onTarget : socket = target
    · subst onTarget
      constructor <;> simp [SendsOn]
    · exact inv.congr (by simp [onTarget]) (by simp [onTarget]) (by simp [onTarget])
        (by simp [onTarget]) rfl (fun _ => Iff.rfl)

omit [NeZero simCount] in
theorem replayInvariant_forward {system : IaSystem simCount} {socket target : Fin simCount}
    (inv : ReplayInvariant system socket) {request : SetInitialAttachApn}
    {rest : List SetInitialAttachApn} (queued : system.framework target = request :: rest)
    (inOrder : notOvertaken system (.forward target) = true) :
    ReplayInvariant { system with
      framework := Function.update system.framework target rest
      vendorLast := Function.update system.vendorLast target (some request) } socket := by
  by_cases onTarget : socket = target
  · subst onTarget
    rcases inv.queued request rest queued with ⟨rfl, last⟩
    constructor
    · exact inv.cached
    · simp
    · intro _ _
      simp [last]
    · rintro _ outgoing ⟨calling, onSocket⟩
      -- the worker is about to send the very payload that was just forwarded
      have calling : system.worker = .calling outgoing := calling
      simp only [notOvertaken, calling, queued, onSocket] at inOrder
      simpa [last] using inOrder
  · exact inv.congr rfl rfl (by simp [onTarget]) rfl (by simp [onTarget]) (fun _ => Iff.rfl)

omit [NeZero simCount] in
theorem replayInvariant_call {system : IaSystem simCount} {socket : Fin simCount}
    (inv : ReplayInvariant system socket) {request : Request simCount}
    (calling : system.worker = .calling request) :
    ReplayInvariant { system with
      worker := .scanning
      held := request :: system.held
      vendorLast := Function.update system.vendorLast request.socketId
        (some (.ofPayload request.payload)) } socket := by
  constructor
  · exact inv.cached
  · exact inv.queued
  · intro empty _
    by_cases onSocket : request.socketId = socket
    · have last := inv.outgoing empty request ⟨calling, onSocket⟩
      simp [onSocket, last]
    · have idle : ∀ outgoing, ¬ SendsOn system socket outgoing := by
        rintro outgoing ⟨sending, same⟩
        rw [calling] at sending
        cases sending
        exact onSocket same
      have differs : socket ≠ request.socketId := fun same => onSocket same.symm
      simpa [differs] using inv.delivered empty idle
  · rintro _ outgoing ⟨sending, _⟩
    cases sending

theorem replayInvariant_pass {system : IaSystem simCount} {socket : Fin simCount}
    (inv : ReplayInvariant system socket) (scanning : system.worker = .scanning)
    {inputs : PassInputs} {result : PassResult simCount}
    (outcome : PassOutcome system.shim inputs result) :
    ReplayInvariant (system.afterPass inputs result) socket := by
  have idle : ∀ outgoing, ¬ SendsOn system socket outgoing := by
    rintro outgoing ⟨sending, _⟩
    rw [scanning] at sending
    cases sending
  cases outcome with
  | released _ _ => exact inv.congr rfl rfl rfl rfl rfl (fun _ => Iff.rfl)
  | timedWait _ _ =>
      exact inv.congr rfl rfl rfl rfl rfl (by simp [SendsOn, IaSystem.afterPass, scanning])
  | wait _ _ =>
      exact inv.congr rfl rfl rfl rfl rfl (by simp [SendsOn, IaSystem.afterPass, scanning])
  | sleep _ _ _ _ _ _ =>
      exact inv.congr rfl rfl rfl rfl rfl (by simp [SendsOn, IaSystem.afterPass, scanning])
  | rejected socketId _ _ _ =>
      rcases chargeLastIssue_frame { system.shim with
        sIaPending := Function.update system.shim.sIaPending socketId false }
        inputs.lastIssue with ⟨_, _, frame⟩
      rw [frame]
      exact inv.congr rfl rfl rfl rfl rfl (fun _ => Iff.rfl)
  | copyFailed _ _ _ _ =>
      rcases chargeLastIssue_frame system.shim inputs.lastIssue with ⟨_, _, frame⟩
      rw [frame]
      exact inv.congr rfl rfl rfl rfl rfl (fun _ => Iff.rfl)
  | issued socketId token selected _ _ _ =>
      unfold issue
      rcases chargeLastIssue_frame _ inputs.lastIssue with ⟨_, _, frame⟩
      rw [frame]
      constructor
      · exact inv.cached
      · exact inv.queued
      · intro empty _
        exact inv.delivered empty idle
      · -- the copy was taken from the cache, which holds the framework's last request
        rintro empty outgoing ⟨sending, onSocket⟩
        cases sending
        subst onSocket
        exact inv.cached (selectSocket_spec selected).2.2

theorem replayInvariant_step {system after : IaSystem simCount} {event : IaEvent simCount}
    (socket : Fin simCount) (inv : ReplayInvariant system socket)
    (serial : serialDispatch system event = true) (inOrder : notOvertaken system event = true)
    (step : iaStep .active system event = some after) : ReplayInvariant after socket := by
  cases iaStep_transition step with
  | dispatch socketId request strdup => exact replayInvariant_dispatch inv serial
  | forward target request rest queued => exact replayInvariant_forward inv queued inOrder
  | indication unsolResponse socketId =>
      rcases noteIndication_frame .active system.shim unsolResponse socketId with ⟨_, frame⟩
      rw [frame]
      exact inv.congr rfl rfl rfl rfl rfl (fun _ => Iff.rfl)
  | complete request held => exact inv.congr rfl rfl rfl rfl rfl (fun _ => Iff.rfl)
  | completeForeign _ => exact inv
  | pass inputs result scanning outcome => exact replayInvariant_pass inv scanning outcome
  | timedWake afterWait waiting =>
      rcases afterTimedWait_frame system.shim afterWait with ⟨_, _, frame⟩
      rw [frame]
      exact inv.congr rfl rfl rfl rfl rfl (by simp [SendsOn, waiting])
  | wake _ waiting => exact inv.congr rfl rfl rfl rfl rfl (by simp [SendsOn, waiting])
  | slept _ _ sleeping => exact inv.congr rfl rfl rfl rfl rfl (by simp [SendsOn, sleeping])
  | call request calling => exact replayInvariant_call inv calling

/-! ## Runs -/

/-- Runs with the framework and the memory as assumed. -/
def serialStep : Step (IaEvent simCount) (IaSystem simCount) :=
  restrict (fun system event => serialDispatch system event = true) (iaStep .active)

/-- A newer request is forwarded between the worker's copy and the worker's call. -/
def staleReplay : List (IaEvent 2) :=
  setApn [97] ++ [.indication rilUnsolResetAttachApn 0, passAt 1] ++ setApn [98] ++ [.workerCall]

theorem replay_supersedes :
    ∃ system : IaSystem 2, Runs serialStep (.initial 2) staleReplay system ∧ system.Quiet ∧
      system.vendorLast 0 = some (.ofPayload (namedApn [97])) ∧
      system.frameworkLast 0 = some (.ofPayload (namedApn [98])) ∧
      system.vendorLast 0 ≠ system.frameworkLast 0 := by
  have enabled : (exec serialStep (IaSystem.initial 2) staleReplay).isSome := rfl
  have differs : some (SetInitialAttachApn.ofPayload (namedApn [97])) ≠
      some (.ofPayload (namedApn [98])) := by decide
  exact ⟨_, runs_get enabled, ⟨rfl, Fin.forall_fin_two.mpr ⟨rfl, rfl⟩⟩, rfl, rfl, differs⟩

/-- The runs in which, moreover, no framework request is forwarded under a different
outgoing copy. -/
def orderedStep : Step (IaEvent simCount) (IaSystem simCount) :=
  restrict (fun system event => notOvertaken system event = true) serialStep

theorem reachable_replayInvariant {system : IaSystem simCount}
    (reachable : Reachable orderedStep (.initial simCount) system) (socket : Fin simCount) :
    ReplayInvariant system socket := by
  apply reachable.invariant (replayInvariant_initial socket)
  intro before event after inv step
  rcases restrict_eq_some_iff.mp step with ⟨inOrder, serialStepEq⟩
  rcases restrict_eq_some_iff.mp serialStepEq with ⟨serial, stepEq⟩
  exact replayInvariant_step socket inv serial inOrder stepEq

/-- In every run in which no framework request is forwarded under a different
outgoing copy, the vendor's last request on each socket is the framework's last
one whenever neither thread is about to call the vendor. -/
theorem replay_current {system : IaSystem simCount}
    (reachable : Reachable orderedStep (.initial simCount) system)
    (quiet : system.Quiet) (socket : Fin simCount) :
    system.vendorLast socket = system.frameworkLast socket := by
  have inv := reachable_replayInvariant reachable socket
  apply inv.delivered (quiet.2 socket)
  rintro outgoing ⟨calling, _⟩
  have handedOver := quiet.1
  rw [calling] at handedOver
  cases handedOver

/-- A newer request is cached between the worker's copy and the worker's call, and forwarded
behind the call. -/
def newerBehindReplay : List (IaEvent 2) :=
  setApn [97] ++ [.indication rilUnsolResetAttachApn 0, passAt 1,
    dispatchApn [98], .workerCall, forwardFirst]

theorem replay_current_newerBehind :
    ∃ system : IaSystem 2, Runs orderedStep (.initial 2) newerBehindReplay system ∧
      system.Quiet ∧ system.issueCount = 1 ∧
      system.frameworkLast 0 = some (.ofPayload (namedApn [98])) ∧
      ∀ socket, system.vendorLast socket = system.frameworkLast socket := by
  have enabled : (exec orderedStep (IaSystem.initial 2) newerBehindReplay).isSome := rfl
  have run := runs_get enabled
  have quiet : ((exec orderedStep (IaSystem.initial 2) newerBehindReplay).get enabled).Quiet :=
    ⟨rfl, Fin.forall_fin_two.mpr ⟨rfl, rfl⟩⟩
  exact ⟨_, run, quiet, rfl, rfl, replay_current run.reachable quiet⟩

/-- The first forward that breaks the condition leaves the vendor with the older payload if
the worker's call comes next.  A later request repairs this. -/
theorem overtaken_replay_stale {system after final : IaSystem simCount} {socket : Fin simCount}
    (reachable : Reachable orderedStep (.initial simCount) system)
    (overtaken : notOvertaken system (.forward socket) = false)
    (forward : iaStep .active system (.forward socket) = some after)
    (call : iaStep .active after .workerCall = some final) :
    final.vendorLast socket ≠ final.frameworkLast socket := by
  have inv := reachable_replayInvariant reachable socket
  cases iaStep_transition forward with
  | forward _ request rest queued =>
      cases iaStep_transition call with
      | call outgoing calling =>
          have calling : system.worker = .calling outgoing := calling
          simp only [notOvertaken, calling, queued, Bool.or_eq_false_iff, decide_eq_false_iff_not,
            not_not] at overtaken
          rcases overtaken with ⟨rfl, differs⟩
          rcases inv.queued request rest queued with ⟨_, last⟩
          simp only [Function.update_self, last]
          intro same
          exact differs (Option.some.inj same).symm

end K50sv1.RilShim.AttachApn
