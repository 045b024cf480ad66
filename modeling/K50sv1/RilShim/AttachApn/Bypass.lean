import K50sv1.RilShim.AttachApn.Pending

/-!
# Bounded bypass between sockets

The socket scan starts at `sIaNextSocket`, and only an issue moves this cursor: to the
position after the socket it was for.  A pending and cached socket that is passed over
has therefore come nearer along the ring, and nothing but an attempt of the socket
itself lowers its flag.  Sleeps, rejections and failed copies leave the cursor where
it is.
-/

namespace K50sv1.RilShim.AttachApn

open K50sv1.Transition

variable {simCount : Nat} [NeZero simCount]

/-! ## Issues of a run -/

def PassExit.issuedOn : PassExit simCount → Option (Fin simCount)
  | .issued socketId _ _ => some socketId
  | _ => none

/-- The socket that the worker issues on with this event. -/
def issuedSocket (system : IaSystem simCount) (event : IaHookState × IaEvent simCount)
    (_ : IaSystem simCount) : Option (Fin simCount) :=
  (passExit system event.2).bind PassExit.issuedOn

/-- The sockets that are issued on from `system` on, in order. -/
def issuedSockets (system : IaSystem simCount)
    (events : List (IaHookState × IaEvent simCount)) : List (Fin simCount) :=
  observations iaAnyStep issuedSocket system events

/-- The sockets that are attempted from `system` on, in order. -/
def attemptedSockets (system : IaSystem simCount)
    (events : List (IaHookState × IaEvent simCount)) : List (Fin simCount) :=
  observations iaAnyStep (fun system event _ => attemptedSocket system event.2) system events

/-! ## What a step does to a waiting socket -/

/-- The socket is pending and can be served. -/
def Waits (state : IaState simCount) (socket : Fin simCount) : Prop :=
  state.sIaPending socket = true ∧ state.sIaCached socket = true

/-- A step either moves the cursor nearer to a waiting socket, by an issue on another
one, or leaves it alone. -/
structure Approaches (socket : Fin simCount) (system : IaSystem simCount)
    (event : IaHookState × IaEvent simCount) (after : IaSystem simCount) : Prop where
  waits : Waits after.shim socket
  cursor : (issuedSocket system event after).toList.length +
      Ring.distance after.shim.sIaNextSocket.val socket ≤
    Ring.distance system.shim.sIaNextSocket.val socket

theorem Approaches.of_eq {socket : Fin simCount} {system after : IaSystem simCount}
    {event : IaHookState × IaEvent simCount} (waits : Waits after.shim socket)
    (quiet : issuedSocket system event after = none)
    (cursor : after.shim.sIaNextSocket = system.shim.sIaNextSocket) :
    Approaches socket system event after := by
  refine ⟨waits, ?_⟩
  rw [quiet, cursor, Option.toList_none, List.length_nil, Nat.zero_add]

theorem approaches_pass {socket : Fin simCount} {hooks : IaHookState}
    {system : IaSystem simCount} (waits : Waits system.shim socket)
    (scanning : system.worker = .scanning) {inputs : PassInputs} {result : PassResult simCount}
    (outcome : PassOutcome system.shim inputs result)
    (computed : iaWorkerPass system.shim inputs = result)
    (unattempted : result.exit.attempted ≠ some socket) :
    Approaches socket system (hooks, .workerPass inputs) (system.afterPass inputs result) := by
  have issued : issuedSocket system (hooks, .workerPass inputs)
      (system.afterPass inputs result) = result.exit.issuedOn := by
    simp only [issuedSocket, passExit, scanning, computed, Option.bind_some]
  cases outcome with
  | released | timedWait | wait | sleep => exact .of_eq waits issued rfl
  | rejected target selected _ _ =>
      have other : socket ≠ target := fun same => unattempted (congrArg some same.symm)
      rcases chargeLastIssue_frame { system.shim with
        sIaPending := Function.update system.shim.sIaPending target false }
        inputs.lastIssue with ⟨_, _, frame⟩
      rw [frame] at issued ⊢
      refine .of_eq ⟨?_, waits.2⟩ issued rfl
      exact (Function.update_of_ne other ..).trans waits.1
  | copyFailed target selected _ _ =>
      rcases chargeLastIssue_frame system.shim inputs.lastIssue with ⟨_, _, frame⟩
      rw [frame] at issued ⊢
      exact .of_eq waits issued rfl
  | issued target token selected _ _ _ =>
      have other : socket ≠ target := fun same => unattempted (congrArg some same.symm)
      have nearer : Ring.distance (target.val + 1) socket <
          Ring.distance system.shim.sIaNextSocket.val socket := by
        have idle := (selectSocket_spec selected).1
        rw [selectSocket, idle] at selected
        refine Ring.distance_after_scan selected ?_ other.symm
        rw [waits.1, waits.2]
        rfl
      unfold issue at issued ⊢
      rcases chargeLastIssue_frame _ inputs.lastIssue with ⟨_, _, frame⟩
      rw [frame] at issued ⊢
      constructor
      · exact ⟨(Function.update_of_ne other ..).trans waits.1, waits.2⟩
      · rw [issued]
        change 1 + Ring.distance (Fin.ofNat simCount (target.val + 1)).val socket ≤ _
        rw [Fin.val_ofNat, Ring.distance_mod]
        omega

omit [NeZero simCount] in
/-- An indication can only raise flags. -/
theorem Waits.noteIndication {state : IaState simCount} {socket : Fin simCount}
    (waits : Waits state socket) (hooks : IaHookState) (unsolResponse socketId : Int) :
    Waits (noteIndication hooks state unsolResponse socketId) socket := by
  rcases noteIndication_cases hooks state unsolResponse socketId with
    same | ⟨target, _, _, _, _, marked⟩
  · rw [same]
    exact waits
  · rw [marked]
    refine ⟨?_, waits.2⟩
    by_cases onTarget : socket = target
    · rw [onTarget]
      exact Function.update_self ..
    · exact (Function.update_of_ne onTarget ..).trans waits.1

omit [NeZero simCount] in
/-- A framework request can only fill cache entries. -/
theorem Waits.dispatched {system : IaSystem simCount} {socket : Fin simCount}
    (waits : Waits system.shim socket) (hooks : IaHookState) (socketId : Int)
    (request : SetInitialAttachApn) (strdup : StrdupResults) :
    Waits (system.dispatched hooks socketId request strdup).shim socket := by
  have filled : Waits (cacheInitialAttachApn system.shim socketId request strdup) socket := by
    rcases cacheInitialAttachApn_cases system.shim socketId request strdup with
      same | ⟨target, payload, _, _, replaced⟩
    · rw [same]
      exact waits
    · rw [replaced]
      refine ⟨waits.1, ?_⟩
      by_cases onTarget : socket = target
      · rw [onTarget]
        exact Function.update_self ..
      · exact (Function.update_of_ne onTarget ..).trans waits.2
  have shim : (system.dispatched hooks socketId request strdup).shim =
      if hooks = .active then cacheInitialAttachApn system.shim socketId request strdup
      else system.shim := by
    unfold IaSystem.dispatched
    cases checkedSocket simCount socketId <;> rfl
  rw [shim]
  split_ifs
  · exact filled
  · exact waits

theorem iaStep_approaches {socket : Fin simCount} {system after : IaSystem simCount}
    {event : IaHookState × IaEvent simCount} (waits : Waits system.shim socket)
    (step : iaAnyStep system event = some after)
    (unattempted : attemptedSocket system event.2 ≠ some socket) :
    Approaches socket system event after := by
  rcases event with ⟨hooks, event⟩
  cases iaStep_transition step with
  | dispatch socketId request strdup =>
      rcases dispatched_frame hooks system socketId request strdup with ⟨_, _, _, _, frame⟩
      refine .of_eq (waits.dispatched hooks socketId request strdup) rfl ?_
      rw [frame]
  | indication unsolResponse socketId =>
      rcases noteIndication_frame hooks system.shim unsolResponse socketId with ⟨_, frame⟩
      refine .of_eq (waits.noteIndication hooks unsolResponse socketId) rfl ?_
      rw [frame]
  | pass inputs result scanning outcome computed =>
      refine approaches_pass waits scanning outcome computed ?_
      simpa only [attemptedSocket, passExit, scanning, computed, Option.bind_some]
        using unattempted
  | timedWake afterWait waiting =>
      rcases afterTimedWait_frame system.shim afterWait with ⟨_, _, frame⟩
      rw [frame]
      exact .of_eq waits rfl rfl
  | _ => exact .of_eq waits rfl rfl

/-! ## Runs -/

/-- Every issue on another socket brings the cursor nearer to a waiting one. -/
theorem runs_approaches {socket : Fin simCount} {system later : IaSystem simCount}
    {more : List (IaHookState × IaEvent simCount)} (waits : Waits system.shim socket)
    (run : Runs iaAnyStep system more later)
    (unattempted : socket ∉ attemptedSockets system more) :
    Waits later.shim socket ∧
      (issuedSockets system more).length + Ring.distance later.shim.sIaNextSocket.val socket ≤
        Ring.distance system.shim.sIaNextSocket.val socket := by
  revert unattempted
  apply run.history (P := fun past state => socket ∉ attemptedSockets system past →
    Waits state.shim socket ∧
      (issuedSockets system past).length + Ring.distance state.shim.sIaNextSocket.val socket ≤
        Ring.distance system.shim.sIaNextSocket.val socket)
  · intro _
    exact ⟨waits, by simp [issuedSockets, observations]⟩
  · intro past state event after earlier ih step unattempted
    rw [attemptedSockets, earlier.observations_concat _ step, List.mem_append, not_or,
      Option.mem_toList] at unattempted
    obtain ⟨waits, nearer⟩ := ih unattempted.1
    have approaches := iaStep_approaches waits step unattempted.2
    refine ⟨approaches.waits, ?_⟩
    rw [issuedSockets, earlier.observations_concat _ step, List.length_append]
    have cursor := approaches.cursor
    rw [issuedSockets] at nearer
    omega

/-- From a state in which a socket is pending and cached, reachable or not, fewer
requests than there are sockets are issued until the worker attempts this socket,
whatever else happens. -/
theorem bounded_bypass {system later : IaSystem simCount} {socket : Fin simCount}
    {more : List (IaHookState × IaEvent simCount)}
    (pending : system.shim.sIaPending socket = true)
    (cached : system.shim.sIaCached socket = true) (run : Runs iaAnyStep system more later)
    (unattempted : socket ∉ attemptedSockets system more) :
    (issuedSockets system more).length ≤ simCount - 1 := by
  have approach := (runs_approaches ⟨pending, cached⟩ run unattempted).2
  have bound := Ring.distance_lt system.shim.sIaNextSocket.val socket
  omega

/-- Both sockets are cached and pending. -/
def bothPending : List (IaHookState × IaEvent 2) :=
  [.dispatch 0 (.ofPayload (namedApn [105, 109, 115])) .ample,
    .dispatch 1 (.ofPayload (namedApn [105, 109, 115])) .ample,
    .indication rilUnsolResetAttachApn 0, .indication rilUnsolResetAttachApn 1].map
      (Prod.mk .active)

/-- Socket 0 is issued, and indicated again before its wait ends. -/
def firstBypass : List (IaHookState × IaEvent 2) :=
  [passAt 1, .workerCall, passAt 2, .indication rilUnsolResetAttachApn 0,
    .workerWake (some ⟨11, 0⟩)].map (Prod.mk .active)

theorem bounded_bypass_twoSockets :
    ∃ system later : IaSystem 2, Runs iaAnyStep (.initial 2) bothPending system ∧
      Runs iaAnyStep system firstBypass later ∧ issuedSockets system firstBypass = [0] ∧
      (issuedSockets system firstBypass).length ≤ 2 - 1 := by
  have start : (exec iaAnyStep (IaSystem.initial 2) bothPending).isSome := rfl
  have bypass : (exec iaAnyStep ((exec iaAnyStep (IaSystem.initial 2) bothPending).get start)
      firstBypass).isSome := rfl
  have unattempted : (1 : Fin 2) ∉ attemptedSockets
      ((exec iaAnyStep (IaSystem.initial 2) bothPending).get start) firstBypass := by
    have attempted : attemptedSockets
        ((exec iaAnyStep (IaSystem.initial 2) bothPending).get start) firstBypass = [0] := rfl
    rw [attempted]
    decide
  exact ⟨_, _, runs_get start, runs_get bypass, rfl,
    bounded_bypass rfl rfl (runs_get bypass) unattempted⟩

end K50sv1.RilShim.AttachApn
