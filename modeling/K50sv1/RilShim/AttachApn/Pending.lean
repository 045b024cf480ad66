import K50sv1.RilShim.AttachApn.System

/-!
# Reset indications are neither lost nor invented

For one socket the machinery is a flag and a cache entry.  The flag is raised by
an indication on a cached socket and lowered by a worker pass that issues or
rejects; the cache entry is the payload of the last accepted framework request.
The single inversion lemma `iaStep_socket` says so for every step, and the
statements about whole runs are read off from it.
-/

namespace K50sv1.RilShim.AttachApn

open K50sv1.Transition

variable {simCount : Nat} [NeZero simCount]

/-! ## Requests, cache entries and exits -/

/-- The payload that a framework request puts into the cache of `socket`, if the
request is on that socket, has the expected length and can be copied. -/
def acceptedOn (socket : Fin simCount) : IaEvent simCount → Option MtkInitialAttachApn
  | .dispatch socketId request strdup =>
      if checkedSocket simCount socketId = some socket ∧
          request.datalen = sizeofMtkInitialAttachApn then
        request.data.bind (copyIa strdup)
      else
        none
  | _ => none

/-- What the shim would re-send on `socket`. -/
def IaState.cacheEntry (state : IaState simCount) (socket : Fin simCount) :
    Option MtkInitialAttachApn :=
  if state.sIaCached socket then some (state.sIaCache socket) else none

/-- How the worker pass of this event ends, if it is one. -/
def passExit (system : IaSystem simCount) : IaEvent simCount → Option (PassExit simCount)
  | .workerPass inputs =>
      match system.worker with
      | .scanning => some (iaWorkerPass system.shim inputs).exit
      | _ => none
  | _ => none

/-- The socket a pass tries to serve: it issues on it, rejects it for want of a token
or fails to copy its payload. -/
def PassExit.attempted : PassExit simCount → Option (Fin simCount)
  | .issued socketId _ _ => some socketId
  | .rejected socketId => some socketId
  | .copyFailed socketId => some socketId
  | _ => none

/-- The socket that the worker attempts with this event. -/
def attemptedSocket (system : IaSystem simCount) (event : IaEvent simCount) :
    Option (Fin simCount) :=
  (passExit system event).bind PassExit.attempted

/-- An indication on `socket` that asks for the initial-attach APN. -/
def ResetsOn (socket : Fin simCount) (event : IaEvent simCount) : Prop :=
  ∃ socketId, event = .indication rilUnsolResetAttachApn socketId ∧
    checkedSocket simCount socketId = some socket

/-- The pass issues exactly `payload` on `socket`. -/
def IssuesOn (socket : Fin simCount) (payload : MtkInitialAttachApn)
    (system : IaSystem simCount) (event : IaEvent simCount) : Prop :=
  ∃ token, passExit system event = some (.issued socket token payload)

/-- The pass gives up on `socket` while every token awaits its completion. -/
def RejectsOn (socket : Fin simCount) (system : IaSystem simCount)
    (event : IaEvent simCount) : Prop :=
  passExit system event = some (.rejected socket) ∧
    ∀ index, system.shim.sIaTokenOutstanding index = true

/-! ## What a step does to one socket -/

/-- The effect of a step on the flag and the cache entry of `socket`. -/
structure SocketStep (socket : Fin simCount) (system : IaSystem simCount)
    (event : IaEvent simCount) (after : IaSystem simCount) : Prop where
  entry : after.shim.cacheEntry socket =
    (acceptedOn socket event).or (system.shim.cacheEntry socket)
  pending : after.shim.sIaPending socket = system.shim.sIaPending socket ∨
    after.shim.sIaPending socket = true ∧ ResetsOn socket event ∧
      system.shim.sIaCached socket = true ∨
    after.shim.sIaPending socket = false ∧
      (IssuesOn socket (system.shim.sIaCache socket) system event ∨ RejectsOn socket system event)

/-- Steps that do not accept a request and leave flag and entry as they are. -/
theorem SocketStep.of_eq {socket : Fin simCount} {system after : IaSystem simCount}
    {event : IaEvent simCount} (accepts : acceptedOn socket event = none)
    (cache : after.shim.sIaCache = system.shim.sIaCache)
    (cached : after.shim.sIaCached = system.shim.sIaCached)
    (pending : after.shim.sIaPending socket = system.shim.sIaPending socket) :
    SocketStep socket system event after where
  entry := by rw [accepts, Option.none_or, IaState.cacheEntry, cache, cached]; rfl
  pending := .inl pending

end K50sv1.RilShim.AttachApn
