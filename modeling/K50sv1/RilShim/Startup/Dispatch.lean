import K50sv1.RilShim.RadioCapability
import K50sv1.RilShim.Startup.Init
import K50sv1.Transition.Run

/-!
# Requests during and after a start

`RIL_Init` and `RIL_SAP_Init` are called one after the other, as often as one likes, and
advance one call at a time.  At any moment a thread may dispatch a request through any of the
vendor's tables: it reads the table, then runs what it has found there, with any number of
steps of the start between the two.

Two assumptions are not ensured by the code.  A call begins only when none is running:
overlapping calls could publish the shim itself as the vendor's function.  And other threads
see the stores in program order: the store to `sRealOnRequest` is a release, which does not
keep the plain store to the table behind it from being seen first.
-/

namespace K50sv1.RilShim.Startup

open K50sv1.Transition
open K50sv1.Transition.Program
open K50sv1.RilShim.Got (Layout Protection)
open K50sv1.RilShim.RadioCapability (rilRequestGetRadioCapability rilRequestSetRadioCapability)

/-! ## The system -/

/-- A request for which the table has been read. -/
structure Dispatch where
  request : Int
  /-- What the table held. -/
  target : RequestFunc
  /-- What the vendor library had put there. -/
  original : RequestFunc
  /-- `RIL_Init` had returned the table. -/
  registered : Bool
  deriving DecidableEq, Repr

/-- A request and the function that it has reached; `null` is a fault. -/
structure Receipt where
  dispatch : Dispatch
  receiver : RequestFunc
  deriving DecidableEq, Repr

inductive Entry where
  | rilInit
  | rilSapInit
  deriving DecidableEq, Repr

def Entry.program : Entry → StartProgram (Option Nat)
  | .rilInit => Startup.rilInit
  | .rilSapInit => Startup.rilSapInit

structure System where
  image : Image
  /-- What is left of a running call. -/
  running : Option (Entry × StartProgram (Option Nat))
  /-- What the calls of `RIL_Init` have returned. -/
  returned : List (Option Nat)
  dispatches : List Dispatch
  received : List Receipt

inductive StartEvent where
  | enter (entry : Entry)
  | advance (choice : Choice)
  | dispatch (funcs : Nat) (request : Int)
  | deliver (index : Nat)
  deriving DecidableEq, Repr

/-- The process when the shim has been loaded. -/
def Image.loaded (table : Nat → RadioFunctions) (got : Got.Process) : Image where
  sRealHandle := false
  sEnv := false
  sRealFuncs := none
  sRealOnRequest := .null
  sOnRequestPatched := false
  table
  got
  refused := []
  original funcs := (table funcs).onRequest
  behindShim := none
  reentered := false

def System.initial (image : Image) : System where
  image
  running := none
  returned := []
  dispatches := []
  received := []

/-- The requests that the shim answers itself. -/
def isRadioCapability (request : Int) : Bool :=
  request = rilRequestGetRadioCapability || request = rilRequestSetRadioCapability

/-- Where `onRequestShim` takes a request: its own answers go through `sEnv`. -/
def onRequestShim (image : Image) (request : Int) : RequestFunc :=
  if isRadioCapability request then
    if image.sEnv then .onRequestShim else .null
  else
    image.sRealOnRequest

/-- The function that a dispatched request reaches. -/
def receiver (image : Image) (dispatch : Dispatch) : RequestFunc :=
  if dispatch.target = .onRequestShim then
    onRequestShim image dispatch.request
  else
    dispatch.target

/-- A running call has returned. -/
def System.returns (system : System) (entry : Entry) (result : Option Nat) : System :=
  { system with
    running := none
    returned := match entry with
      | .rilInit => system.returned ++ [result]
      | .rilSapInit => system.returned }

def System.dispatching (system : System) (funcs : Nat) (request : Int) : Dispatch where
  request
  target := (system.image.table funcs).onRequest
  original := system.image.original funcs
  registered := decide (some funcs ∈ system.returned)

/-- The calls come one after the other.  A table without a request function is never called
through. -/
def startStep (layout : Layout) : Step StartEvent System
  | system, .enter entry =>
      match system.running with
      | none => some { system with running := some (entry, entry.program) }
      | some _ => none
  | system, .advance choice =>
      match system.running with
      | none => none
      | some (entry, .done result) => some (system.returns entry result)
      | some (entry, .call op next) =>
          let (image, reply) := respond layout system.image op choice
          some { system with image, running := some (entry, next reply) }
  | system, .dispatch funcs request =>
      if (system.image.table funcs).onRequest = .null then
        none
      else
        some { system with dispatches := system.dispatches ++ [system.dispatching funcs request] }
  | system, .deliver index =>
      match system.dispatches[index]? with
      | none => none
      | some dispatch => some { system with
          dispatches := system.dispatches.eraseIdx index
          received := system.received ++ [⟨dispatch, receiver system.image dispatch⟩] }

/-! ## Invariant -/

/-- A dispatched request is on its way to the vendor's function, or to the shim in front of
it. -/
structure Routed (image : Image) (dispatch : Dispatch) : Prop where
  vendor : ∃ address, dispatch.original = .vendor address
  target : dispatch.target = dispatch.original ∨
    dispatch.target = .onRequestShim ∧ image.behindShim = some dispatch.original
  registered : dispatch.registered = true → dispatch.target = .onRequestShim

/-- A request was received by the vendor's function; one for the radio capability by the
shim, always so if its table had been returned. -/
structure Delivered (receipt : Receipt) : Prop where
  vendor : ∃ address, receipt.dispatch.original = .vendor address
  receiver : receipt.receiver = receipt.dispatch.original ∨
    receipt.receiver = .onRequestShim ∧ isRadioCapability receipt.dispatch.request = true
  registered : receipt.dispatch.registered = true →
    isRadioCapability receipt.dispatch.request = true → receipt.receiver = .onRequestShim

/-- Between calls the process is settled, and it is wrapped only if a table was returned. -/
def Idle (start : Got.Process) (returned : List (Option Nat)) (image : Image) : Prop :=
  Settled start image ∧ (image.sOnRequestPatched = true → ∃ funcs, some funcs ∈ returned)

/-- What is left of a running call does what the call is specified to do. -/
def Progress (layout : Layout) (start : Got.Process) (system : System) : Prop :=
  match system.running with
  | none => Idle start system.returned system.image
  | some (.rilInit, program) =>
      Ensures (respond layout) (Sound start) program (InitOutcome start) system.image
  | some (.rilSapInit, program) =>
      Ensures (respond layout) (Sound start) program
        (fun _ after => Idle start system.returned after) system.image

structure Consistent (layout : Layout) (start : Got.Process) (system : System) : Prop where
  sound : Sound start system.image
  progress : Progress layout start system
  returned : ∀ funcs, some funcs ∈ system.returned →
    system.image.sOnRequestPatched = true ∧ system.image.sRealFuncs = some funcs
  dispatches : ∀ dispatch ∈ system.dispatches, Routed system.image dispatch
  received : ∀ receipt ∈ system.received, Delivered receipt

section Steps

variable {layout : Layout} {start : Got.Process} {system : System} {image : Image}

theorem sound_loaded {table : Nat → RadioFunctions}
    (unhooked : ∀ funcs, (table funcs).onRequest ≠ .onRequestShim) (got : Got.Process) :
    Sound got (.loaded table got) where
  unfaulted := rfl
  once := rfl
  original := unhooked
  slot _ := .inl rfl
  behind _ behind := by cases behind
  wrapped patched := by cases patched
  untouched := .inl rfl

theorem consistent_initial {table : Nat → RadioFunctions}
    (unhooked : ∀ funcs, (table funcs).onRequest ≠ .onRequestShim) (got : Got.Process) :
    Consistent layout got (.initial (.loaded table got)) where
  sound := sound_loaded unhooked got
  progress := ⟨.inr ⟨rfl, fun _ => .inl rfl⟩, fun patched => by cases patched⟩
  returned _ member := by cases member
  dispatches _ member := by cases member
  received _ member := by cases member

/-- What a call leaves alone once the shim is in a table: the function behind it, and the
table that was wrapped. -/
theorem respond_keeps {op : StartOp} {choice : Choice} (sound : Sound start image)
    (after : Sound start (respond layout image op choice).1) {real : RequestFunc}
    (behind : image.behindShim = some real) :
    (respond layout image op choice).1.behindShim = some real ∧
      (image.sOnRequestPatched = true →
        (respond layout image op choice).1.sOnRequestPatched = true ∧
          (respond layout image op choice).1.sRealFuncs = image.sRealFuncs) := by
  cases op with
  | realInit =>
      -- the vendor library is not initialized again
      have once := after.once
      have again : (image.initialized choice.result).reentered = true := by
        unfold Image.initialized
        cases choice.result <;> simp [behind]
      cases again.symm.trans once
  | storeOnRequestShim funcs =>
      have published := (sound.behind real behind).1
      simp only [respond, Image.patched]
      split_ifs
      · exact ⟨behind, fun patched => ⟨patched, rfl⟩⟩
      · exact ⟨congrArg some published, fun patched => ⟨patched, rfl⟩⟩
      · exact ⟨behind, fun patched => ⟨patched, rfl⟩⟩
  | storePatched => exact ⟨behind, fun _ => ⟨rfl, rfl⟩⟩
  | _ => exact ⟨behind, fun patched => ⟨patched, rfl⟩⟩

/-- A dispatched request stays on its way. -/
theorem Routed.respond {op : StartOp} {choice : Choice} {dispatch : Dispatch}
    (routed : Routed image dispatch) (sound : Sound start image)
    (after : Sound start (respond layout image op choice).1) :
    Routed (respond layout image op choice).1 dispatch where
  vendor := routed.vendor
  target := routed.target.imp_right fun ⟨target, behind⟩ =>
    ⟨target, (respond_keeps sound after behind).1⟩
  registered := routed.registered

/-- The running call makes a call. -/
theorem Consistent.calls {entry : Entry} {op : StartOp}
    {next : op.Reply → StartProgram (Option Nat)} (consistent : Consistent layout start system)
    (running : system.running = some (entry, .call op next)) (choice : Choice) :
    Consistent layout start { system with
      image := (Startup.respond layout system.image op choice).1
      running := some (entry, next (Startup.respond layout system.image op choice).2) } := by
  have progress := consistent.progress
  unfold Progress at progress
  rw [running] at progress
  have rest : Progress layout start { system with
      image := (Startup.respond layout system.image op choice).1
      running := some (entry, next (Startup.respond layout system.image op choice).2) } := by
    cases entry with
    | rilInit => exact progress.2 choice
    | rilSapInit => exact progress.2 choice
  have sound : Sound start (Startup.respond layout system.image op choice).1 := by
    cases entry with
    | rilInit => exact (progress.2 choice).inv
    | rilSapInit => exact (progress.2 choice).inv
  constructor
  case sound => exact sound
  case progress => exact rest
  case returned =>
    intro funcs member
    obtain ⟨patched, real⟩ := consistent.returned funcs member
    obtain ⟨other, wrapped⟩ := consistent.sound.wrapped patched
    obtain ⟨patched', real'⟩ := (respond_keeps consistent.sound sound wrapped.behind).2 patched
    exact ⟨patched', real'.trans real⟩
  case dispatches =>
    intro dispatch member
    exact (consistent.dispatches dispatch member).respond consistent.sound sound
  case received => exact consistent.received

/-- The running call returns. -/
theorem Consistent.returns {entry : Entry} {result : Option Nat}
    (consistent : Consistent layout start system)
    (running : system.running = some (entry, .done result)) :
    Consistent layout start (system.returns entry result) := by
  have progress := consistent.progress
  unfold Progress at progress
  rw [running] at progress
  cases entry with
  | rilSapInit =>
      exact ⟨consistent.sound, progress.2, consistent.returned, consistent.dispatches,
        consistent.received⟩
  | rilInit =>
      obtain ⟨sound, outcome⟩ := progress
      have settled : Idle start (system.returned ++ [result]) system.image := by
        rcases outcome with ⟨funcs, rfl, patched, -⟩ | ⟨rfl, unpatched, unwrapped, restored⟩
        · exact ⟨.inl patched, fun _ => ⟨funcs, by simp⟩⟩
        · refine ⟨.inr ⟨unwrapped, restored⟩, fun patched => ?_⟩
          rw [unpatched] at patched
          cases patched
      refine ⟨sound, settled, ?_, consistent.dispatches, consistent.received⟩
      intro funcs member
      rcases List.mem_append.mp member with early | last
      · exact consistent.returned funcs early
      · rcases outcome with ⟨other, rfl, patched, real⟩ | ⟨rfl, -⟩
        · obtain rfl := Option.some.inj (List.mem_singleton.mp last)
          exact ⟨patched, real⟩
        · simp at last

theorem Consistent.enters (consistent : Consistent layout start system)
    (idle : system.running = none) (entry : Entry) :
    Consistent layout start { system with running := some (entry, entry.program) } := by
  have progress := consistent.progress
  unfold Progress at progress
  rw [idle] at progress
  refine ⟨consistent.sound, ?_, consistent.returned, consistent.dispatches, consistent.received⟩
  cases entry with
  | rilInit => exact ensures_rilInit consistent.sound progress.1
  | rilSapInit =>
      exact ensures_rilSapInit (P := Idle start system.returned) (fun _ _ idle => idle)
        consistent.sound progress

/-- A request that is dispatched is on its way. -/
theorem Consistent.routed (consistent : Consistent layout start system) {funcs : Nat}
    (callable : (system.image.table funcs).onRequest ≠ .null) (request : Int) :
    Routed system.image (system.dispatching funcs request) := by
  have slot := consistent.sound.slot funcs
  constructor
  case vendor =>
    have notShim := consistent.sound.original funcs
    have notNull : system.image.original funcs ≠ .null := by
      rcases slot with same | ⟨-, behind⟩
      · exact same ▸ callable
      · exact (consistent.sound.behind _ behind).2.1
    show ∃ address, system.image.original funcs = .vendor address
    cases original : system.image.original funcs with
    | null => exact absurd original notNull
    | onRequestShim => exact absurd original notShim
    | vendor address => exact ⟨address, rfl⟩
  case target => exact slot
  case registered =>
    intro registered
    obtain ⟨patched, real⟩ := consistent.returned funcs (of_decide_eq_true registered)
    obtain ⟨other, wrapped⟩ := consistent.sound.wrapped patched
    obtain rfl : other = funcs := Option.some.inj (wrapped.real.symm.trans real)
    exact wrapped.slot

/-- A request on its way arrives. -/
theorem Routed.delivered {dispatch : Dispatch} (routed : Routed image dispatch)
    (sound : Sound start image) : Delivered ⟨dispatch, Startup.receiver image dispatch⟩ := by
  obtain ⟨address, original⟩ := routed.vendor
  by_cases shim : dispatch.target = .onRequestShim
  · have behind : image.behindShim = some dispatch.original := by
      rcases routed.target with same | ⟨-, behind⟩
      · rw [shim, original] at same
        cases same
      · exact behind
    obtain ⟨published, -, -, env⟩ := sound.behind _ behind
    have reached : Startup.receiver image dispatch =
        if isRadioCapability dispatch.request then .onRequestShim else dispatch.original := by
      simp [Startup.receiver, Startup.onRequestShim, shim, env, published]
    refine ⟨⟨address, original⟩, ?_, fun _ capability => ?_⟩
    · dsimp only
      rw [reached]
      split_ifs with capability
      · exact .inr ⟨rfl, capability⟩
      · exact .inl rfl
    · dsimp only at capability ⊢
      rw [reached, if_pos capability]
  · have direct : Startup.receiver image dispatch = dispatch.original := by
      rw [Startup.receiver, if_neg shim]
      exact routed.target.resolve_right fun other => shim other.1
    exact ⟨⟨address, original⟩, .inl direct,
      fun registered => absurd (routed.registered registered) shim⟩

theorem Consistent.step {event : StartEvent} {after : System}
    (consistent : Consistent layout start system)
    (step : startStep layout system event = some after) : Consistent layout start after := by
  cases event with
  | enter entry =>
      simp only [startStep] at step
      split at step
      · next idle =>
        obtain rfl := Option.some.inj step
        exact consistent.enters idle entry
      · cases step
  | advance choice =>
      simp only [startStep] at step
      split at step
      · cases step
      · next running =>
        obtain rfl := Option.some.inj step
        exact consistent.returns running
      · next running =>
        obtain rfl := Option.some.inj step
        exact consistent.calls running choice
  | dispatch funcs request =>
      simp only [startStep] at step
      split_ifs at step with null
      obtain rfl := Option.some.inj step
      refine ⟨consistent.sound, consistent.progress, consistent.returned, ?_, consistent.received⟩
      intro dispatch member
      rcases List.mem_append.mp member with early | last
      · exact consistent.dispatches dispatch early
      · obtain rfl := List.mem_singleton.mp last
        exact consistent.routed null request
  | deliver index =>
      simp only [startStep] at step
      split at step
      · cases step
      · next dispatch found =>
        obtain rfl := Option.some.inj step
        refine ⟨consistent.sound, consistent.progress, consistent.returned, ?_, ?_⟩
        · intro other member
          exact consistent.dispatches other (List.mem_of_mem_eraseIdx member)
        · intro receipt member
          rcases List.mem_append.mp member with early | last
          · exact consistent.received receipt early
          · obtain rfl := List.mem_singleton.mp last
            exact (consistent.dispatches dispatch (List.mem_of_getElem? found)).delivered
              consistent.sound

end Steps

theorem consistent_of_reachable {layout : Layout} {table : Nat → RadioFunctions}
    {got : Got.Process} {system : System}
    (unhooked : ∀ funcs, (table funcs).onRequest ≠ .onRequestShim)
    (reachable : Reachable (startStep layout) (.initial (.loaded table got)) system) :
    Consistent layout got system :=
  reachable.invariant (consistent_initial unhooked got) fun _ _ _ consistent step =>
    consistent.step step

/-! ## Results -/

/-- In every order of the steps of calls that come one after the other and of the requests
dispatched meanwhile and later, with the stores seen in program order: a request reaches the
function that the vendor library had put into the table, and never `NULL` or the shim in a
circle; only a request for the radio capability may end in the shim, and it always does when
`RIL_Init` had returned the table. -/
theorem request_routing (layout : Layout) (table : Nat → RadioFunctions) (got : Got.Process)
    (system : System) (unhooked : ∀ funcs, (table funcs).onRequest ≠ .onRequestShim)
    (reachable : Reachable (startStep layout) (.initial (.loaded table got)) system) :
    ∀ receipt ∈ system.received,
      (∃ address, receipt.dispatch.original = .vendor address) ∧
      (receipt.receiver = receipt.dispatch.original ∨
        receipt.receiver = .onRequestShim ∧ isRadioCapability receipt.dispatch.request = true) ∧
      (receipt.dispatch.registered = true → isRadioCapability receipt.dispatch.request = true →
        receipt.receiver = .onRequestShim) := by
  intro receipt member
  have delivered := (consistent_of_reachable unhooked reachable).received receipt member
  exact ⟨delivered.vendor, delivered.receiver, delivered.registered⟩

/-- One page, of a table that is read-only. -/
def relroLayout : Layout where
  slot symbol := if symbol = .onRequestComplete then 0 else 8
  pageSize := 8192
  pageSize_pos := by decide

def relroProcess : Got.Process where
  got _ := .function 1
  prot _ := ⟨true, false, false⟩
  sReal _ := .null
  sIaHookState := .disabled
  workers := 0
  faulted := false

/-- A number of calls that succeed. -/
def proceeds (calls : Nat) : List StartEvent :=
  List.replicate calls (.advance {})

/-- Requests are dispatched between the publication of the vendor's function and the store of
the shim, between the store and the return, and after the return. -/
def relroRun : List StartEvent :=
  let initialized : StartEvent := .advance { result := some ⟨8192, 14, some 77⟩ }
  let refused : StartEvent := .advance { works := false }
  .enter .rilInit :: (proceeds 5 ++ initialized :: (proceeds 7 ++ .dispatch 8192 130 ::
    (proceeds 1 ++ .dispatch 8192 10 :: .deliver 0 :: (proceeds 1 ++ refused ::
      (proceeds 5 ++ [.dispatch 8192 131, .deliver 1, .deliver 0])))))

theorem request_routing_relro :
    ∃ system, Runs (startStep relroLayout)
        (.initial (.loaded (fun _ => ⟨0, .null⟩) relroProcess)) relroRun system ∧
      system.received.map Receipt.receiver = [.vendor 77, .onRequestShim, .vendor 77] ∧
      ∀ receipt ∈ system.received, ∃ address, receipt.dispatch.original = .vendor address := by
  have run : Runs (startStep relroLayout)
      (.initial (.loaded (fun _ => ⟨0, .null⟩) relroProcess)) relroRun _ :=
    runs_get (by decide +kernel)
  exact ⟨_, run, by decide +kernel, fun receipt member =>
    (request_routing _ _ _ _ (fun _ shim => by cases shim) run.reachable receipt member).1⟩

/-- In every such order: a table that `RIL_Init` has returned is wrapped for good, of a
version from 6 to 20, and the same for every call; the attach-APN hooks leave their initial state
only behind such a table of version 15 or later; the vendor library is never initialized again
once the shim is in its table, and no read-only page is written to, be it one of a table or
one of the GOT.  If `RIL_Init` has returned nothing but `NULL`, each table is as the vendor
library made it, nothing of the installation of the hooks has begun, and each protection is
what it was unless putting it back was refused twice. -/
theorem start_fails_closed (layout : Layout) (table : Nat → RadioFunctions) (got : Got.Process)
    (system : System) (unhooked : ∀ funcs, (table funcs).onRequest ≠ .onRequestShim)
    (disabled : got.sIaHookState = .disabled)
    (reachable : Reachable (startStep layout) (.initial (.loaded table got)) system) :
    (∀ funcs, some funcs ∈ system.returned → Wrapped funcs system.image) ∧
    (system.image.got.sIaHookState ≠ .disabled → Armable system.image) ∧
    system.image.reentered = false ∧ system.image.got.faulted = got.faulted ∧
    (system.running = none → (∀ result ∈ system.returned, result = none) →
      (∀ funcs, (system.image.table funcs).onRequest = system.image.original funcs) ∧
      system.image.got = { got with prot := system.image.got.prot } ∧
      Restored got system.image) := by
  have consistent := consistent_of_reachable unhooked reachable
  refine ⟨?_, ?_, consistent.sound.once, consistent.sound.unfaulted, ?_⟩
  · intro funcs member
    obtain ⟨patched, real⟩ := consistent.returned funcs member
    obtain ⟨other, wrapped⟩ := consistent.sound.wrapped patched
    obtain rfl : other = funcs := Option.some.inj (wrapped.real.symm.trans real)
    exact wrapped
  · intro hooking
    refine consistent.sound.untouched.resolve_left fun untouched => hooking ?_
    rw [untouched]
    exact disabled
  · intro idle refused
    have progress := consistent.progress
    unfold Progress at progress
    rw [idle] at progress
    obtain ⟨settled, wrapping⟩ := progress
    have unpatched : system.image.sOnRequestPatched = false := by
      refine Bool.eq_false_iff.mpr fun patched => ?_
      obtain ⟨funcs, member⟩ := wrapping patched
      cases refused _ member
    obtain ⟨unwrapped, restored⟩ := settled.resolve_left (by simp [unpatched])
    exact ⟨consistent.sound.slot_of_behind unwrapped,
      consistent.sound.untouched_of_unpatched unpatched, restored⟩

/-- The store is dropped, and the old protection is refused twice. -/
def droppedRun : List StartEvent :=
  let initialized : StartEvent := .advance { result := some ⟨8192, 15, some 77⟩ }
  let refused : StartEvent := .advance { works := false }
  .enter .rilInit :: (proceeds 5 ++ initialized :: (proceeds 7 ++ refused ::
    (proceeds 1 ++ refused :: refused :: proceeds 1)))

theorem start_fails_closed_dropped :
    ∃ system, Runs (startStep relroLayout)
        (.initial (.loaded (fun _ => ⟨0, .null⟩) relroProcess)) droppedRun system ∧
      system.returned = [none] ∧ (system.image.got.prot 8192).write = true ∧
      (∀ funcs, (system.image.table funcs).onRequest = system.image.original funcs) ∧
      Restored relroProcess system.image := by
  have run : Runs (startStep relroLayout)
      (.initial (.loaded (fun _ => ⟨0, .null⟩) relroProcess)) droppedRun _ :=
    runs_get (by decide +kernel)
  have closed := (start_fails_closed _ _ _ _ (fun _ shim => by cases shim) rfl
    run.reachable).2.2.2.2 (Option.isNone_iff_eq_none.mp (by decide +kernel)) (by decide +kernel)
  exact ⟨_, run, by decide +kernel, by decide +kernel, closed.1, closed.2.2⟩

end K50sv1.RilShim.Startup
