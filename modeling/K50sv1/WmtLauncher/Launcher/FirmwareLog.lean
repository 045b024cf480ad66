import Mathlib.Tactic.SplitIfs
import K50sv1.Transition.Run
import K50sv1.WmtLauncher.Core

/-!
# The firmware log worker

The main thread polls a property and keeps a worker that repeats the enabling `WMT_FWLOG`
request while the property is "yes".  Both threads are interleaved at every access to the
flags they share and at every system call; `pthread_create`, `pthread_join` and each
request may fail.

The main thread knows about the worker only by `created` and by the property value it
remembers.  As long as an enabling request has not been undone, the worker exists or the
value it remembers is "yes", which is what shutdown looks at.
-/

namespace K50sv1.WmtLauncher.Launcher

open K50sv1.Transition

/-! ## State -/

/-- `struct log_task`, without the file descriptor. -/
structure LogTask where
  enabled : Nat
  thread : Nat
  stopping : Bool
  finished : Bool
  created : Bool
  deriving DecidableEq, Repr

/-- `struct optional_controls`.  The property values are the texts in its arrays. -/
structure OptionalControls where
  fwlog : List UInt8
  dump : List UInt8
  log : LogTask
  deriving DecidableEq, Repr

/-- Where `set_firmware_log` stands.  A worker that has not begun to run is at its first
test. -/
inductive WorkerPhase where
  | testing
  | calling
  /-- Inside the request. -/
  | draining
  | sleeping
  | leaving
  | ended
  deriving DecidableEq, Repr

/-- A thread that was created and not joined. -/
structure LogWorker where
  thread : Nat
  phase : WorkerPhase
  deriving DecidableEq, Repr

/-- Who called `stop_firmware_log`. -/
inductive StopCaller where
  | poll (fwlog : List UInt8)
  | shutdown
  deriving DecidableEq, Repr

/-- Where the main thread stands. -/
inductive MainPhase where
  | polling
  /-- The property is "yes"; `created` and `finished` are looked at next. -/
  | reaping
  | joiningFinished
  | restarting
  | clearing
  | creating
  /-- The thread exists, `created` is not yet set. -/
  | recording
  | stopping (caller : StopCaller)
  | joining (caller : StopCaller)
  | disabling (caller : StopCaller)
  | dumping
  | shuttingDown
  | stopped
  deriving DecidableEq, Repr

/-- The calls whose order matters. -/
inductive LogCall where
  | create (thread : Nat)
  | createFailed
  | join (thread : Nat)
  | joinFailed
  /-- `WMT_FWLOG` is requested, whatever it returns. -/
  | fwlog (argument : Nat)
  deriving DecidableEq, Repr

/-- Both threads and the calls made so far, oldest first. -/
structure LogSystem where
  controls : OptionalControls
  main : MainPhase
  workers : List LogWorker
  history : List LogCall
  deriving DecidableEq, Repr

inductive LogEvent where
  /-- An iteration of the command loop reads the property. -/
  | check (fwlog : List UInt8)
  /-- The main thread goes on without a system call. -/
  | main
  | create (thread : Nat) (created : Bool)
  | join (joined : Bool)
  | disable (disabled : Bool)
  | dump (dump : List UInt8) (accepted : Bool)
  /-- The command loop has ended. -/
  | shutdown
  /-- A worker goes on, into the request if that is next. -/
  | worker (thread : Nat)
  | drained (thread : Nat) (succeeded : Bool)
  deriving DecidableEq, Repr

def yes : List UInt8 :=
  ascii "yes"

namespace LogSystem

def initial : LogSystem where
  controls :=
    { fwlog := []
      dump := []
      log := { enabled := 0, thread := 0, stopping := false, finished := false, created := false } }
  main := .polling
  workers := []
  history := []

def log (system : LogSystem) : LogTask :=
  system.controls.log

def withLog (system : LogSystem) (log : LogTask) (main : MainPhase) : LogSystem :=
  { system with controls := { system.controls with log }, main }

def calls (system : LogSystem) (call : LogCall) : LogSystem :=
  { system with history := system.history ++ [call] }

/-- The thread identifiers of the unjoined workers. -/
def threads (system : LogSystem) : List Nat :=
  system.workers.map LogWorker.thread

def advance (system : LogSystem) (thread : Nat) (phase : WorkerPhase) : LogSystem :=
  { system with
    workers := system.workers.map fun worker =>
      if worker.thread = thread then { worker with phase } else worker }

end LogSystem

/-! ## Steps -/

/-- Where the main thread goes on after `stop_firmware_log`. -/
def StopCaller.returns : StopCaller → MainPhase
  | .poll _ => .dumping
  | .shutdown => .stopped

/-- The steps of the main thread between two system calls. -/
def mainStep (system : LogSystem) : Option LogSystem :=
  let log := system.log
  match system.main with
  | .reaping =>
      if log.created ∧ log.finished then
        some { system with main := .joiningFinished }
      else
        some { system with main := .restarting }
  | .restarting =>
      if log.created then
        some { system with main := .dumping }
      else
        some (system.withLog { log with enabled := 1, stopping := false } .clearing)
  | .clearing => some (system.withLog { log with finished := false } .creating)
  | .recording =>
      some { system with
        controls := { system.controls with fwlog := yes, log := { log with created := true } }
        main := .dumping }
  | .stopping caller =>
      if log.created then
        some (system.withLog { log with stopping := true } (.joining caller))
      else
        some { system with main := .disabling caller }
  | .shuttingDown =>
      if log.created ∨ system.controls.fwlog = yes then
        some { system with main := .stopping .shutdown }
      else
        some { system with main := .stopped }
  | _ => none

/-- `pthread_join` on the worker.  It returns zero only when the worker has ended. -/
def joinStep (system : LogSystem) (joined : Bool) : Option LogSystem :=
  let log := system.log
  let next : Option (MainPhase × MainPhase) :=
    match system.main with
    | .joiningFinished => some (.restarting, .restarting)
    | .joining caller => some (.disabling caller, caller.returns)
    | _ => none
  next.bind fun (success, failure) =>
    if joined then
      if ⟨log.thread, .ended⟩ ∈ system.workers then
        some (({ system with
          workers := system.workers.filter fun worker => worker.thread ≠ log.thread }.withLog
            { log with created := false } success).calls (.join log.thread))
      else
        none
    else
      some ({ system with main := failure }.calls .joinFailed)

/-- `pthread_create` of the worker.  What a failed call leaves in `log.thread` is
undefined. -/
def createStep (system : LogSystem) (thread : Nat) (created : Bool) : Option LogSystem :=
  let log := { system.log with thread }
  if system.main = .creating then
    if created then
      if thread ∈ system.threads then
        none
      else
        let worker : LogWorker := { thread, phase := .testing }
        some (({ system with workers := system.workers ++ [worker] }.withLog log
          .recording).calls (.create thread))
    else
      some ((system.withLog log .dumping).calls .createFailed)
  else
    none

/-- The steps of `set_firmware_log`. -/
def workerStep (system : LogSystem) (thread : Nat) : Option LogSystem :=
  let log := system.log
  match system.workers.find? (·.thread = thread) with
  | none => none
  | some worker =>
      match worker.phase with
      | .testing => some (system.advance thread (if log.stopping then .leaving else .calling))
      | .calling => some ((system.advance thread .draining).calls (.fwlog log.enabled))
      | .draining => none
      | .sleeping => some (system.advance thread .testing)
      | .leaving =>
          some ((system.advance thread .ended).withLog { log with finished := true } system.main)
      | .ended => none

def logStep : Step LogEvent LogSystem
  | system, .check fwlog =>
      if system.main = .polling then
        some { system with
          main := if fwlog = yes then .reaping
            else if fwlog ≠ system.controls.fwlog then .stopping (.poll fwlog)
            else .dumping }
      else
        none
  | system, .main => mainStep system
  | system, .create thread created => createStep system thread created
  | system, .join joined => joinStep system joined
  | system, .disable disabled =>
      match system.main with
      | .disabling (.poll fwlog) =>
          some ({ system with
            controls := { system.controls with
              fwlog := if disabled then fwlog else system.controls.fwlog }
            main := .dumping }.calls (.fwlog 0))
      | .disabling .shutdown => some ({ system with main := .stopped }.calls (.fwlog 0))
      | _ => none
  | system, .dump dump accepted =>
      if system.main = .dumping then
        some { system with
          controls := { system.controls with
            dump := if dump ≠ system.controls.dump ∧ accepted then dump
              else system.controls.dump }
          main := .polling }
      else
        none
  | system, .shutdown =>
      if system.main = .polling then some { system with main := .shuttingDown } else none
  | system, .worker thread => workerStep system thread
  | system, .drained thread succeeded =>
      if ⟨thread, .draining⟩ ∈ system.workers then
        some (system.advance thread (if succeeded then .sleeping else .leaving))
      else
        none

/-! ## What a step can do -/

namespace MainPhase

/-- The main thread knows that `created` is clear. -/
def isCleared : MainPhase → Bool
  | .clearing | .creating | .recording | .disabling _ => true
  | _ => false

/-- The main thread knows that `created` is set. -/
def isJoining : MainPhase → Bool
  | .joiningFinished | .joining _ => true
  | _ => false

/-- `log.enabled` has been set for a worker that does not exist yet. -/
def isPreparing : MainPhase → Bool
  | .clearing | .creating => true
  | _ => false

/-- The main thread knows nothing about the worker but what `created` says. -/
def isOpen : MainPhase → Bool
  | .polling | .reaping | .restarting | .stopping _ | .dumping | .shuttingDown => true
  | _ => false

end MainPhase

/-- A step that leaves the workers and the main thread's record of them alone. -/
structure Keeps (system after : LogSystem) : Prop where
  threads : after.threads = system.threads
  created : after.log.created = system.log.created
  thread : after.log.thread = system.log.thread
  fwlog : after.controls.fwlog = system.controls.fwlog

/-- The steps by their effect on the workers, on what the main thread remembers of them
and on the history. -/
inductive Moves (system after : LogSystem) : Prop
  | goes (keeps : Keeps system after) (history : after.history = system.history)
      (leaves : system.main ≠ .recording) (enters : after.main ≠ .recording)
      (cleared : after.main.isCleared → system.log.created = false ∨ system.main.isCleared)
      (joining : after.main.isJoining → system.log.created = true)
      (enabled : after.log.enabled = 1 ∨
        after.log.enabled = system.log.enabled ∧
          (after.main.isPreparing → system.main.isPreparing))
      (stopped : after.main = .stopped →
        system.log.created = false ∧ system.controls.fwlog ≠ yes)
  | creates (main : system.main = .creating) (next : after.main = .recording)
      (threads : after.threads = system.threads ++ [after.log.thread])
      (created : after.log.created = system.log.created)
      (enabled : after.log.enabled = system.log.enabled)
      (history : after.history = system.history ++ [.create after.log.thread])
  | createFails (main : system.main = .creating) (next : after.main = .dumping)
      (threads : after.threads = system.threads)
      (created : after.log.created = system.log.created)
      (fwlog : after.controls.fwlog = system.controls.fwlog)
      (history : after.history = system.history ++ [.createFailed])
  | records (main : system.main = .recording) (next : after.main = .dumping)
      (threads : after.threads = system.threads) (created : after.log.created = true)
      (thread : after.log.thread = system.log.thread)
      (fwlog : after.controls.fwlog = yes)
      (enabled : after.log.enabled = system.log.enabled)
      (history : after.history = system.history)
  | joins (main : system.main.isJoining)
      (next : after.main = .restarting ∨ ∃ caller, after.main = .disabling caller)
      (threads : after.threads = system.threads.filter (· ≠ system.log.thread))
      (created : after.log.created = false)
      (fwlog : after.controls.fwlog = system.controls.fwlog)
      (history : after.history = system.history ++ [.join system.log.thread])
  | joinFails (main : system.main.isJoining)
      (next : after.main = .restarting ∨ after.main = .dumping ∨ after.main = .stopped)
      (keeps : Keeps system after) (enabled : after.log.enabled = system.log.enabled)
      (history : after.history = system.history ++ [.joinFailed])
  | disables (main : ∃ caller, system.main = .disabling caller)
      (next : after.main = .dumping ∨ after.main = .stopped)
      (threads : after.threads = system.threads)
      (created : after.log.created = system.log.created)
      (history : after.history = system.history ++ [.fwlog 0])
  | works (main : after.main = system.main) (keeps : Keeps system after)
      (enabled : after.log.enabled = system.log.enabled)
      (history : after.history = system.history ∨
        system.threads ≠ [] ∧ after.history = system.history ++ [.fwlog system.log.enabled])

@[simp]
theorem threads_advance (system : LogSystem) (thread : Nat) (phase : WorkerPhase) :
    (system.advance thread phase).threads = system.threads := by
  rw [LogSystem.threads, LogSystem.advance, List.map_map]
  apply List.map_congr_left
  intro worker _
  simp only [Function.comp_apply]
  split_ifs <;> rfl

section Moves

variable {system after : LogSystem}

theorem moves_of_isOpen (keeps : Keeps system after) (history : after.history = system.history)
    (enabled : after.log.enabled = system.log.enabled) (leaves : system.main ≠ .recording)
    (enters : after.main.isOpen) : Moves system after := by
  refine .goes keeps history leaves ?_ ?_ ?_ (.inr ⟨enabled, ?_⟩) ?_
  all_goals
    revert enters
    cases after.main <;> simp [MainPhase.isOpen, MainPhase.isCleared, MainPhase.isJoining,
      MainPhase.isPreparing]

theorem mainStep_moves (step : mainStep system = some after) : Moves system after := by
  unfold mainStep at step
  dsimp only at step
  split at step
  · next phase =>
    split_ifs at step with finished
    · obtain rfl := Option.some.inj step
      refine .goes ⟨rfl, rfl, rfl, rfl⟩ rfl (by simp [phase]) (by simp) nofun (fun _ => finished.1)
        (.inr ⟨rfl, nofun⟩) nofun
    · obtain rfl := Option.some.inj step
      exact moves_of_isOpen ⟨rfl, rfl, rfl, rfl⟩ rfl rfl (by simp [phase]) rfl
  · next phase =>
    split_ifs at step with created
    · obtain rfl := Option.some.inj step
      exact moves_of_isOpen ⟨rfl, rfl, rfl, rfl⟩ rfl rfl (by simp [phase]) rfl
    · obtain rfl := Option.some.inj step
      exact .goes ⟨rfl, rfl, rfl, rfl⟩ rfl (by simp [phase]) nofun
        (fun _ => .inl (Bool.eq_false_iff.mpr created)) nofun (.inl rfl) nofun
  · next phase =>
    obtain rfl := Option.some.inj step
    exact .goes ⟨rfl, rfl, rfl, rfl⟩ rfl (by simp [phase]) nofun (fun _ => .inr (phase ▸ rfl)) nofun
      (.inr ⟨rfl, fun _ => phase ▸ rfl⟩) nofun
  · next phase =>
    obtain rfl := Option.some.inj step
    exact .records phase rfl rfl rfl rfl rfl rfl rfl
  · next caller phase =>
    split_ifs at step with created
    · obtain rfl := Option.some.inj step
      exact .goes ⟨rfl, rfl, rfl, rfl⟩ rfl (by simp [phase]) nofun nofun (fun _ => created)
        (.inr ⟨rfl, nofun⟩) nofun
    · obtain rfl := Option.some.inj step
      exact .goes ⟨rfl, rfl, rfl, rfl⟩ rfl (by simp [phase]) nofun
        (fun _ => .inl (Bool.eq_false_iff.mpr created)) nofun (.inr ⟨rfl, nofun⟩) nofun
  · next phase =>
    split_ifs at step with undone
    · obtain rfl := Option.some.inj step
      exact moves_of_isOpen ⟨rfl, rfl, rfl, rfl⟩ rfl rfl (by simp [phase]) rfl
    · obtain rfl := Option.some.inj step
      rw [not_or] at undone
      exact .goes ⟨rfl, rfl, rfl, rfl⟩ rfl (by simp [phase]) nofun nofun nofun
        (.inr ⟨rfl, nofun⟩) fun _ => ⟨Bool.eq_false_iff.mpr undone.1, undone.2⟩
  · cases step

theorem createStep_moves {thread : Nat} {created : Bool}
    (step : createStep system thread created = some after) : Moves system after := by
  unfold createStep at step
  dsimp only at step
  split_ifs at step with phase succeeded present
  · obtain rfl := Option.some.inj step
    refine .creates phase rfl ?_ rfl rfl rfl
    simp [LogSystem.threads, LogSystem.withLog, LogSystem.calls, LogSystem.log]
  · obtain rfl := Option.some.inj step
    exact .createFails phase rfl rfl rfl rfl rfl

theorem joinStep_moves {joined : Bool} (step : joinStep system joined = some after) :
    Moves system after := by
  obtain ⟨⟨success, failure⟩, next, step⟩ := Option.bind_eq_some_iff.mp step
  have phases : system.main.isJoining ∧
      (success = .restarting ∨ ∃ caller, success = .disabling caller) ∧
      (failure = .restarting ∨ failure = .dumping ∨ failure = .stopped) := by
    split at next
    · next phase =>
      cases next
      exact ⟨phase ▸ rfl, .inl rfl, .inl rfl⟩
    · next caller phase =>
      cases next
      refine ⟨phase ▸ rfl, .inr ⟨caller, rfl⟩, .inr ?_⟩
      cases caller
      · exact .inl rfl
      · exact .inr rfl
    · cases next
  obtain ⟨main, success_eq, failure_eq⟩ := phases
  split_ifs at step with succeeded ended
  · obtain rfl := Option.some.inj step
    refine .joins main success_eq ?_ rfl rfl rfl
    simp only [LogSystem.threads, LogSystem.withLog, LogSystem.calls, List.filter_map]
    rfl
  · obtain rfl := Option.some.inj step
    exact .joinFails main failure_eq ⟨rfl, rfl, rfl, rfl⟩ rfl rfl

theorem workerStep_moves {thread : Nat} (step : workerStep system thread = some after) :
    Moves system after := by
  unfold workerStep at step
  dsimp only at step
  split at step
  · cases step
  · next worker found =>
    have exists_worker : system.threads ≠ [] := by
      intro empty
      rw [LogSystem.threads, List.map_eq_nil_iff] at empty
      simp [empty] at found
    split at step
    all_goals cases step
    · exact .works rfl ⟨threads_advance .., rfl, rfl, rfl⟩ rfl (.inl rfl)
    · exact .works rfl ⟨threads_advance .., rfl, rfl, rfl⟩ rfl (.inr ⟨exists_worker, rfl⟩)
    · exact .works rfl ⟨threads_advance .., rfl, rfl, rfl⟩ rfl (.inl rfl)
    · exact .works rfl ⟨threads_advance .., rfl, rfl, rfl⟩ rfl (.inl rfl)

theorem logStep_moves {event : LogEvent} (step : logStep system event = some after) :
    Moves system after := by
  cases event with
  | check fwlog =>
      rw [logStep] at step
      by_cases phase : system.main = .polling
      case neg =>
        rw [if_neg phase] at step
        cases step
      rw [if_pos phase] at step
      obtain rfl := Option.some.inj step
      refine moves_of_isOpen ⟨rfl, rfl, rfl, rfl⟩ rfl rfl (by simp [phase]) ?_
      dsimp only
      split_ifs <;> rfl
  | main => exact mainStep_moves step
  | create thread created => exact createStep_moves step
  | join joined => exact joinStep_moves step
  | disable disabled =>
      rw [logStep] at step
      split at step
      · next fwlog phase =>
        obtain rfl := Option.some.inj step
        exact .disables ⟨_, phase⟩ (.inl rfl) rfl rfl rfl
      · next phase =>
        obtain rfl := Option.some.inj step
        exact .disables ⟨_, phase⟩ (.inr rfl) rfl rfl rfl
      · cases step
  | dump dump accepted =>
      rw [logStep] at step
      by_cases phase : system.main = .dumping
      case neg =>
        rw [if_neg phase] at step
        cases step
      rw [if_pos phase] at step
      obtain rfl := Option.some.inj step
      exact moves_of_isOpen ⟨rfl, rfl, rfl, rfl⟩ rfl rfl (by simp [phase]) rfl
  | shutdown =>
      rw [logStep] at step
      split_ifs at step with phase
      obtain rfl := Option.some.inj step
      exact moves_of_isOpen ⟨rfl, rfl, rfl, rfl⟩ rfl rfl (by simp [phase]) rfl
  | worker thread => exact workerStep_moves step
  | drained thread succeeded =>
      rw [logStep] at step
      by_cases inside : ⟨thread, .draining⟩ ∈ system.workers
      case neg =>
        rw [if_neg inside] at step
        cases step
      rw [if_pos inside] at step
      obtain rfl := Option.some.inj step
      exact .works rfl ⟨threads_advance .., rfl, rfl, rfl⟩ rfl (.inl rfl)

end Moves

/-! ## Invariants -/

/-- What the main thread knows about the worker. -/
structure Tracked (system : LogSystem) : Prop where
  threads : system.threads =
    if system.log.created ∨ system.main = .recording then [system.log.thread] else []
  cleared : system.main.isCleared → system.log.created = false
  joining : system.main.isJoining → system.log.created = true
  remembered : system.log.created = true → system.controls.fwlog = yes
  enabled : system.threads ≠ [] ∨ system.main.isPreparing → system.log.enabled = 1

theorem tracked_initial : Tracked .initial where
  threads := rfl
  cleared := nofun
  joining := nofun
  remembered := nofun
  enabled := by simp [LogSystem.initial, LogSystem.threads, MainPhase.isPreparing]

namespace Tracked

variable {system after : LogSystem}

theorem threads_eq_nil (tracked : Tracked system) (main : system.main ≠ .recording)
    (created : system.log.created = false) : system.threads = [] := by
  rw [tracked.threads, if_neg]
  simp [main, created]

theorem threads_of_created (tracked : Tracked system) (created : system.log.created = true) :
    system.threads = [system.log.thread] := by
  rw [tracked.threads, if_pos (.inl created)]

/-- There is no worker and the main thread does not expect one. -/
theorem of_noWorker (threads : system.threads = []) (created : system.log.created = false)
    (enters : system.main ≠ .recording ∧ system.main.isJoining = false ∧
      system.main.isPreparing = false) : Tracked system := by
  obtain ⟨notRecording, notJoining, notPreparing⟩ := enters
  constructor
  · rw [threads, if_neg]
    simp [created, notRecording]
  · exact fun _ => created
  · simp [notJoining]
  · simp [created]
  · simp [threads, notPreparing]

theorem step (tracked : Tracked system) (moves : Moves system after) : Tracked after := by
  cases moves with
  | goes keeps history leaves enters cleared joining enabled stopped =>
      have known : after.main.isCleared → system.log.created = false := fun main =>
        (cleared main).elim id tracked.cleared
      constructor
      · simp only [keeps.threads, tracked.threads, keeps.created, keeps.thread, leaves, enters]
      · exact fun main => keeps.created.trans (known main)
      · exact fun main => keeps.created.trans (joining main)
      · intro created
        rw [keeps.fwlog, tracked.remembered (keeps.created.symm.trans created)]
      · rw [keeps.threads]
        intro needed
        rcases enabled with set | ⟨same, preparing⟩
        · exact set
        · rw [same]
          exact tracked.enabled (needed.imp_right preparing)
  | creates main next threads created enabled history =>
      have clear := tracked.cleared (main ▸ rfl)
      have none := tracked.threads_eq_nil (by simp [main]) clear
      constructor
      · rw [threads, none, if_pos (.inr next), List.nil_append]
      · exact fun _ => created.trans clear
      · simp [next, MainPhase.isJoining]
      · rw [created, clear]
        exact nofun
      · intro _
        rw [enabled]
        exact tracked.enabled (.inr (main ▸ rfl))
  | createFails main next threads created fwlog history =>
      have clear := tracked.cleared (main ▸ rfl)
      have none := tracked.threads_eq_nil (by simp [main]) clear
      apply of_noWorker (threads.trans none) (created.trans clear)
      simp [next, MainPhase.isJoining, MainPhase.isPreparing]
  | records main next threads created thread fwlog enabled history =>
      have one : system.threads = [system.log.thread] := by
        rw [tracked.threads, if_pos (.inr main)]
      constructor
      · rw [threads, one, if_pos (.inl created), thread]
      · simp [next, MainPhase.isCleared]
      · exact fun _ => created
      · exact fun _ => fwlog
      · intro _
        rw [enabled]
        exact tracked.enabled (.inl (by simp [one]))
  | joins main next threads created fwlog history =>
      have none : after.threads = [] := by
        rw [threads, tracked.threads_of_created (tracked.joining main)]
        simp
      apply of_noWorker none created
      rcases next with next | ⟨caller, next⟩ <;>
        simp [next, MainPhase.isJoining, MainPhase.isPreparing]
  | joinFails main next keeps enabled history =>
      have created := tracked.joining main
      have one := tracked.threads_of_created created
      constructor
      · rw [keeps.threads, one, if_pos (.inl (keeps.created.trans created)), keeps.thread]
      · rcases next with next | next | next <;> simp [next, MainPhase.isCleared]
      · exact fun _ => keeps.created.trans created
      · rw [keeps.fwlog]
        exact fun _ => tracked.remembered created
      · intro _
        rw [enabled]
        exact tracked.enabled (.inl (by simp [one]))
  | disables main next threads created history =>
      obtain ⟨caller, main⟩ := main
      have clear := tracked.cleared (main ▸ rfl)
      have none := tracked.threads_eq_nil (by simp [main]) clear
      apply of_noWorker (threads.trans none) (created.trans clear)
      rcases next with next | next <;> simp [next, MainPhase.isJoining, MainPhase.isPreparing]
  | works main keeps enabled history =>
      constructor
      · rw [keeps.threads, tracked.threads, keeps.created, main, keeps.thread]
      · rw [main, keeps.created]
        exact tracked.cleared
      · rw [main, keeps.created]
        exact tracked.joining
      · rw [keeps.created, keeps.fwlog]
        exact tracked.remembered
      · rw [keeps.threads, main, enabled]
        exact tracked.enabled

end Tracked

/-- Nothing happened but failed attempts to create a worker. -/
def Unused (history : List LogCall) : Prop :=
  ∀ call ∈ history, call = .createFailed

/-- After the last disabling request nothing happened but failed attempts to create a
worker. -/
def Settled (history : List LogCall) : Prop :=
  ∃ earlier later, history = earlier ++ .fwlog 0 :: later ∧ ∀ call ∈ later, call = .createFailed

theorem Unused.createFailed {history : List LogCall} (unused : Unused history) :
    Unused (history ++ [.createFailed]) := by
  intro call member
  rw [List.mem_append, List.mem_singleton] at member
  exact member.elim (unused call) id

theorem Settled.createFailed {history : List LogCall} (settled : Settled history) :
    Settled (history ++ [.createFailed]) := by
  obtain ⟨earlier, later, rfl, failed⟩ := settled
  refine ⟨earlier, later ++ [.createFailed], by simp, ?_⟩
  exact Unused.createFailed failed

/-- What has been enabled and not disabled is known to the main thread. -/
structure Owed (system : LogSystem) : Prop where
  known : system.threads ≠ [] ∨ system.controls.fwlog = yes ∨ Unused system.history ∨
    Settled system.history
  stopped : system.main = .stopped → .joinFailed ∉ system.history →
    system.threads = [] ∧ (Unused system.history ∨ Settled system.history)

theorem owed_initial : Owed .initial where
  known := .inr (.inr (.inl nofun))
  stopped := nofun

theorem Owed.step {system after : LogSystem} (owed : Owed system) (tracked : Tracked system)
    (moves : Moves system after) : Owed after := by
  cases moves with
  | goes keeps history leaves enters cleared joining enabled stopped =>
      constructor
      · rw [keeps.threads, keeps.fwlog, history]
        exact owed.known
      · intro main _
        obtain ⟨created, notYes⟩ := stopped main
        have none := tracked.threads_eq_nil leaves created
        rw [keeps.threads, history]
        exact ⟨none, (owed.known.resolve_left (not_not.mpr none)).resolve_left notYes⟩
  | creates main next threads created enabled history =>
      constructor
      · left
        simp [threads]
      · simp [next]
  | createFails main next threads created fwlog history =>
      constructor
      · rw [threads, fwlog, history]
        exact owed.known.imp_right (Or.imp_right (Or.imp Unused.createFailed Settled.createFailed))
      · simp [next]
  | records main next threads created thread fwlog enabled history =>
      constructor
      · exact .inr (.inl fwlog)
      · simp [next]
  | joins main next threads created fwlog history =>
      constructor
      · exact .inr (.inl (fwlog.trans (tracked.remembered (tracked.joining main))))
      · rcases next with next | ⟨caller, next⟩ <;> simp [next]
  | joinFails main next keeps enabled history =>
      constructor
      · left
        rw [keeps.threads, tracked.threads_of_created (tracked.joining main)]
        exact nofun
      · intro _ allJoined
        simp [history] at allJoined
  | disables main next threads created history =>
      obtain ⟨caller, main⟩ := main
      have settled : Settled after.history := ⟨system.history, [], history, nofun⟩
      constructor
      · exact .inr (.inr (.inr settled))
      · intro _ _
        rw [threads]
        exact ⟨tracked.threads_eq_nil (by simp [main]) (tracked.cleared (main ▸ rfl)), .inr settled⟩
  | works main keeps enabled history =>
      rcases history with same | ⟨exists_worker, called⟩
      · constructor
        · rw [keeps.threads, keeps.fwlog, same]
          exact owed.known
        · rw [main, keeps.threads, same]
          exact owed.stopped
      · constructor
        · exact .inl (keeps.threads ▸ exists_worker)
        · intro stopped allJoined
          rw [called, List.mem_append, not_or] at allJoined
          exact absurd (owed.stopped (main ▸ stopped) allJoined.1).1 exists_worker

theorem tracked_owed {events : List LogEvent} {system : LogSystem}
    (run : Runs logStep .initial events system) : Tracked system ∧ Owed system :=
  run.invariant (I := fun system => Tracked system ∧ Owed system) ⟨tracked_initial, owed_initial⟩
    fun _ _ _ invariant step =>
      ⟨invariant.1.step (logStep_moves step), invariant.2.step invariant.1 (logStep_moves step)⟩

/-! ## The lifecycle -/

theorem Tracked.length_workers {system : LogSystem} (tracked : Tracked system) :
    system.workers.length ≤ 1 := by
  have length : system.threads.length = system.workers.length := List.length_map _
  rw [← length, tracked.threads]
  split_ifs <;> simp

/-- A worker is created, and a disabling request made, only without a worker. -/
theorem Tracked.alone {system after : LogSystem} (tracked : Tracked system)
    (moves : Moves system after) {call : LogCall}
    (exclusive : call = .fwlog 0 ∨ ∃ thread, call = .create thread)
    (called : after.history = system.history ++ [call]) : system.workers = [] := by
  have alone : system.main.isCleared → system.main ≠ .recording → system.workers = [] :=
    fun cleared notRecording => List.map_eq_nil_iff.mp
      (tracked.threads_eq_nil notRecording (tracked.cleared cleared))
  cases moves with
  | goes keeps history => simp [history] at called
  | creates main => exact alone (main ▸ rfl) (by simp [main])
  | createFails main => exact alone (main ▸ rfl) (by simp [main])
  | records main next threads created thread fwlog enabled history => simp [history] at called
  | joins main next threads created fwlog history =>
      simp only [history, List.append_cancel_left_eq, List.cons.injEq, and_true] at called
      subst called
      simp at exclusive
  | joinFails main next keeps enabled history =>
      simp only [history, List.append_cancel_left_eq, List.cons.injEq, and_true] at called
      subst called
      simp at exclusive
  | disables main =>
      obtain ⟨caller, main⟩ := main
      exact alone (main ▸ rfl) (by simp [main])
  | works main keeps enabled history =>
      rcases history with same | ⟨exists_worker, history⟩
      · simp [same] at called
      · rw [tracked.enabled (.inl exists_worker)] at history
        simp only [history, List.append_cancel_left_eq, List.cons.injEq, and_true] at called
        subst called
        simp at exclusive

/-- In every run there is at most one unjoined worker, and none when one is created or
when the main thread makes a disabling request.  When the main thread has stopped and no
join failed, and an enabling request was made, then the last request is a disabling one,
no worker was created or joined after it, and none is left. -/
theorem firmware_log_lifecycle (events : List LogEvent) (system : LogSystem)
    (run : Runs logStep .initial events system) :
    system.workers.length ≤ 1 ∧
    (∀ event after, logStep system event = some after →
      (after.history = system.history ++ [.fwlog 0] → system.workers = []) ∧
      ∀ thread, after.history = system.history ++ [.create thread] → system.workers = []) ∧
    (system.main = .stopped → .joinFailed ∉ system.history →
      ∀ argument ≠ 0, .fwlog argument ∈ system.history →
        system.workers = [] ∧
        ∃ earlier later, system.history = earlier ++ .fwlog 0 :: later ∧
          ∀ call ∈ later, call = .createFailed) := by
  obtain ⟨tracked, owed⟩ := tracked_owed run
  refine ⟨tracked.length_workers, ?_, ?_⟩
  · intro event after step
    have moves := logStep_moves step
    exact ⟨tracked.alone moves (.inl rfl), fun thread => tracked.alone moves (.inr ⟨thread, rfl⟩)⟩
  · intro stopped allJoined argument _ enabled
    obtain ⟨none, unused | settled⟩ := owed.stopped stopped allJoined
    · exact absurd (unused _ enabled) nofun
    · exact ⟨List.map_eq_nil_iff.mp none, settled⟩

/-- A worker starts late and fails, it is reaped and its replacement cannot be created,
and the service stops. -/
def failedWorkerRun : List LogEvent :=
  [.check yes, .main, .main, .main, .create 7 true, .main, .dump [] true, .worker 7, .worker 7,
    .drained 7 false, .worker 7, .check yes, .main, .join true, .main, .main, .create 8 false,
    .dump [] true, .shutdown, .main, .main, .disable true]

theorem firmware_log_lifecycle_failedWorker :
    ∃ system earlier later, Runs logStep .initial failedWorkerRun system ∧
      system.history = earlier ++ .fwlog 0 :: later ∧ ∀ call ∈ later, call = .createFailed := by
  have run : Runs logStep .initial failedWorkerRun _ := runs_get (by decide)
  obtain ⟨-, earlier, later, settled⟩ := (firmware_log_lifecycle _ _ run).2.2 (by decide)
    (by decide) 1 (by decide) (by decide)
  exact ⟨_, earlier, later, run, settled⟩

end K50sv1.WmtLauncher.Launcher
