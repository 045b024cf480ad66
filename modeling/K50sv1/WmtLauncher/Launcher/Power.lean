import Mathlib.Tactic.SplitIfs
import K50sv1.Transition.History
import K50sv1.Transition.Run
import K50sv1.WmtLauncher.Core

/-!
# The power worker

`power_on` asks the device for power, at most twenty times, and undoes every attempt that
failed before the next one.  It shares `stopping`, `finished` and `result` with the main
thread; both are interleaved at every access to these fields and at every request, and a
request may take as long as it likes.
-/

namespace K50sv1.WmtLauncher.Launcher.Power

open K50sv1.Transition

/-! ## State -/

/-- `struct power_task`, without the file descriptor. -/
structure PowerTask where
  argument : Nat
  stopping : Bool
  finished : Bool
  result : Except Errno Unit
  deriving DecidableEq, Repr

/-- Where `power_on` stands. -/
inductive Phase where
  /-- The thread does not exist yet. -/
  | absent
  | created
  /-- At the test of the loop. -/
  | testing (attempt : Nat)
  | requesting (attempt : Nat)
  /-- Inside the request. -/
  | powering (attempt : Nat)
  /-- The result is stored; `stopping` is looked at next. -/
  | failed (attempt : Nat)
  | cleaning (attempt : Nat)
  | leaving
  | ended
  | joined
  deriving DecidableEq, Repr

/-- The calls whose order matters. -/
inductive PowerCall where
  /-- `WMT_POWER` is requested. -/
  | request (argument : Nat)
  /-- What a request for power returned. -/
  | answered (answer : Except Errno Nat)
  /-- The main thread stores `stopping`. -/
  | stop
  deriving DecidableEq, Repr

structure PowerSystem where
  task : PowerTask
  worker : Phase
  history : List PowerCall
  deriving DecidableEq, Repr

inductive PowerEvent where
  | create
  /-- The worker goes on, into the request if that is next. -/
  | worker
  | answer (answer : Except Errno Nat)
  | stop
  /-- `pthread_join` returns zero. -/
  | join
  deriving DecidableEq, Repr

namespace PowerSystem

def initial (argument : Nat) : PowerSystem where
  task := { argument, stopping := false, finished := false, result := .ok () }
  worker := .absent
  history := []

def calls (system : PowerSystem) (call : PowerCall) : PowerSystem :=
  { system with history := system.history ++ [call] }

def answers (system : PowerSystem) (result : Except Errno Unit) (worker : Phase) : PowerSystem :=
  { system with task := { system.task with result }, worker }

end PowerSystem

/-! ## Steps -/

/-- The steps of `power_on` apart from the end of a request for power.  What the clean-up
request returns is only logged. -/
def workerStep (system : PowerSystem) : Option PowerSystem :=
  match system.worker with
  | .created => some (system.answers (.error .ecanceled) (.testing 0))
  | .testing attempt =>
      some { system with
        worker := if attempt < 20 ∧ ¬system.task.stopping then .requesting attempt else .leaving }
  | .requesting attempt =>
      some ({ system with worker := .powering attempt }.calls (.request system.task.argument))
  | .failed attempt =>
      some { system with worker := if system.task.stopping then .leaving else .cleaning attempt }
  | .cleaning attempt => some ({ system with worker := .testing (attempt + 1) }.calls (.request 0))
  | .leaving => some { system with task := { system.task with finished := true }, worker := .ended }
  | _ => none

/-- The end of a request for power. -/
def answerStep (system : PowerSystem) (answer : Except Errno Nat) : Option PowerSystem :=
  match system.worker with
  | .powering attempt =>
      some ((match answer with
        | .ok 0 => system.answers (.ok ()) .leaving
        | .ok (_ + 1) => system.answers (.error .eio) (.failed attempt)
        | .error errno => system.answers (.error errno) (.failed attempt)).calls (.answered answer))
  | _ => none

def powerStep : Step PowerEvent PowerSystem
  | system, .create =>
      if system.worker = .absent then some { system with worker := .created } else none
  | system, .worker => workerStep system
  | system, .answer answer => answerStep system answer
  | system, .stop =>
      some ({ system with task := { system.task with stopping := true } }.calls .stop)
  | system, .join =>
      if system.worker = .ended then some { system with worker := .joined } else none

/-! ## The requests -/

def PowerCall.request? : PowerCall → Option Nat
  | .request argument => some argument
  | _ => none

/-- The arguments of the requests, oldest first. -/
def requests (history : List PowerCall) : List Nat :=
  history.filterMap PowerCall.request?

/-- Attempts that were undone. -/
def cleanedUp (argument attempts : Nat) : List Nat :=
  (List.replicate attempts [argument, 0]).flatten

@[simp]
theorem requests_concat (history : List PowerCall) (call : PowerCall) :
    requests (history ++ [call]) = requests history ++ call.request?.toList := by
  rw [requests, List.filterMap_append]
  cases call <;> rfl

theorem requests_quiet (history : List PowerCall) {call : PowerCall}
    (quiet : call.request? = none) : requests (history ++ [call]) = requests history := by
  rw [requests_concat, quiet, Option.toList_none, List.append_nil]

theorem cleanedUp_succ (argument attempts : Nat) :
    cleanedUp argument (attempts + 1) = cleanedUp argument attempts ++ [argument] ++ [0] := by
  simp [cleanedUp, List.replicate_succ']

/-- What a worker may have requested: attempts that were undone, and then possibly one
that was not. -/
def Attempts (argument : Nat) (requested : List Nat) : Prop :=
  ∃ undone,
    (undone ≤ 20 ∧ requested = cleanedUp argument undone) ∨
      (undone < 20 ∧ requested = cleanedUp argument undone ++ [argument])

/-- What has been requested when the worker stands at `phase`. -/
def Issued (argument : Nat) (requested : List Nat) : Phase → Prop
  | .absent | .created => requested = []
  | .testing attempt => attempt ≤ 20 ∧ requested = cleanedUp argument attempt
  | .requesting attempt => attempt < 20 ∧ requested = cleanedUp argument attempt
  | .powering attempt | .failed attempt | .cleaning attempt =>
      attempt < 20 ∧ requested = cleanedUp argument attempt ++ [argument]
  | .leaving | .ended | .joined => Attempts argument requested

theorem Issued.attempts {argument : Nat} {requested : List Nat} {phase : Phase}
    (issued : Issued argument requested phase) : Attempts argument requested := by
  cases phase with
  | absent | created => exact ⟨0, .inl ⟨Nat.zero_le 20, issued⟩⟩
  | testing attempt => exact ⟨attempt, .inl issued⟩
  | requesting attempt => exact ⟨attempt, .inl ⟨Nat.le_of_lt issued.1, issued.2⟩⟩
  | powering attempt | failed attempt | cleaning attempt => exact ⟨attempt, .inr issued⟩
  | leaving | ended | joined => exact issued

/-! ## Invariants -/

namespace Phase

/-- The worker has left its loop. -/
def isOver : Phase → Bool
  | .leaving | .ended | .joined => true
  | _ => false

/-- The worker has returned. -/
def isEnded : Phase → Bool
  | .ended | .joined => true
  | _ => false

/-- The worker is inside its loop. -/
def isRunning : Phase → Bool
  | .testing _ | .requesting _ | .powering _ | .failed _ | .cleaning _ => true
  | _ => false

/-- The worker found `stopping` clear and has not made the request that follows. -/
def isCommitted : Phase → Bool
  | .requesting _ | .cleaning _ => true
  | _ => false

theorem isOver_of_isRunning {phase : Phase} (running : phase.isRunning) : phase.isOver = false := by
  cases phase <;> first | rfl | cases running

theorem isEnded_of_isRunning {phase : Phase} (running : phase.isRunning) :
    phase.isEnded = false := by
  cases phase <;> first | rfl | cases running

theorem isRunning_of_isCommitted {phase : Phase} (committed : phase.isCommitted) :
    phase.isRunning := by
  cases phase <;> first | rfl | cases committed

end Phase

/-- No request follows a successful one. -/
def SuccessIsLast : List PowerCall → Prop :=
  AfterEach fun call later => call = .answered (.ok 0) → requests later = []

/-- At most `bound` requests follow the store of `stopping`. -/
def StopsWithin (bound : Nat) : List PowerCall → Prop :=
  AfterEach fun call later => call = .stop → (requests later).length ≤ bound

structure Sound (argument : Nat) (system : PowerSystem) : Prop where
  argument_eq : system.task.argument = argument
  issued : Issued argument (requests system.history) system.worker
  stopping : .stop ∈ system.history ↔ system.task.stopping = true
  stops : StopsWithin (if system.worker.isCommitted then 0 else 1) system.history
  success : SuccessIsLast system.history
  unsuccessful : system.worker.isOver = false → .answered (.ok 0) ∉ system.history
  failing : system.worker.isRunning → system.task.result ≠ .ok ()
  result : system.worker.isOver →
    (system.task.result = .ok () ↔ .answered (.ok 0) ∈ system.history)
  finished : system.task.finished = true → system.worker.isEnded

theorem sound_initial (argument : Nat) : Sound argument (.initial argument) where
  argument_eq := rfl
  issued := rfl
  stopping := by simp [PowerSystem.initial]
  stops := afterEach_nil
  success := afterEach_nil
  unsuccessful _ := List.not_mem_nil
  failing := nofun
  result := nofun
  finished := nofun

section Histories

variable {bound : Nat} {history : List PowerCall} {call : PowerCall}

theorem StopsWithin.of_running (running : .stop ∉ history) : StopsWithin bound history := by
  rintro front call back rfl rfl
  simp at running

theorem StopsWithin.quiet (within : StopsWithin bound history) (quiet : call.request? = none) :
    StopsWithin bound (history ++ [call]) := by
  refine AfterEach.concat within (fun _ => Nat.zero_le bound) ?_
  intro other _ back few stop
  rw [requests_quiet back quiet]
  exact few stop

theorem StopsWithin.request {argument : Nat} (within : StopsWithin 0 history) :
    StopsWithin 1 (history ++ [.request argument]) := by
  refine AfterEach.concat within nofun ?_
  intro other _ back few stop
  simpa [PowerCall.request?] using few stop

theorem SuccessIsLast.quiet (success : SuccessIsLast history) (quiet : call.request? = none) :
    SuccessIsLast (history ++ [call]) := by
  refine AfterEach.concat success (fun _ => rfl) ?_
  intro other _ back none succeeded
  rw [requests_quiet back quiet]
  exact none succeeded

theorem SuccessIsLast.request {argument : Nat} (success : SuccessIsLast history)
    (unsuccessful : .answered (.ok 0) ∉ history) :
    SuccessIsLast (history ++ [.request argument]) := by
  refine AfterEach.concat success nofun ?_
  rintro other member back none rfl
  exact absurd member unsuccessful

theorem SuccessIsLast.not_mem {argument : Nat}
    (success : SuccessIsLast (history ++ [.request argument])) :
    .answered (.ok 0) ∉ history := by
  intro member
  obtain ⟨front, back, rfl⟩ := List.append_of_mem member
  have later := success front _ (back ++ [.request argument]) (by simp) rfl
  simp [PowerCall.request?] at later

end Histories

section Steps

variable {argument : Nat} {system after : PowerSystem} {task : PowerTask} {worker next : Phase}
  {history : List PowerCall}

theorem Sound.unfinished (sound : Sound argument system) (running : system.worker.isRunning) :
    ¬system.task.finished = true := by
  intro isFinished
  have ended := sound.finished isFinished
  rw [Phase.isEnded_of_isRunning running] at ended
  cases ended

/-- The worker leaves its loop without success. -/
theorem Sound.leaves (sound : Sound argument ⟨task, worker, history⟩)
    (running : worker.isRunning) (tested : worker.isCommitted = false) :
    Sound argument ⟨task, .leaving, history⟩ where
  argument_eq := sound.argument_eq
  issued := sound.issued.attempts
  stopping := sound.stopping
  stops := by
    have stops := sound.stops
    rwa [tested] at stops
  success := sound.success
  unsuccessful := nofun
  failing := nofun
  result _ := iff_of_false (sound.failing running)
    (sound.unsuccessful (Phase.isOver_of_isRunning running))
  finished isFinished := absurd isFinished (sound.unfinished running)

/-- The worker finds `stopping` clear and goes on to a request. -/
theorem Sound.commits (sound : Sound argument ⟨task, worker, history⟩) (running : worker.isRunning)
    (clear : ¬task.stopping = true) (committed : next.isCommitted)
    (issued : Issued argument (requests history) next) :
    Sound argument ⟨task, next, history⟩ where
  argument_eq := sound.argument_eq
  issued := issued
  stopping := sound.stopping
  stops := .of_running fun member => clear (sound.stopping.mp member)
  success := sound.success
  unsuccessful _ := sound.unsuccessful (Phase.isOver_of_isRunning running)
  failing _ := sound.failing running
  result finished := by
    rw [Phase.isOver_of_isRunning (Phase.isRunning_of_isCommitted committed)] at finished
    cases finished
  finished isFinished := absurd isFinished (sound.unfinished running)

/-- The worker makes a request. -/
theorem Sound.makes {requested : Nat} (sound : Sound argument ⟨task, worker, history⟩)
    (committed : worker.isCommitted) (running : next.isRunning) (tested : next.isCommitted = false)
    (issued : Issued argument (requests history ++ [requested]) next) :
    Sound argument ⟨task, next, history ++ [.request requested]⟩ := by
  have wasRunning := Phase.isRunning_of_isCommitted committed
  have unsuccessful := sound.unsuccessful (Phase.isOver_of_isRunning wasRunning)
  have none_yet := sound.stops
  rw [if_pos committed] at none_yet
  constructor
  case argument_eq => exact sound.argument_eq
  case issued => exact (requests_concat history _).symm ▸ issued
  case stopping => simpa using sound.stopping
  case stops =>
    rw [tested]
    exact none_yet.request
  case success => exact sound.success.request unsuccessful
  case unsuccessful => simpa using fun _ => unsuccessful
  case failing => exact fun _ => sound.failing wasRunning
  case result =>
    rw [Phase.isOver_of_isRunning running]
    exact nofun
  case finished => exact fun isFinished => absurd isFinished (sound.unfinished wasRunning)

theorem Sound.workerStep (sound : Sound argument system) (step : workerStep system = some after) :
    Sound argument after := by
  obtain ⟨task, worker, history⟩ := system
  have issued := sound.issued
  cases worker with
  | absent | powering | ended | joined => cases step
  | created =>
      obtain rfl := Option.some.inj step
      exact ⟨sound.argument_eq, ⟨Nat.zero_le 20, issued⟩, sound.stopping, sound.stops,
        sound.success, sound.unsuccessful, fun _ => nofun, nofun, sound.finished⟩
  | testing attempt =>
      obtain rfl := Option.some.inj step
      dsimp only
      split_ifs with again
      · exact sound.commits rfl again.2 rfl ⟨again.1, issued.2⟩
      · exact sound.leaves rfl rfl
  | requesting attempt =>
      obtain rfl := Option.some.inj step
      exact sound.makes rfl rfl rfl ⟨issued.1, by rw [issued.2, sound.argument_eq]⟩
  | failed attempt =>
      obtain rfl := Option.some.inj step
      dsimp only
      split_ifs with stop
      · exact sound.leaves rfl rfl
      · exact sound.commits rfl stop rfl issued
  | cleaning attempt =>
      obtain rfl := Option.some.inj step
      exact sound.makes rfl rfl rfl ⟨issued.1, by rw [issued.2, cleanedUp_succ]⟩
  | leaving =>
      obtain rfl := Option.some.inj step
      exact ⟨sound.argument_eq, issued, sound.stopping, sound.stops, sound.success, nofun, nofun,
        fun _ => sound.result rfl, fun _ => rfl⟩

/-- The end of a request for power, before its result is looked at. -/
theorem Sound.answered {answer : Except Errno Nat} {result : Except Errno Unit} {attempt : Nat}
    (sound : Sound argument ⟨task, .powering attempt, history⟩)
    (next_eq : next = if answer = .ok 0 then .leaving else .failed attempt)
    (result_eq : result = .ok () ↔ answer = .ok 0) :
    Sound argument ⟨{ task with result }, next, history ++ [.answered answer]⟩ := by
  have unsuccessful := sound.unsuccessful rfl
  have issued : Issued argument (requests (history ++ [.answered answer])) next := by
    rw [requests_quiet history rfl, next_eq]
    split_ifs
    · exact sound.issued.attempts
    · exact sound.issued
  have uncommitted : next.isCommitted = false := by
    rw [next_eq]
    split_ifs <;> rfl
  have outcome : next.isOver = true ↔ answer = .ok 0 := by
    rw [next_eq]
    split_ifs with success
    · exact iff_of_true rfl success
    · exact iff_of_false nofun success
  constructor
  case argument_eq => exact sound.argument_eq
  case issued => exact issued
  case stopping => simpa using sound.stopping
  case stops =>
    rw [uncommitted]
    exact sound.stops.quiet rfl
  case success => exact sound.success.quiet rfl
  case unsuccessful =>
    intro running
    have failed : answer ≠ .ok 0 := fun success => by simp [outcome.mpr success] at running
    simpa [failed.symm] using unsuccessful
  case failing =>
    intro running
    rw [ne_eq, result_eq, ← outcome, Phase.isOver_of_isRunning running]
    exact nofun
  case result =>
    intro finished
    have success := outcome.mp finished
    exact iff_of_true (result_eq.mpr success) (by simp [success])
  case finished => exact fun isFinished => absurd isFinished (sound.unfinished rfl)

theorem Sound.answerStep {answer : Except Errno Nat} (sound : Sound argument system)
    (step : answerStep system answer = some after) : Sound argument after := by
  obtain ⟨task, worker, history⟩ := system
  cases worker with
  | powering attempt =>
      obtain rfl := Option.some.inj step
      match answer with
      | .ok 0 => exact sound.answered rfl (iff_of_true rfl rfl)
      | .ok (_ + 1) => exact sound.answered rfl (iff_of_false nofun nofun)
      | .error errno => exact sound.answered rfl (iff_of_false nofun nofun)
  | _ => cases step

theorem Sound.step {event : PowerEvent} (sound : Sound argument system)
    (step : powerStep system event = some after) : Sound argument after := by
  obtain ⟨task, worker, history⟩ := system
  cases event with
  | worker => exact sound.workerStep step
  | answer answer => exact sound.answerStep step
  | create =>
      rw [powerStep] at step
      split_ifs at step with absent
      obtain rfl := Option.some.inj step
      obtain rfl : worker = .absent := absent
      exact ⟨sound.argument_eq, sound.issued, sound.stopping, sound.stops, sound.success,
        sound.unsuccessful, nofun, nofun, sound.finished⟩
  | stop =>
      obtain rfl := Option.some.inj step
      have same : requests (history ++ [.stop]) = requests history := requests_quiet history rfl
      exact ⟨sound.argument_eq, same.symm ▸ sound.issued,
        iff_of_true (by simp [PowerSystem.calls]) rfl, sound.stops.quiet rfl,
        sound.success.quiet rfl, by simpa [PowerSystem.calls] using sound.unsuccessful,
        sound.failing, by simpa [PowerSystem.calls] using sound.result, sound.finished⟩
  | join =>
      rw [powerStep] at step
      split_ifs at step with ended
      obtain rfl := Option.some.inj step
      obtain rfl : worker = .ended := ended
      exact ⟨sound.argument_eq, sound.issued, sound.stopping, sound.stops, sound.success,
        nofun, nofun, fun _ => sound.result rfl, fun _ => rfl⟩

theorem Sound.stopsWithin (sound : Sound argument system) : StopsWithin 1 system.history := by
  intro front call back split stop
  refine Nat.le_trans (sound.stops front call back split stop) ?_
  split_ifs
  · exact Nat.zero_le 1
  · exact Nat.le_refl 1

theorem Sound.result_of_finished (sound : Sound argument system)
    (finished : system.task.finished = true) :
    system.task.result = .ok () ↔ .answered (.ok 0) ∈ system.history := by
  apply sound.result
  have ended := sound.finished finished
  revert ended
  cases system.worker <;> simp [Phase.isEnded, Phase.isOver]

end Steps

end K50sv1.WmtLauncher.Launcher.Power
