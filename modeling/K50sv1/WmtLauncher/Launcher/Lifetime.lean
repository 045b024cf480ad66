import K50sv1.WmtLauncher.Launcher.Process

/-!
# Which thread may act when

The threads of the launcher share one descriptor.  Nothing but the phase of the main
thread keeps a worker from using it before it is prepared or after it is closed; here is
what the phases say about the workers.
-/

namespace K50sv1.WmtLauncher.Launcher.Main

open K50sv1.Transition
open K50sv1.WmtLauncher.Launcher.Power

/-! ## Phases -/

namespace Phase

/-- The node is not open yet. -/
def isUnopened : Phase → Bool
  | .waiting | .opening | .abandoned _ => true
  | _ => false

/-- `power.stopping` is stored. -/
def isStopped : Phase → Bool
  | .unbinding | .joining | .disabling | .withdrawing | .closing | .returning | .exited _ => true
  | _ => false

/-- The power worker was joined, if it was created. -/
def isJoined : Phase → Bool
  | .disabling | .withdrawing | .closing | .returning | .exited _ => true
  | _ => false

/-- The firmware log is stopped. -/
def isDisabled : Phase → Bool
  | .withdrawing | .closing | .returning | .exited _ => true
  | _ => false

/-- The main thread is not at the firmware log, and will come to it. -/
def isQuiet (phase : Phase) : Bool :=
  !phase.isControlling && !phase.isDisabling && !phase.isDisabled

end Phase

/-- What a step of the main thread means for the other threads. -/
structure MainEffect (thread : MainThread) (event : MainEvent) (after : MainThread) : Prop where
  opened : after.phase.isUnopened = false →
    thread.phase.isUnopened = false ∨ .openNode (.ok ()) ∈ after.history
  starting : after.phase = .starting → .ready true true ∈ after.history
  powerStarted : after.powerStarted = true →
    thread.powerStarted = true ∨ thread.phase = .starting
  created : event.createsPower ∨ thread.powerStarted = true → after.powerStarted = true
  stays : thread.powerChecked = true → after.powerChecked = true
  powerChecked : after.powerChecked = true →
    thread.powerChecked = true ∨ event = .iterate (some (.ok ()))
  controlling : after.phase.isControlling → after.powerChecked = true
  stopping : after.phase.isStopped → thread.phase.isStopped ∨ event = .stop
  joined : after.phase.isJoined → thread.phase.isJoined ∨ after.powerStarted = false ∨
    event = .joinPower true ∨ .joinPower false ∈ after.history
  quiet : after.phase.isQuiet → thread.phase.isQuiet ∨ ∃ dump, event = .controlled dump
  disabled : after.phase.isDisabled → thread.phase.isDisabled ∨ event = .disabled

section Effect

variable {config : Config} {thread after : MainThread} {event : MainEvent}

theorem startStep_effect (step : startStep thread event = some after) :
    MainEffect thread event after := by
  unfold startStep at step
  split at step
  all_goals first
    | cases step; done
    | obtain rfl := Option.some.inj step
  all_goals
    simp only [MainThread.calls, MainThread.goes, MainThread.opens, MainThread.identifies,
      MainThread.binds, MainThread.succeeds, MainThread.advertises, MainThread.starts,
      MainThread.fails]
    repeat' split
  all_goals constructor
  all_goals
    simp_all [Phase.isUnopened, Phase.isControlling, Phase.isStopped, Phase.isJoined,
      Phase.isQuiet, Phase.isDisabling, Phase.isDisabled, MainEvent.createsPower]

theorem loopStep_checked (step : loopStep config thread event = some after) :
    (after.powerChecked = thread.powerChecked ∧ after.phase.isControlling = false) ∨
      (after.powerChecked = true ∧
        (thread.powerChecked = true ∨ event = .iterate (some (.ok ())))) := by
  cases loopStep_cases step with
  | stops => exact .inl ⟨rfl, rfl⟩
  | @iterates finished _ =>
      match finished with
      | none => exact .inl ⟨rfl, rfl⟩
      | some (.ok ()) =>
          refine .inr ⟨?_, .inr rfl⟩
          unfold MainThread.iterates
          cases thread.powerChecked <;> rfl
      | some (.error errno) =>
          unfold MainThread.iterates
          cases checked : thread.powerChecked with
          | false => exact .inl ⟨checked, rfl⟩
          | true => exact .inr ⟨rfl, .inl rfl⟩
  | @controlled dump _ => cases dump <;> exact .inl ⟨rfl, rfl⟩
  | serves serves _ _ => exact .inl ⟨serves.checked, serves.controlling⟩

theorem loopStep_elsewhere (step : loopStep config thread event = some after) :
    event.createsPower = false ∧
      (thread.phase.isControlling = false ∨ ∃ dump, event = .controlled dump) := by
  cases loopStep_cases step with
  | stops looping | iterates looping => exact ⟨rfl, .inl (looping ▸ rfl)⟩
  | controlled _ => exact ⟨rfl, .inr ⟨_, rfl⟩⟩
  | serves _ _ elsewhere other => exact ⟨other, .inl elsewhere⟩

/-- What the phases of the command loop rule out. -/
theorem Phase.of_part {phase : Phase} (part : phase.part = .loop ∨ phase = .stopping) :
    phase.isUnopened = false ∧ phase ≠ .starting ∧ phase.isStopped = false ∧
      phase.isJoined = false ∧ phase.isDisabling = false ∧ phase.isDisabled = false := by
  cases phase <;>
    simp [Phase.part, isUnopened, isStopped, isJoined, isDisabling, isDisabled] at part ⊢

theorem loopStep_effect (part : thread.phase.part = .loop)
    (step : loopStep config thread event = some after) : MainEffect thread event after := by
  have moves := loopStep_moves step
  have checked := loopStep_checked step
  obtain ⟨other, elsewhere⟩ := loopStep_elsewhere step
  obtain ⟨opened, -, -, -, notDisabling, notDisabled⟩ := Phase.of_part (.inl part)
  obtain ⟨-, notStarting, notStopped, notJoined, -, still⟩ := Phase.of_part moves.phase
  constructor
  case opened => exact fun _ => .inl opened
  case starting => exact fun starting => absurd starting notStarting
  case powerStarted => exact fun started => .inl (moves.keeps.powerStarted ▸ started)
  case created =>
    rw [other, moves.keeps.powerStarted]
    exact fun created => created.elim nofun id
  case stays =>
    intro isChecked
    rcases checked with ⟨same, -⟩ | ⟨now, -⟩
    · exact same.trans isChecked
    · exact now
  case powerChecked =>
    intro isChecked
    rcases checked with ⟨same, -⟩ | ⟨-, reason⟩
    · exact .inl (same ▸ isChecked)
    · exact reason
  case controlling =>
    intro controlling
    rcases checked with ⟨-, notControlling⟩ | ⟨isChecked, -⟩
    · rw [notControlling] at controlling
      cases controlling
    · exact isChecked
  case stopping =>
    rw [notStopped]
    exact nofun
  case joined =>
    rw [notJoined]
    exact nofun
  case quiet =>
    intro _
    refine elsewhere.imp_left fun notControlling => ?_
    rw [Phase.isQuiet, notControlling, notDisabling, notDisabled]
    rfl
  case disabled =>
    rw [still]
    exact nofun

theorem outStep_effect (step : outStep thread event = some after) :
    MainEffect thread event after := by
  unfold outStep at step
  split at step
  all_goals first
    | cases step; done
    | obtain rfl := Option.some.inj step
  all_goals
    simp only [MainThread.calls, MainThread.goes, MainThread.joins]
    repeat' split
  all_goals constructor
  all_goals
    simp_all [Phase.isUnopened, Phase.isControlling, Phase.isStopped, Phase.isJoined,
      Phase.isQuiet, Phase.isDisabling, Phase.isDisabled, MainEvent.createsPower]
  next joined _ => cases joined <;> simp

theorem mainStep_effect (step : mainStep config thread event = some after) :
    MainEffect thread event after := by
  unfold mainStep at step
  split at step
  · exact startStep_effect step
  · next part => exact loopStep_effect part step
  · exact outStep_effect step

end Effect

/-! ## The threads together -/

/-- Nothing was done on the firmware log. -/
structure Untouched (system : LogSystem) : Prop where
  controls : system.controls = LogSystem.initial.controls
  workers : system.workers = []
  history : system.history = []
  main : system.main = .polling ∨ system.main = .shuttingDown ∨ system.main = .stopped

/-- What the main thread knows of the workers. -/
structure Joint (process : Process) : Prop where
  opened : process.main.phase.isUnopened = false → .openNode (.ok ()) ∈ process.main.history
  advertised : process.main.phase = .starting ∨ process.main.powerStarted = true →
    .ready true true ∈ process.main.history
  unstarted : process.main.powerStarted = false → process.power.worker = .absent
  checked : process.main.powerChecked = true → .answered (.ok 0) ∈ process.power.history
  controlling : process.main.phase.isControlling → process.main.powerChecked = true
  stopping : process.main.phase.isStopped → .stop ∈ process.power.history
  joined : process.main.phase.isJoined → process.main.powerStarted = true →
    process.power.worker = .joined ∨ .joinPower false ∈ process.main.history
  untouched : process.main.powerChecked = false → Untouched process.logging
  polling : process.main.phase.isQuiet → process.logging.main = .polling
  stopped : process.main.phase.isDisabled → process.logging.main = .stopped

theorem joint_initial (config : Config) : Joint (.initial config) where
  opened := nofun
  advertised := fun late => late.elim nofun nofun
  unstarted _ := rfl
  checked := nofun
  controlling := nofun
  stopping := nofun
  joined := nofun
  untouched _ := ⟨rfl, rfl, rfl, .inl rfl⟩
  polling _ := rfl
  stopped := nofun

section Power

variable {system after : PowerSystem} {event : PowerEvent}

/-- A worker that does not exist comes into being only by its creation. -/
theorem powerStep_absent (step : powerStep system event = some after)
    (absent : system.worker = .absent) (other : event ≠ .create) : after.worker = .absent := by
  cases event with
  | create => exact absurd rfl other
  | worker =>
      rw [powerStep, Power.workerStep, absent] at step
      cases step
  | answer =>
      rw [powerStep, answerStep, absent] at step
      cases step
  | stop =>
      obtain rfl := Option.some.inj step
      exact absent
  | join =>
      rw [powerStep, absent] at step
      cases step

theorem powerStep_joined (step : powerStep system event = some after)
    (joined : system.worker = .joined ∨ event = .join) : after.worker = .joined := by
  cases event with
  | join =>
      rw [powerStep] at step
      split_ifs at step
      obtain rfl := Option.some.inj step
      rfl
  | create =>
      rw [powerStep, joined.resolve_right (by simp)] at step
      cases step
  | worker =>
      rw [powerStep, Power.workerStep, joined.resolve_right (by simp)] at step
      cases step
  | answer =>
      rw [powerStep, answerStep, joined.resolve_right (by simp)] at step
      cases step
  | stop =>
      obtain rfl := Option.some.inj step
      exact joined.resolve_right (by simp)

theorem powerStep_mem {call : PowerCall} (step : powerStep system event = some after)
    (member : call ∈ system.history) : call ∈ after.history := by
  obtain ⟨made, grown, -⟩ := powerStep_records step
  rw [grown]
  exact List.mem_append_left _ member

/-- What holds of the worker under every event of the main thread but one also holds when
the main thread does something else. -/
theorem powerFollows_cases {follower : Option PowerEvent}
    (follows : powerFollows system follower = some after) :
    after = system ∨ ∃ event, follower = some event ∧ powerStep system event = some after := by
  cases follower with
  | none => exact .inl (Option.some.inj follows).symm
  | some event => exact .inr ⟨event, rfl, follows⟩

end Power

section Log

variable {system after : LogSystem} {event : LogEvent}

/-- The events of the workers. -/
def isLogWorker : LogEvent → Bool
  | .worker _ | .drained _ _ => true
  | _ => false

theorem main_of_isLogWorker (step : logStep system event = some after)
    (worker : isLogWorker event = true) : after.main = system.main := by
  cases event with
  | worker thread =>
      rw [logStep, workerStep] at step
      split at step
      · cases step
      · split at step
        all_goals first
          | cases step; done
          | obtain rfl := Option.some.inj step
            rfl
  | drained thread succeeded =>
      rw [logStep] at step
      split at step
      · obtain rfl := Option.some.inj step
        rfl
      · cases step
  | _ => cases worker

/-- Without a worker, and with nothing to stop, the end of the firmware log does
nothing. -/
theorem Untouched.step (untouched : Untouched system) (step : logStep system event = some after)
    (other : ∀ fwlog, event ≠ .check fwlog) : Untouched after := by
  obtain ⟨controls, main, workers, history⟩ := system
  obtain ⟨rfl, rfl, rfl, phase⟩ := untouched
  dsimp only at phase
  cases event with
  | check fwlog => exact absurd rfl (other fwlog)
  | worker | drained => cases step
  | main =>
      rcases phase with rfl | rfl | rfl
      · cases step
      · obtain rfl := Option.some.inj step
        exact ⟨rfl, rfl, rfl, .inr (.inr rfl)⟩
      · cases step
  | shutdown =>
      rcases phase with rfl | rfl | rfl
      · obtain rfl := Option.some.inj step
        exact ⟨rfl, rfl, rfl, .inr (.inl rfl)⟩
      · cases step
      · cases step
  | create | join | disable | dump => rcases phase with rfl | rfl | rfl <;> cases step

end Log

section Joint

variable {config : Config} {process : Process} {main : MainThread} {power : PowerSystem}
  {logging : LogSystem}

theorem MainEvent.createsPower_of_power? {event : MainEvent}
    (creates : event.power? = some .create) : event.createsPower := by
  unfold MainEvent.power? at creates
  split at creates
  all_goals first | rfl | cases creates

/-- The power worker reported success. -/
theorem success_of_finished? {argument : Nat} (sound : Sound argument process.power)
    (finished : process.finished? = some (.ok ())) :
    .answered (.ok 0) ∈ process.power.history := by
  unfold Process.finished? at finished
  split_ifs at finished with done
  exact (sound.result_of_finished done).mp (Option.some.inj finished)

theorem Joint.moves {event : MainEvent} (joint : Joint process) (threads : Threads config process)
    (agrees : process.agrees event = true) (step : mainStep config process.main event = some main)
    (follows : powerFollows process.power event.power? = some power) :
    Joint (process.advance main power process.logging) := by
  have effect := mainStep_effect step
  obtain ⟨call, grown, -⟩ := mainStep_records step
  have remains : ∀ made ∈ process.main.history, made ∈ main.history := by
    rw [grown]
    exact fun made member => List.mem_append_left _ member
  constructor
  case opened =>
    intro late
    exact (effect.opened late).elim (fun early => remains _ (joint.opened early)) id
  case advertised =>
    rintro (starting | started)
    · exact effect.starting starting
    · exact remains _ (joint.advertised (effect.powerStarted started).symm)
  case unstarted =>
    intro unstarted
    have none : process.main.powerStarted = false ∧ event.createsPower = false := by
      have := mt effect.created (Bool.eq_false_iff.mp unstarted)
      simpa [and_comm] using this
    rcases powerFollows_cases follows with rfl | ⟨powerEvent, acts, moved⟩
    · exact joint.unstarted none.1
    · refine powerStep_absent moved (joint.unstarted none.1) ?_
      rintro rfl
      rw [MainEvent.createsPower_of_power? acts] at none
      cases none.2
  case checked =>
    intro checked
    have success : .answered (.ok 0) ∈ process.power.history := by
      rcases effect.powerChecked checked with already | rfl
      · exact joint.checked already
      · simp only [Process.agrees, Bool.and_eq_true, beq_iff_eq] at agrees
        exact success_of_finished? threads.power agrees.2.symm
    rcases powerFollows_cases follows with rfl | ⟨powerEvent, -, moved⟩
    · exact success
    · exact powerStep_mem moved success
  case controlling => exact effect.controlling
  case stopping =>
    intro stopped
    rcases effect.stopping stopped with already | rfl
    · rcases powerFollows_cases follows with rfl | ⟨powerEvent, -, moved⟩
      · exact joint.stopping already
      · exact powerStep_mem moved (joint.stopping already)
    · obtain rfl := Option.some.inj follows
      exact List.mem_append_right _ (List.mem_singleton_self _)
  case joined =>
    intro joined started
    rcases effect.joined joined with already | unstarted | rfl | failed
    · have wasStarted : process.main.powerStarted = true := by
        refine (effect.powerStarted started).resolve_right fun starting => ?_
        rw [starting] at already
        cases already
      rcases joint.joined already wasStarted with gone | failed
      · rcases powerFollows_cases follows with rfl | ⟨powerEvent, -, moved⟩
        · exact .inl gone
        · exact .inl (powerStep_joined moved (.inl gone))
      · exact .inr (remains _ failed)
    · rw [Process.advance, unstarted] at started
      cases started
    · have joins : powerStep process.power .join = some power := follows
      exact .inl (powerStep_joined joins (.inr rfl))
    · exact .inr failed
  case untouched =>
    intro unchecked
    exact joint.untouched (Bool.eq_false_iff.mpr (mt effect.stays (Bool.eq_false_iff.mp unchecked)))
  case polling =>
    intro quiet
    rcases effect.quiet quiet with already | ⟨dump, rfl⟩
    · exact joint.polling already
    · cases agrees
  case stopped =>
    intro disabled
    rcases effect.disabled disabled with already | rfl
    · exact joint.stopped already
    · exact beq_iff_eq.mp agrees

theorem Joint.works {event : PowerEvent} (joint : Joint process) (own : isPowerWorker event = true)
    (step : powerStep process.power event = some power) :
    Joint (process.advance process.main power process.logging) where
  opened := joint.opened
  advertised := joint.advertised
  unstarted unstarted := by
    refine powerStep_absent step (joint.unstarted unstarted) ?_
    rintro rfl
    cases own
  checked checked := powerStep_mem step (joint.checked checked)
  controlling := joint.controlling
  stopping stopped := powerStep_mem step (joint.stopping stopped)
  joined joined started :=
    (joint.joined joined started).imp_left fun gone => powerStep_joined step (.inl gone)
  untouched := joint.untouched
  polling := joint.polling
  stopped := joint.stopped

theorem phase_of_controlled {thread after : MainThread} {dump : Option (List UInt8)}
    (step : mainStep config thread (.controlled dump) = some after) :
    thread.phase = .controlling := by
  obtain ⟨phase, _⟩ := thread
  cases phase with
  | controlling => rfl
  | _ => cases step

/-- Where the main thread stands when something happens on the firmware log. -/
theorem controls_at {event : LogEvent} (controls : process.controls config event = some main) :
    isLogWorker event = true ∨ process.main.phase.isControlling = true ∨
      process.main.phase.isDisabling = true ∧ ∀ fwlog, event ≠ .check fwlog := by
  unfold Process.controls at controls
  split at controls
  · exact .inl rfl
  · exact .inl rfl
  · split_ifs at controls with controlling
    exact .inr (.inl controlling)
  · split_ifs at controls with disabling
    exact .inr (.inr ⟨disabling, nofun⟩)
  · exact .inr (.inl (phase_of_controlled controls ▸ rfl))
  all_goals
    split_ifs at controls with place
    exact .inr (place.imp_right fun disabling => ⟨disabling, nofun⟩)

/-- The main thread stays where it is. -/
theorem Joint.logs {event : LogEvent} (joint : Joint process)
    (place : isLogWorker event = true ∨ process.main.phase.isControlling = true ∨
      process.main.phase.isDisabling = true ∧ ∀ fwlog, event ≠ .check fwlog)
    (step : logStep process.logging event = some logging) :
    Joint (process.advance process.main process.power logging) := by
  have elsewhere : process.main.phase.isControlling = false →
      process.main.phase.isDisabling = false → logging.main = process.logging.main := by
    intro notControlling notDisabling
    simp only [notControlling, notDisabling, Bool.false_eq_true, false_and, or_false] at place
    exact main_of_isLogWorker step place
  constructor
  case opened => exact joint.opened
  case advertised => exact joint.advertised
  case unstarted => exact joint.unstarted
  case checked => exact joint.checked
  case controlling => exact joint.controlling
  case stopping => exact joint.stopping
  case joined => exact joint.joined
  case untouched =>
    intro unchecked
    refine (joint.untouched unchecked).step step ?_
    rintro fwlog rfl
    rcases place with worker | controlling | ⟨-, other⟩
    · cases worker
    · exact Bool.eq_false_iff.mp unchecked (joint.controlling controlling)
    · exact other fwlog rfl
  case polling =>
    intro quiet
    have place := quiet
    simp only [Phase.isQuiet, Bool.and_eq_true, Bool.not_eq_true', Process.advance] at place
    exact (elsewhere place.1.1 place.1.2).trans (joint.polling quiet)
  case stopped =>
    intro disabled
    have place : process.main.phase.isControlling = false ∧
        process.main.phase.isDisabling = false := by
      revert disabled
      simp only [Process.advance]
      cases process.main.phase <;> simp [Phase.isDisabled, Phase.isControlling, Phase.isDisabling]
    exact (elsewhere place.1 place.2).trans (joint.stopped disabled)

/-- `check_optional_controls` returns. -/
theorem Joint.returns {value : List UInt8} {accepted : Bool} {dump : Option (List UInt8)}
    (joint : Joint process)
    (returned : mainStep config process.main (.controlled dump) = some main)
    (step : logStep process.logging (.dump value accepted) = some logging) :
    Joint (process.advance main process.power logging) := by
  have effect := mainStep_effect returned
  have controlling := phase_of_controlled returned
  obtain ⟨call, grown, -⟩ := mainStep_records returned
  have remains : ∀ made ∈ process.main.history, made ∈ main.history := by
    rw [grown]
    exact fun made member => List.mem_append_left _ member
  have checked := joint.controlling (controlling ▸ rfl)
  obtain ⟨dumping, polling⟩ : process.logging.main = .dumping ∧ logging.main = .polling := by
    rw [logStep] at step
    split at step
    · next dumping =>
      obtain rfl := Option.some.inj step
      exact ⟨dumping, rfl⟩
    · cases step
  constructor
  case opened => exact fun _ => remains _ (joint.opened (controlling ▸ rfl))
  case advertised =>
    rintro (starting | started)
    · exact effect.starting starting
    · exact remains _ (joint.advertised (effect.powerStarted started).symm)
  case unstarted =>
    intro unstarted
    refine joint.unstarted (Bool.eq_false_iff.mpr fun started => ?_)
    exact Bool.eq_false_iff.mp unstarted (effect.created (.inr started))
  case checked => exact fun _ => joint.checked checked
  case controlling => exact effect.controlling
  case stopping =>
    intro stopped
    rcases effect.stopping stopped with already | impossible
    · exact joint.stopping already
    · cases impossible
  case joined =>
    intro joined started
    rcases effect.joined joined with already | unstarted | impossible | failed
    · rw [controlling] at already
      cases already
    · rw [Process.advance, unstarted] at started
      cases started
    · cases impossible
    · exact .inr failed
  case untouched =>
    intro unchecked
    exact absurd (effect.stays checked) (Bool.eq_false_iff.mp unchecked)
  case polling => exact fun _ => polling
  case stopped =>
    intro disabled
    rcases effect.disabled disabled with already | impossible
    · rw [controlling] at already
      cases already
    · cases impossible

theorem Joint.step {event : ProcessEvent} {after : Process} (joint : Joint process)
    (threads : Threads config process)
    (step : processStep config process event = some after) : Joint after := by
  cases (processStep_moves step).2 with
  | signal =>
      exact ⟨joint.opened, joint.advertised, joint.unstarted, joint.checked, joint.controlling,
        joint.stopping, joint.joined, joint.untouched, joint.polling, joint.stopped⟩
  | main agrees moved follows => exact joint.moves threads agrees moved follows
  | power own moved => exact joint.works own moved
  | log controls moved =>
      have place := controls_at controls
      rcases controls_cases controls with rfl | ⟨value, accepted, rfl, returned⟩
      · exact joint.logs place moved
      · exact joint.returns returned moved

theorem Joint.of_reachable
    (reachable : Reachable (processStep config) (.initial config) process) : Joint process := by
  refine (reachable.invariant (I := fun process => Threads config process ∧ Joint process)
    ⟨threads_initial config, joint_initial config⟩ ?_).2
  rintro before event after ⟨threads, joint⟩ step
  exact ⟨threads.step step, joint.step threads step⟩

end Joint

end K50sv1.WmtLauncher.Launcher.Main
