import K50sv1.WmtLauncher.Launcher.Exchange
import K50sv1.WmtLauncher.Launcher.Power
import K50sv1.WmtLauncher.Launcher.Readiness

/-!
# The launcher as one process

The main thread, the power worker and the firmware log worker move in any order, and a
signal may request a stop at any time.  What the main thread reads is what the others have
stored, and the workers can move until `main` has returned.

All calls stand in one history, in the order in which they were made.
-/

namespace K50sv1.WmtLauncher.Launcher.Main

open K50sv1.Transition
open K50sv1.WmtLauncher.Launcher.Power

/-! ## State -/

/-- A call of one of the threads.  The calls of `check_optional_controls` and of
`stop_firmware_log` on the firmware log stand with those of its worker. -/
inductive Call where
  | main (call : MainCall)
  | power (call : PowerCall)
  | log (call : LogCall)
  deriving DecidableEq

namespace Call

def main? : Call → Option MainCall
  | .main call => some call
  | _ => none

def power? : Call → Option PowerCall
  | .power call => some call
  | _ => none

def log? : Call → Option LogCall
  | .log call => some call
  | _ => none

end Call

def mainCalls (history : List Call) : List MainCall :=
  history.filterMap Call.main?

def powerCalls (history : List Call) : List PowerCall :=
  history.filterMap Call.power?

def logCalls (history : List Call) : List LogCall :=
  history.filterMap Call.log?

structure Process where
  main : MainThread
  /-- `stop_requested`. -/
  stopRequested : Bool
  power : PowerSystem
  logging : LogSystem
  history : List Call

inductive ProcessEvent where
  /-- `SIGTERM` or `SIGINT` is handled. -/
  | signal
  | main (event : MainEvent)
  | power (event : PowerEvent)
  | log (event : LogEvent)

/-- `main` has returned, and the workers are gone with the process. -/
def Phase.isOver : Phase → Bool
  | .exited _ | .abandoned _ => true
  | _ => false

/-- `main` is at the end of the firmware log. -/
def Phase.isDisabling : Phase → Bool
  | .disabling => true
  | _ => false

namespace Process

def initial (config : Config) : Process where
  main := .initial
  stopRequested := false
  power := .initial config.argument
  logging := .initial
  history := []

/-- The threads have moved on, and what they called is added to the history. -/
def advance (process : Process) (main : MainThread) (power : PowerSystem) (logging : LogSystem) :
    Process :=
  { process with
    main
    power
    logging
    history := process.history ++
      ((main.history.drop process.main.history.length).map .main ++
        (power.history.drop process.power.history.length).map .power ++
        (logging.history.drop process.logging.history.length).map .log) }

/-- The result of the power worker, once it has finished. -/
def finished? (process : Process) : Option (Except Errno Unit) :=
  if process.power.task.finished then some process.power.task.result else none

/-- The main thread reads what is there. -/
def agrees (process : Process) : MainEvent → Bool
  | .driverReady _ | .chipId _ => !process.stopRequested
  | .giveUp | .interrupted | .stopSeen => process.stopRequested
  | .openNode _ seen | .write _ seen | .exit seen => seen == process.stopRequested
  | .iterate finished => !process.stopRequested && finished == process.finished?
  -- `check_optional_controls` returns with its last access to the dump property
  | .controlled _ => false
  | .disabled => process.logging.main == .stopped
  | _ => true

end Process

/-- What a step of the main thread does to the power worker. -/
def MainEvent.power? : MainEvent → Option PowerEvent
  | .createPower (.ok ()) => some .create
  | .stop => some .stop
  | .joinPower true => some .join
  | _ => none

def powerFollows (power : PowerSystem) : Option PowerEvent → Option PowerSystem
  | none => some power
  | some event => powerStep power event

/-- The steps of the power worker that are its own. -/
def isPowerWorker : PowerEvent → Bool
  | .worker | .answer _ => true
  | _ => false

/-- What a step on the firmware log does to the main thread; the workers move at any time,
the main thread at its place. -/
def Process.controls (config : Config) (process : Process) : LogEvent → Option MainThread
  | .worker _ | .drained _ _ => some process.main
  | .check _ => if process.main.phase.isControlling then some process.main else none
  | .shutdown => if process.main.phase.isDisabling then some process.main else none
  | .dump value _ =>
      mainStep config process.main
        (.controlled (if value ≠ process.logging.controls.dump then some value else none))
  | .main | .create _ _ | .join _ | .disable _ =>
      if process.main.phase.isControlling ∨ process.main.phase.isDisabling then some process.main
      else none

def processStep (config : Config) (process : Process) (event : ProcessEvent) : Option Process :=
  if process.main.phase.isOver then
    none
  else
    match event with
    | .signal => some { process with stopRequested := true }
    | .main event =>
        if process.agrees event then
          (mainStep config process.main event).bind fun main =>
            (powerFollows process.power event.power?).map fun power =>
              process.advance main power process.logging
        else
          none
    | .power event =>
        if isPowerWorker event then
          (powerStep process.power event).map fun power =>
            process.advance process.main power process.logging
        else
          none
    | .log event =>
        (process.controls config event).bind fun main =>
          (logStep process.logging event).map fun logging =>
            process.advance main process.power logging

/-! ## What a step can do -/

inductive ProcessMoves (config : Config) (process : Process) : Process → Prop
  | signal : ProcessMoves config process { process with stopRequested := true }
  | main {event : MainEvent} {main : MainThread} {power : PowerSystem}
      (agrees : process.agrees event = true)
      (step : mainStep config process.main event = some main)
      (follows : powerFollows process.power event.power? = some power) :
      ProcessMoves config process (process.advance main power process.logging)
  | power {event : PowerEvent} {power : PowerSystem} (own : isPowerWorker event = true)
      (step : powerStep process.power event = some power) :
      ProcessMoves config process (process.advance process.main power process.logging)
  | log {event : LogEvent} {main : MainThread} {logging : LogSystem}
      (controls : process.controls config event = some main)
      (step : logStep process.logging event = some logging) :
      ProcessMoves config process (process.advance main process.power logging)

section Moves

variable {config : Config} {process after : Process}

theorem processStep_moves {event : ProcessEvent}
    (step : processStep config process event = some after) :
    process.main.phase.isOver = false ∧ ProcessMoves config process after := by
  unfold processStep at step
  split_ifs at step with ended
  refine ⟨Bool.eq_false_iff.mpr ended, ?_⟩
  cases event with
  | signal =>
      obtain rfl := Option.some.inj step
      exact .signal
  | main event =>
      dsimp only at step
      split_ifs at step with agrees
      obtain ⟨main, moved, step⟩ := Option.bind_eq_some_iff.mp step
      obtain ⟨power, follows, rfl⟩ := Option.map_eq_some_iff.mp step
      exact .main agrees moved follows
  | power event =>
      dsimp only at step
      split_ifs at step with own
      obtain ⟨power, moved, rfl⟩ := Option.map_eq_some_iff.mp step
      exact .power own moved
  | log event =>
      obtain ⟨main, controls, step⟩ := Option.bind_eq_some_iff.mp step
      obtain ⟨logging, moved, rfl⟩ := Option.map_eq_some_iff.mp step
      exact .log controls moved

/-- The main thread moves with the firmware log only at the end of
`check_optional_controls`. -/
theorem controls_cases {event : LogEvent} {main : MainThread}
    (controls : process.controls config event = some main) :
    main = process.main ∨
      ∃ value accepted, event = .dump value accepted ∧
        mainStep config process.main (.controlled
          (if value ≠ process.logging.controls.dump then some value else none)) = some main := by
  cases event with
  | dump value accepted => exact .inr ⟨value, accepted, rfl, controls⟩
  | worker | drained => exact .inl (Option.some.inj controls).symm
  | check | shutdown | main | create | join | disable =>
      rw [Process.controls] at controls
      split_ifs at controls
      exact .inl (Option.some.inj controls).symm

end Moves

/-! ## Histories grow -/

/-- The worker has something left to do. -/
def isBusy : Power.Phase → Bool
  | .absent | .ended | .joined => false
  | _ => true

theorem powerStep_records {system after : PowerSystem} {event : PowerEvent}
    (step : powerStep system event = some after) :
    ∃ call : Option PowerCall, after.history = system.history ++ call.toList ∧
      ∀ made ∈ call, event = .stop ∧ made = .stop ∨
        isPowerWorker event = true ∧ isBusy system.worker = true := by
  have quiet : ∀ {event : PowerEvent} {after : PowerSystem}, after.history = system.history →
      ∃ call : Option PowerCall, after.history = system.history ++ call.toList ∧
        ∀ made ∈ call, event = .stop ∧ made = .stop ∨
          isPowerWorker event = true ∧ isBusy system.worker = true :=
    fun same => ⟨none, by simp [same], nofun⟩
  cases event with
  | worker =>
      rw [powerStep, Power.workerStep] at step
      split at step
      all_goals first
        | cases step; done
        | obtain rfl := Option.some.inj step
      all_goals first
        | exact quiet rfl
        | next phase =>
          refine ⟨some (.request _), rfl, ?_⟩
          rintro made ⟨⟩
          exact .inr ⟨rfl, phase ▸ rfl⟩
  | answer answer =>
      rw [powerStep, answerStep] at step
      split at step
      · next phase =>
        obtain rfl := Option.some.inj step
        refine ⟨some (.answered answer), ?_, fun made _ => .inr ⟨rfl, phase ▸ rfl⟩⟩
        rcases answer with errno | status | status <;> rfl
      · cases step
  | stop =>
      obtain rfl := Option.some.inj step
      refine ⟨some .stop, rfl, ?_⟩
      rintro made ⟨⟩
      exact .inl ⟨rfl, rfl⟩
  | create | join =>
      rw [powerStep] at step
      split_ifs at step
      obtain rfl := Option.some.inj step
      exact quiet rfl

theorem logStep_records {system after : LogSystem} {event : LogEvent}
    (step : logStep system event = some after) :
    ∃ call : Option LogCall, after.history = system.history ++ call.toList ∧
      ∀ _made ∈ call, system.main ≠ .stopped ∨ system.threads ≠ [] := by
  cases logStep_moves step with
  | goes _ history | records _ _ _ _ _ _ _ history => exact ⟨none, by simp [history], nofun⟩
  | creates main _ _ _ _ history | createFails main _ _ _ _ history =>
      exact ⟨some _, history, fun _ _ => .inl (by simp [main])⟩
  | joins main _ _ _ _ history | joinFails main _ _ _ history =>
      refine ⟨some _, history, fun _ _ => .inl fun stopped => ?_⟩
      rw [stopped] at main
      cases main
  | disables main _ _ _ history =>
      obtain ⟨caller, main⟩ := main
      exact ⟨some _, history, fun _ _ => .inl (by simp [main])⟩
  | works _ _ _ history =>
      rcases history with same | ⟨busy, grown⟩
      · exact ⟨none, by simp [same], nofun⟩
      · exact ⟨some _, grown, fun _ _ => .inr busy⟩

/-- What the call of a thread says about where the thread stands. -/
def Process.Makes (process : Process) : Call → Prop
  | .main call => process.main.phase.makes call = true
  | .power call => call = .stop ∨ isBusy process.power.worker = true
  | .log _ => process.logging.main ≠ .stopped ∨ process.logging.threads ≠ []

/-- One call at most is made in a step, by one thread. -/
structure Process.Records (process after : Process) (call : Option Call) : Prop where
  history : after.history = process.history ++ call.toList
  main : after.main.history = process.main.history ++ (call.bind Call.main?).toList
  power : after.power.history = process.power.history ++ (call.bind Call.power?).toList
  log : after.logging.history = process.logging.history ++ (call.bind Call.log?).toList
  makes : ∀ made ∈ call, process.Makes made

section Records

variable {config : Config} {process after : Process} {main : MainThread} {power : PowerSystem}
  {logging : LogSystem}

theorem Process.records_main (call : Option MainCall)
    (mainGrows : main.history = process.main.history ++ call.toList)
    (powerSame : power.history = process.power.history)
    (logSame : logging.history = process.logging.history)
    (makes : ∀ made ∈ call, process.main.phase.makes made = true) :
    process.Records (process.advance main power logging) (call.map .main) := by
  cases call with
  | none =>
      refine ⟨?_, mainGrows, ?_, ?_, nofun⟩ <;>
        simp [Process.advance, mainGrows, powerSame, logSame]
  | some call =>
      refine ⟨?_, mainGrows, ?_, ?_, ?_⟩
      · simp [Process.advance, mainGrows, powerSame, logSame]
      · simpa [Call.power?, Process.advance] using powerSame
      · simpa [Call.log?, Process.advance] using logSame
      · rintro made ⟨⟩
        exact makes call rfl

theorem Process.records_power (call : Option PowerCall)
    (mainSame : main.history = process.main.history)
    (powerGrows : power.history = process.power.history ++ call.toList)
    (makes : ∀ made ∈ call, made = .stop ∨ isBusy process.power.worker = true) :
    process.Records (process.advance main power process.logging) (call.map .power) := by
  cases call with
  | none =>
      refine ⟨?_, ?_, powerGrows, ?_, nofun⟩ <;>
        simp [Process.advance, mainSame, powerGrows]
  | some call =>
      refine ⟨?_, ?_, powerGrows, ?_, ?_⟩
      · simp [Process.advance, mainSame, powerGrows]
      · simpa [Call.main?, Process.advance] using mainSame
      · simp [Call.log?, Process.advance]
      · rintro made ⟨⟩
        exact makes call rfl

theorem Process.records_log (call : Option LogCall)
    (logGrows : logging.history = process.logging.history ++ call.toList)
    (makes : ∀ _made ∈ call, process.logging.main ≠ .stopped ∨ process.logging.threads ≠ []) :
    process.Records (process.advance process.main process.power logging) (call.map .log) := by
  cases call with
  | none =>
      refine ⟨?_, ?_, ?_, logGrows, nofun⟩ <;> simp [Process.advance, logGrows]
  | some call =>
      refine ⟨?_, ?_, ?_, logGrows, ?_⟩
      · simp [Process.advance, logGrows]
      · simp [Call.main?, Process.advance]
      · simp [Call.power?, Process.advance]
      · rintro made ⟨⟩
        exact makes call rfl

theorem MainEvent.eq_stop {event : MainEvent} (stops : event.power? = some .stop) :
    event = .stop := by
  unfold MainEvent.power? at stops
  split at stops
  all_goals first | rfl | cases stops

theorem MainEvent.isPowerWorker_power? {event : MainEvent} {powerEvent : PowerEvent}
    (acts : event.power? = some powerEvent) : isPowerWorker powerEvent = false := by
  unfold MainEvent.power? at acts
  split at acts
  all_goals first | cases acts; rfl | cases acts

theorem history_dump {system after : LogSystem} {value : List UInt8} {accepted : Bool}
    (step : logStep system (.dump value accepted) = some after) :
    after.history = system.history := by
  rw [logStep] at step
  split at step
  · obtain rfl := Option.some.inj step
    rfl
  · cases step

theorem history_stop {thread after : MainThread}
    (step : mainStep config thread .stop = some after) : after.history = thread.history := by
  obtain ⟨phase, _⟩ := thread
  cases phase with
  | stopping =>
      obtain rfl := Option.some.inj step
      rfl
  | _ => cases step

theorem processStep_records {event : ProcessEvent}
    (step : processStep config process event = some after) :
    ∃ call, process.Records after call := by
  cases (processStep_moves step).2 with
  | signal => exact ⟨none, by simp, by simp, by simp, by simp, nofun⟩
  | @main event main power agrees moved follows =>
      obtain ⟨call, history, makes⟩ := mainStep_records moved
      cases acts : event.power? with
      | none =>
          rw [acts] at follows
          obtain rfl := Option.some.inj follows
          exact ⟨_, Process.records_main call history rfl rfl makes⟩
      | some powerEvent =>
          rw [acts] at follows
          obtain ⟨made, grown, stops⟩ := powerStep_records follows
          cases made with
          | none => exact ⟨_, Process.records_main call history (by simpa using grown) rfl makes⟩
          | some made =>
              -- only the store of `stopping` is recorded with the power worker
              rcases stops made rfl with ⟨rfl, stop⟩ | ⟨own, -⟩
              · have isStop : event = .stop := MainEvent.eq_stop acts
                subst isStop
                refine ⟨_, Process.records_power (some made) (history_stop moved) grown ?_⟩
                rintro _ ⟨⟩
                exact .inl stop
              · rw [MainEvent.isPowerWorker_power? acts] at own
                cases own
  | power own moved =>
      obtain ⟨call, grown, makes⟩ := powerStep_records moved
      refine ⟨_, Process.records_power call rfl grown fun made member => ?_⟩
      exact (makes made member).imp And.right And.right
  | log controls moved =>
      obtain ⟨call, grown, makes⟩ := logStep_records moved
      rcases controls_cases controls with rfl | ⟨value, accepted, rfl, returned⟩
      · exact ⟨_, Process.records_log call grown makes⟩
      · obtain ⟨made, history, makes⟩ := mainStep_records returned
        exact ⟨_, Process.records_main made history rfl (history_dump moved) makes⟩

end Records

/-! ## One history -/

/-- The history shows the calls of each thread. -/
structure Linked (process : Process) : Prop where
  main : mainCalls process.history = process.main.history
  power : powerCalls process.history = process.power.history
  log : logCalls process.history = process.logging.history

section Linked

variable {config : Config} {process after : Process} {main : MainThread} {power : PowerSystem}
  {logging : LogSystem}

theorem Linked.records {call : Option Call} (linked : Linked process)
    (records : process.Records after call) : Linked after := by
  have filtered : ∀ {α : Type} (of : Call → Option α),
      call.toList.filterMap of = (call.bind of).toList := by
    intro α of
    cases call with
    | none => rfl
    | some call => cases made : of call <;> simp [made]
  constructor
  · rw [mainCalls, records.history, List.filterMap_append, filtered, records.main, ← linked.main,
      mainCalls]
  · rw [powerCalls, records.history, List.filterMap_append, filtered, records.power,
      ← linked.power, powerCalls]
  · rw [logCalls, records.history, List.filterMap_append, filtered, records.log, ← linked.log,
      logCalls]

/-- What holds of each thread on its own. -/
structure Threads (config : Config) (process : Process) : Prop where
  linked : Linked process
  started : Started process.main
  booked : Booked process.main
  undone : Undone process.main
  exchanging : Exchanging config.directory process.main
  power : Sound config.argument process.power
  tracked : Tracked process.logging
  owed : Owed process.logging

theorem threads_initial (config : Config) : Threads config (.initial config) where
  linked := ⟨rfl, rfl, rfl⟩
  started := started_initial
  booked := booked_initial
  undone := undone_initial
  exchanging := exchanging_initial config.directory
  power := sound_initial config.argument
  tracked := tracked_initial
  owed := owed_initial

theorem Threads.moves {event : MainEvent} (threads : Threads config process)
    (step : mainStep config process.main event = some main) (linked : Linked after)
    (moved : after.main = main) (power : Sound config.argument after.power)
    (tracked : Tracked after.logging) (owed : Owed after.logging) : Threads config after where
  linked := linked
  started := moved ▸ threads.started.step step
  booked := moved ▸ threads.booked.step step
  undone := moved ▸ threads.undone.step step
  exchanging := moved ▸ threads.exchanging.step threads.booked step
  power := power
  tracked := tracked
  owed := owed

theorem powerFollows_sound {argument : Nat} {event : Option PowerEvent} {system : PowerSystem}
    (sound : Sound argument system) (follows : powerFollows system event = some power) :
    Sound argument power := by
  cases event with
  | none =>
      obtain rfl := Option.some.inj follows
      exact sound
  | some event => exact sound.step follows

theorem Threads.step {event : ProcessEvent} (threads : Threads config process)
    (step : processStep config process event = some after) : Threads config after := by
  obtain ⟨call, records⟩ := processStep_records step
  have linked := threads.linked.records records
  cases (processStep_moves step).2 with
  | signal =>
      exact ⟨linked, threads.started, threads.booked, threads.undone, threads.exchanging,
        threads.power, threads.tracked, threads.owed⟩
  | main agrees moved follows =>
      exact threads.moves moved linked rfl (powerFollows_sound threads.power follows)
        threads.tracked threads.owed
  | power own moved =>
      exact ⟨linked, threads.started, threads.booked, threads.undone, threads.exchanging,
        threads.power.step moved, threads.tracked, threads.owed⟩
  | log controls moved =>
      have moves := logStep_moves moved
      have tracked := threads.tracked.step moves
      have owed := threads.owed.step threads.tracked moves
      rcases controls_cases controls with rfl | ⟨value, accepted, -, returned⟩
      · exact ⟨linked, threads.started, threads.booked, threads.undone, threads.exchanging,
          threads.power, tracked, owed⟩
      · exact threads.moves returned linked rfl threads.power tracked owed

theorem Threads.of_reachable
    (reachable : Reachable (processStep config) (.initial config) process) :
    Threads config process :=
  reachable.invariant (threads_initial config) fun _ _ _ threads step => threads.step step

end Linked

end K50sv1.WmtLauncher.Launcher.Main
