import K50sv1.WmtLauncher.Launcher.Process
import K50sv1.WmtLoader.Loader

/-!
# The loader and the launcher

Both services start at once and meet in two properties: the launcher waits until the
loader says that the driver is ready, and reads the chip that the loader has left.  Nobody
else sets these properties.  The two move in any order, and the loader may be started again
whenever it has ended.
-/

namespace K50sv1.WmtLoader

open K50sv1.Transition
open K50sv1.Transition.Program
open K50sv1.WmtLauncher (ascii)
open K50sv1.WmtLauncher.Launcher.Main

/-! ## The two services -/

structure Boot where
  /-- What is left of the loader. -/
  loader : Loading Nat
  world : World
  launcher : Process

inductive BootEvent where
  | loader (choice : Choice)
  | restart
  | launcher (event : ProcessEvent)

def Boot.initial (config : Config) (world : World) : Boot where
  loader := main
  world
  launcher := .initial config

/-- The launcher reads the properties as they are. -/
def World.shows (world : World) : ProcessEvent → Bool
  | .main (.driverReady value) => value == world.ready
  | .main (.cached value) => value == world.chip
  | _ => true

def bootStep (config : Config) (boot : Boot) (event : BootEvent) : Option Boot :=
  match event with
  | .loader choice =>
      match boot.loader with
      | .done _ => none
      | .call op next =>
          let (world, reply) := boot.world.call op choice
          some { boot with loader := next reply, world }
  | .restart =>
      match boot.loader with
      | .done _ => some { boot with loader := main }
      | .call _ _ => none
  | .launcher event =>
      if boot.world.shows event then
        (processStep config boot.launcher event).map fun launcher => { boot with launcher }
      else
        none

/-! ## What the launcher reads -/

section Reads

variable {config : Config} {thread after : MainThread} {event : MainEvent}

/-- Where the calls that look at the properties and at the chip come from. -/
structure Reads (thread : MainThread) (event : MainEvent) (after : MainThread) : Prop where
  ready : ∀ value, .driverReady value ∈ after.history →
    .driverReady value ∈ thread.history ∨ event = .driverReady value
  node : ∀ answer, .openNode answer ∈ after.history →
    .openNode answer ∈ thread.history ∨ thread.phase = .opening
  cached : ∀ value, .cached value ∈ after.history →
    .cached value ∈ thread.history ∨ thread.phase = .caching ∧ event = .cached value
  asked : ∀ answer, .chipId answer ∈ after.history →
    .chipId answer ∈ thread.history ∨ thread.phase = .identifying
  asking : after.phase = .identifying → thread.phase = .identifying ∨
    thread.phase = .caching ∧ ∃ value, event = .cached value ∧ cachedChip value = false

theorem event_of_waiting (waiting : thread.phase = .waiting)
    (step : mainStep config thread event = some after) :
    after.history = thread.history ∨
      ∃ value, event = .driverReady value ∧
        after.history = thread.history ++ [.driverReady value] := by
  obtain ⟨phase, _⟩ := thread
  obtain rfl : phase = .waiting := waiting
  cases event with
  | driverReady value =>
      obtain rfl := Option.some.inj step
      exact .inr ⟨value, rfl, rfl⟩
  | giveUp =>
      obtain rfl := Option.some.inj step
      exact .inl rfl
  | _ => cases step

theorem event_of_caching (caching : thread.phase = .caching)
    (step : mainStep config thread event = some after) :
    ∃ value, event = .cached value ∧ after.history = thread.history ++ [.cached value] ∧
      after.phase = if cachedChip value then .binding else .identifying := by
  obtain ⟨phase, _⟩ := thread
  obtain rfl : phase = .caching := caching
  cases event with
  | cached value =>
      obtain rfl := Option.some.inj step
      exact ⟨value, rfl, rfl, rfl⟩
  | _ => cases step

theorem identifying_of_mainStep (step : mainStep config thread event = some after)
    (identifying : after.phase = .identifying) :
    thread.phase = .identifying ∨ thread.phase = .caching := by
  unfold mainStep at step
  split at step
  · revert identifying
    unfold startStep at step
    split at step
    all_goals first
      | cases step; done
      | obtain rfl := Option.some.inj step
    all_goals
      simp only [MainThread.calls, MainThread.goes, MainThread.opens, MainThread.identifies,
        MainThread.binds, MainThread.succeeds, MainThread.advertises, MainThread.starts,
        MainThread.fails]
      repeat' split
    all_goals simp_all
  · have late := (loopStep_moves step).phase
    rw [identifying] at late
    rcases late with loop | stopping
    · cases loop
    · cases stopping
  · have late := outStep_phase step
    rw [identifying] at late
    cases late

theorem mainStep_reads (step : mainStep config thread event = some after) :
    Reads thread event after := by
  obtain ⟨call, grown, makes⟩ := mainStep_records step
  have fresh : ∀ made, made ∈ after.history →
      made ∈ thread.history ∨ thread.phase.makes made = true := by
    intro made member
    rw [grown, List.mem_append, Option.mem_toList] at member
    exact member.imp_right (makes made)
  constructor
  case ready =>
    intro value member
    rcases fresh _ member with early | made
    · exact .inl early
    · have waiting : thread.phase = .waiting := by
        revert made
        cases thread.phase <;> simp [Phase.makes]
      rcases event_of_waiting waiting step with same | ⟨other, rfl, history⟩
      · exact .inl (same ▸ member)
      · rw [history, List.mem_append, List.mem_singleton] at member
        exact member.imp_right fun same => congrArg _ (MainCall.driverReady.inj same).symm
  case node =>
    intro answer member
    refine (fresh _ member).imp_right fun made => ?_
    revert made
    cases thread.phase <;> simp [Phase.makes]
  case cached =>
    intro value member
    rcases fresh _ member with early | made
    · exact .inl early
    · have caching : thread.phase = .caching := by
        revert made
        cases thread.phase <;> simp [Phase.makes]
      obtain ⟨other, rfl, history, -⟩ := event_of_caching caching step
      rw [history, List.mem_append, List.mem_singleton] at member
      refine member.imp_right fun same => ⟨caching, congrArg _ (MainCall.cached.inj same).symm⟩
  case asked =>
    intro answer member
    refine (fresh _ member).imp_right fun made => ?_
    revert made
    cases thread.phase <;> simp [Phase.makes]
  case asking =>
    intro identifying
    refine (identifying_of_mainStep step identifying).imp_right fun caching => ⟨caching, ?_⟩
    obtain ⟨value, rfl, -, next⟩ := event_of_caching caching step
    refine ⟨value, rfl, ?_⟩
    rw [identifying] at next
    by_contra supported
    rw [if_pos (Bool.not_eq_false _ ▸ supported)] at next
    cases next

/-- How the main thread moves with the process. -/
theorem main_of_processStep {process next : Process} {event : ProcessEvent}
    (step : processStep config process event = some next) :
    next.main = process.main ∨
      ∃ moved, (event = .main moved ∨ ∃ dump, moved = .controlled dump) ∧
        mainStep config process.main moved = some next.main := by
  unfold processStep at step
  split_ifs at step
  cases event with
  | signal =>
      obtain rfl := Option.some.inj step
      exact .inl rfl
  | main event =>
      dsimp only at step
      split_ifs at step
      obtain ⟨main, moved, step⟩ := Option.bind_eq_some_iff.mp step
      obtain ⟨power, -, rfl⟩ := Option.map_eq_some_iff.mp step
      exact .inr ⟨event, .inl rfl, moved⟩
  | power event =>
      dsimp only at step
      split_ifs at step
      obtain ⟨power, -, rfl⟩ := Option.map_eq_some_iff.mp step
      exact .inl rfl
  | log event =>
      obtain ⟨main, controls, step⟩ := Option.bind_eq_some_iff.mp step
      obtain ⟨logging, -, rfl⟩ := Option.map_eq_some_iff.mp step
      rcases controls_cases controls with rfl | ⟨value, accepted, rfl, returned⟩
      · exact .inl rfl
      · exact .inr ⟨_, .inr ⟨_, rfl⟩, returned⟩

end Reads

/-! ## The chip -/

/-- The launcher accepts every chip that the loader accepts. -/
theorem cachedChip_of_cachedChipId {value : List UInt8} {chip : Nat}
    (cached : cachedChipId value = some chip) : cachedChip value = true := by
  unfold cachedChipId at cached
  cases value with
  | nil => cases cached
  | cons first rest =>
      dsimp only at cached
      split_ifs at cached with digit refused
      simp only [not_or, not_not] at refused
      obtain ⟨inRange, complete, -, supported⟩ := refused
      have known : K50sv1.WmtLauncher.Launcher.supportedChip
        (Data.CText.strtoul16 (first :: rest)).value = true := supported
      simp [cachedChip, digit, inRange, complete, known]

/-- Once the driver is said to be ready the loader leaves both properties alone. -/
theorem Honest.frozen {world : World} {op : Op} {choice : Choice}
    (honest : Honest (world.call op choice).1) (ready : world.ready = yes) :
    (world.call op choice).1.ready = yes ∧ (world.call op choice).1.chip = world.chip := by
  cases op with
  | getReady | getChip | openNode | ioctl | close => exact ⟨ready, rfl⟩
  | setReady =>
      refine ⟨?_, rfl⟩
      dsimp only [World.call, World.records]
      split_ifs
      · exact ready
      · rfl
  | setChip value =>
      -- the call would be the last one, which is the announcement or the closing
      obtain ⟨chip, earlier, later, -, calls, closing⟩ := honest ready
      have last : (world.calls ++ [Call.setChip value]).getLast? = some (.setChip value) := by simp
      rw [show world.calls ++ [Call.setChip value] = _ from calls] at last
      rcases closing with rfl | rfl <;> simp at last

/-! ## The handshake -/

structure Booting (config : Config) (boot : Boot) : Prop where
  ensures : Ensures World.call Honest boot.loader (fun _ _ => True) boot.world
  threads : Threads config boot.launcher
  known : .driverReady yes ∈ boot.launcher.main.history → boot.world.ready = yes
  node : ∀ answer, .openNode answer ∈ boot.launcher.main.history →
    .driverReady yes ∈ boot.launcher.main.history
  cached : ∀ value, .cached value ∈ boot.launcher.main.history →
    boot.world.ready = yes ∧ value = boot.world.chip
  asking : boot.launcher.main.phase ≠ .identifying
  asked : ∀ answer, .chipId answer ∉ boot.launcher.main.history

section Handshake

variable {config : Config} {boot after : Boot}

theorem booting_initial (config : Config) {world : World} (unready : world.ready ≠ yes) :
    Booting config (.initial config world) where
  ensures := (ensures_main (honest_of_ne unready)).mono (fun _ honest => honest)
    fun _ _ _ _ => trivial
  threads := threads_initial config
  known := nofun
  node := nofun
  cached := nofun
  asking := nofun
  asked := nofun

theorem Booting.loads {choice : Choice} (booting : Booting config boot)
    (step : bootStep config boot (.loader choice) = some after) : Booting config after := by
  obtain ⟨loader, world, launcher⟩ := boot
  cases loader with
  | done status => cases step
  | call op next =>
      obtain rfl := Option.some.inj step
      have ensures := booting.ensures.2 choice
      have frozen := fun ready => Honest.frozen ensures.inv ready
      exact ⟨ensures, booting.threads, fun known => (frozen (booting.known known)).1,
        booting.node, fun value cached => ⟨(frozen (booting.cached value cached).1).1,
          (booting.cached value cached).2.trans (frozen (booting.cached value cached).1).2.symm⟩,
        booting.asking, booting.asked⟩

theorem Booting.restarts (booting : Booting config boot)
    (step : bootStep config boot .restart = some after) : Booting config after := by
  obtain ⟨loader, world, launcher⟩ := boot
  cases loader with
  | call op next => cases step
  | done status =>
      obtain rfl := Option.some.inj step
      have ensures := (ensures_main booting.ensures.1).mono (fun _ honest => honest)
        fun _ _ _ _ => trivial
      exact ⟨ensures, booting.threads, booting.known, booting.node, booting.cached,
        booting.asking, booting.asked⟩

/-- At the phases that follow the test of the property, it was "yes". -/
theorem driverReady_of_started {thread : MainThread} (started : Started thread)
    (phase : thread.phase = .opening ∨ thread.phase = .caching) :
    .driverReady yes ∈ thread.history := by
  have setUp := started.setUp
  unfold SetUp at setUp
  rcases phase with opening | caching
  · rw [opening] at setUp
    obtain ⟨waited, -, history⟩ := setUp
    rw [history]
    exact List.mem_append_right _ (List.mem_singleton_self _)
  · rw [caching] at setUp
    revert setUp
    generalize thread.history = history
    rintro ⟨waited⟩
    exact List.mem_append_left _ (List.mem_append_right _ (List.mem_singleton_self _))

/-- The chip that the launcher finds when it looks. -/
theorem Booting.cachedChip (booting : Booting config boot) (ready : boot.world.ready = yes) :
    cachedChip boot.world.chip = true := by
  obtain ⟨chip, -, -, cached, -⟩ := booting.ensures.inv ready
  exact cachedChip_of_cachedChipId cached

theorem Booting.moves {launcher : Process} {event : MainEvent} (booting : Booting config boot)
    (threads : Threads config launcher)
    (shows : ∀ value, (event = .driverReady value → value = boot.world.ready) ∧
      (event = .cached value → value = boot.world.chip))
    (step : mainStep config boot.launcher.main event = some launcher.main) :
    Booting config { boot with launcher } := by
  have reads := mainStep_reads step
  have started := booting.threads.started
  obtain ⟨call, grown, -⟩ := mainStep_records step
  have remains : ∀ made ∈ boot.launcher.main.history, made ∈ launcher.main.history := by
    rw [grown]
    exact fun made member => List.mem_append_left _ member
  constructor
  case ensures => exact booting.ensures
  case threads => exact threads
  case known =>
    intro member
    rcases reads.ready _ member with early | rfl
    · exact booting.known early
    · exact ((shows _).1 rfl).symm
  case node =>
    intro answer member
    rcases reads.node answer member with early | opening
    · exact remains _ (booting.node answer early)
    · exact remains _ (driverReady_of_started started (.inl opening))
  case cached =>
    intro value member
    rcases reads.cached value member with early | ⟨caching, rfl⟩
    · exact booting.cached value early
    · exact ⟨booting.known (driverReady_of_started started (.inr caching)), (shows value).2 rfl⟩
  case asking =>
    intro identifying
    rcases reads.asking identifying with early | ⟨caching, value, rfl, unsupported⟩
    · exact booting.asking early
    · have ready := booting.known (driverReady_of_started started (.inr caching))
      have supported := booting.cachedChip ready
      rw [← (shows value).2 rfl, unsupported] at supported
      cases supported
  case asked =>
    intro answer member
    exact (reads.asked answer member).elim (booting.asked answer) booting.asking

theorem Booting.launches {event : ProcessEvent} (booting : Booting config boot)
    (step : bootStep config boot (.launcher event) = some after) : Booting config after := by
  rw [bootStep] at step
  split_ifs at step with shows
  obtain ⟨launcher, moved, rfl⟩ := Option.map_eq_some_iff.mp step
  have threads := booting.threads.step moved
  rcases main_of_processStep moved with same | ⟨mainEvent, source, mainMoved⟩
  · obtain ⟨ensures, -, known, node, cached, asking, asked⟩ := booting
    rw [← same] at known node cached asking asked
    exact ⟨ensures, threads, known, node, cached, asking, asked⟩
  · refine booting.moves threads (fun value => ?_) mainMoved
    rcases source with rfl | ⟨dump, rfl⟩
    · constructor
      · rintro rfl
        exact beq_iff_eq.mp shows
      · rintro rfl
        exact beq_iff_eq.mp shows
    · exact ⟨nofun, nofun⟩

end Handshake

/-- In every order of the loader and the launcher, from a boot at which the driver is not yet
said to be ready, with the loader started as often as one likes: the launcher opens the node
only when the driver was initialized for the chip that the property names; it finds this chip
in the property, supports it, and never has to ask the device for it. -/
theorem handshake (config : Config) (world : World) (boot : Boot) (unready : world.ready ≠ yes)
    (reachable : Reachable (bootStep config) (.initial config world) boot) :
    (∀ answer, .openNode answer ∈ mainCalls boot.launcher.history → Ready boot.world) ∧
    (∀ value, .cached value ∈ mainCalls boot.launcher.history →
      value = boot.world.chip ∧ cachedChip value = true) ∧
    ∀ answer, .chipId answer ∉ mainCalls boot.launcher.history := by
  have booting : Booting config boot := by
    refine reachable.invariant (booting_initial config unready) ?_
    intro before event after booting step
    cases event with
    | loader choice => exact booting.loads step
    | restart => exact booting.restarts step
    | launcher event => exact booting.launches step
  rw [booting.threads.linked.main]
  refine ⟨?_, ?_, booting.asked⟩
  · exact fun answer opened => booting.ensures.inv (booting.known (booting.node answer opened))
  · intro value cached
    obtain ⟨ready, rfl⟩ := booting.cached value cached
    exact ⟨rfl, booting.cachedChip ready⟩

/-- The launcher looks too early, and again while the loader is closing the detector. -/
def detectedRun : List BootEvent :=
  [.launcher (.main (.driverReady [])), .loader {}, .loader {}, .loader {},
    .loader { answer := .ok 0x0326 }, .loader {}, .loader {}, .loader {}, .loader {}, .loader {},
    .launcher (.main (.driverReady yes)), .launcher (.main (.openNode (.ok ()) false)), .loader {},
    .launcher (.main (.cached (ascii "0x0326")))]

theorem handshake_detected :
    ∃ boot, Runs (bootStep .initial) (.initial .initial ⟨[], ascii "mt6755", []⟩) detectedRun boot ∧
      .cached (ascii "0x0326") ∈ mainCalls boot.launcher.history ∧ Ready boot.world := by
  have run : Runs (bootStep .initial) (.initial .initial ⟨[], ascii "mt6755", []⟩) detectedRun _ :=
    runs_get (by decide +kernel)
  exact ⟨_, run, by decide +kernel, (handshake .initial _ _ (by decide) run.reachable).1
    (.ok ()) (by decide +kernel)⟩

end K50sv1.WmtLoader
