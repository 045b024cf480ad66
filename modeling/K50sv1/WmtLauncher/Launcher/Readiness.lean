import K50sv1.WmtLauncher.Launcher.MainThread

/-!
# What the launcher has done when it says that it is ready

Up to the command loop `main` is the only thread and its calls follow a grammar: it waits
until the driver is ready and the node can be opened, learns a supported chip from the
property or from the device, binds a session on the exact terms of the protocol, selects
the interface and clears the kill flag.
-/

namespace K50sv1.WmtLauncher.Launcher.Main

open K50sv1.Transition

/-! ## The grammar of a start -/

/-- Calls of `open_driver` that did not open the node. -/
inductive Waited : List MainCall → Prop
  | start : Waited []
  | notReady {calls : List MainCall} {value : List UInt8} (waited : Waited calls)
      (other : value ≠ yes) : Waited (calls ++ [.driverReady value])
  | noNode {calls : List MainCall} {errno : Errno} (waited : Waited calls)
      (retried : errno = .enoent ∨ errno = .enodev ∨ errno = .eintr) :
      Waited (calls ++ [.driverReady yes] ++ [.openNode (.error errno)])

/-- The node was opened when the driver was ready. -/
inductive Opened : List MainCall → Prop
  | opened {calls : List MainCall} (waited : Waited calls) :
      Opened (calls ++ [.driverReady yes] ++ [.openNode (.ok ())])

/-- `open_driver` has given up, at a stop or at an error that waiting does not help
against. -/
inductive GaveUp : List MainCall → Prop
  | stopped {calls : List MainCall} (waited : Waited calls) : GaveUp calls
  | refused {calls : List MainCall} {errno : Errno} (waited : Waited calls)
      (final : errno ≠ .enoent ∧ errno ≠ .enodev ∧ errno ≠ .eintr) :
      GaveUp (calls ++ [.driverReady yes] ++ [.openNode (.error errno)])

/-- The property does not name a supported chip, and the device has not answered. -/
inductive Asked : List MainCall → Prop
  | uncached {calls : List MainCall} {value : List UInt8} (opened : Opened calls)
      (unsupported : cachedChip value = false) : Asked (calls ++ [.cached value])
  | again {calls : List MainCall} {errno : Errno} (asked : Asked calls)
      (retried : errno = .eagain ∨ errno = .enodev ∨ errno = .eperm ∨ errno = .eintr) :
      Asked (calls ++ [.chipId (.error errno)])

/-- The chip is known to be supported. -/
inductive Identified : List MainCall → Prop
  | cached {calls : List MainCall} {value : List UInt8} (opened : Opened calls)
      (supported : cachedChip value = true) : Identified (calls ++ [.cached value])
  | answered {calls : List MainCall} {chip : Nat} (asked : Asked calls)
      (supported : supportedChip chip = true) : Identified (calls ++ [.chipId (.ok chip)])

/-- A session is bound on the terms of the protocol. -/
inductive Bound (session : Session) : List MainCall → Prop
  | bound {calls : List MainCall} (identified : Identified calls) (agreed : session.Agreed) :
      Bound session (calls ++ [.bind (.ok session)])

/-- Everything that readiness stands for has been done. -/
inductive Prepared (session : Session) : List MainCall → Prop
  | prepared {calls : List MainCall} (bound : Bound session calls) :
      Prepared session (calls ++ [.setHif (.ok ())] ++ [.killClear (.ok ())])

/-! ## The grammar is followed -/

/-- What has been done at each phase of the start. -/
def SetUp (thread : MainThread) : Prop :=
  match thread.phase with
  | .waiting => Waited thread.history
  | .opening => ∃ waited, Waited waited ∧ thread.history = waited ++ [.driverReady yes]
  | .abandoned _ => GaveUp thread.history
  | .caching => Opened thread.history
  | .identifying => Asked thread.history
  | .binding => Identified thread.history
  | .selecting => Bound thread.session thread.history
  | .clearing =>
      ∃ bound, Bound thread.session bound ∧ thread.history = bound ++ [.setHif (.ok ())]
  | .advertising => Prepared thread.session thread.history
  | _ => True

theorem setUp_of_part {thread : MainThread} (later : thread.phase.part ≠ .start) :
    SetUp thread := by
  unfold SetUp
  split <;> first | trivial | next phase => exact absurd (phase ▸ rfl) later

section Steps

variable {thread after : MainThread}

theorem setUp_driverReady (waited : Waited thread.history) (value : List UInt8) :
    SetUp ((thread.goes (if value = yes then .opening else .waiting)).calls
      (.driverReady value)) := by
  split_ifs with ready
  · exact ⟨thread.history, waited, by rw [ready]; rfl⟩
  · exact .notReady waited ready

theorem setUp_opens {waited : List MainCall} (done : Waited waited)
    (history : thread.history = waited ++ [.driverReady yes]) (answer : Except Errno Unit)
    (stopRequested : Bool) :
    SetUp ((thread.opens answer stopRequested).calls (.openNode answer)) := by
  unfold MainThread.opens
  cases answer with
  | ok =>
      show Opened (thread.history ++ [.openNode (.ok ())])
      exact history ▸ .opened done
  | error errno =>
      dsimp only
      by_cases final : errno ≠ .enoent ∧ errno ≠ .enodev ∧ errno ≠ .eintr
      · rw [if_pos final]
        show GaveUp (thread.history ++ [.openNode (.error errno)])
        exact history ▸ .refused done final
      · rw [if_neg final]
        show Waited (thread.history ++ [.openNode (.error errno)])
        exact history ▸ .noNode done (by tauto)

theorem setUp_cached (opened : Opened thread.history) (value : List UInt8) :
    SetUp ((thread.goes (if cachedChip value then .binding else .identifying)).calls
      (.cached value)) := by
  split_ifs with supported
  · exact .cached opened supported
  · exact .uncached opened (Bool.eq_false_iff.mpr supported)

theorem setUp_identifies (asked : Asked thread.history) (phase : thread.phase = .identifying)
    (answer : Except Errno Nat) : SetUp ((thread.identifies answer).calls (.chipId answer)) := by
  unfold MainThread.identifies
  cases answer with
  | ok chip =>
      dsimp only
      split_ifs with supported
      · exact .answered asked supported
      · trivial
  | error errno =>
      dsimp only
      split_ifs with final
      · trivial
      · rw [SetUp, MainThread.calls, phase]
        exact .again asked (by tauto)

theorem setUp_binds (identified : Identified thread.history) (answer : Except Errno Session) :
    SetUp ((thread.binds answer).calls (.bind answer)) := by
  unfold MainThread.binds
  cases answer with
  | error errno => trivial
  | ok session =>
      dsimp only
      split_ifs with agreed
      · exact .bound identified (session.agreed_iff.mp agreed)
      · trivial

/-- A request of which only success matters. -/
theorem setUp_succeeds {answer : Except Errno Unit} {phase : Phase} {call : MainCall}
    (success : answer = .ok () → SetUp ((thread.goes phase).calls call)) :
    SetUp ((thread.succeeds answer phase).calls call) := by
  cases answer with
  | ok => exact success rfl
  | error errno => trivial

theorem SetUp.startStep {event : MainEvent} (setUp : SetUp thread)
    (step : startStep thread event = some after) : SetUp after := by
  unfold Main.startStep at step
  unfold SetUp at setUp
  split at step
  all_goals first
    | cases step; done
    | obtain rfl := Option.some.inj step
  · next value phase =>
    rw [phase] at setUp
    exact setUp_driverReady setUp value
  · next phase =>
    rw [phase] at setUp
    exact .stopped setUp
  · next answer stopRequested phase =>
    rw [phase] at setUp
    obtain ⟨waited, done, history⟩ := setUp
    exact setUp_opens done history answer stopRequested
  · next value phase =>
    rw [phase] at setUp
    exact setUp_cached setUp value
  · trivial
  · next answer phase =>
    rw [phase] at setUp
    exact setUp_identifies setUp phase answer
  · next answer phase =>
    rw [phase] at setUp
    exact setUp_binds setUp answer
  · next phase =>
    rw [phase] at setUp
    refine setUp_succeeds ?_
    rintro rfl
    exact ⟨thread.history, setUp, rfl⟩
  · next phase =>
    rw [phase] at setUp
    obtain ⟨bound, done, history⟩ := setUp
    refine setUp_succeeds ?_
    rintro rfl
    show Prepared thread.session (thread.history ++ [.killClear (.ok ())])
    exact history ▸ .prepared done
  · next accepted _ => cases accepted <;> trivial
  · next answer _ => cases answer <;> trivial

end Steps

/-! ## Readiness -/

/-- Readiness is published only by a launcher that is prepared. -/
def AdvertisesPrepared : List MainCall → Prop :=
  AtEach fun before call => ∀ accepted, call = .ready true accepted →
    ∃ session, Prepared session before

/-- What holds of the main thread at every step. -/
structure Started (thread : MainThread) : Prop where
  setUp : SetUp thread
  advertises : AdvertisesPrepared thread.history

theorem started_initial : Started .initial where
  setUp := .start
  advertises := atEach_nil

theorem Started.step {config : Config} {thread after : MainThread} {event : MainEvent}
    (started : Started thread) (step : mainStep config thread event = some after) :
    Started after := by
  constructor
  case setUp =>
    unfold mainStep at step
    split at step
    · exact started.setUp.startStep step
    · rcases (loopStep_moves step).phase with loop | stopping
      · exact setUp_of_part (by rw [loop]; nofun)
      · exact setUp_of_part (by rw [stopping]; nofun)
    · exact setUp_of_part (by rw [outStep_phase step]; nofun)
  case advertises =>
    obtain ⟨call, history, made⟩ := mainStep_records step
    cases call with
    | none => simpa [history] using started.advertises
    | some call =>
        rw [history]
        refine AtEach.concat started.advertises ?_
        rintro accepted rfl
        have advertising : thread.phase = .advertising := by
          have makes := made _ rfl
          revert makes
          cases thread.phase <;> simp [Phase.makes]
        have setUp := started.setUp
        rw [SetUp, advertising] at setUp
        exact ⟨thread.session, setUp⟩

end K50sv1.WmtLauncher.Launcher.Main
