import K50sv1.Data.HexText
import K50sv1.Transition.History
import K50sv1.WmtLauncher.Launcher.FirmwareLog
import K50sv1.WmtLauncher.Launcher.HandleCommand

/-!
# The main thread of the launcher

`main` waits for the driver, checks the chip, binds a command session, makes the service
ready and starts the power worker.  Then it answers commands until a stop is requested or
something fails, and takes everything back in a fixed order.

The thread is a machine over its system calls.  What it reads of the state that it shares
with the signal handler and the workers comes with the event; `Process` says which values
these are.
-/

namespace K50sv1.WmtLauncher.Launcher.Main

open K50sv1.Data.CText
open K50sv1.Transition
open K50sv1.WmtLauncher.Protocol

/-! ## The command line -/

/-- What `getopt` returns for "p:o:h". -/
inductive CommandOption where
  | p (optarg : List UInt8)
  | o (optarg : List UInt8)
  | h
  | unknown
  deriving DecidableEq, Repr

/-- What the options select. -/
structure Config where
  directory : List UInt8
  /-- `power.argument`. -/
  argument : Nat
  argument_eq : argument = 1 ∨ argument = 2
  deriving DecidableEq, Repr

def Config.initial : Config where
  directory := ascii "/vendor/firmware/"
  argument := 1
  argument_eq := .inl rfl

/-- `PATH_MAX`. -/
def pathMax : Nat := 4096

/-- The loop over the options.  An error is the exit status. -/
def parseOptions (config : Config) : List CommandOption → Except Nat Config
  | [] => .ok config
  | .p optarg :: rest => parseOptions { config with directory := optarg } rest
  | .o optarg :: rest =>
      if optarg = ascii "0" then
        parseOptions { config with argument := 1, argument_eq := .inl rfl } rest
      else if optarg = ascii "1" then
        parseOptions { config with argument := 2, argument_eq := .inr rfl } rest
      else
        .error 2
  | .h :: _ => .error 0
  | .unknown :: _ => .error 2

/-- `main` up to the first system call; `operands` are the arguments behind the options. -/
def configure (options : List CommandOption) (operands : Nat) : Except Nat Config :=
  match parseOptions .initial options with
  | .error status => .error status
  | .ok config =>
      if operands ≠ 0 ∨ config.directory = [] ∨ pathMax ≤ config.directory.length then .error 2
      else .ok config

/-! ## The chip and the session -/

/-- `cached_chip`, for the value of the property. -/
def cachedChip (value : List UInt8) : Bool :=
  match value with
  | [] => false
  | first :: _ =>
      let converted := strtoul16 value
      isXDigit first && !converted.outOfRange && converted.rest.isEmpty &&
        supportedChip converted.value

def wmtCmd2ReadMax : Nat := 32 + wmtCmd2CommandMax

/-- `struct wmt_cmd2_session`. -/
structure Session where
  version : UInt32
  action : UInt32
  sessionId : UInt64
  maxReadBytes : UInt32
  maxWriteBytes : UInt32
  flags : UInt32
  reserved : UInt32
  deriving DecidableEq, Repr

/-- What `main` asks the device with. -/
def Session.request : Session where
  version := wmtCmd2Version.toUInt32
  action := 1
  sessionId := 0
  maxReadBytes := 0
  maxWriteBytes := 0
  flags := 0
  reserved := 0

/-- The device agrees to the version and the limits of this protocol. -/
structure Session.Agreed (session : Session) : Prop where
  version : session.version = wmtCmd2Version.toUInt32
  sessionId : session.sessionId ≠ 0
  maxReadBytes : session.maxReadBytes.toNat = wmtCmd2ReadMax
  maxWriteBytes : session.maxWriteBytes.toNat = wmtCmd2WriteMax
  flags : session.flags = 0
  reserved : session.reserved = 0

/-- The test of `main` on the answer to the bind request. -/
def Session.agreed (session : Session) : Bool :=
  session.version == wmtCmd2Version.toUInt32 && session.sessionId != 0 &&
    session.maxReadBytes.toNat == wmtCmd2ReadMax &&
    session.maxWriteBytes.toNat == wmtCmd2WriteMax && session.flags == 0 && session.reserved == 0

theorem Session.agreed_iff (session : Session) : session.agreed = true ↔ session.Agreed := by
  simp only [agreed, Bool.and_eq_true, beq_iff_eq, bne_iff_ne]
  constructor
  · rintro ⟨⟨⟨⟨⟨version, sessionId⟩, maxRead⟩, maxWrite⟩, flags⟩, reserved⟩
    exact ⟨version, sessionId, maxRead, maxWrite, flags, reserved⟩
  · rintro ⟨version, sessionId, maxRead, maxWrite, flags, reserved⟩
    exact ⟨⟨⟨⟨⟨version, sessionId⟩, maxRead⟩, maxWrite⟩, flags⟩, reserved⟩

/-! ## State -/

/-- Where the main thread stands. -/
inductive Phase where
  /-- At the test of the loop of `open_driver`. -/
  | waiting
  /-- The driver is ready; its node is opened next. -/
  | opening
  | caching
  /-- At the test of the loop of `check_chip`. -/
  | identifying
  | binding
  | selecting
  | clearing
  | advertising
  | starting
  /-- At the test of the loop of `command_loop`. -/
  | looping
  /-- Inside `check_optional_controls`. -/
  | controlling
  | polling
  | reading
  | handling (command : WmtCommand)
  | sending (frame : List UInt8) (versions : Versions)
  /-- A version is published next, and then others. -/
  | publishing (version : VersionProperty × List UInt8) (rest : Versions)
  /-- At the label `out`. -/
  | stopping
  | unbinding
  | joining
  /-- At the end of the firmware log. -/
  | disabling
  | withdrawing
  | closing
  | returning
  | exited (status : Nat)
  /-- `main` has returned without a descriptor. -/
  | abandoned (status : Nat)

/-- What `poll` reports about the device. -/
structure Revents where
  /-- Any of `POLLERR`, `POLLHUP` and `POLLNVAL`. -/
  failed : Bool
  /-- `POLLIN`. -/
  input : Bool
  deriving DecidableEq, Repr

/-- The calls of the main thread, apart from those of `check_optional_controls` on the
firmware log. -/
inductive MainCall where
  | driverReady (value : List UInt8)
  | openNode (answer : Except Errno Unit)
  /-- `CHIP_PROPERTY` is read. -/
  | cached (value : List UInt8)
  /-- `WMT_CHIP_ID`. -/
  | chipId (answer : Except Errno Nat)
  | bind (answer : Except Errno Session)
  | setHif (answer : Except Errno Unit)
  | killClear (answer : Except Errno Unit)
  /-- `LAUNCHER_READY` is set to "yes" or "no". -/
  | ready (value : Bool) (accepted : Bool)
  | createPower (answer : Except Errno Unit)
  /-- `WMT_DYNAMIC_DUMP`. -/
  | dump (value : List UInt8)
  | poll
  | read (answer : Except Errno (List UInt8))
  /-- The requests for the version of the chip and the search. -/
  | search (command : WmtCommand)
  | write (frame : List UInt8) (answer : Except Errno Nat)
  | publish (property : VersionProperty) (value : List UInt8)
  | unbind (sessionId : UInt64)
  | joinPower (joined : Bool)
  | close
  deriving DecidableEq

structure MainThread where
  phase : Phase
  session : Session
  bound : Bool
  advertised : Bool
  powerStarted : Bool
  powerChecked : Bool
  result : Except Errno Unit
  history : List MainCall

/-- A step of the main thread, with what it reads of the shared state. -/
inductive MainEvent where
  | driverReady (value : List UInt8)
  /-- `open_driver` finds `stop_requested`. -/
  | giveUp
  | openNode (answer : Except Errno Unit) (stopRequested : Bool)
  | cached (value : List UInt8)
  | chipId (answer : Except Errno Nat)
  /-- `check_chip` finds `stop_requested`. -/
  | interrupted
  | bind (answer : Except Errno Session)
  | setHif (answer : Except Errno Unit)
  | killClear (answer : Except Errno Unit)
  | advertise (accepted : Bool)
  | createPower (answer : Except Errno Unit)
  /-- `command_loop` finds `stop_requested`. -/
  | stopSeen
  /-- `command_loop` looks at the power worker: nothing, or its result if it has
  finished. -/
  | iterate (finished : Option (Except Errno Unit))
  /-- `check_optional_controls` returns; if it requested a dump, with this value. -/
  | controlled (dump : Option (List UInt8))
  | poll (answer : Except Errno Revents)
  /-- The second argument is what the variable `command` held before. -/
  | read (answer : Except Errno (List UInt8)) (previous : WmtCommand)
  | search (environment : Environment)
  | write (answer : Except Errno Nat) (stopRequested : Bool)
  | publish
  /-- `power.stopping` is stored. -/
  | stop
  | unbind
  | joinPower (joined : Bool)
  /-- The firmware log is stopped, if it has to be. -/
  | disabled
  | withdraw (accepted : Bool)
  | close
  | exit (stopRequested : Bool)

/-- The power worker is created. -/
def MainEvent.createsPower : MainEvent → Bool
  | .createPower (.ok ()) => true
  | _ => false

namespace MainThread

def initial : MainThread where
  phase := .waiting
  session := .request
  bound := false
  advertised := false
  powerStarted := false
  powerChecked := false
  result := .error .eintr
  history := []

def goes (thread : MainThread) (phase : Phase) : MainThread :=
  { thread with phase }

def calls (thread : MainThread) (call : MainCall) : MainThread :=
  { thread with history := thread.history ++ [call] }

/-- An assignment of an error to `result` and a jump to `out`. -/
def fails (thread : MainThread) (errno : Errno) : MainThread :=
  { thread with result := .error errno, phase := .stopping }

/-- The answer to a request of which only success matters. -/
def succeeds (thread : MainThread) (answer : Except Errno Unit) (phase : Phase) : MainThread :=
  match answer with
  | .ok () => thread.goes phase
  | .error errno => thread.fails errno

/-- The end of `open_driver`, or another iteration of it. -/
def opens (thread : MainThread) (answer : Except Errno Unit) (stopRequested : Bool) : MainThread :=
  match answer with
  | .ok () => thread.goes .caching
  | .error errno =>
      if errno ≠ Errno.enoent ∧ errno ≠ Errno.enodev ∧ errno ≠ Errno.eintr then
        thread.goes (.abandoned (if stopRequested then 0 else 1))
      else
        thread.goes .waiting

/-- An answer of the device in `check_chip`. -/
def identifies (thread : MainThread) (answer : Except Errno Nat) : MainThread :=
  match answer with
  | .ok chip => if supportedChip chip then thread.goes .binding else thread.fails .enodev
  | .error errno =>
      if errno ≠ Errno.eagain ∧ errno ≠ Errno.enodev ∧ errno ≠ Errno.eperm ∧
          errno ≠ Errno.eintr then
        thread.fails errno
      else
        thread

def binds (thread : MainThread) (answer : Except Errno Session) : MainThread :=
  match answer with
  | .error errno => thread.fails errno
  | .ok session =>
      let bound := { thread with session, bound := true }
      if session.agreed then bound.goes .selecting else bound.fails .eproto

def advertises (thread : MainThread) (accepted : Bool) : MainThread :=
  if accepted then { thread with advertised := true, phase := .starting } else thread.fails .eio

def starts (thread : MainThread) (answer : Except Errno Unit) : MainThread :=
  match answer with
  | .ok () => { thread with powerStarted := true, phase := .looping }
  | .error errno => thread.fails errno

/-- The first lines of an iteration of `command_loop`. -/
def iterates (thread : MainThread) (finished : Option (Except Errno Unit)) : MainThread :=
  match finished with
  | none => thread.goes .polling
  | some result =>
      match thread.powerChecked, result with
      | false, .error errno => thread.fails errno
      | _, _ => { thread with powerChecked := true, phase := .controlling }

def controls (thread : MainThread) (dump : Option (List UInt8)) : MainThread :=
  match dump with
  | none => thread.goes .polling
  | some value => (thread.goes .polling).calls (.dump value)

def polls (thread : MainThread) (answer : Except Errno Revents) : MainThread :=
  match answer with
  | .error errno => if errno = Errno.eintr then thread.goes .looping else thread.fails errno
  | .ok revents =>
      if revents.failed then thread.fails .enodev
      else if revents.input then thread.goes .reading
      else thread.goes .looping

def reads (thread : MainThread) (answer : Except Errno (List UInt8)) (previous : WmtCommand) :
    MainThread :=
  match answer with
  | .error errno =>
      if errno = Errno.eintr ∨ errno = Errno.eagain ∨ errno = Errno.etimedout then
        thread.goes .looping
      else
        thread.fails errno
  | .ok frame =>
      match wmtCommandDecode (some frame) thread.session.sessionId (some previous) with
      | (.error errno, _) => thread.fails errno
      | (.ok (), command) => thread.goes (.handling (command.getD previous))

/-- The end of an iteration of `command_loop` in which `handle_command` returned an
error. -/
def discards (thread : MainThread) (errno : Errno) : MainThread :=
  if errno = .estale ∨ errno = .ecanceled ∨ errno = .etimedout ∨ errno = .enoent then
    thread.goes .looping
  else
    thread.fails errno

def composes (thread : MainThread) (reply : Except Errno (List UInt8 × Versions)) : MainThread :=
  match reply with
  | .error errno => thread.discards errno
  | .ok (frame, versions) => thread.goes (.sending frame versions)

/-- What is left to publish after a reply was accepted. -/
def publishes (thread : MainThread) : Versions → MainThread
  | [] => thread.goes .looping
  | version :: rest => thread.goes (.publishing version rest)

/-- An answer of the device in `send_frame`. -/
def writes (thread : MainThread) (frame : List UInt8) (versions : Versions)
    (answer : Except Errno Nat) (stopRequested : Bool) : MainThread :=
  match answer with
  | .error errno =>
      if errno = Errno.eintr ∧ ¬stopRequested then thread else thread.discards errno
  | .ok written =>
      if written = frame.length then thread.publishes versions else thread.discards .eproto

/-- Where `main` goes after it withdrew the session. -/
def joins (thread : MainThread) : Phase :=
  if thread.powerStarted then .joining else .disabling

/-- The value that `main` returns. -/
def status (thread : MainThread) (stopRequested : Bool) : Nat :=
  match thread.result with
  | .ok () => 0
  | .error _ => if stopRequested then 0 else 1

end MainThread

/-! ## Steps -/

/-- The steps up to the command loop. -/
def startStep (thread : MainThread) (event : MainEvent) : Option MainThread :=
  match thread.phase, event with
  | .waiting, .driverReady value =>
      some ((thread.goes (if value = yes then .opening else .waiting)).calls (.driverReady value))
  | .waiting, .giveUp => some (thread.goes (.abandoned 0))
  | .opening, .openNode answer stopRequested =>
      some ((thread.opens answer stopRequested).calls (.openNode answer))
  | .caching, .cached value =>
      some ((thread.goes (if cachedChip value then .binding else .identifying)).calls
        (.cached value))
  | .identifying, .interrupted => some (thread.fails .eintr)
  | .identifying, .chipId answer => some ((thread.identifies answer).calls (.chipId answer))
  | .binding, .bind answer => some ((thread.binds answer).calls (.bind answer))
  | .selecting, .setHif answer => some ((thread.succeeds answer .clearing).calls (.setHif answer))
  | .clearing, .killClear answer =>
      some ((thread.succeeds answer .advertising).calls (.killClear answer))
  | .advertising, .advertise accepted =>
      some ((thread.advertises accepted).calls (.ready true accepted))
  | .starting, .createPower answer => some ((thread.starts answer).calls (.createPower answer))
  | _, _ => none

/-- The steps of the command loop. -/
def loopStep (config : Config) (thread : MainThread) (event : MainEvent) : Option MainThread :=
  match thread.phase, event with
  | .looping, .stopSeen => some { thread with result := .ok (), phase := .stopping }
  | .looping, .iterate finished => some (thread.iterates finished)
  | .controlling, .controlled dump => some (thread.controls dump)
  | .polling, .poll answer => some ((thread.polls answer).calls .poll)
  | .reading, .read answer previous => some ((thread.reads answer previous).calls (.read answer))
  | .handling command, .search environment =>
      some ((thread.composes (composeReply environment config.directory command)).calls
        (.search command))
  | .sending frame versions, .write answer stopRequested =>
      some ((thread.writes frame versions answer stopRequested).calls (.write frame answer))
  | .publishing version rest, .publish =>
      some ((thread.publishes rest).calls (.publish version.1 version.2))
  | _, _ => none

/-- The steps from the label `out` on. -/
def outStep (thread : MainThread) (event : MainEvent) : Option MainThread :=
  match thread.phase, event with
  | .stopping, .stop => some (thread.goes (if thread.bound then .unbinding else thread.joins))
  | .unbinding, .unbind =>
      some ((thread.goes thread.joins).calls (.unbind thread.session.sessionId))
  | .joining, .joinPower joined => some ((thread.goes .disabling).calls (.joinPower joined))
  | .disabling, .disabled =>
      some (thread.goes (if thread.advertised then .withdrawing else .closing))
  | .withdrawing, .withdraw accepted => some ((thread.goes .closing).calls (.ready false accepted))
  | .closing, .close => some ((thread.goes .returning).calls .close)
  | .returning, .exit stopRequested => some (thread.goes (.exited (thread.status stopRequested)))
  | _, _ => none

/-! ## Parts -/

/-- The parts of `main`, in order. -/
inductive Part where
  | start
  | loop
  | out
  deriving DecidableEq, Repr

def Phase.part : Phase → Part
  | .waiting | .opening | .caching | .identifying | .binding | .selecting | .clearing
  | .advertising | .starting | .abandoned _ => .start
  | .looping | .controlling | .polling | .reading | .handling _ | .sending _ _
  | .publishing _ _ => .loop
  | .stopping | .unbinding | .joining | .disabling | .withdrawing | .closing | .returning
  | .exited _ => .out

def mainStep (config : Config) (thread : MainThread) (event : MainEvent) : Option MainThread :=
  match thread.phase.part with
  | .start => startStep thread event
  | .loop => loopStep config thread event
  | .out => outStep thread event

/-- The calls that may be made at a phase. -/
def Phase.makes : Phase → MainCall → Bool
  | .waiting, .driverReady _ => true
  | .opening, .openNode _ => true
  | .caching, .cached _ => true
  | .identifying, .chipId _ => true
  | .binding, .bind _ => true
  | .selecting, .setHif _ => true
  | .clearing, .killClear _ => true
  | .advertising, .ready true _ => true
  | .starting, .createPower _ => true
  | .controlling, .dump _ => true
  | .polling, .poll => true
  | .reading, .read _ => true
  | .handling command, .search searched => command == searched
  | .sending frame _, .write written _ => frame == written
  | .publishing version _, .publish property value => version == (property, value)
  | .unbinding, .unbind _ => true
  | .joining, .joinPower _ => true
  | .withdrawing, .ready false _ => true
  | .closing, .close => true
  | _, _ => false

/-- A step that leaves alone what `main` remembers for its end. -/
structure MainThread.Keeps (thread after : MainThread) : Prop where
  session : after.session = thread.session
  bound : after.bound = thread.bound
  advertised : after.advertised = thread.advertised
  powerStarted : after.powerStarted = thread.powerStarted

/-- The history grows by the call of the phase, if one is made. -/
def MainThread.Records (thread after : MainThread) : Prop :=
  ∃ call : Option MainCall, after.history = thread.history ++ call.toList ∧
    ∀ made ∈ call, thread.phase.makes made = true

/-- `check_optional_controls` is running. -/
def Phase.isControlling : Phase → Bool
  | .controlling => true
  | _ => false

/-- A part of the command loop without a call that does not look at the power worker. -/
structure MainThread.Serves (thread after : MainThread) : Prop where
  keeps : thread.Keeps after
  history : after.history = thread.history
  phase : after.phase.part = .loop ∨ after.phase = .stopping
  checked : after.powerChecked = thread.powerChecked
  controlling : after.phase.isControlling = false
  result : after.result = .ok () → thread.result = .ok ()

namespace MainThread

section Serves

variable {thread after : MainThread}

theorem Serves.goes {phase : Phase} (part : phase.part = .loop)
    (controlling : phase.isControlling = false) : thread.Serves (thread.goes phase) :=
  ⟨⟨rfl, rfl, rfl, rfl⟩, rfl, .inl part, rfl, controlling, id⟩

theorem Serves.fails (errno : Errno) : thread.Serves (thread.fails errno) :=
  ⟨⟨rfl, rfl, rfl, rfl⟩, rfl, .inr rfl, rfl, rfl, nofun⟩

theorem Serves.discards (errno : Errno) : thread.Serves (thread.discards errno) := by
  unfold MainThread.discards
  split_ifs
  · exact .goes rfl rfl
  · exact .fails errno

theorem Serves.publishes (versions : Versions) : thread.Serves (thread.publishes versions) := by
  cases versions <;> exact .goes rfl rfl

theorem Serves.polls (answer : Except Errno Revents) : thread.Serves (thread.polls answer) := by
  unfold MainThread.polls
  split <;> split_ifs
  · exact .goes rfl rfl
  · exact .fails _
  · exact .fails _
  · exact .goes rfl rfl
  · exact .goes rfl rfl

theorem Serves.reads (answer : Except Errno (List UInt8)) (previous : WmtCommand) :
    thread.Serves (thread.reads answer previous) := by
  unfold MainThread.reads
  split
  · split_ifs
    · exact .goes rfl rfl
    · exact .fails _
  · split
    · exact .fails _
    · exact .goes rfl rfl

theorem Serves.composes (reply : Except Errno (List UInt8 × Versions)) :
    thread.Serves (thread.composes reply) := by
  unfold MainThread.composes
  split
  · exact .discards _
  · exact .goes rfl rfl

theorem Serves.writes {frame : List UInt8} {versions : Versions}
    (sending : thread.phase = .sending frame versions) (answer : Except Errno Nat)
    (stopRequested : Bool) : thread.Serves (thread.writes frame versions answer stopRequested) := by
  unfold MainThread.writes
  split <;> split_ifs
  · refine ⟨⟨rfl, rfl, rfl, rfl⟩, rfl, .inl ?_, rfl, ?_, id⟩ <;> rw [sending] <;> rfl
  · exact .discards _
  · exact .publishes _
  · exact .discards _

end Serves

section Records

variable {thread after : MainThread} {call : MainCall}

theorem Records.quiet (history : after.history = thread.history) : thread.Records after :=
  ⟨none, by simp [history], nofun⟩

theorem Records.calls (history : after.history = thread.history)
    (made : thread.phase.makes call = true) : thread.Records (after.calls call) := by
  refine ⟨some call, ?_, ?_⟩
  · rw [MainThread.calls, history, Option.toList_some]
  · rintro other ⟨⟩
    exact made

theorem history_opens (answer : Except Errno Unit) (stopRequested : Bool) :
    (thread.opens answer stopRequested).history = thread.history := by
  unfold MainThread.opens
  split
  · rfl
  · split_ifs <;> rfl

theorem history_identifies (answer : Except Errno Nat) :
    (thread.identifies answer).history = thread.history := by
  unfold MainThread.identifies
  split <;> split_ifs <;> rfl

theorem history_binds (answer : Except Errno Session) :
    (thread.binds answer).history = thread.history := by
  unfold MainThread.binds
  split
  · rfl
  · dsimp only
    split_ifs <;> rfl

theorem history_succeeds (answer : Except Errno Unit) (phase : Phase) :
    (thread.succeeds answer phase).history = thread.history := by
  cases answer <;> rfl

theorem history_advertises (accepted : Bool) :
    (thread.advertises accepted).history = thread.history := by
  cases accepted <;> rfl

theorem history_starts (answer : Except Errno Unit) :
    (thread.starts answer).history = thread.history := by
  cases answer <;> rfl

end Records

end MainThread

section Records

open MainThread

variable {config : Config} {thread after : MainThread} {event : MainEvent}

theorem startStep_records (step : startStep thread event = some after) : thread.Records after := by
  unfold startStep at step
  split at step
  all_goals first
    | cases step; done
    | obtain rfl := Option.some.inj step
  · next phase => exact .calls rfl (phase ▸ rfl)
  · exact .quiet rfl
  · next phase => exact .calls (history_opens ..) (phase ▸ rfl)
  · next phase => exact .calls rfl (phase ▸ rfl)
  · exact .quiet rfl
  · next phase => exact .calls (history_identifies _) (phase ▸ rfl)
  · next phase => exact .calls (history_binds _) (phase ▸ rfl)
  · next phase => exact .calls (history_succeeds ..) (phase ▸ rfl)
  · next phase => exact .calls (history_succeeds ..) (phase ▸ rfl)
  · next phase => exact .calls (history_advertises _) (phase ▸ rfl)
  · next phase => exact .calls (history_starts _) (phase ▸ rfl)

theorem startStep_phase (step : startStep thread event = some after) :
    after.phase.part ≠ .out ∨ after.phase = .stopping := by
  unfold startStep at step
  split at step
  all_goals first
    | cases step; done
    | obtain rfl := Option.some.inj step
  all_goals
    simp only [MainThread.calls, goes, opens, identifies, binds, MainThread.succeeds, advertises,
      starts, fails]
    repeat' split
  all_goals simp [Phase.part, *]

/-- What a step of the command loop can do. -/
structure LoopMoves (thread after : MainThread) : Prop where
  keeps : thread.Keeps after
  records : thread.Records after
  phase : after.phase.part = .loop ∨ after.phase = .stopping

theorem MainThread.Serves.moves (serves : thread.Serves after) : LoopMoves thread after :=
  ⟨serves.keeps, .quiet serves.history, serves.phase⟩

theorem MainThread.Serves.calls {call : MainCall} (serves : thread.Serves after)
    (made : thread.phase.makes call = true) : LoopMoves thread (after.calls call) :=
  ⟨⟨serves.keeps.session, serves.keeps.bound, serves.keeps.advertised, serves.keeps.powerStarted⟩,
    .calls serves.history made, serves.phase⟩

theorem iterates_moves (finished : Option (Except Errno Unit)) :
    LoopMoves thread (thread.iterates finished) := by
  unfold MainThread.iterates
  split
  · exact (Serves.goes rfl rfl).moves
  · split
    · exact (Serves.fails _).moves
    · exact ⟨⟨rfl, rfl, rfl, rfl⟩, .quiet rfl, .inl rfl⟩

/-- The steps of the command loop: it ends, looks at the power worker, or serves. -/
inductive LoopCases (thread : MainThread) : MainEvent → MainThread → Prop
  | stops (looping : thread.phase = .looping) :
      LoopCases thread .stopSeen { thread with result := .ok (), phase := .stopping }
  | iterates {finished : Option (Except Errno Unit)} (looping : thread.phase = .looping) :
      LoopCases thread (.iterate finished) (thread.iterates finished)
  | controlled {dump : Option (List UInt8)} (controlling : thread.phase = .controlling) :
      LoopCases thread (.controlled dump) (thread.controls dump)
  | serves {event : MainEvent} {call : MainCall} {after : MainThread}
      (serves : thread.Serves after) (made : thread.phase.makes call = true)
      (elsewhere : thread.phase.isControlling = false) (other : event.createsPower = false) :
      LoopCases thread event (after.calls call)

theorem loopStep_cases (step : loopStep config thread event = some after) :
    LoopCases thread event after := by
  unfold loopStep at step
  split at step
  all_goals first
    | cases step; done
    | obtain rfl := Option.some.inj step
  · next phase => exact .stops phase
  · next phase => exact .iterates phase
  · next phase => exact .controlled phase
  · next phase => exact .serves (Serves.polls _) (phase ▸ rfl) (phase ▸ rfl) rfl
  · next phase => exact .serves (Serves.reads _ _) (phase ▸ rfl) (phase ▸ rfl) rfl
  · next phase =>
    exact .serves (Serves.composes _) (by simp [phase, Phase.makes]) (phase ▸ rfl) rfl
  · next phase =>
    exact .serves (Serves.writes phase _ _) (by simp [phase, Phase.makes]) (phase ▸ rfl) rfl
  · next phase =>
    exact .serves (Serves.publishes _) (by simp [phase, Phase.makes]) (phase ▸ rfl) rfl

theorem loopStep_moves (step : loopStep config thread event = some after) :
    LoopMoves thread after := by
  cases loopStep_cases step with
  | stops _ => exact ⟨⟨rfl, rfl, rfl, rfl⟩, .quiet rfl, .inr rfl⟩
  | iterates _ => exact iterates_moves _
  | @controlled dump phase =>
      cases dump with
      | none => exact (Serves.goes rfl rfl).moves
      | some value => exact (Serves.goes rfl rfl).calls (phase ▸ rfl)
  | serves serves made _ _ => exact serves.calls made

theorem part_joins (thread : MainThread) : thread.joins.part = .out := by
  unfold MainThread.joins
  split_ifs <;> rfl

theorem outStep_phase (step : outStep thread event = some after) : after.phase.part = .out := by
  unfold outStep at step
  split at step
  all_goals first
    | cases step; done
    | obtain rfl := Option.some.inj step
  · dsimp only [goes]
    split_ifs
    · rfl
    · exact part_joins thread
  · exact part_joins thread
  · rfl
  · dsimp only [goes]
    split_ifs <;> rfl
  · rfl
  · rfl
  · rfl

theorem outStep_keeps (step : outStep thread event = some after) : thread.Keeps after := by
  unfold outStep at step
  split at step
  all_goals first
    | cases step; done
    | obtain rfl := Option.some.inj step
  all_goals exact ⟨rfl, rfl, rfl, rfl⟩

theorem outStep_records (step : outStep thread event = some after) : thread.Records after := by
  unfold outStep at step
  split at step
  all_goals first
    | cases step; done
    | obtain rfl := Option.some.inj step
  · exact .quiet rfl
  · next phase => exact .calls rfl (phase ▸ rfl)
  · next phase => exact .calls rfl (phase ▸ rfl)
  · exact .quiet rfl
  · next phase => exact .calls rfl (phase ▸ rfl)
  · next phase => exact .calls rfl (phase ▸ rfl)
  · exact .quiet rfl

theorem mainStep_records (step : mainStep config thread event = some after) :
    thread.Records after := by
  unfold mainStep at step
  split at step
  · exact startStep_records step
  · exact (loopStep_moves step).records
  · exact outStep_records step

end Records

end K50sv1.WmtLauncher.Launcher.Main
