import K50sv1.WmtLauncher.Launcher.Shutdown

/-!
# Commands and replies on the bound session

Every frame that the launcher writes answers the command that it read last, on the session
that it bound; it is written again only after an interruption, and versions are published
only behind a frame that the device took as a whole.
-/

namespace K50sv1.WmtLauncher.Launcher.Main

open K50sv1.Transition
open K50sv1.WmtLauncher.Protocol

/-! ## An exchange -/

/-- The calls of an exchange up to a phase of it: the last command that was read, the
search for it, and the writes of one reply. -/
inductive Exchange (directory : List UInt8) (session : UInt64) : Phase → List MainCall → Prop
  | read {calls : List MainCall} {bytes : List UInt8} {previous command : WmtCommand}
      (decoded : wmtCommandDecode (some bytes) session (some previous) = (.ok (), some command)) :
      Exchange directory session (.handling command) (calls ++ [.read (.ok bytes)])
  | composed {calls : List MainCall} {command : WmtCommand} {environment : Environment}
      {frame : List UInt8} {versions : Versions}
      (exchange : Exchange directory session (.handling command) calls)
      (reply : Reply environment directory command frame versions) :
      Exchange directory session (.sending frame versions) (calls ++ [.search command])
  | interrupted {calls : List MainCall} {frame : List UInt8} {versions : Versions}
      (exchange : Exchange directory session (.sending frame versions) calls) :
      Exchange directory session (.sending frame versions)
        (calls ++ [.write frame (.error .eintr)])
  | accepted {calls : List MainCall} {frame : List UInt8}
      {version : VersionProperty × List UInt8} {rest : Versions}
      (exchange : Exchange directory session (.sending frame (version :: rest)) calls) :
      Exchange directory session (.publishing version rest)
        (calls ++ [.write frame (.ok frame.length)])
  | published {calls : List MainCall} {version next : VersionProperty × List UInt8}
      {rest : Versions}
      (exchange : Exchange directory session (.publishing version (next :: rest)) calls) :
      Exchange directory session (.publishing next rest)
        (calls ++ [.publish version.1 version.2])

/-- The phases inside an exchange. -/
def Phase.isExchange : Phase → Bool
  | .handling _ | .sending _ _ | .publishing _ _ => true
  | _ => false

/-- Frames are written and versions published only inside an exchange on the session that
was bound. -/
def AnswersInSession (directory : List UInt8) : List MainCall → Prop :=
  AtEach fun before call =>
    (∀ frame answer, call = .write frame answer → ∃ session versions,
      boundSessions before = [session] ∧
        Exchange directory session (.sending frame versions) before) ∧
    ∀ property value, call = .publish property value → ∃ session rest,
      boundSessions before = [session] ∧
        Exchange directory session (.publishing (property, value) rest) before

/-- The phases that have a session. -/
def Phase.hasSession : Phase → Bool
  | .selecting | .clearing | .advertising | .starting => true
  | phase => phase.part = .loop

theorem Phase.hasSession_of_part {phase : Phase} (part : phase.part = .loop) :
    phase.hasSession := by
  cases phase <;> first | rfl | cases part

theorem Phase.hasSession_eq_false {phase : Phase} (part : phase.part = .out) :
    phase.hasSession = false := by
  cases phase <;> first | rfl | cases part

theorem Phase.isExchange_eq_false {phase : Phase} (part : phase.part ≠ .loop) :
    phase.isExchange = false := by
  cases phase <;> first | rfl | exact absurd rfl part

/-- Inside an exchange the calls are those of the exchange. -/
def MainThread.Exchanges (directory : List UInt8) (thread : MainThread) : Prop :=
  thread.phase.isExchange →
    Exchange directory thread.session.sessionId thread.phase thread.history

structure Exchanging (directory : List UInt8) (thread : MainThread) : Prop where
  bound : thread.phase.hasSession → thread.bound = true
  exchanges : thread.Exchanges directory
  answers : AnswersInSession directory thread.history

theorem exchanging_initial (directory : List UInt8) : Exchanging directory .initial where
  bound := nofun
  exchanges := nofun
  answers := atEach_nil

section Steps

variable {config : Config} {thread after : MainThread} {event : MainEvent}

theorem hasSession_startStep (bound : thread.phase.hasSession → thread.bound = true)
    (step : startStep thread event = some after) :
    after.phase.hasSession → after.bound = true := by
  unfold startStep at step
  split at step
  all_goals first
    | cases step; done
    | obtain rfl := Option.some.inj step
  all_goals
    simp only [MainThread.calls, MainThread.goes, MainThread.opens, MainThread.identifies,
      MainThread.binds, MainThread.succeeds, MainThread.advertises, MainThread.starts,
      MainThread.fails]
    repeat' split
  all_goals simp_all [Phase.hasSession, Phase.part]

theorem isExchange_startStep (step : startStep thread event = some after) :
    after.phase.isExchange = false := by
  unfold startStep at step
  split at step
  all_goals first
    | cases step; done
    | obtain rfl := Option.some.inj step
  all_goals
    simp only [MainThread.calls, MainThread.goes, MainThread.opens, MainThread.identifies,
      MainThread.binds, MainThread.succeeds, MainThread.advertises, MainThread.starts,
      MainThread.fails]
    repeat' split
  all_goals simp_all [Phase.isExchange]

/-- A loop iteration that ends is no exchange. -/
theorem isExchange_discards (thread : MainThread) (errno : Errno) (call : MainCall) :
    ((thread.discards errno).calls call).phase.isExchange = false := by
  dsimp only [MainThread.calls, MainThread.discards]
  split_ifs <;> rfl

variable {directory : List UInt8} {call : MainCall}

theorem exchanges_of_isExchange (none : thread.phase.isExchange = false) :
    thread.Exchanges directory :=
  fun inside => absurd inside (by rw [none]; nofun)

theorem exchanges_reads (answer : Except Errno (List UInt8)) (previous : WmtCommand) :
    ((thread.reads answer previous).calls (.read answer)).Exchanges directory := by
  unfold MainThread.reads
  cases answer with
  | error errno =>
      apply exchanges_of_isExchange
      dsimp only [MainThread.calls]
      split_ifs <;> rfl
  | ok bytes =>
      rcases wmtCommandDecode_cases bytes thread.session.sessionId previous with
        ⟨-, decoded⟩ | ⟨-, errno, refused⟩
      · simp only [decoded]
        exact fun _ => .read decoded
      · simp only [refused]
        exact exchanges_of_isExchange rfl

theorem Exchange.decoded {session : UInt64} {calls : List MainCall} {command : WmtCommand}
    (exchange : Exchange directory session (.handling command) calls) : Decoded command := by
  cases exchange with
  | read decoded => exact ⟨_, _, _, decoded⟩

theorem exchanges_composes {command : WmtCommand} (environment : Environment)
    (exchange : Exchange directory thread.session.sessionId (.handling command) thread.history) :
    ((thread.composes (composeReply environment directory command)).calls
      (.search command)).Exchanges directory := by
  obtain ⟨frame, versions, composed, reply⟩ :=
    composeReply_reply environment directory exchange.decoded
  rw [composed]
  exact fun _ => .composed exchange reply

theorem exchanges_writes {frame : List UInt8} {versions : Versions}
    (phase : thread.phase = .sending frame versions)
    (exchange : Exchange directory thread.session.sessionId (.sending frame versions)
      thread.history)
    (answer : Except Errno Nat) (stopRequested : Bool) :
    ((thread.writes frame versions answer stopRequested).calls
      (.write frame answer)).Exchanges directory := by
  unfold MainThread.writes
  cases answer with
  | error errno =>
      dsimp only
      split_ifs with interrupted
      · obtain ⟨rfl, -⟩ := interrupted
        intro _
        rw [MainThread.calls, phase]
        exact .interrupted exchange
      · exact exchanges_of_isExchange (isExchange_discards ..)
  | ok written =>
      dsimp only
      split_ifs with whole
      · subst whole
        cases versions with
        | nil => exact exchanges_of_isExchange rfl
        | cons version rest => exact fun _ => .accepted exchange
      · exact exchanges_of_isExchange (isExchange_discards ..)

theorem exchanges_publishes {version : VersionProperty × List UInt8} {rest : Versions}
    (exchange : Exchange directory thread.session.sessionId (.publishing version rest)
      thread.history) :
    ((thread.publishes rest).calls (.publish version.1 version.2)).Exchanges directory := by
  cases rest with
  | nil => exact exchanges_of_isExchange rfl
  | cons next rest => exact fun _ => .published exchange

theorem exchanges_loopStep (exchanges : thread.Exchanges config.directory)
    (step : loopStep config thread event = some after) : after.Exchanges config.directory := by
  unfold MainThread.Exchanges at exchanges
  unfold loopStep at step
  split at step
  all_goals first
    | cases step; done
    | obtain rfl := Option.some.inj step
  · exact exchanges_of_isExchange rfl
  · apply exchanges_of_isExchange
    unfold MainThread.iterates
    repeat' split
    all_goals rfl
  · next dump _ =>
    apply exchanges_of_isExchange
    cases dump <;> rfl
  · apply exchanges_of_isExchange
    dsimp only [MainThread.calls, MainThread.polls]
    repeat' split
    all_goals rfl
  · exact exchanges_reads _ _
  · next phase =>
    rw [phase] at exchanges
    exact exchanges_composes _ (exchanges rfl)
  · next phase =>
    rw [phase] at exchanges
    exact exchanges_writes phase (exchanges rfl) _ _
  · next phase =>
    rw [phase] at exchanges
    exact exchanges_publishes (exchanges rfl)

theorem Phase.sending_of_makes {phase : Phase} {frame : List UInt8} {answer : Except Errno Nat}
    (makes : phase.makes (.write frame answer) = true) :
    ∃ versions, phase = .sending frame versions := by
  cases phase <;> simp_all [Phase.makes]

theorem Phase.publishing_of_makes {phase : Phase} {property : VersionProperty}
    {value : List UInt8} (makes : phase.makes (.publish property value) = true) :
    ∃ rest, phase = .publishing (property, value) rest := by
  cases phase <;> simp_all [Phase.makes]

/-- The calls that answer a command are made inside an exchange. -/
theorem AnswersInSession.concat {call : MainCall}
    (answers : AnswersInSession directory thread.history)
    (exchanges : thread.Exchanges directory)
    (session : thread.phase.isExchange →
      boundSessions thread.history = [thread.session.sessionId])
    (makes : thread.phase.makes call = true) :
    AnswersInSession directory (thread.history ++ [call]) := by
  unfold MainThread.Exchanges at exchanges
  refine AtEach.concat answers ⟨?_, ?_⟩
  · rintro frame answer rfl
    obtain ⟨versions, phase⟩ := Phase.sending_of_makes makes
    rw [phase] at exchanges session
    exact ⟨_, versions, session rfl, exchanges rfl⟩
  · rintro property value rfl
    obtain ⟨rest, phase⟩ := Phase.publishing_of_makes makes
    rw [phase] at exchanges session
    exact ⟨_, rest, session rfl, exchanges rfl⟩

theorem Exchanging.step (exchanging : Exchanging config.directory thread) (booked : Booked thread)
    (step : mainStep config thread event = some after) : Exchanging config.directory after := by
  have inSession : thread.phase.isExchange →
      boundSessions thread.history = [thread.session.sessionId] := by
    intro inside
    have part : thread.phase.part = .loop := by
      by_contra other
      rw [Phase.isExchange_eq_false other] at inside
      cases inside
    rw [booked.sessions, exchanging.bound (Phase.hasSession_of_part part)]
    rfl
  constructor
  case bound =>
    unfold mainStep at step
    split at step
    · exact hasSession_startStep exchanging.bound step
    · next part =>
      intro _
      rw [(loopStep_moves step).keeps.bound]
      exact exchanging.bound (Phase.hasSession_of_part part)
    · rw [Phase.hasSession_eq_false (outStep_phase step)]
      nofun
  case exchanges =>
    unfold mainStep at step
    split at step
    · exact exchanges_of_isExchange (isExchange_startStep step)
    · exact exchanges_loopStep exchanging.exchanges step
    · exact exchanges_of_isExchange (Phase.isExchange_eq_false (by rw [outStep_phase step]; nofun))
  case answers =>
    obtain ⟨call, history, made⟩ := mainStep_records step
    rw [history]
    cases call with
    | none => simpa using exchanging.answers
    | some call => exact exchanging.answers.concat exchanging.exchanges inSession (made call rfl)

end Steps

end K50sv1.WmtLauncher.Launcher.Main
