import K50sv1.WmtLauncher.Launcher.MainThread

/-!
# How the launcher takes everything back

Whatever `main` has done when it reaches the label `out`, it withdraws a bound session,
joins a created power worker, withdraws a readiness that was accepted and closes the
node, in this order, and it takes back nothing that it has not done.
-/

namespace K50sv1.WmtLauncher.Launcher.Main

open K50sv1.Transition

/-! ## What there is to take back -/

namespace MainCall

/-- The session that a call has bound. -/
def session? : MainCall → Option UInt64
  | .bind (.ok session) => some session.sessionId
  | _ => none

def createsPower : MainCall → Bool
  | .createPower (.ok ()) => true
  | _ => false

/-- Readiness is published and accepted. -/
def advertises : MainCall → Bool
  | .ready true accepted => accepted
  | _ => false

/-- The calls from the label `out` on. -/
def takesBack : MainCall → Bool
  | .ready false _ | .unbind _ | .joinPower _ | .close => true
  | _ => false

@[simp] theorem takesBack_ready (accepted : Bool) : takesBack (.ready false accepted) = true := rfl

@[simp] theorem takesBack_unbind (session : UInt64) : takesBack (.unbind session) = true := rfl

@[simp] theorem takesBack_joinPower (joined : Bool) : takesBack (.joinPower joined) = true := rfl

@[simp] theorem takesBack_close : takesBack .close = true := rfl

end MainCall

/-- The sessions bound by some calls. -/
def boundSessions (calls : List MainCall) : List UInt64 :=
  calls.filterMap MainCall.session?

/-- The calls that take back what other calls have done. -/
def takenBack (served : List MainCall) (joined accepted : Bool) : List MainCall :=
  (boundSessions served).map .unbind ++
    List.replicate (served.countP MainCall.createsPower) (.joinPower joined) ++
    List.replicate (served.countP MainCall.advertises) (.ready false accepted) ++ [.close]

@[simp]
theorem boundSessions_concat (calls : List MainCall) (call : MainCall) :
    boundSessions (calls ++ [call]) = boundSessions calls ++ call.session?.toList := by
  rw [boundSessions, List.filterMap_append, boundSessions]
  cases made : call.session? <;> simp [made]

/-- The phases that end with a bound session or before one. -/
def Phase.isUnbound : Phase → Bool
  | .waiting | .opening | .caching | .identifying | .binding | .abandoned _ => true
  | _ => false

def Phase.isUnadvertised : Phase → Bool
  | .selecting | .clearing | .advertising => true
  | phase => phase.isUnbound

def Phase.isUnstarted : Phase → Bool
  | .starting => true
  | phase => phase.isUnadvertised

/-- What `main` remembers is what it has done. -/
structure Booked (thread : MainThread) : Prop where
  sessions : boundSessions thread.history = if thread.bound then [thread.session.sessionId] else []
  created : thread.history.countP MainCall.createsPower = if thread.powerStarted then 1 else 0
  advertised : thread.history.countP MainCall.advertises = if thread.advertised then 1 else 0
  unbound : thread.phase.isUnbound → thread.bound = false
  unadvertised : thread.phase.isUnadvertised → thread.advertised = false
  unstarted : thread.phase.isUnstarted → thread.powerStarted = false

theorem booked_initial : Booked .initial where
  sessions := rfl
  created := rfl
  advertised := rfl
  unbound _ := rfl
  unadvertised _ := rfl
  unstarted _ := rfl

/-! ## It is remembered -/

/-- The call binds no session, creates no worker and publishes no readiness. -/
structure MainCall.Neutral (call : MainCall) : Prop where
  session : call.session? = none
  power : call.createsPower = false
  ready : call.advertises = false

/-- The phases whose calls leave something to take back. -/
def Phase.acquires : Phase → Bool
  | .binding | .advertising | .starting => true
  | _ => false

theorem Phase.neutral_of_makes {phase : Phase} {call : MainCall} (makes : phase.makes call = true)
    (other : phase.acquires = false) : call.Neutral := by
  unfold Phase.makes at makes
  split at makes
  all_goals first
    | exact ⟨rfl, rfl, rfl⟩
    | cases other
    | cases makes

theorem Phase.isUnadvertised_of_isUnbound {phase : Phase} (early : phase.isUnbound) :
    phase.isUnadvertised := by
  cases phase <;> first | rfl | cases early

theorem Phase.isUnstarted_of_isUnadvertised {phase : Phase} (early : phase.isUnadvertised) :
    phase.isUnstarted := by
  cases phase <;> first | rfl | cases early

/-- A step that keeps what is remembered and does not go back to an earlier phase. -/
structure MainThread.Idles (thread after : MainThread) : Prop where
  keeps : thread.Keeps after
  unbound : after.phase.isUnbound → thread.phase.isUnbound
  unadvertised : after.phase.isUnadvertised → thread.phase.isUnadvertised
  unstarted : after.phase.isUnstarted → thread.phase.isUnstarted

section Booked

variable {thread after : MainThread} {phase : Phase}

theorem MainThread.Idles.later (keeps : thread.Keeps after) (later : after.phase.part ≠ .start) :
    thread.Idles after := by
  refine ⟨keeps, ?_, ?_, ?_⟩
  all_goals
    revert later
    cases after.phase <;> simp [Phase.part, Phase.isUnbound, Phase.isUnadvertised,
      Phase.isUnstarted]

theorem MainThread.Idles.goes (early : thread.phase.isUnadvertised)
    (unbound : phase.isUnbound → thread.phase.isUnbound) : thread.Idles (thread.goes phase) :=
  ⟨⟨rfl, rfl, rfl, rfl⟩, unbound, fun _ => early,
    fun _ => Phase.isUnstarted_of_isUnadvertised early⟩

theorem MainThread.Idles.goes_unbound (early : thread.phase.isUnbound) :
    thread.Idles (thread.goes phase) :=
  .goes (Phase.isUnadvertised_of_isUnbound early) fun _ => early

theorem MainThread.Idles.fails (errno : Errno) : thread.Idles (thread.fails errno) :=
  .later ⟨rfl, rfl, rfl, rfl⟩ nofun

theorem MainThread.Idles.calls (idles : thread.Idles after) (call : MainCall) :
    thread.Idles (after.calls call) :=
  ⟨⟨idles.keeps.session, idles.keeps.bound, idles.keeps.advertised, idles.keeps.powerStarted⟩,
    idles.unbound, idles.unadvertised, idles.unstarted⟩

theorem MainThread.Idles.opens (early : thread.phase.isUnbound) (answer : Except Errno Unit)
    (stopRequested : Bool) : thread.Idles (thread.opens answer stopRequested) := by
  unfold MainThread.opens
  split
  · exact .goes_unbound early
  · split_ifs <;> exact .goes_unbound early

theorem MainThread.Idles.identifies (early : thread.phase.isUnbound) (answer : Except Errno Nat) :
    thread.Idles (thread.identifies answer) := by
  unfold MainThread.identifies
  split <;> split_ifs
  · exact .goes_unbound early
  · exact .fails _
  · exact .fails _
  · exact ⟨⟨rfl, rfl, rfl, rfl⟩, id, id, id⟩

theorem MainThread.Idles.succeeds {answer : Except Errno Unit}
    (success : thread.Idles (thread.goes phase)) : thread.Idles (thread.succeeds answer phase) := by
  cases answer with
  | ok => exact success
  | error errno => exact .fails errno

theorem Booked.idles (call : Option MainCall) (booked : Booked thread) (idles : thread.Idles after)
    (history : after.history = thread.history ++ call.toList)
    (neutral : ∀ made ∈ call, made.Neutral) : Booked after := by
  obtain ⟨⟨session, bound, advertised, powerStarted⟩, unbound, unadvertised, unstarted⟩ := idles
  have same : boundSessions after.history = boundSessions thread.history ∧
      after.history.countP MainCall.createsPower =
        thread.history.countP MainCall.createsPower ∧
      after.history.countP MainCall.advertises = thread.history.countP MainCall.advertises := by
    rw [history]
    cases call with
    | none => simp
    | some call =>
        obtain ⟨noSession, noPower, notReady⟩ := neutral call rfl
        simp [noSession, noPower, notReady]
  constructor
  case sessions => rw [same.1, bound, session, booked.sessions]
  case created => rw [same.2.1, powerStarted, booked.created]
  case advertised => rw [same.2.2, advertised, booked.advertised]
  case unbound => exact fun early => bound.trans (booked.unbound (unbound early))
  case unadvertised =>
    exact fun early => advertised.trans (booked.unadvertised (unadvertised early))
  case unstarted => exact fun early => powerStarted.trans (booked.unstarted (unstarted early))

theorem Booked.passes (booked : Booked thread) (other : thread.phase.acquires = false)
    (records : thread.Records after) (idles : thread.Idles after) : Booked after := by
  obtain ⟨call, history, made⟩ := records
  exact booked.idles call idles history fun call member =>
    Phase.neutral_of_makes (made call member) other

theorem Booked.fails {call : MainCall} (booked : Booked thread) (neutral : call.Neutral)
    (errno : Errno) : Booked ((thread.fails errno).calls call) := by
  refine booked.idles (some call) (.calls (.fails errno) call) rfl ?_
  rintro made ⟨⟩
  exact neutral

/-- The answer to the request for a session. -/
theorem Booked.binds (booked : Booked thread) (binding : thread.phase = .binding)
    (answer : Except Errno Session) : Booked ((thread.binds answer).calls (.bind answer)) := by
  cases answer with
  | error errno => exact booked.fails ⟨rfl, rfl, rfl⟩ errno
  | ok session =>
      have sessions := booked.sessions
      rw [booked.unbound (binding ▸ rfl)] at sessions
      let history := thread.history ++ [MainCall.bind (.ok session)]
      have bound : boundSessions history = [session.sessionId] := by
        rw [boundSessions_concat, sessions]
        rfl
      have created : history.countP MainCall.createsPower =
          if thread.powerStarted then 1 else 0 := by
        rw [List.countP_append, booked.created]
        rfl
      have advertised : history.countP MainCall.advertises =
          if thread.advertised then 1 else 0 := by
        rw [List.countP_append, booked.advertised]
        rfl
      have unadvertised := booked.unadvertised (binding ▸ rfl)
      have unstarted := booked.unstarted (binding ▸ rfl)
      dsimp only [MainThread.binds]
      split_ifs
      · exact ⟨bound, created, advertised, nofun, fun _ => unadvertised, fun _ => unstarted⟩
      · exact ⟨bound, created, advertised, nofun, nofun, nofun⟩

/-- The answer to the publication of readiness. -/
theorem Booked.advertises (booked : Booked thread) (advertising : thread.phase = .advertising)
    (accepted : Bool) : Booked ((thread.advertises accepted).calls (.ready true accepted)) := by
  cases accepted with
  | false => exact booked.fails ⟨rfl, rfl, rfl⟩ .eio
  | true =>
      have advertised := booked.advertised
      rw [booked.unadvertised (advertising ▸ rfl)] at advertised
      refine ⟨?_, ?_, ?_, nofun, nofun, fun _ => booked.unstarted (advertising ▸ rfl)⟩
      · rw [MainThread.calls, boundSessions_concat]
        exact (List.append_nil _).trans booked.sessions
      · rw [MainThread.calls, List.countP_append]
        exact booked.created
      · rw [MainThread.calls, List.countP_append]
        exact congrArg (· + 1) advertised

/-- The answer to the creation of the power worker. -/
theorem Booked.starts (booked : Booked thread) (starting : thread.phase = .starting)
    (answer : Except Errno Unit) : Booked ((thread.starts answer).calls (.createPower answer)) := by
  cases answer with
  | error errno => exact booked.fails ⟨rfl, rfl, rfl⟩ errno
  | ok =>
      have created := booked.created
      rw [booked.unstarted (starting ▸ rfl)] at created
      refine ⟨?_, ?_, ?_, nofun, nofun, nofun⟩
      · rw [MainThread.calls, boundSessions_concat]
        exact (List.append_nil _).trans booked.sessions
      · rw [MainThread.calls, List.countP_append]
        exact congrArg (· + 1) created
      · rw [MainThread.calls, List.countP_append]
        exact booked.advertised

theorem Booked.startStep {event : MainEvent} (booked : Booked thread)
    (step : startStep thread event = some after) : Booked after := by
  have records := startStep_records step
  unfold Main.startStep at step
  split at step
  all_goals first
    | cases step; done
    | obtain rfl := Option.some.inj step
  · next phase =>
    exact booked.passes (phase ▸ rfl) records (.calls (.goes_unbound (phase ▸ rfl)) _)
  · next phase => exact booked.passes (phase ▸ rfl) records (.goes_unbound (phase ▸ rfl))
  · next phase =>
    exact booked.passes (phase ▸ rfl) records (.calls (.opens (phase ▸ rfl) _ _) _)
  · next phase =>
    exact booked.passes (phase ▸ rfl) records (.calls (.goes_unbound (phase ▸ rfl)) _)
  · next phase => exact booked.passes (phase ▸ rfl) records (.fails _)
  · next phase =>
    exact booked.passes (phase ▸ rfl) records (.calls (.identifies (phase ▸ rfl) _) _)
  · next phase => exact booked.binds phase _
  · next phase =>
    exact booked.passes (phase ▸ rfl) records
      (.calls (.succeeds (.goes (phase ▸ rfl) (by exact nofun))) _)
  · next phase =>
    exact booked.passes (phase ▸ rfl) records
      (.calls (.succeeds (.goes (phase ▸ rfl) (by exact nofun))) _)
  · next phase => exact booked.advertises phase _
  · next phase => exact booked.starts phase _

theorem Phase.acquires_eq_false (later : phase.part ≠ .start) : phase.acquires = false := by
  cases phase <;> first | rfl | exact absurd rfl later

theorem Booked.step {config : Config} {event : MainEvent} (booked : Booked thread)
    (step : mainStep config thread event = some after) : Booked after := by
  have records := mainStep_records step
  unfold mainStep at step
  split at step
  · exact booked.startStep step
  · next part =>
    have moves := loopStep_moves step
    refine booked.passes (Phase.acquires_eq_false (by rw [part]; nofun)) records
      (.later moves.keeps ?_)
    rcases moves.phase with loop | stopping
    · rw [loop]
      nofun
    · rw [stopping]
      nofun
  · next part =>
    refine booked.passes (Phase.acquires_eq_false (by rw [part]; nofun)) records
      (.later (outStep_keeps step) ?_)
    rw [outStep_phase step]
    nofun

end Booked

/-! ## It is taken back -/

/-- What has been taken back at a phase after the label `out`, if the power worker was
joined and readiness withdrawn with these results. -/
def MainThread.undone (thread : MainThread) (joined accepted : Bool) : List MainCall :=
  let unbinds := if thread.bound then [.unbind thread.session.sessionId] else []
  let joins := if thread.powerStarted then [.joinPower joined] else []
  let withdraws := if thread.advertised then [.ready false accepted] else []
  match thread.phase with
  | .joining => unbinds
  | .disabling | .withdrawing => unbinds ++ joins
  | .closing => unbinds ++ joins ++ withdraws
  | .returning | .exited _ => unbinds ++ joins ++ withdraws ++ [.close]
  | _ => []

/-- The calls of `main` are the calls before the label `out` and what takes them back. -/
structure Undone (thread : MainThread) : Prop where
  calls : ∃ served joined accepted, thread.history = served ++ thread.undone joined accepted ∧
    ∀ call ∈ served, call.takesBack = false
  unbinding : thread.phase = .unbinding → thread.bound = true
  joining : thread.phase = .joining → thread.powerStarted = true
  withdrawing : thread.phase = .withdrawing → thread.advertised = true

theorem undone_initial : Undone .initial where
  calls := ⟨[], false, false, rfl, nofun⟩
  unbinding := nofun
  joining := nofun
  withdrawing := nofun

section Undone

variable {thread after : MainThread} {phase : Phase}

theorem Phase.takesBack_of_makes {call : MainCall} (makes : phase.makes call = true)
    (before : phase.part ≠ .out) : call.takesBack = false := by
  unfold Phase.makes at makes
  split at makes
  all_goals first
    | rfl
    | exact absurd rfl before
    | cases makes

theorem MainThread.undone_eq_nil (before : thread.phase.part ≠ .out ∨ thread.phase = .stopping)
    (joined accepted : Bool) : thread.undone joined accepted = [] := by
  obtain ⟨phase, _⟩ := thread
  cases phase <;> first | rfl | simp [Phase.part] at before

/-- Nothing is taken back before the label `out`. -/
theorem Undone.before (undone : Undone thread) (part : thread.phase.part ≠ .out)
    (records : thread.Records after)
    (phase : after.phase.part ≠ .out ∨ after.phase = .stopping) : Undone after := by
  obtain ⟨served, joined, accepted, history, serving⟩ := undone.calls
  obtain ⟨call, grown, made⟩ := records
  rw [thread.undone_eq_nil (.inl part), List.append_nil] at history
  refine ⟨⟨after.history, joined, accepted, ?_, ?_⟩, ?_, ?_, ?_⟩
  · rw [after.undone_eq_nil phase, List.append_nil]
  · rw [grown, history]
    intro other member
    rcases List.mem_append.mp member with earlier | last
    · exact serving other earlier
    · exact Phase.takesBack_of_makes (made other (Option.mem_toList.mp last)) part
  all_goals
    intro entered
    rw [entered] at phase
    simp [Phase.part] at phase

theorem Undone.outStep {event : MainEvent} (undone : Undone thread)
    (step : outStep thread event = some after) : Undone after := by
  obtain ⟨⟨served, joined, accepted, history, serving⟩, unbinding, joining, withdrawing⟩ := undone
  obtain ⟨phase, session, bound, advertised, powerStarted, powerChecked, result, calls⟩ := thread
  unfold Main.outStep at step
  dsimp only at *
  split at step
  all_goals first
    | cases step; done
    | obtain rfl := Option.some.inj step
  case h_1 =>
    refine ⟨⟨served, joined, accepted, ?_, serving⟩, ?_, ?_, ?_⟩ <;>
      cases bound <;> cases powerStarted <;>
      simp [MainThread.goes, MainThread.joins, MainThread.undone, history]
  case h_2 =>
    obtain rfl := unbinding rfl
    refine ⟨⟨served, joined, accepted, ?_, serving⟩, ?_, ?_, ?_⟩ <;> cases powerStarted <;>
      simp [MainThread.goes, MainThread.joins, MainThread.calls, MainThread.undone, history]
  case h_3 joined' =>
    obtain rfl := joining rfl
    refine ⟨⟨served, joined', accepted, ?_, serving⟩, ?_, ?_, ?_⟩ <;>
      simp [MainThread.goes, MainThread.calls, MainThread.undone, history]
  case h_4 =>
    refine ⟨⟨served, joined, accepted, ?_, serving⟩, ?_, ?_, ?_⟩ <;> cases advertised <;>
      simp [MainThread.goes, MainThread.undone, history]
  case h_5 accepted' =>
    obtain rfl := withdrawing rfl
    refine ⟨⟨served, joined, accepted', ?_, serving⟩, ?_, ?_, ?_⟩ <;>
      simp [MainThread.goes, MainThread.calls, MainThread.undone, history]
  case h_6 =>
    refine ⟨⟨served, joined, accepted, ?_, serving⟩, ?_, ?_, ?_⟩ <;>
      simp [MainThread.goes, MainThread.calls, MainThread.undone, history]
  case h_7 =>
    refine ⟨⟨served, joined, accepted, history, serving⟩, ?_, ?_, ?_⟩
    all_goals
      intro other
      cases other

theorem Undone.step {config : Config} {event : MainEvent} (undone : Undone thread)
    (step : mainStep config thread event = some after) : Undone after := by
  have records := mainStep_records step
  unfold mainStep at step
  split at step
  · next part =>
    exact undone.before (by rw [part]; nofun) records (startStep_phase step)
  · next part =>
    refine undone.before (by rw [part]; nofun) records ?_
    exact (loopStep_moves step).phase.imp_left fun loop => by rw [loop]; nofun
  · exact undone.outStep step

end Undone

theorem MainCall.neutral_of_takesBack {call : MainCall} (takesBack : call.takesBack) :
    call.Neutral := by
  cases call with
  | ready ready accepted =>
      cases ready with
      | false => exact ⟨rfl, rfl, rfl⟩
      | true => cases takesBack
  | _ => first | exact ⟨rfl, rfl, rfl⟩ | cases takesBack

theorem MainThread.takesBack_undone {thread : MainThread} {status : Nat}
    (exited : thread.phase = .exited status) (joined accepted : Bool) :
    ∀ call ∈ thread.undone joined accepted, call.takesBack := by
  rw [MainThread.undone, exited]
  cases thread.bound <;> cases thread.powerStarted <;> cases thread.advertised <;> simp

/-- What takes back leaves nothing to take back. -/
theorem append_takesBack (served : List MainCall) {undoing : List MainCall}
    (takesBack : ∀ call ∈ undoing, call.takesBack) :
    boundSessions (served ++ undoing) = boundSessions served ∧
      (served ++ undoing).countP MainCall.createsPower = served.countP MainCall.createsPower ∧
      (served ++ undoing).countP MainCall.advertises = served.countP MainCall.advertises := by
  have neutral : ∀ call ∈ undoing, call.Neutral := fun call member =>
    MainCall.neutral_of_takesBack (takesBack call member)
  refine ⟨?_, ?_, ?_⟩
  · have none : undoing.filterMap MainCall.session? = [] :=
      List.filterMap_eq_nil_iff.mpr fun call member => (neutral call member).session
    rw [boundSessions, List.filterMap_append, none, List.append_nil, boundSessions]
  · have none : undoing.countP MainCall.createsPower = 0 :=
      List.countP_eq_zero.mpr fun call member => by simp [(neutral call member).power]
    rw [List.countP_append, none, Nat.add_zero]
  · have none : undoing.countP MainCall.advertises = 0 :=
      List.countP_eq_zero.mpr fun call member => by simp [(neutral call member).ready]
    rw [List.countP_append, none, Nat.add_zero]

/-- When `main` has returned, its calls end with those that take back the others. -/
theorem takenBack_of_exited {thread : MainThread} {status : Nat} (booked : Booked thread)
    (undone : Undone thread) (exited : thread.phase = .exited status) :
    ∃ served joined accepted, thread.history = served ++ takenBack served joined accepted ∧
      ∀ call ∈ served, call.takesBack = false := by
  obtain ⟨served, joined, accepted, history, serving⟩ := undone.calls
  refine ⟨served, joined, accepted, ?_, serving⟩
  obtain ⟨sessions, created, ready⟩ :=
    append_takesBack served (MainThread.takesBack_undone exited joined accepted)
  rw [← history] at sessions created ready
  rw [history, takenBack, ← sessions, ← created, ← ready, booked.sessions, booked.created,
    booked.advertised, MainThread.undone, exited]
  cases thread.bound <;> cases thread.powerStarted <;> cases thread.advertised <;> rfl

end K50sv1.WmtLauncher.Launcher.Main
