import K50sv1.WmtLauncher.Launcher.Lifetime

/-!
# What the launcher guarantees

Statements about the one history of the process, for every order in which the threads
move, every answer of the device and of the properties, and a stop at any time.
-/

namespace K50sv1.WmtLauncher.Launcher.Main

open K50sv1.Transition
open K50sv1.WmtLauncher.Launcher.Power
open K50sv1.WmtLauncher.Protocol

section Members

variable {history : List Call}

@[simp]
theorem mem_mainCalls {call : MainCall} : call ∈ mainCalls history ↔ .main call ∈ history := by
  rw [mainCalls, List.mem_filterMap]
  constructor
  · rintro ⟨made, member, shown⟩
    cases made <;> cases shown
    exact member
  · exact fun member => ⟨_, member, rfl⟩

@[simp]
theorem mem_powerCalls {call : PowerCall} : call ∈ powerCalls history ↔ .power call ∈ history := by
  rw [powerCalls, List.mem_filterMap]
  constructor
  · rintro ⟨made, member, shown⟩
    cases made <;> cases shown
    exact member
  · exact fun member => ⟨_, member, rfl⟩

@[simp]
theorem mem_logCalls {call : LogCall} : call ∈ logCalls history ↔ .log call ∈ history := by
  rw [logCalls, List.mem_filterMap]
  constructor
  · rintro ⟨made, member, shown⟩
    cases made <;> cases shown
    exact member
  · exact fun member => ⟨_, member, rfl⟩

end Members

/-- A statement about each call and the calls before it holds of every history, if it
holds at every step. -/
theorem atEach_of_reachable {config : Config} {process : Process} {Q : List Call → Call → Prop}
    (reachable : Reachable (processStep config) (.initial config) process)
    (each : ∀ before after call, Threads config before → Joint before → Threads config after →
      Joint after → before.Records after (some call) → Q before.history call) :
    AtEach Q process.history := by
  refine (reachable.invariant (I := fun process =>
    (Threads config process ∧ Joint process) ∧ AtEach Q process.history)
    ⟨⟨threads_initial config, joint_initial config⟩, atEach_nil⟩ ?_).2
  rintro before event after ⟨⟨threads, joint⟩, earlier⟩ step
  have threadsAfter := threads.step step
  have jointAfter := joint.step threads step
  refine ⟨⟨threadsAfter, jointAfter⟩, ?_⟩
  obtain ⟨call, records⟩ := processStep_records step
  rw [records.history]
  cases call with
  | none => simpa using earlier
  | some call =>
      exact earlier.concat (each before after call threads joint threadsAfter jointAfter records)

/-! ## The order of a start -/

/-- What has to have happened before a call. -/
def InOrder (before : List Call) : Call → Prop
  | .main (.ready true _) => ∃ session, Prepared session (mainCalls before)
  | .power (.request _) =>
      .main (.ready true true) ∈ before ∧ .power (.answered (.ok 0)) ∉ before
  | .main (.dump _) | .log _ => .power (.answered (.ok 0)) ∈ before
  | _ => True

section Order

variable {config : Config} {process after : Process}

theorem Joint.powerStarted (joint : Joint process) (worker : process.power.worker ≠ .absent) :
    process.main.powerStarted = true := by
  by_contra unstarted
  exact worker (joint.unstarted (Bool.eq_false_iff.mpr unstarted))

/-- After a call on the firmware log the power worker is known to have succeeded. -/
theorem Joint.success_of_log {call : LogCall} (joint : Joint after)
    (records : process.Records after (some (.log call))) :
    .answered (.ok 0) ∈ process.power.history := by
  have checked : after.main.powerChecked = true := by
    by_contra unchecked
    have none := (joint.untouched (Bool.eq_false_iff.mpr unchecked)).history
    simp [records.log, Call.log?] at none
  simpa [records.power, Call.power?] using joint.checked checked

theorem Phase.advertising_of_makes {phase : Phase} {accepted : Bool}
    (makes : phase.makes (.ready true accepted) = true) : phase = .advertising := by
  cases phase <;> simp_all [Phase.makes]

theorem Phase.isControlling_of_makes {phase : Phase} {value : List UInt8}
    (makes : phase.makes (.dump value) = true) : phase.isControlling = true := by
  cases phase <;> simp_all [Phase.makes, Phase.isControlling]

theorem ne_absent_of_isBusy {worker : Power.Phase} (busy : isBusy worker = true) :
    worker ≠ .absent := by
  rintro rfl
  cases busy

end Order

/-- The launcher starts in one order whatever the threads do: readiness is published only
once the driver is ready, the chip is supported and a session is bound on the terms of the
protocol; power is requested only after readiness was accepted; and the firmware log and
the dump are touched only after a request for power has succeeded, after which none is
made. -/
theorem start_order (config : Config) (process : Process)
    (reachable : Reachable (processStep config) (.initial config) process) :
    AtEach InOrder process.history := by
  refine atEach_of_reachable reachable ?_
  intro before after call threads joint threadsAfter jointAfter records
  have makes := records.makes call rfl
  unfold InOrder
  split
  · -- readiness is published at the end of the grammar of a start
    have setUp := threads.started.setUp
    rw [SetUp, Phase.advertising_of_makes makes] at setUp
    exact ⟨_, threads.linked.main.symm ▸ setUp⟩
  · have started := joint.powerStarted (ne_absent_of_isBusy (makes.resolve_left (by simp)))
    have unsuccessful := threadsAfter.power.success
    rw [records.power] at unsuccessful
    rw [← mem_mainCalls, ← mem_powerCalls, threads.linked.main, threads.linked.power]
    exact ⟨joint.advertised (.inr started), SuccessIsLast.not_mem unsuccessful⟩
  · rw [← mem_powerCalls, threads.linked.power]
    exact joint.checked (joint.controlling (Phase.isControlling_of_makes makes))
  · rw [← mem_powerCalls, threads.linked.power]
    exact jointAfter.success_of_log records
  · trivial

/-- A session on the terms of the protocol. -/
def Session.onTerms (sessionId : UInt64) : Session where
  version := wmtCmd2Version.toUInt32
  action := 1
  sessionId
  maxReadBytes := wmtCmd2ReadMax.toUInt32
  maxWriteBytes := wmtCmd2WriteMax.toUInt32
  flags := 0
  reserved := 0

/-- Power succeeds at the first attempt, the firmware log is enabled, and a signal stops
the service while its worker is inside a request. -/
def stoppedRun : List ProcessEvent :=
  [.main (.driverReady yes), .main (.openNode (.ok ()) false), .main (.cached (ascii "0x6755")),
    .main (.bind (.ok (.onTerms 7))), .main (.setHif (.ok ())), .main (.killClear (.ok ())),
    .main (.advertise true), .main (.createPower (.ok ())), .power .worker, .power .worker,
    .main (.iterate none), .power .worker, .main (.poll (.ok ⟨false, false⟩)),
    .power (.answer (.ok 0)), .power .worker, .main (.iterate (some (.ok ()))), .log (.check yes),
    .log .main, .log .main, .log .main, .log (.create 3 true), .log (.worker 3), .log .main,
    .log (.worker 3), .log (.dump [] true), .signal, .main (.poll (.error .eintr)),
    .main .stopSeen, .main .stop, .main .unbind, .main (.joinPower true), .log .shutdown,
    .log .main, .log .main, .log (.drained 3 true), .log (.worker 3), .log (.worker 3),
    .log (.worker 3), .log (.join true), .log (.disable true), .main .disabled,
    .main (.withdraw true), .main .close, .main (.exit true)]

theorem start_order_stopped :
    ∃ process, Runs (processStep .initial) (.initial .initial) stoppedRun process ∧
      .log (.fwlog 1) ∈ process.history ∧ AtEach InOrder process.history := by
  have run : Runs (processStep .initial) (.initial .initial) stoppedRun _ :=
    runs_get (by decide +kernel)
  exact ⟨_, run, by decide +kernel, start_order .initial _ run.reachable⟩

/-! ## The descriptor -/

/-- The calls on the descriptor of the node, its closing among them. -/
def MainCall.usesNode : MainCall → Bool
  | .chipId _ | .bind _ | .setHif _ | .killClear _ | .dump _ | .poll | .read _ | .search _
  | .write _ _ | .unbind _ | .close => true
  | _ => false

def Call.usesNode : Call → Bool
  | .main call => call.usesNode
  | .power (.request _) => true
  | .log (.fwlog _) => true
  | _ => false

/-- No `pthread_join` has failed. -/
def Rejoined (history : List Call) : Prop :=
  .main (.joinPower false) ∉ history ∧ .log .joinFailed ∉ history

section Node

variable {config : Config} {process after : Process}

/-- The phases after the descriptor is closed. -/
def Phase.isClosed : Phase → Bool
  | .returning | .exited _ => true
  | _ => false

theorem Undone.isClosed {thread : MainThread} (undone : Undone thread)
    (closed : .close ∈ thread.history) : thread.phase.isClosed := by
  obtain ⟨served, joined, accepted, history, serving⟩ := undone.calls
  rw [history, List.mem_append] at closed
  rcases closed with early | late
  · cases serving _ early
  · obtain ⟨phase, _⟩ := thread
    unfold MainThread.undone at late
    cases phase <;> first | rfl | simp at late

theorem Phase.isUnopened_of_makes {phase : Phase} {call : MainCall}
    (makes : phase.makes call = true) (uses : call.usesNode = true) :
    phase.isUnopened = false ∧ phase.isClosed = false := by
  unfold Phase.makes at makes
  split at makes
  all_goals first
    | exact ⟨rfl, rfl⟩
    | cases uses
    | cases makes

/-- The node is open while there is a power worker. -/
theorem Joint.opened_of_powerStarted (joint : Joint process) (booked : Booked process.main)
    (started : process.main.powerStarted = true) :
    .openNode (.ok ()) ∈ process.main.history := by
  apply joint.opened
  by_contra unopened
  have unstarted : process.main.phase.isUnstarted := by
    revert unopened
    cases process.main.phase <;> simp [Phase.isUnopened, Phase.isUnstarted, Phase.isUnadvertised,
      Phase.isUnbound]
  rw [booked.unstarted unstarted] at started
  cases started

theorem Joint.powerStarted_of_success (joint : Joint process)
    (sound : Sound config.argument process.power)
    (success : .answered (.ok 0) ∈ process.power.history) : process.main.powerStarted = true := by
  refine joint.powerStarted fun absent => ?_
  exact sound.unsuccessful (by rw [absent]; rfl) success

/-- When the node is closed the workers are gone, unless a join has failed. -/
theorem Joint.idle_of_close (joint : Joint process) (threads : Threads config process)
    (closed : .main .close ∈ process.history) (rejoined : Rejoined process.history) :
    isBusy process.power.worker = false ∧
      process.logging.main = .stopped ∧ process.logging.threads = [] := by
  rw [Rejoined, ← mem_mainCalls, ← mem_logCalls, threads.linked.main,
    threads.linked.log] at rejoined
  rw [← mem_mainCalls, threads.linked.main] at closed
  have isClosed := threads.undone.isClosed closed
  obtain ⟨isJoined, isDisabled⟩ :
      process.main.phase.isJoined = true ∧ process.main.phase.isDisabled = true := by
    revert isClosed
    cases process.main.phase <;> simp [Phase.isClosed, Phase.isJoined, Phase.isDisabled]
  have stopped := joint.stopped isDisabled
  refine ⟨?_, stopped, (threads.owed.stopped stopped rejoined.2).1⟩
  cases started : process.main.powerStarted with
  | false => rw [joint.unstarted started]; rfl
  | true => rw [(joint.joined isJoined started).resolve_right rejoined.1]; rfl

end Node

/-- No thread uses the descriptor of the node before it is open, and unless a join has
failed none uses it after it is closed; no request is under way when it is closed. -/
theorem node_lifetime (config : Config) (process : Process)
    (reachable : Reachable (processStep config) (.initial config) process) :
    AtEach (fun before call => call.usesNode = true →
      .main (.openNode (.ok ())) ∈ before ∧
        (Rejoined before → .main .close ∉ before)) process.history ∧
    (.main .close ∈ process.history → Rejoined process.history →
      isBusy process.power.worker = false ∧ process.logging.workers = []) := by
  constructor
  · refine atEach_of_reachable reachable ?_
    intro before after call threads joint threadsAfter jointAfter records uses
    have makes := records.makes call rfl
    rw [← mem_mainCalls, threads.linked.main]
    cases call with
    | main call =>
        obtain ⟨opened, notClosed⟩ := Phase.isUnopened_of_makes makes uses
        refine ⟨joint.opened opened, fun _ closed => ?_⟩
        rw [← mem_mainCalls, threads.linked.main] at closed
        rw [threads.undone.isClosed closed] at notClosed
        cases notClosed
    | power call =>
        cases call with
        | request argument =>
            have busy := makes.resolve_left nofun
            have started := joint.powerStarted (ne_absent_of_isBusy busy)
            refine ⟨joint.opened_of_powerStarted threads.booked started, fun rejoined closed => ?_⟩
            rw [(joint.idle_of_close threads closed rejoined).1] at busy
            cases busy
        | answered | stop => cases uses
    | log call =>
        have started := joint.powerStarted_of_success threads.power
          (jointAfter.success_of_log records)
        refine ⟨joint.opened_of_powerStarted threads.booked started, fun rejoined closed => ?_⟩
        obtain ⟨-, stopped, none⟩ := joint.idle_of_close threads closed rejoined
        exact makes.elim (· stopped) (· none)
  · intro closed rejoined
    obtain ⟨idle, -, none⟩ := (Joint.of_reachable reachable).idle_of_close
      (Threads.of_reachable reachable) closed rejoined
    exact ⟨idle, List.map_eq_nil_iff.mp none⟩

theorem node_lifetime_stopped :
    ∃ process, Runs (processStep .initial) (.initial .initial) stoppedRun process ∧
      .main .close ∈ process.history ∧
      isBusy process.power.worker = false ∧ process.logging.workers = [] := by
  have run : Runs (processStep .initial) (.initial .initial) stoppedRun _ :=
    runs_get (by decide +kernel)
  exact ⟨_, run, by decide +kernel, (node_lifetime .initial _ run.reachable).2 (by decide +kernel)
    ⟨by decide +kernel, by decide +kernel⟩⟩

/-! ## Power -/

section Power

variable {config : Config} {process : Process}

theorem Phase.isStopped_of_makes {phase : Phase} {call : MainCall}
    (makes : phase.makes call = true) (takesBack : call.takesBack = true) :
    phase.isStopped = true := by
  unfold Phase.makes at makes
  split at makes
  all_goals first
    | rfl
    | cases takesBack
    | cases makes

/-- `main` takes something back only after it has told the power worker to stop. -/
theorem stop_before_takesBack
    (reachable : Reachable (processStep config) (.initial config) process) :
    AtEach (fun before call => ∀ taken, call = .main taken → taken.takesBack = true →
      .power .stop ∈ before) process.history := by
  refine atEach_of_reachable reachable ?_
  rintro before after call threads joint threadsAfter jointAfter records taken rfl takesBack
  rw [← mem_powerCalls, threads.linked.power]
  exact joint.stopping (Phase.isStopped_of_makes (records.makes _ rfl) takesBack)

theorem length_requests_append (first : List Call) (call : Call) (second : List Call) :
    (requests (powerCalls second)).length ≤
      (requests (powerCalls (first ++ call :: second))).length := by
  rw [← List.singleton_append, ← List.append_assoc, powerCalls, powerCalls,
    List.filterMap_append, requests, requests, List.filterMap_append, List.length_append]
  exact Nat.le_add_left _ _

end Power

/-- Power is requested at most twenty times, with the argument that the options select, and
each request but the last is undone before the next.  No request follows one that
succeeded; at most one follows the end of the command loop, whatever the worker was doing;
and the result that the main thread looks at is a success exactly if a request
succeeded. -/
theorem power_protocol (config : Config) (process : Process)
    (reachable : Reachable (processStep config) (.initial config) process) :
    Attempts config.argument (requests (powerCalls process.history)) ∧
    AfterEach (fun call later =>
      (call = .power (.answered (.ok 0)) → requests (powerCalls later) = []) ∧
      ((call = .power .stop ∨ ∃ taken, call = .main taken ∧ taken.takesBack = true) →
        (requests (powerCalls later)).length ≤ 1)) process.history ∧
    (process.power.task.finished = true →
      (process.power.task.result = .ok () ↔ .power (.answered (.ok 0)) ∈ process.history)) := by
  have threads := Threads.of_reachable reachable
  have sound := threads.power
  have success : AfterEach _ process.history :=
    AfterEach.of_filterMap (threads.linked.power.symm ▸ sound.success)
  have stops : AfterEach _ process.history :=
    AfterEach.of_filterMap (threads.linked.power.symm ▸ sound.stopsWithin)
  refine ⟨?_, ?_, ?_⟩
  · rw [threads.linked.power]
    exact sound.issued.attempts
  · intro front call back split
    refine ⟨?_, ?_⟩
    · rintro rfl
      exact success front _ back split _ rfl rfl
    · rintro (rfl | ⟨taken, rfl, takesBack⟩)
      · exact stops front _ back split _ rfl rfl
      · have stopped := stop_before_takesBack reachable front _ back split taken rfl takesBack
        obtain ⟨early, middle, rfl⟩ := List.append_of_mem stopped
        have few := stops early (.power .stop) (middle ++ .main taken :: back) (by simp [split]) _
          rfl rfl
        exact Nat.le_trans (length_requests_append middle (.main taken) back) few
  · intro finished
    rw [← mem_powerCalls, threads.linked.power]
    exact sound.result_of_finished finished

theorem power_protocol_stopped :
    ∃ process, Runs (processStep .initial) (.initial .initial) stoppedRun process ∧
      requests (powerCalls process.history) = [1] ∧
      .power (.answered (.ok 0)) ∈ process.history := by
  have run : Runs (processStep .initial) (.initial .initial) stoppedRun _ :=
    runs_get (by decide +kernel)
  exact ⟨_, run, by decide +kernel,
    ((power_protocol .initial _ run.reachable).2.2 (by decide +kernel)).mp (by decide +kernel)⟩

/-! ## Replies -/

/-- Every frame that is written, and every version that is published, belongs to a reply to
the command that was read last, decoded for the session that was bound; a frame is written
again only when its writing was interrupted, and versions are published only behind a
frame that was accepted. -/
theorem replies_in_session (config : Config) (process : Process)
    (reachable : Reachable (processStep config) (.initial config) process) :
    AnswersInSession config.directory (mainCalls process.history) := by
  have threads := Threads.of_reachable reachable
  rw [threads.linked.main]
  exact threads.exchanging.answers

/-- A command for a chip that is not known is answered with a status, at the second
attempt to write. -/
def answeredRun : List ProcessEvent :=
  [.main (.driverReady yes), .main (.openNode (.ok ()) false), .main (.cached (ascii "0x6755")),
    .main (.bind (.ok (.onTerms 7))), .main (.setHif (.ok ())), .main (.killClear (.ok ())),
    .main (.advertise true), .main (.createPower (.ok ())), .main (.iterate none),
    .main (.poll (.ok ⟨false, true⟩)),
    .main (.read (.ok (commandFrame 7 9 (ascii "srh_patch"))) ⟨0, 0, .zero _⟩),
    .main (.search
      { chip := .ok 0x6580
        version := .ok 0x8a00
        search := .ofEntries [] []
        writes := []
        stack := .zero _ }),
    .main (.write (.error .eintr) false), .main (.write (.ok 32) false)]

theorem replies_in_session_answered :
    ∃ process, Runs (processStep .initial) (.initial .initial) answeredRun process ∧
      (∃ frame, .write frame (.ok 32) ∈ mainCalls process.history) ∧
      AnswersInSession (ascii "/vendor/firmware/") (mainCalls process.history) := by
  have run : Runs (processStep .initial) (.initial .initial) answeredRun _ :=
    runs_get (by decide +kernel)
  let command : WmtCommand := ⟨7, 9, .fill 256 (ascii "srh_patch")⟩
  exact ⟨_, run, ⟨(replyHeaderOf command wmtCmd2Status 0 Errno.enodev.result).bytes,
    by decide +kernel⟩, replies_in_session .initial _ run.reachable⟩

/-! ## The end -/

/-- What `main` returns. -/
structure Reported (process : Process) : Prop where
  result : process.main.result = .ok () → process.stopRequested = true
  status : ∀ status, process.main.phase = .exited status ∨ process.main.phase = .abandoned status →
    status = if process.stopRequested then 0 else 1

section Status

variable {config : Config} {thread after : MainThread} {event : MainEvent} {status : Nat}

theorem mainStep_result (step : mainStep config thread event = some after)
    (succeeded : after.result = .ok ()) : thread.result = .ok () ∨ event = .stopSeen := by
  unfold mainStep at step
  split at step
  · left
    unfold startStep at step
    split at step
    all_goals first
      | cases step; done
      | obtain rfl := Option.some.inj step
    all_goals
      revert succeeded
      simp only [MainThread.calls, MainThread.goes, MainThread.opens, MainThread.identifies,
        MainThread.binds, MainThread.succeeds, MainThread.advertises, MainThread.starts,
        MainThread.fails]
      repeat' split
    all_goals simp
  · cases loopStep_cases step with
    | stops _ => exact .inr rfl
    | @iterates finished _ =>
        left
        revert succeeded
        unfold MainThread.iterates
        repeat' split
        all_goals simp [MainThread.goes, MainThread.fails]
    | @controlled dump _ => cases dump <;> exact .inl succeeded
    | serves serves _ _ _ => exact .inl (serves.result succeeded)
  · left
    unfold outStep at step
    split at step
    all_goals first
      | cases step; done
      | obtain rfl := Option.some.inj step
        exact succeeded

theorem mainStep_exited (step : mainStep config thread event = some after)
    (exited : after.phase = .exited status) :
    ∃ seen, event = .exit seen ∧ status = thread.status seen := by
  unfold mainStep at step
  split at step
  · have early := startStep_phase step
    rw [exited] at early
    exact absurd rfl (early.resolve_right (by simp))
  · have early := (loopStep_moves step).phase
    rw [exited] at early
    rcases early with loop | stopping
    · cases loop
    · cases stopping
  · unfold outStep at step
    split at step
    all_goals first
      | cases step; done
      | obtain rfl := Option.some.inj step
    case h_7 seen _ => exact ⟨seen, rfl, (Phase.exited.inj exited).symm⟩
    all_goals
      revert exited
      simp only [MainThread.calls, MainThread.goes, MainThread.joins]
      repeat' split
    all_goals simp

theorem mainStep_abandoned (step : mainStep config thread event = some after)
    (abandoned : after.phase = .abandoned status) :
    event = .giveUp ∧ status = 0 ∨
      ∃ answer seen, event = .openNode answer seen ∧ status = if seen then 0 else 1 := by
  unfold mainStep at step
  split at step
  · unfold startStep at step
    split at step
    all_goals first
      | cases step; done
      | obtain rfl := Option.some.inj step
    case h_2 => exact .inl ⟨rfl, (Phase.abandoned.inj abandoned).symm⟩
    case h_3 answer seen phase =>
      refine .inr ⟨answer, seen, rfl, ?_⟩
      revert abandoned
      simp only [MainThread.calls, MainThread.goes, MainThread.opens]
      split
      · simp
      · split_ifs
        · exact fun same => (Phase.abandoned.inj same).symm
        · exact fun same => (Phase.abandoned.inj same).symm
        · simp
        · simp
    all_goals
      revert abandoned
      simp only [MainThread.calls, MainThread.goes, MainThread.identifies, MainThread.binds,
        MainThread.succeeds, MainThread.advertises, MainThread.starts, MainThread.fails]
      repeat' split
    all_goals simp_all
  · have early := (loopStep_moves step).phase
    rw [abandoned] at early
    rcases early with loop | stopping
    · cases loop
    · cases stopping
  · have late := outStep_phase step
    rw [abandoned] at late
    cases late

theorem status_eq {stopRequested : Bool}
    (stopped : thread.result = .ok () → stopRequested = true) :
    thread.status stopRequested = if stopRequested then 0 else 1 := by
  unfold MainThread.status
  split
  · next succeeded => rw [stopped succeeded, if_pos rfl]
  · rfl

end Status

theorem reported_of_reachable {config : Config} {process : Process}
    (reachable : Reachable (processStep config) (.initial config) process) : Reported process := by
  refine reachable.invariant ⟨nofun, ?_⟩ ?_
  · rintro status (exited | abandoned)
    · cases exited
    · cases abandoned
  · intro before event after reported step
    obtain ⟨running, moves⟩ := processStep_moves step
    have notOver : ∀ status, ¬(before.main.phase = .exited status ∨
        before.main.phase = .abandoned status) := by
      rintro status (exited | abandoned)
      · rw [exited] at running
        cases running
      · rw [abandoned] at running
        cases running
    cases moves with
    | signal => exact ⟨fun _ => rfl, fun status ended => absurd ended (notOver status)⟩
    | power own moved => exact ⟨reported.result, fun status ended => absurd ended (notOver status)⟩
    | @main event main power agrees moved follows =>
        constructor
        · intro succeeded
          rcases mainStep_result moved succeeded with already | rfl
          · exact reported.result already
          · exact agrees
        · rintro status (exited | abandoned)
          · obtain ⟨seen, rfl, rfl⟩ := mainStep_exited moved exited
            obtain rfl : seen = before.stopRequested := beq_iff_eq.mp agrees
            exact status_eq reported.result
          · rcases mainStep_abandoned moved abandoned with ⟨rfl, rfl⟩ | ⟨answer, seen, rfl, rfl⟩
            · exact (if_pos agrees).symm
            · obtain rfl : seen = before.stopRequested := beq_iff_eq.mp agrees
              rfl
    | log controls moved =>
        rcases controls_cases controls with rfl | ⟨value, accepted, -, returned⟩
        · exact ⟨reported.result, fun status ended => absurd ended (notOver status)⟩
        · constructor
          · intro succeeded
            exact reported.result ((mainStep_result returned succeeded).resolve_right nofun)
          · rintro status (exited | abandoned)
            · obtain ⟨seen, impossible, -⟩ := mainStep_exited returned exited
              cases impossible
            · rcases mainStep_abandoned returned abandoned with ⟨⟨⟩, -⟩ | ⟨_, _, ⟨⟩, -⟩

/-- How the calls of a process end that had opened the node. -/
structure TakesBack (history : List Call) : Prop where
  /-- The session that was bound, the power worker that was created, the readiness that was
  accepted and the node, each once and in this order, and nothing else. -/
  calls : ∃ served joined accepted,
    mainCalls history = served ++ takenBack served joined accepted ∧
      ∀ call ∈ served, call.takesBack = false
  /-- `power.stopping` is stored, before anything is taken back. -/
  stopping : .power .stop ∈ history ∧
    AtEach (fun before call => ∀ taken, call = .main taken → taken.takesBack = true →
      .power .stop ∈ before) history
  log : Rejoined history → Unused (logCalls history) ∨ Settled (logCalls history)

/-- When `main` has returned behind `open_driver`, its last calls take back what the others
have done: they withdraw the session that was bound, join the power worker that was created
and was told to stop, withdraw the readiness that was accepted and close the node, each once
and in this order, and nothing else.  Unless a join has failed the firmware log ends
disabled.  When it has returned because `open_driver` has failed, it had only waited.  In
both cases the status is zero exactly if a stop was requested. -/
theorem exit_takes_back (config : Config) (process : Process) (status : Nat)
    (reachable : Reachable (processStep config) (.initial config) process)
    (ended : process.main.phase = .exited status ∨ process.main.phase = .abandoned status) :
    (process.main.phase = .exited status → TakesBack process.history) ∧
    (process.main.phase = .abandoned status → GaveUp (mainCalls process.history)) ∧
    (status = 0 ↔ process.stopRequested = true) := by
  have threads := Threads.of_reachable reachable
  have joint := Joint.of_reachable reachable
  refine ⟨fun exited => ⟨?_, ⟨?_, stop_before_takesBack reachable⟩, ?_⟩, fun abandoned => ?_, ?_⟩
  · rw [threads.linked.main]
    exact takenBack_of_exited threads.booked threads.undone exited
  · rw [← mem_powerCalls, threads.linked.power]
    exact joint.stopping (by rw [exited]; rfl)
  · rintro ⟨-, rejoined⟩
    rw [← mem_logCalls, threads.linked.log] at rejoined
    rw [threads.linked.log]
    exact (threads.owed.stopped (joint.stopped (by rw [exited]; rfl)) rejoined).2
  · have setUp := threads.started.setUp
    rw [SetUp, abandoned] at setUp
    rw [threads.linked.main]
    exact setUp
  · rw [(reported_of_reachable reachable).status status ended]
    cases process.stopRequested <;> simp

theorem exit_takes_back_stopped :
    ∃ process, Runs (processStep .initial) (.initial .initial) stoppedRun process ∧
      TakesBack process.history ∧ process.stopRequested = true := by
  have run : Runs (processStep .initial) (.initial .initial) stoppedRun _ :=
    runs_get (by decide +kernel)
  obtain ⟨takesBack, -, status⟩ := exit_takes_back .initial _ 0 run.reachable (.inl rfl)
  exact ⟨_, run, takesBack rfl, status.mp rfl⟩

/-! ## The command line -/

section CommandLine

variable {options : List CommandOption} {operands status : Nat}

theorem parseOptions_error {config : Config}
    (refused : parseOptions config options = .error status) :
    status = 2 ∨ status = 0 ∧ .h ∈ options := by
  induction options generalizing config with
  | nil => cases refused
  | cons option rest ih =>
      have later : status = 2 ∨ status = 0 ∧ .h ∈ rest →
          status = 2 ∨ status = 0 ∧ .h ∈ option :: rest :=
        Or.imp_right (And.imp_right (List.mem_cons_of_mem _))
      cases option with
      | p optarg => exact later (ih refused)
      | o optarg =>
          rw [parseOptions] at refused
          split_ifs at refused
          · exact later (ih refused)
          · exact later (ih refused)
          · exact .inl (Except.error.inj refused).symm
      | h => exact .inr ⟨(Except.error.inj refused).symm, List.mem_cons_self⟩
      | unknown => exact .inl (Except.error.inj refused).symm

theorem configure_error (refused : configure options operands = .error status) :
    status = 2 ∨ status = 0 ∧ .h ∈ options := by
  unfold configure at refused
  split at refused
  · next parsed =>
    obtain rfl := Except.error.inj refused
    exact parseOptions_error parsed
  · split_ifs at refused
    exact .inl (Except.error.inj refused).symm

/-- What the program returns that is started with a command line. -/
inductive Returns (options : List CommandOption) (operands : Nat) : Nat → Prop
  | refused {status : Nat} (refused : configure options operands = .error status) :
      Returns options operands status
  /-- The signal handlers cannot be installed. -/
  | unhandled {config : Config} (configured : configure options operands = .ok config) :
      Returns options operands 1
  | ended {config : Config} {process : Process} {status : Nat}
      (configured : configure options operands = .ok config)
      (reachable : Reachable (processStep config) (.initial config) process)
      (ended : process.main.phase = .exited status ∨ process.main.phase = .abandoned status) :
      Returns options operands status

/-- The program returns 2 for the command lines that it does not accept and for no other
reason, and 0 only if it is asked for its usage or after a stop was requested. -/
theorem Returns.status_cases (returns : Returns options operands status) :
    (status = 2 ↔ configure options operands = .error 2) ∧
    (status = 0 → .h ∈ options ∨
      ∃ config process, configure options operands = .ok config ∧
        Reachable (processStep config) (.initial config) process ∧
        process.stopRequested = true) := by
  cases returns with
  | refused refused =>
      rcases configure_error refused with rfl | ⟨rfl, help⟩
      · exact ⟨iff_of_true rfl refused, nofun⟩
      · exact ⟨iff_of_false nofun (by simp [refused]), fun _ => .inl help⟩
  | unhandled configured => exact ⟨iff_of_false nofun (by simp [configured]), nofun⟩
  | ended configured reachable ended =>
      have reported := (reported_of_reachable reachable).status _ ended
      split_ifs at reported with stopped
      · exact ⟨iff_of_false (by omega) (by simp [configured]),
          fun _ => .inr ⟨_, _, configured, reachable, stopped⟩⟩
      · exact ⟨iff_of_false (by omega) (by simp [configured]), fun zero => by omega⟩

end CommandLine

end K50sv1.WmtLauncher.Launcher.Main
