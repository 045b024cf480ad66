import K50sv1.WlanAssistant.Monitor

/-!
# The monitor watches the live file

Between its calls the monitor's watch follows the calibration path or has been told of
what it missed, and the driver has the current contents or a change is on record.  Both
hold in every interleaving, except that `file_event_hander` puts its watch on the
directory without looking again: a file that appears between its `access` and its
`inotify_add_watch` is not noticed.
-/

namespace K50sv1.WlanAssistant

open K50sv1.Data
open K50sv1.Data.WatchQueue
open K50sv1.Transition
open K50sv1.Transition.Program

/-! ## What the monitor is to keep -/

/-- The driver was given the contents of a file. -/
def Given (driver : Option (List UInt8)) (file : List UInt8) : Prop :=
  ∃ size content data, driver = some data ∧ file.length = size + 2 ∧
    IsNvramData size file content data

/-- About to block in `select` with nothing recorded and nothing to read. -/
structure Monitor.AboutToBlock (monitor : Monitor) : Prop where
  pc : monitor.pc = .select
  unchanged : monitor.changed = false
  queue : monitor.directory.inotify.queue = []

def Pc.isSelect : Pc → Bool
  | .select => true
  | _ => false

instance (monitor : Monitor) : Decidable monitor.AboutToBlock :=
  decidable_of_iff (monitor.pc.isSelect = true ∧ monitor.changed = false ∧
      monitor.directory.inotify.queue = []) <| by
    constructor
    · rintro ⟨select, unchanged, queue⟩
      refine ⟨?_, unchanged, queue⟩
      revert select
      cases monitor.pc <;> simp [Pc.isSelect]
    · rintro ⟨pc, unchanged, queue⟩
      exact ⟨by rw [pc]; rfl, unchanged, queue⟩

/-- The file at the calibration path is watched and the driver has its contents, or there
is no file and the directory is watched. -/
def Monitor.Watches (monitor : Monitor) : Prop :=
  (∃ inode, monitor.directory.files.entry = some inode ∧
      ⟨monitor.nvramWd, .file inode⟩ ∈ monitor.directory.inotify.watches ∧
      Given monitor.driver (monitor.directory.files.content inode)) ∨
    (monitor.directory.files.entry = none ∧
      ⟨monitor.nvramWd, .directory⟩ ∈ monitor.directory.inotify.watches)

/-- In the loop, outside `write_nvram`. -/
def Pc.inLoop : Pc → Bool
  | .waitFile | .addInitial | .writing _ _ => false
  | _ => true

/-- A change is on record and `write_nvram` has not been called for it. -/
def Monitor.Recorded (monitor : Monitor) : Prop :=
  monitor.changed = true ∧ monitor.pc.inLoop = true

/-- The condition under which the window in `file_event_hander` does no harm: at the
moment of `inotify_add_watch` on the directory there is still no calibration file. -/
def stillAbsent (monitor : Monitor) (event : MonitorEvent) : Bool :=
  match monitor.pc, event with
  | .addDirectory, .addWatch true => monitor.directory.files.entry.isNone
  | _, _ => true

/-! ## The invariant -/

/-- The events that the monitor has not handled, oldest first. -/
def Monitor.pending (monitor : Monitor) : List (Notice Mask) :=
  monitor.buffer ++ monitor.directory.inotify.queue

def Monitor.Alerted (monitor : Monitor) : Prop :=
  Queued monitor.pending monitor.nvramWd Alerts

/-- The watch follows the path, or an event that makes the monitor renew it is pending. -/
def Monitor.Tracked (monitor : Monitor) : Prop :=
  monitor.directory.Followed monitor.nvramWd ∨ Queued monitor.pending monitor.nvramWd Moves

/-- The driver has the contents of the file, or the monitor knows that it may not. -/
def Monitor.Fresh (monitor : Monitor) : Prop :=
  monitor.changed = true ∨ monitor.Alerted ∨
    ∀ inode, monitor.directory.files.entry = some inode →
      Given monitor.driver (monitor.directory.files.content inode)

/-- The payloads that the driver accepted. -/
def acceptedWrites (log : List NvramEvent) : List (List UInt8) :=
  log.filterMap fun
    | .write data true => some data
    | _ => none

/-- What is known in the middle of `write_nvram`: unless a notice is pending, all that has
been read is what the file holds. -/
structure Progress (monitor : Monitor) (nvram : NvramState) : Prop where
  ensures : Ensures answerNvram (fun _ => True) nvram.rest Outcome nvram.log
  transfer : ∀ inode bytes, nvram.transfer = some (inode, bytes) → monitor.Alerted ∨
    (monitor.directory.files.entry = some inode ∧
      bytes <+: monitor.directory.files.content inode)
  read : ∀ file, .read (some file) ∈ nvram.log → monitor.Alerted ∨
    ∃ inode, monitor.directory.files.entry = some inode ∧
      monitor.directory.files.content inode = file
  written : ∀ data, (acceptedWrites nvram.log).getLast? = some data →
    monitor.driver = some data

/-- What holds in the loop with no event in the buffer. -/
structure Waiting (monitor : Monitor) : Prop where
  buffer : monitor.buffer = []
  tracked : monitor.Tracked
  fresh : monitor.Fresh
  timeout : monitor.changed = true → monitor.timeout = .oneSecond

/-- What holds where the monitor stands. -/
def PhaseInvariant (monitor : Monitor) : Pc → Prop
  | .waitFile | .addInitial => monitor.buffer = [] ∧ monitor.directory.inotify.watches = []
  | .access | .addFile | .addDirectory => monitor.directory.inotify.watches = []
  | .writing _ nvram => monitor.buffer = [] ∧ monitor.Tracked ∧ Progress monitor nvram
  | .select | .read => Waiting monitor
  | .nextEvent => monitor.Tracked ∧ monitor.Fresh
  | .rmForFile | .rmForAccess | .exited => True

structure MonitorInvariant (monitor : Monitor) : Prop where
  own : ∀ watch ∈ monitor.directory.inotify.watches, watch.wd = monitor.nvramWd
  phase : PhaseInvariant monitor monitor.pc

/-! ## Other processes -/

section Environment

variable {monitor : Monitor} {directory : Directory} {action : FileAction}

theorem pending_subset (acted : monitor.directory.act action = some directory) :
    monitor.pending ⊆ Monitor.pending { monitor with directory } := by
  obtain ⟨files, -, rfl⟩ := Option.map_eq_some_iff.mp acted
  exact List.append_subset.mpr ⟨List.subset_append_left _ _,
    List.Subset.trans (extends_notices _ _ _).queue (List.subset_append_right _ _)⟩

theorem Monitor.Alerted.environment (alerted : monitor.Alerted)
    (acted : monitor.directory.act action = some directory) :
    Monitor.Alerted { monitor with directory } :=
  Queued.subset alerted (pending_subset acted)

/-- The monitor is told, or the file is the same. -/
theorem Monitor.Tracked.environment (tracked : monitor.Tracked)
    (acted : monitor.directory.act action = some directory) :
    Monitor.Tracked { monitor with directory } ∧
      (Monitor.Alerted { monitor with directory } ∨
        SameFile monitor.directory.files directory.files) := by
  have inQueue {P : Mask → Prop} (queued : Queued directory.inotify.queue monitor.nvramWd P) :
      Queued (Monitor.pending { monitor with directory }) monitor.nvramWd P :=
    queued.subset (List.subset_append_right _ _)
  rcases tracked with followed | called
  · cases act_witnessed followed acted with
    | moved queued =>
        exact ⟨.inr (inQueue queued), .inl ((inQueue queued).imp fun _ => Moves.alerts)⟩
    | modified queued still => exact ⟨.inl still, .inl (inQueue queued)⟩
    | unaffected same still => exact ⟨.inl still, .inr same⟩
  · have called' := called.subset (pending_subset acted)
    exact ⟨.inr called', .inl (called'.imp fun _ => Moves.alerts)⟩

theorem Monitor.Fresh.environment (fresh : monitor.Fresh) (tracked : monitor.Tracked)
    (acted : monitor.directory.act action = some directory) :
    Monitor.Fresh { monitor with directory } := by
  rcases (tracked.environment acted).2 with alerted | same
  · exact .inr (.inl alerted)
  · rcases fresh with changed | alerted | given
    · exact .inl changed
    · exact .inr (.inl (alerted.environment acted))
    · refine .inr (.inr fun inode present => ?_)
      rw [same.entry] at present
      rw [same.content inode present]
      exact given inode present

theorem Progress.environment {nvram : NvramState} (progress : Progress monitor nvram)
    (tracked : monitor.Tracked) (acted : monitor.directory.act action = some directory) :
    Progress { monitor with directory } nvram := by
  refine ⟨progress.ensures, ?_, ?_, progress.written⟩
  · intro inode bytes transfer
    rcases (tracked.environment acted).2 with alerted | same
    · exact .inl alerted
    · rcases progress.transfer inode bytes transfer with alerted | ⟨present, soFar⟩
      · exact .inl (alerted.environment acted)
      · refine .inr ⟨same.entry.trans present, ?_⟩
        rw [same.content inode present]
        exact soFar
  · intro file member
    rcases (tracked.environment acted).2 with alerted | same
    · exact .inl alerted
    · rcases progress.read file member with alerted | ⟨inode, present, content⟩
      · exact .inl (alerted.environment acted)
      · exact .inr ⟨inode, same.entry.trans present, (same.content inode present).trans content⟩

theorem watches_subset (acted : monitor.directory.act action = some directory) :
    directory.inotify.watches ⊆ monitor.directory.inotify.watches := by
  obtain ⟨files, -, rfl⟩ := Option.map_eq_some_iff.mp acted
  exact (extends_notices _ _ _).watches

theorem PhaseInvariant.environment {pc : Pc} (phase : PhaseInvariant monitor pc)
    (acted : monitor.directory.act action = some directory) :
    PhaseInvariant { monitor with directory } pc := by
  have unwatched (absent : monitor.directory.inotify.watches = []) :
      directory.inotify.watches = [] :=
    List.subset_nil.mp (absent ▸ watches_subset acted)
  have waiting (before : Waiting monitor) : Waiting { monitor with directory } :=
    ⟨before.buffer, (before.tracked.environment acted).1,
      before.fresh.environment before.tracked acted, before.timeout⟩
  cases pc with
  | waitFile | addInitial => exact ⟨phase.1, unwatched phase.2⟩
  | access | addFile | addDirectory => exact unwatched phase
  | writing initial nvram =>
      obtain ⟨buffer, tracked, progress⟩ := phase
      exact ⟨buffer, (tracked.environment acted).1, progress.environment tracked acted⟩
  | select | read => exact waiting phase
  | nextEvent => exact ⟨(phase.1.environment acted).1, phase.2.environment phase.1 acted⟩
  | rmForFile | rmForAccess | exited => trivial

end Environment

/-! ## `write_nvram` -/

section Nvram

variable {monitor : Monitor} {nvram : NvramState}

theorem progress_start (monitor : Monitor) : Progress monitor .start where
  ensures := ensures_writeNvram
  transfer _ _ absent := nomatch absent
  read _ member := nomatch member
  written _ absent := nomatch absent

/-- Reading goes on with what the file holds, as long as nobody touches it. -/
theorem Progress.transferred {count : Nat} {inode : Inode} {bytes : List UInt8}
    (progress : Progress monitor nvram)
    (moved : transferStep monitor.directory.files count nvram.transfer = some (inode, bytes)) :
    Progress monitor { nvram with transfer := some (inode, bytes) } := by
  refine ⟨progress.ensures, ?_, progress.read, progress.written⟩
  rintro _ _ ⟨⟩
  cases current : nvram.transfer with
  | none =>
      rw [current] at moved
      obtain ⟨opened, present, ⟨⟩⟩ := Option.map_eq_some_iff.mp moved
      exact .inr ⟨present, _, List.nil_append _⟩
  | some earlier =>
      obtain ⟨opened, before⟩ := earlier
      rw [current] at moved
      obtain ⟨⟩ := moved
      rcases progress.transfer inode before current with alerted | ⟨present, rest, whole⟩
      · exact .inl alerted
      · refine .inr ⟨present, ?_⟩
        refine ⟨rest.drop count, ?_⟩
        rw [← whole, List.drop_left, List.append_assoc, List.take_append_drop]

/-- A complete read yields what the file holds. -/
theorem Progress.read_complete {works : Bool} {file : List UInt8}
    (progress : Progress monitor nvram)
    (answered : readAnswer monitor.directory.files works nvram.transfer = some (some file)) :
    monitor.Alerted ∨ ∃ inode, monitor.directory.files.entry = some inode ∧
      monitor.directory.files.content inode = file := by
  cases current : nvram.transfer with
  | none =>
      rw [current] at answered
      unfold readAnswer at answered
      dsimp only at answered
      split_ifs at answered
      exact nomatch answered
  | some earlier =>
      obtain ⟨inode, bytes⟩ := earlier
      rw [current] at answered
      unfold readAnswer at answered
      dsimp only at answered
      split_ifs at answered with works' short
      · obtain rfl := Option.some.inj (Option.some.inj answered)
        rcases progress.transfer inode bytes current with alerted | ⟨present, soFar⟩
        · exact .inl alerted
        · exact .inr ⟨inode, present, (soFar.eq_of_length_le (Nat.le_of_not_lt short)).symm⟩
      · exact nomatch answered

theorem acceptedWrites_append (log : List NvramEvent) (event : NvramEvent) :
    acceptedWrites (log ++ [event]) = acceptedWrites log ++ acceptedWrites [event] := by
  simp [acceptedWrites]

/-- One call of `write_nvram`. -/
theorem Progress.called {works : Bool} {mac : Option (List UInt8)} {op : NvramOp}
    {next : op.Reply → NvramProgram Bool} {log : List NvramEvent}
    {transfer : Option (Inode × List UInt8)} {answer : Answer}
    (progress : Progress monitor ⟨.call op next, log, transfer⟩)
    (answered : nvramAnswer monitor.directory.files transfer works mac op = some answer)
    (pc : Pc) :
    Progress { monitor with driver := driverAfter monitor.driver works op, pc }
      ⟨next (answerNvram log op answer).2, (answerNvram log op answer).1, none⟩ := by
  refine ⟨progress.ensures.2 answer, fun _ _ absent => (nomatch absent), ?_, ?_⟩
  · intro file member
    cases op with
    | readFile =>
        rcases List.mem_append.mp member with old | new
        · exact progress.read file old
        · obtain ⟨content, answered', rfl⟩ := Option.map_eq_some_iff.mp answered
          obtain ⟨⟩ := List.mem_singleton.mp new
          exact progress.read_complete answered'
    | sleep => exact progress.read file member
    | stat | readMac | writeDriver | setReady =>
        rcases List.mem_append.mp member with old | new
        · exact progress.read file old
        · exact nomatch List.mem_singleton.mp new
  · intro data last
    cases op with
    | writeDriver payload =>
        obtain ⟨⟩ := answered
        change (acceptedWrites (log ++ [.write payload works])).getLast? = some data at last
        rw [acceptedWrites_append] at last
        cases works with
        | true =>
            rw [show acceptedWrites [.write payload true] = [payload] from rfl,
              List.getLast?_concat] at last
            exact last
        | false =>
            rw [show acceptedWrites [.write payload false] = [] from rfl,
              List.append_nil] at last
            exact progress.written data last
    | sleep => exact progress.written data last
    | stat | readFile | readMac | setReady =>
        apply progress.written data
        rw [← last]
        change _ = (acceptedWrites (log ++ [_])).getLast?
        rw [acceptedWrites_append]
        exact congrArg List.getLast? (List.append_nil _).symm

/-- A call that succeeds has given the driver what the file holds. -/
theorem Progress.given {log : List NvramEvent} {transfer : Option (Inode × List UInt8)}
    (progress : Progress monitor ⟨.done true, log, transfer⟩) :
    monitor.Alerted ∨ ∀ inode, monitor.directory.files.entry = some inode →
      Given monitor.driver (monitor.directory.files.content inode) := by
  obtain ⟨-, outcome⟩ := progress.ensures
  cases outcome with
  | accepted valid complete exact =>
      rename_i seen size file data content
      have driver := progress.written data (by simp [acceptedWrites])
      rcases progress.read file (by simp) with alerted | ⟨inode, present, rfl⟩
      · exact .inl alerted
      · right
        intro inode' present'
        obtain rfl := Option.some.inj (present.symm.trans present')
        exact ⟨size, content, data, driver, complete, exact⟩

end Nvram

/-! ## The loop -/

section Loop

variable {monitor after : Monitor}

/-- A new watch, where there was none, follows what it was put on. -/
theorem watch_own (unwatched : monitor.directory.inotify.watches = []) (target : Target) :
    (monitor.watch target).directory.inotify.watches =
      [⟨(monitor.watch target).nvramWd, target⟩] :=
  add_of_nil unwatched target

theorem followed_watch_file {inode : Inode}
    (unwatched : monitor.directory.inotify.watches = [])
    (present : monitor.directory.files.entry = some inode) :
    (monitor.watch (.file inode)).directory.Followed (monitor.watch (.file inode)).nvramWd := by
  refine .inl ⟨inode, present, ?_⟩
  rw [watch_own unwatched]
  exact List.mem_singleton_self _

theorem followed_watch_directory (unwatched : monitor.directory.inotify.watches = [])
    (absent : monitor.directory.files.entry = none) :
    (monitor.watch .directory).directory.Followed (monitor.watch .directory).nvramWd := by
  refine .inr ⟨absent, ?_⟩
  rw [watch_own unwatched]
  exact List.mem_singleton_self _

theorem own_watch (unwatched : monitor.directory.inotify.watches = []) (target : Target) :
    ∀ watch ∈ (monitor.watch target).directory.inotify.watches,
      watch.wd = (monitor.watch target).nvramWd := by
  rw [watch_own unwatched]
  intro watch member
  rw [List.mem_singleton.mp member]

/-- Handling an event either leaves nothing to be done about it or leads to a new watch. -/
theorem MonitorInvariant.handled {event : Notice Mask} {buffer : List (Notice Mask)}
    (invariant : MonitorInvariant monitor) (pc : monitor.pc = .nextEvent)
    (first : monitor.buffer = event :: buffer)
    (handled : Handled { monitor with buffer } event after) : MonitorInvariant after := by
  have phase := invariant.phase
  rw [pc] at phase
  obtain ⟨tracked, fresh⟩ := phase
  have pending_eq : monitor.pending = event :: Monitor.pending { monitor with buffer } := by
    rw [Monitor.pending, first]
    rfl
  have tracked' (stays : ¬ (event.wd = monitor.nvramWd ∧ Moves event.mask)) :
      Monitor.Tracked { monitor with buffer } := by
    rcases tracked with followed | called
    · exact .inl followed
    · rw [pending_eq] at called
      exact .inr (called.tail stays)
  cases handled with
  | skipped foreign =>
      refine ⟨invariant.own, ?_⟩
      dsimp only
      rw [pc]
      refine ⟨tracked' fun both => foreign ⟨both.1, both.2.alerts⟩, ?_⟩
      rcases fresh with changed | alerted | given
      · exact .inl changed
      · rw [Monitor.Alerted, pending_eq] at alerted
        exact .inr (.inl (alerted.tail foreign))
      · exact .inr (.inr given)
  | recorded stays =>
      refine ⟨invariant.own, ?_⟩
      dsimp only
      rw [pc]
      exact ⟨tracked' fun both => stays both.2, .inl rfl⟩
  | appeared => exact ⟨invariant.own, trivial⟩
  | gone => exact ⟨invariant.own, trivial⟩
  | deviceGone => exact ⟨invariant.own, trivial⟩

theorem MonitorInvariant.nvramDone {initial result : Bool} {log : List NvramEvent}
    {transfer : Option (Inode × List UInt8)} (invariant : MonitorInvariant monitor)
    (pc : monitor.pc = .writing initial ⟨.done result, log, transfer⟩) (bootMeta : Bool) :
    MonitorInvariant (monitor.nvramDone initial result bootMeta) := by
  have phase := invariant.phase
  rw [pc] at phase
  obtain ⟨buffer, tracked, progress⟩ := phase
  unfold Monitor.nvramDone
  split_ifs with ended
  · exact ⟨invariant.own, trivial⟩
  · cases result with
    | false => exact absurd rfl ended
    | true =>
        exact ⟨invariant.own, buffer, tracked, .inr progress.given,
          fun changed => absurd changed Bool.false_ne_true⟩

end Loop

/-- Every step keeps the invariant, if the directory is watched only while there is no
file. -/
theorem MonitorInvariant.step {monitor after : Monitor} {event : MonitorEvent}
    (invariant : MonitorInvariant monitor) (still : stillAbsent monitor event = true)
    (step : monitorStep monitor event = some after) : MonitorInvariant after := by
  have phase := invariant.phase
  cases monitorStep_transition step with
  | environment acted =>
      exact ⟨fun watch member => invariant.own watch (watches_subset acted member),
        phase.environment acted⟩
  | exit => exact ⟨invariant.own, trivial⟩
  | waited pc => exact invariant
  | found pc =>
      rw [pc] at phase
      exact ⟨invariant.own, phase⟩
  | accessed pc =>
      rw [pc] at phase
      exact ⟨invariant.own, phase⟩
  | missing pc =>
      rw [pc] at phase
      exact ⟨invariant.own, phase⟩
  | watchInitial pc present =>
      rw [pc] at phase
      exact ⟨own_watch phase.2 _, phase.1, .inl (followed_watch_file phase.2 present),
        progress_start _⟩
  | watchFile pc present =>
      rw [pc] at phase
      exact ⟨own_watch phase _, .inl (followed_watch_file phase present), .inl rfl⟩
  | watchDirectory pc =>
      rw [pc] at phase
      have absent : monitor.directory.files.entry = none := by
        simp only [stillAbsent, pc] at still
        exact Option.isNone_iff_eq_none.mp still
      exact ⟨own_watch phase _, .inl (followed_watch_directory phase absent), .inl rfl⟩
  | unwatchForFile pc =>
      have unwatched := remove_of_own invariant.own .ignored
      exact ⟨fun watch member => (nomatch unwatched ▸ member), unwatched⟩
  | unwatchForAccess pc =>
      have unwatched := remove_of_own invariant.own .ignored
      exact ⟨fun watch member => (nomatch unwatched ▸ member), unwatched⟩
  | selectAgain pc => exact invariant
  | sync pc changed =>
      rw [pc] at phase
      exact ⟨invariant.own, phase.buffer, phase.tracked, progress_start _⟩
  | idle pc unchanged =>
      have waiting := phase
      rw [pc] at waiting
      refine ⟨invariant.own, ?_⟩
      dsimp only
      rw [pc]
      refine ⟨waiting.buffer, waiting.tracked, waiting.fresh, fun changed => ?_⟩
      exact nomatch unchanged.symm.trans changed
  | ready pc =>
      rw [pc] at phase
      exact ⟨invariant.own, phase.buffer, phase.tracked, phase.fresh, phase.timeout⟩
  | readAgain pc =>
      rw [pc] at phase
      exact ⟨invariant.own, phase.buffer, phase.tracked, phase.fresh, phase.timeout⟩
  | taken count pc =>
      rw [pc] at phase
      have pending_eq : (monitor.take count).pending = monitor.pending := by
        rw [Monitor.pending, Monitor.pending, phase.buffer, List.nil_append]
        exact List.take_append_drop count _
      have tracked := phase.tracked
      have fresh := phase.fresh
      rw [Monitor.Tracked, ← pending_eq] at tracked
      rw [Monitor.Fresh, Monitor.Alerted, ← pending_eq] at fresh
      exact ⟨invariant.own, tracked, fresh⟩
  | endRound pc empty =>
      rw [pc] at phase
      refine ⟨invariant.own, empty, phase.1, phase.2, fun changed => ?_⟩
      exact if_pos changed
  | handled pc first handled => exact invariant.handled pc first handled
  | transfer pc moved =>
      rw [pc] at phase
      obtain ⟨buffer, tracked, progress⟩ := phase
      have moved' := progress.transferred moved
      exact ⟨invariant.own, buffer, tracked, moved'.ensures, moved'.transfer, moved'.read,
        moved'.written⟩
  | nvram pc answered =>
      rw [pc] at phase
      obtain ⟨buffer, tracked, progress⟩ := phase
      exact ⟨invariant.own, buffer, tracked, progress.called answered _⟩
  | nvramReturn bootMeta pc => exact invariant.nvramDone pc bootMeta

theorem monitorInvariant_initial (files : Files) : MonitorInvariant (.initial files) :=
  ⟨fun _ member => (nomatch member), rfl, rfl⟩

/-! ## The specification of the monitor -/

/-- Before `write_nvram` is called, a recorded change stays on record. -/
theorem Monitor.Recorded.step {monitor after : Monitor} {event : MonitorEvent}
    (recorded : monitor.Recorded) (step : monitorStep monitor event = some after) :
    after.Recorded ∨ event = .select .timedOut := by
  obtain ⟨changed, inLoop⟩ := recorded
  have outside {pc : Pc} (here : monitor.pc = pc) (out : pc.inLoop = false) : False := by
    rw [here, out] at inLoop
    exact Bool.false_ne_true inLoop
  cases monitorStep_transition step with
  | environment acted => exact .inl ⟨changed, inLoop⟩
  | exit => exact .inl ⟨changed, rfl⟩
  | waited pc => exact (outside pc rfl).elim
  | found pc => exact (outside pc rfl).elim
  | accessed pc => exact .inl ⟨changed, rfl⟩
  | missing pc => exact .inl ⟨changed, rfl⟩
  | watchInitial pc present => exact (outside pc rfl).elim
  | watchFile pc present => exact .inl ⟨rfl, rfl⟩
  | watchDirectory pc => exact .inl ⟨rfl, rfl⟩
  | unwatchForFile pc => exact .inl ⟨changed, rfl⟩
  | unwatchForAccess pc => exact .inl ⟨changed, rfl⟩
  | selectAgain pc => exact .inl ⟨changed, inLoop⟩
  | sync pc changed => exact .inr rfl
  | idle pc unchanged => exact .inr rfl
  | ready pc => exact .inl ⟨changed, rfl⟩
  | readAgain pc => exact .inl ⟨changed, rfl⟩
  | taken count pc => exact .inl ⟨changed, rfl⟩
  | endRound pc empty => exact .inl ⟨changed, rfl⟩
  | handled pc first handled =>
      cases handled with
      | skipped foreign => exact .inl ⟨changed, inLoop⟩
      | recorded stays => exact .inl ⟨rfl, inLoop⟩
      | appeared => exact .inl ⟨changed, rfl⟩
      | gone => exact .inl ⟨changed, rfl⟩
      | deviceGone => exact .inl ⟨changed, rfl⟩
  | transfer pc moved => exact (outside pc rfl).elim
  | nvram pc answered => exact (outside pc rfl).elim
  | nvramReturn bootMeta pc => exact (outside pc rfl).elim

/-- A timeout with a change on record is a call of `write_nvram`. -/
theorem timedOut_calls_writeNvram {monitor after : Monitor} (changed : monitor.changed = true)
    (step : monitorStep monitor (.select .timedOut) = some after) :
    after.pc = .writing false .start := by
  cases pc : monitor.pc with
  | select =>
      simp only [monitorStep, pc, changed, if_true] at step
      split_ifs at step with empty
      obtain rfl := Option.some.inj step
      rfl
  | _ =>
      simp only [monitorStep, pc] at step
      cases step

theorem Waiting.watches {monitor : Monitor} (waiting : Waiting monitor)
    (block : monitor.AboutToBlock) : monitor.Watches := by
  have settled : monitor.pending = [] := by
    rw [Monitor.pending, waiting.buffer, block.queue]
    rfl
  have given : ∀ inode, monitor.directory.files.entry = some inode →
      Given monitor.driver (monitor.directory.files.content inode) := by
    rcases waiting.fresh with changed | alerted | given
    · exact nomatch block.unchanged.symm.trans changed
    · rw [Monitor.Alerted, settled] at alerted
      exact absurd alerted not_queued_nil
    · exact given
  rcases waiting.tracked with followed | called
  · rcases followed with ⟨inode, present, watched⟩ | ⟨absent, watched⟩
    · exact .inl ⟨inode, present, watched, given inode present⟩
    · exact .inr ⟨absent, watched⟩
  · rw [settled] at called
    exact absurd called not_queued_nil

/-- What the monitor keeps to in a state that it reaches. -/
structure MonitorSpec (monitor : Monitor) : Prop where
  /-- It never blocks on the wrong object or with an outdated driver. -/
  watches : monitor.AboutToBlock → monitor.Watches
  timeout : monitor.pc = .select → monitor.changed = true → monitor.timeout = .oneSecond
  /-- A recorded change stays on record until a timeout calls `write_nvram`. -/
  followed : monitor.Recorded → ∀ events target, Runs monitorStep monitor events target →
    Throughout monitorStep Monitor.Recorded monitor events ∨
      ∃ before rest middle after, events = before ++ .select .timedOut :: rest ∧
        Runs monitorStep monitor before middle ∧
        Throughout monitorStep Monitor.Recorded monitor before ∧
        monitorStep middle (.select .timedOut) = some after ∧
        after.pc = .writing false .start

theorem monitor_watches_live {files : Files} {monitor : Monitor}
    (reachable : Reachable (restrict (fun monitor event => stillAbsent monitor event = true)
      monitorStep) (.initial files) monitor) :
    MonitorSpec monitor := by
  have invariant : MonitorInvariant monitor := by
    apply reachable.invariant (monitorInvariant_initial files)
    intro state event after invariant step
    obtain ⟨still, step⟩ := restrict_eq_some_iff.mp step
    exact invariant.step still step
  have phase := invariant.phase
  refine ⟨?_, ?_, ?_⟩
  · intro block
    rw [block.pc] at phase
    exact phase.watches block
  · intro pc changed
    rw [pc] at phase
    exact phase.timeout changed
  · intro recorded events target run
    have until' := run.weakUntil (P := Monitor.Recorded) (Q := fun _ middle event =>
      event = .select .timedOut ∧ ∃ after, monitorStep middle event = some after ∧
        after.pc = .writing false .start) recorded ?_
    · rcases until' with along | ⟨before, event, rest, middle, split, run', along, rfl, facts⟩
      · exact .inl along
      · obtain ⟨after, step, called⟩ := facts
        exact .inr ⟨before, rest, middle, after, split, run', along, step, called⟩
    · intro past state event after _ recorded step
      rcases recorded.step step with kept | rfl
      · exact .inl kept
      · exact .inr ⟨rfl, after, step, timedOut_calls_writeNvram recorded.1 step⟩

/-! ## The window -/

/-- A calibration file of 256 bytes and its trailer. -/
def zeroCalibration : List UInt8 :=
  List.replicate 258 0

/-- `write_nvram` without a custom address, with one `read` for the whole file. -/
def writeEvents : List MonitorEvent :=
  [.nvram true none, .transfer 0, .transfer 258, .nvram true none, .nvram true none,
    .nvram true none, .nvram true none, .nvramReturn false]

/-- The monitor starts and blocks. -/
def startEvents : List MonitorEvent :=
  [.access, .addWatch true] ++ writeEvents

def oneFile : Files :=
  ⟨some 0, [], fun _ => zeroCalibration⟩

/-- The file is deleted while the monitor blocks, the directory is watched instead, and then
the file is created again. -/
def recreatedEvents : List MonitorEvent :=
  startEvents ++
    [.environment .delete, .select .ready, .read (.taken 2), .buffered, .rmWatch, .access,
      .addWatch true, .buffered, .buffered, .environment (.create 1 zeroCalibration),
      .select .ready, .read (.taken 1), .buffered, .rmWatch, .addWatch true, .buffered,
      .select .ready, .read (.taken 1), .buffered, .buffered, .select .timedOut] ++ writeEvents

theorem recreatedEvents_enabled :
    (exec (restrict (fun monitor event => stillAbsent monitor event = true) monitorStep)
      (.initial oneFile) recreatedEvents).isSome := by
  decide +kernel

/-- The monitor then blocks on the new file. -/
theorem monitor_watches_live_recreated :
    ∃ monitor, Runs (restrict (fun monitor event => stillAbsent monitor event = true)
        monitorStep) (.initial oneFile) recreatedEvents monitor ∧
      monitor.AboutToBlock ∧ monitor.directory.files.entry = some 1 ∧ monitor.Watches := by
  have run := runs_get recreatedEvents_enabled
  have block : ((exec (restrict (fun monitor event => stillAbsent monitor event = true)
      monitorStep) (.initial oneFile) recreatedEvents).get recreatedEvents_enabled).AboutToBlock :=
    by decide +kernel
  exact ⟨_, run, block, by decide +kernel,
    (monitor_watches_live run.reachable).watches block⟩

/-- The file is deleted while the monitor blocks, and a new one is created after `access`
has missed it. -/
def windowEvents : List MonitorEvent :=
  startEvents ++
    [.environment .delete, .select .ready, .read (.taken 2), .buffered, .rmWatch, .access,
      .environment (.create 1 zeroCalibration), .addWatch true, .buffered, .buffered,
      .select .timedOut] ++ writeEvents

theorem windowEvents_enabled :
    (exec monitorStep (.initial oneFile) windowEvents).isSome := by
  decide +kernel

/-- The monitor then blocks on the directory while there is a file. -/
theorem appeared_unwatched :
    ∃ monitor, Runs monitorStep (.initial oneFile) windowEvents monitor ∧
      monitor.AboutToBlock ∧ ¬ monitor.Watches := by
  refine ⟨_, runs_get windowEvents_enabled, by decide +kernel, ?_⟩
  have present : ((exec monitorStep (.initial oneFile) windowEvents).get
      windowEvents_enabled).directory.files.entry = some 1 := by
    decide +kernel
  have watches : ((exec monitorStep (.initial oneFile) windowEvents).get
      windowEvents_enabled).directory.inotify.watches = [⟨3, .directory⟩] := by
    decide +kernel
  rintro (⟨inode, -, watched, -⟩ | ⟨absent, -⟩)
  · rw [watches] at watched
    have sameTarget : Target.file inode = .directory :=
      congrArg Watch.target (List.mem_singleton.mp watched)
    exact Target.noConfusion sameTarget
  · exact nomatch present.symm.trans absent

end K50sv1.WlanAssistant
