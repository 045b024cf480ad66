import K50sv1.Transition.Run
import K50sv1.WlanAssistant.Directory
import K50sv1.WlanAssistant.Nvram

/-!
# The monitor

`wlan_files_monitor` from its wait for the calibration file on, one system call at a
time, with `file_event_hander` and `write_nvram` in their places.  Other processes act
between any two calls, also between the `open` and the reads of one file.

The monitor starts with the watch on the Wi-Fi device in place.  A calibration file, if
there is one, can be read.
-/

namespace K50sv1.WlanAssistant

open K50sv1.Data
open K50sv1.Transition

inductive Timeout where
  | oneSecond
  /-- `MAX_WAIT_SECOND`. -/
  | maxWait
  deriving DecidableEq, Repr

/-- A running call of `write_nvram`. -/
structure NvramState where
  /-- What is left of it. -/
  rest : NvramProgram Bool
  /-- Its calls so far. -/
  log : List NvramEvent
  /-- The calibration file while it is being read: its inode and what has been read. -/
  transfer : Option (Inode × List UInt8)

/-- Where the monitor stands. -/
inductive Pc where
  /-- The loop that waits for the file. -/
  | waitFile
  | addInitial
  /-- In `write_nvram`, before the loop or after a timeout in it. -/
  | writing (initial : Bool) (nvram : NvramState)
  | select
  | read
  /-- At the head of the loop over the events read. -/
  | nextEvent
  /-- The file has appeared: `inotify_rm_watch` comes next, then the watch on the file. -/
  | rmForFile
  /-- The file has gone: `inotify_rm_watch` comes next, then `access`. -/
  | rmForAccess
  | access
  | addFile
  | addDirectory
  | exited

structure Monitor where
  directory : Directory
  /-- What the driver was last given. -/
  driver : Option (List UInt8)
  pc : Pc
  /-- `NVRAM_CHANGED` in `changed`. -/
  changed : Bool
  timeout : Timeout
  nvramWd : Int
  /-- The events read and not yet handled. -/
  buffer : List (Notice Mask)

inductive SelectOutcome where
  | interrupted
  | failed
  | timedOut
  | ready
  deriving DecidableEq, Repr

inductive ReadOutcome where
  | interrupted
  | failed
  | taken (count : Nat)
  deriving DecidableEq, Repr

inductive MonitorEvent where
  | environment (action : FileAction)
  | access
  | addWatch (works : Bool)
  | rmWatch
  | select (outcome : SelectOutcome)
  | read (outcome : ReadOutcome)
  /-- Look at the next event of the buffer, or leave the loop over it. -/
  | buffered
  /-- `open` of the calibration file, or one `read` of at most `count` bytes. -/
  | transfer (count : Nat)
  /-- The next call of `write_nvram` returns. -/
  | nvram (works : Bool) (mac : Option (List UInt8))
  /-- `write_nvram` itself returns.  The boot mode matters the first time. -/
  | nvramReturn (bootMeta : Bool)
  deriving DecidableEq, Repr

/-- The state in which the monitor starts to wait for the file. -/
def Monitor.initial (files : Files) : Monitor where
  directory := { files, inotify := { watches := [], nextWd := devWd + 1, queue := [] } }
  driver := none
  pc := .waitFile
  changed := false
  timeout := .maxWait
  nvramWd := -1
  buffer := []

/-! ## `write_nvram` -/

def NvramState.start : NvramState where
  rest := writeNvram
  log := []
  transfer := none

def statAnswer (files : Files) : StatResult :=
  match files.entry with
  | none => .failed
  | some inode => .found true (files.content inode).length

/-- What `ReadFileToString` answers, once there is nothing more to read. -/
def readAnswer (files : Files) (works : Bool) :
    Option (Inode × List UInt8) → Option (Option (List UInt8))
  | none => if works && files.entry.isSome then none else some none
  | some (inode, bytes) =>
      if works then
        if bytes.length < (files.content inode).length then none else some (some bytes)
      else
        some none

/-- The answer to a call, if it can return now. -/
def nvramAnswer (files : Files) (transfer : Option (Inode × List UInt8)) (works : Bool)
    (mac : Option (List UInt8)) : NvramOp → Option Answer
  | .stat => some { stat := statAnswer files }
  | .sleep => some {}
  | .readFile => (readAnswer files works transfer).map fun file => { file }
  | .readMac => some { mac }
  | .writeDriver _ => some { accepted := works }
  | .setReady => some { published := works }

/-- What the driver was last given after a call. -/
def driverAfter (driver : Option (List UInt8)) (works : Bool) : NvramOp → Option (List UInt8)
  | .writeDriver data => if works then some data else driver
  | _ => driver

/-- One system call inside `ReadFileToString`. -/
def transferStep (files : Files) (count : Nat) :
    Option (Inode × List UInt8) → Option (Inode × List UInt8)
  | none => files.entry.map fun inode => (inode, [])
  | some (inode, bytes) =>
      some (inode, bytes ++ ((files.content inode).drop bytes.length).take count)

/-! ## The steps -/

/-- `inotify_add_watch`, and the monitor with the new descriptor. -/
def Monitor.watch (monitor : Monitor) (target : Target) : Monitor :=
  let (inotify, wd) := monitor.directory.inotify.add target
  { monitor with
    directory := { monitor.directory with inotify }
    nvramWd := wd }

/-- The end of `file_event_hander`: the new watch is in place and the change recorded. -/
def Monitor.rewatch (monitor : Monitor) (target : Target) : Monitor :=
  { monitor.watch target with pc := .nextEvent, changed := true }

/-- `inotify_rm_watch` on the watch of the monitor. -/
def Monitor.unwatch (monitor : Monitor) : Monitor :=
  { monitor with
    directory :=
      { monitor.directory with
        inotify := monitor.directory.inotify.remove monitor.nvramWd .ignored } }

/-- `FILE_REMOVE_MASK`. -/
def fileRemoveMask (mask : Mask) : Bool :=
  mask = .deleteSelf || mask = .moveSelf

/-- The start of `file_event_hander`.  Where there is no new watch to make, the change is
recorded at once. -/
def Monitor.fileEventHander (monitor : Monitor) : Mask → Monitor
  | .create true | .movedTo true => { monitor with pc := .rmForFile }
  | .deleteSelf | .moveSelf => { monitor with pc := .rmForAccess }
  | _ => { monitor with changed := true }

/-- One event of the buffer. -/
def Monitor.handle (monitor : Monitor) (event : Notice Mask) : Monitor :=
  if event.mask = .ignored then
    monitor
  else if event.mask = .overflow then
    { monitor with changed := true }
  else if event.wd = devWd && fileRemoveMask event.mask then
    { monitor with pc := .exited }
  else if event.wd = monitor.nvramWd then
    monitor.fileEventHander event.mask
  else
    monitor

/-- `read` moves the first `count` events to the buffer. -/
def Monitor.take (monitor : Monitor) (count : Nat) : Monitor :=
  let inotify := monitor.directory.inotify
  { monitor with
    directory :=
      { monitor.directory with inotify := { inotify with queue := inotify.queue.drop count } }
    buffer := inotify.queue.take count
    pc := .nextEvent }

/-- The end of a round over the buffer. -/
def Monitor.endRound (monitor : Monitor) : Monitor :=
  { monitor with
    pc := .select
    timeout := if monitor.changed then .oneSecond else monitor.timeout }

/-- `write_nvram` has returned.  The first time, the loop is entered with its variables
set as a sync leaves them, except in the meta boot mode. -/
def Monitor.nvramDone (monitor : Monitor) (initial result bootMeta : Bool) : Monitor :=
  if !result || (initial && bootMeta) then
    { monitor with pc := .exited }
  else
    { monitor with pc := .select, changed := false, timeout := .maxWait }

def monitorStep : Step MonitorEvent Monitor
  | monitor, .environment action =>
      (monitor.directory.act action).map fun directory => { monitor with directory }
  | monitor, .access =>
      let exists' := monitor.directory.files.entry.isSome
      match monitor.pc with
      | .waitFile => some (if exists' then { monitor with pc := .addInitial } else monitor)
      | .access => some { monitor with pc := if exists' then .addFile else .addDirectory }
      | _ => none
  | monitor, .addWatch works =>
      match monitor.pc, monitor.directory.files.entry with
      | .addInitial, some inode =>
          some (if works then { monitor.watch (.file inode) with pc := .writing true .start }
            else { monitor with pc := .exited })
      | .addFile, some inode =>
          some (if works then monitor.rewatch (.file inode) else { monitor with pc := .exited })
      | .addDirectory, _ =>
          some (if works then monitor.rewatch .directory else { monitor with pc := .exited })
      | .addInitial, none | .addFile, none => some { monitor with pc := .exited }
      | _, _ => none
  | monitor, .rmWatch =>
      match monitor.pc with
      | .rmForFile => some { monitor.unwatch with pc := .addFile }
      | .rmForAccess => some { monitor.unwatch with pc := .access }
      | _ => none
  | monitor, .select outcome =>
      match monitor.pc, outcome with
      | .select, .interrupted => some monitor
      | .select, .failed => some { monitor with pc := .exited }
      | .select, .timedOut =>
          if monitor.directory.inotify.queue = [] then
            if monitor.changed then
              some { monitor with pc := .writing false .start }
            else
              some { monitor with timeout := .maxWait }
          else
            none
      | .select, .ready =>
          if monitor.directory.inotify.queue = [] then none else some { monitor with pc := .read }
      | _, _ => none
  | monitor, .read outcome =>
      match monitor.pc, outcome with
      | .read, .interrupted => some { monitor with pc := .select }
      | .read, .failed => some { monitor with pc := .exited }
      | .read, .taken count => if 0 < count then some (monitor.take count) else none
      | _, _ => none
  | monitor, .buffered =>
      match monitor.pc, monitor.buffer with
      | .nextEvent, [] => some monitor.endRound
      | .nextEvent, event :: buffer => some ({ monitor with buffer }.handle event)
      | _, _ => none
  | monitor, .transfer count =>
      match monitor.pc with
      | .writing initial ⟨.call .readFile next, log, transfer⟩ =>
          (transferStep monitor.directory.files count transfer).map fun transfer =>
            { monitor with
              pc := .writing initial ⟨.call .readFile next, log, some transfer⟩ }
      | _ => none
  | monitor, .nvram works mac =>
      match monitor.pc with
      | .writing initial ⟨.call op next, log, transfer⟩ =>
          (nvramAnswer monitor.directory.files transfer works mac op).map fun answer =>
            { monitor with
              driver := driverAfter monitor.driver works op
              pc := .writing initial
                ⟨next (answerNvram log op answer).2, (answerNvram log op answer).1, none⟩ }
      | _ => none
  | monitor, .nvramReturn bootMeta =>
      match monitor.pc with
      | .writing initial ⟨.done result, _, _⟩ =>
          some (monitor.nvramDone initial result bootMeta)
      | _ => none

/-! ## Inversion -/

/-- What handling one event does. -/
inductive Handled (monitor : Monitor) (event : Notice Mask) : Monitor → Prop where
  | skipped (foreign : ¬ (event.wd = monitor.nvramWd ∧ Alerts event.mask)) :
      Handled monitor event monitor
  | recorded (stays : ¬ Moves event.mask) :
      Handled monitor event { monitor with changed := true }
  | appeared : Handled monitor event { monitor with pc := .rmForFile }
  | gone : Handled monitor event { monitor with pc := .rmForAccess }
  | deviceGone : Handled monitor event { monitor with pc := .exited }

theorem fileEventHander_handled (monitor : Monitor) (event : Notice Mask) :
    Handled monitor event (monitor.fileEventHander event.mask) := by
  cases mask : event.mask with
  | create named =>
      cases named with
      | true => exact .appeared
      | false => exact .recorded (by simp [Moves, mask])
  | movedTo named =>
      cases named with
      | true => exact .appeared
      | false => exact .recorded (by simp [Moves, mask])
  | deleteSelf => exact .gone
  | moveSelf => exact .gone
  | modify => exact .recorded (by simp [Moves, mask])
  | ignored => exact .recorded (by simp [Moves, mask])
  | overflow => exact .recorded (by simp [Moves, mask])

theorem handle_handled (monitor : Monitor) (event : Notice Mask) :
    Handled monitor event (monitor.handle event) := by
  unfold Monitor.handle
  split_ifs with ignored overflow device own
  · exact .skipped fun both => both.2.1 ignored
  · exact .recorded (by simp [Moves, overflow])
  · exact .deviceGone
  · exact fileEventHander_handled monitor event
  · exact .skipped fun both => own both.1

inductive MonitorTransition (monitor : Monitor) : MonitorEvent → Monitor → Prop where
  | environment {action : FileAction} {directory : Directory}
      (acted : monitor.directory.act action = some directory) :
      MonitorTransition monitor (.environment action) { monitor with directory }
  | exit (event : MonitorEvent) : MonitorTransition monitor event { monitor with pc := .exited }
  | waited (pc : monitor.pc = .waitFile) : MonitorTransition monitor .access monitor
  | found (pc : monitor.pc = .waitFile) :
      MonitorTransition monitor .access { monitor with pc := .addInitial }
  | accessed (pc : monitor.pc = .access) :
      MonitorTransition monitor .access { monitor with pc := .addFile }
  | missing (pc : monitor.pc = .access) :
      MonitorTransition monitor .access { monitor with pc := .addDirectory }
  | watchInitial {inode : Inode} (pc : monitor.pc = .addInitial)
      (present : monitor.directory.files.entry = some inode) :
      MonitorTransition monitor (.addWatch true)
        { monitor.watch (.file inode) with pc := .writing true .start }
  | watchFile {inode : Inode} (pc : monitor.pc = .addFile)
      (present : monitor.directory.files.entry = some inode) :
      MonitorTransition monitor (.addWatch true) (monitor.rewatch (.file inode))
  | watchDirectory (pc : monitor.pc = .addDirectory) :
      MonitorTransition monitor (.addWatch true) (monitor.rewatch .directory)
  | unwatchForFile (pc : monitor.pc = .rmForFile) :
      MonitorTransition monitor .rmWatch { monitor.unwatch with pc := .addFile }
  | unwatchForAccess (pc : monitor.pc = .rmForAccess) :
      MonitorTransition monitor .rmWatch { monitor.unwatch with pc := .access }
  | selectAgain (pc : monitor.pc = .select) :
      MonitorTransition monitor (.select .interrupted) monitor
  | sync (pc : monitor.pc = .select) (changed : monitor.changed = true) :
      MonitorTransition monitor (.select .timedOut) { monitor with pc := .writing false .start }
  | idle (pc : monitor.pc = .select) (unchanged : monitor.changed = false) :
      MonitorTransition monitor (.select .timedOut) { monitor with timeout := .maxWait }
  | ready (pc : monitor.pc = .select) :
      MonitorTransition monitor (.select .ready) { monitor with pc := .read }
  | readAgain (pc : monitor.pc = .read) :
      MonitorTransition monitor (.read .interrupted) { monitor with pc := .select }
  | taken (count : Nat) (pc : monitor.pc = .read) :
      MonitorTransition monitor (.read (.taken count)) (monitor.take count)
  | endRound (pc : monitor.pc = .nextEvent) (empty : monitor.buffer = []) :
      MonitorTransition monitor .buffered monitor.endRound
  | handled {event : Notice Mask} {buffer : List (Notice Mask)} {after : Monitor}
      (pc : monitor.pc = .nextEvent) (first : monitor.buffer = event :: buffer)
      (handled : Handled { monitor with buffer } event after) :
      MonitorTransition monitor .buffered after
  | transfer {count : Nat} {initial : Bool} {nvram : NvramState} {inode : Inode}
      {bytes : List UInt8} (pc : monitor.pc = .writing initial nvram)
      (moved : transferStep monitor.directory.files count nvram.transfer = some (inode, bytes)) :
      MonitorTransition monitor (.transfer count)
        { monitor with
          pc := .writing initial { nvram with transfer := some (inode, bytes) } }
  | nvram {works initial : Bool} {mac : Option (List UInt8)} {op : NvramOp}
      {next : op.Reply → NvramProgram Bool} {log : List NvramEvent}
      {transfer : Option (Inode × List UInt8)} {answer : Answer}
      (pc : monitor.pc = .writing initial ⟨.call op next, log, transfer⟩)
      (answered : nvramAnswer monitor.directory.files transfer works mac op = some answer) :
      MonitorTransition monitor (.nvram works mac)
        { monitor with
          driver := driverAfter monitor.driver works op
          pc := .writing initial
            ⟨next (answerNvram log op answer).2, (answerNvram log op answer).1, none⟩ }
  | nvramReturn {initial result : Bool} {log : List NvramEvent}
      {transfer : Option (Inode × List UInt8)} (bootMeta : Bool)
      (pc : monitor.pc = .writing initial ⟨.done result, log, transfer⟩) :
      MonitorTransition monitor (.nvramReturn bootMeta)
        (monitor.nvramDone initial result bootMeta)

theorem monitorStep_transition {monitor after : Monitor} {event : MonitorEvent}
    (step : monitorStep monitor event = some after) :
    MonitorTransition monitor event after := by
  cases event with
  | environment action =>
      obtain ⟨directory, acted, rfl⟩ := Option.map_eq_some_iff.mp step
      exact .environment acted
  | access =>
      simp only [monitorStep] at step
      split at step
      · rename_i pc
        obtain rfl := Option.some.inj step
        split
        · exact .found pc
        · exact .waited pc
      · rename_i pc
        obtain rfl := Option.some.inj step
        split
        · exact .accessed pc
        · exact .missing pc
      · contradiction
  | addWatch works =>
      simp only [monitorStep] at step
      split at step
      · rename_i inode pc present
        obtain rfl := Option.some.inj step
        cases works with
        | true => exact .watchInitial pc present
        | false => exact .exit _
      · rename_i inode pc present
        obtain rfl := Option.some.inj step
        cases works with
        | true => exact .watchFile pc present
        | false => exact .exit _
      · rename_i pc
        obtain rfl := Option.some.inj step
        cases works with
        | true => exact .watchDirectory pc
        | false => exact .exit _
      · obtain rfl := Option.some.inj step
        exact .exit _
      · obtain rfl := Option.some.inj step
        exact .exit _
      · contradiction
  | rmWatch =>
      simp only [monitorStep] at step
      split at step
      · obtain rfl := Option.some.inj step
        exact .unwatchForFile ‹_›
      · obtain rfl := Option.some.inj step
        exact .unwatchForAccess ‹_›
      · contradiction
  | select outcome =>
      simp only [monitorStep] at step
      split at step
      · obtain rfl := Option.some.inj step
        exact .selectAgain ‹_›
      · obtain rfl := Option.some.inj step
        exact .exit _
      · split_ifs at step with empty changed
        · obtain rfl := Option.some.inj step
          exact .sync ‹_› changed
        · obtain rfl := Option.some.inj step
          exact .idle ‹_› (Bool.not_eq_true _ ▸ changed)
      · split_ifs at step with empty
        obtain rfl := Option.some.inj step
        exact .ready ‹_›
      · contradiction
  | read outcome =>
      simp only [monitorStep] at step
      split at step
      · obtain rfl := Option.some.inj step
        exact .readAgain ‹_›
      · obtain rfl := Option.some.inj step
        exact .exit _
      · split_ifs at step with positive
        obtain rfl := Option.some.inj step
        exact .taken _ ‹_›
      · contradiction
  | buffered =>
      simp only [monitorStep] at step
      split at step
      · obtain rfl := Option.some.inj step
        exact .endRound ‹_› ‹_›
      · obtain rfl := Option.some.inj step
        exact .handled ‹_› ‹_› (handle_handled _ _)
      · contradiction
  | transfer count =>
      simp only [monitorStep] at step
      split at step
      · obtain ⟨⟨inode, bytes⟩, moved, rfl⟩ := Option.map_eq_some_iff.mp step
        rename_i initial next log transfer pc
        have transition : MonitorTransition monitor (.transfer count) _ := .transfer pc moved
        exact transition
      · contradiction
  | nvram works mac =>
      simp only [monitorStep] at step
      split at step
      · obtain ⟨answer, answered, rfl⟩ := Option.map_eq_some_iff.mp step
        exact .nvram ‹_› answered
      · contradiction
  | nvramReturn bootMeta =>
      simp only [monitorStep] at step
      split at step
      · obtain rfl := Option.some.inj step
        exact .nvramReturn bootMeta ‹_›
      · contradiction

end K50sv1.WlanAssistant
