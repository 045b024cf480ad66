import K50sv1.Data.Snapshot
import K50sv1.Transition.Run
import Mathlib.Tactic.Basic

/-!
# `extract-files.sh` from the creation of its backup on

The script is a control point over the five tracked names below `VENDOR_OUTPUT` and
their backup.  One event is one thing the shell or the command it waits for does: a
command makes progress, ends well or fails, or a signal is handled between two commands.
`errexit` is on, also in the functions a trap calls.
-/

namespace K50sv1.VendorBlobs

open K50sv1.Data
open K50sv1.Transition

/-- The names in `BACKUP_FILES`. -/
inductive BackupFile where
  | proprietary
  | androidBp
  | androidMk
  | boardConfigVendorMk
  | deviceVendorMk
  deriving DecidableEq, Repr

def backupFiles : List BackupFile :=
  [.proprietary, .androidBp, .androidMk, .boardConfigVendorMk, .deviceVendorMk]

theorem mem_backupFiles (name : BackupFile) : name ∈ backupFiles := by
  cases name <;> decide

theorem nodup_backupFiles : backupFiles.Nodup := by
  decide

/-- The signals with a trap. -/
inductive Signal where
  | hup
  | int
  | term
  deriving DecidableEq, Repr

/-- The status in the signal's trap. -/
def Signal.status : Signal → Nat
  | .hup => 129
  | .int => 130
  | .term => 143

theorem Signal.status_ne_zero (signal : Signal) : signal.status ≠ 0 := by
  cases signal <;> decide

/-- The work between the backup and the end of the script; `extract` calls `blob_fixup`. -/
inductive Work where
  | extract
  | completeness
  | checksums
  | makefiles
  deriving DecidableEq, Repr

def Work.next : Work → Option Work
  | .extract => some .completeness
  | .completeness => some .checksums
  | .checksums => some .makefiles
  | .makefiles => none

/-- Where the script is.  From `entering` on it is in `finish_extraction`, on its way to
the exit status `code`. -/
inductive Pc where
  /-- the variables are set; the trap for `EXIT` is still the one of `extract_utils.sh` -/
  | assigning
  /-- the trap for `EXIT` is set, not yet those for the signals -/
  | trapping
  | copying (rest : List BackupFile)
  | working (work : Work)
  | entering (code : Nat)
  /-- before the `rm` of the first name -/
  | removing (rest : List BackupFile) (code : Nat)
  /-- the name is removed and may have to be moved back -/
  | moving (name : BackupFile) (rest : List BackupFile) (code : Nat)
  /-- `mv` has renamed but not yet ended -/
  | moved (rest : List BackupFile) (code : Nat)
  | givingUp
  /-- before the `rm` of the backup -/
  | dropping (code : Nat)
  | cleaning (code : Nat)
  | exited (code : Nat)
  deriving DecidableEq, Repr

/-- The script and its files.  `status` is the argument of `finish_extraction` once it is
called.  The last two fields only record: the names the restore is through with, and
whether one of its operations failed or a signal came before it was over. -/
structure Extraction (Content : Type) where
  files : Snapshot BackupFile Content
  backupReady : Bool
  pc : Pc
  status : Option Nat
  restored : List BackupFile
  cut : Bool

inductive ExtractionEvent (Content : Type) where
  /-- the running command changes a name below `VENDOR_OUTPUT` -/
  | modify (name : BackupFile) (content : Option Content)
  /-- the running command changes a name in the backup -/
  | modifyBackup (name : BackupFile) (content : Option Content)
  /-- `mv` renames -/
  | rename
  | done
  | failed (status : Nat)
  | signal (signal : Signal)
  deriving Repr

namespace Extraction

variable {Content : Type}

/-- The state after `mktemp`. -/
def started (old : BackupFile → Option Content) : Extraction Content where
  files := ⟨old, some fun _ => none⟩
  backupReady := false
  pc := .assigning
  status := none
  restored := []
  cut := false

/-- `finish_extraction` is called by the trap for `EXIT`. -/
def enter (state : Extraction Content) (status code : Nat) : Extraction Content :=
  { state with pc := .entering code, status := some status }

/-- The shell exits without the trap for `EXIT`, before the restore is over. -/
def abandon (state : Extraction Content) (code : Nat) : Extraction Content :=
  { state with pc := .exited code, cut := true }

def exit (state : Extraction Content) (code : Nat) : Extraction Content :=
  { state with pc := .exited code }

def giveUp (state : Extraction Content) : Extraction Content :=
  { state with pc := .givingUp, cut := true }

/-- The loop of the restore goes on to the next name. -/
def restoreNext (state : Extraction Content) (name : BackupFile) (rest : List BackupFile)
    (code : Nat) : Extraction Content :=
  { state with pc := .removing rest code, restored := name :: state.restored }

def present (state : Extraction Content) (name : BackupFile) : Bool :=
  (state.files.live name).isSome

def backedUp (state : Extraction Content) (name : BackupFile) : Bool :=
  (state.files.savedAt name).isSome

/-- Which names below `VENDOR_OUTPUT` the running command may change. -/
def modifies (state : Extraction Content) (name : BackupFile) : Bool :=
  match state.pc with
  | .working _ => true
  | .removing (first :: _) _ => name = first
  | _ => false

/-- Which names in the backup the running command may change. -/
def modifiesBackup (state : Extraction Content) (name : BackupFile) : Bool :=
  match state.pc with
  | .copying (first :: _) => name = first && state.present name
  | .dropping _ => true
  | _ => false

/-- The test at the start of `finish_extraction`. -/
def restores (state : Extraction Content) : Bool :=
  state.status ≠ some 0 && state.backupReady

/-- The current command has ended well, or there was nothing for it to do. -/
def advance (state : Extraction Content) : Option (Extraction Content) :=
  match state.pc with
  | .assigning => some { state with pc := .trapping }
  | .trapping => some { state with pc := .copying backupFiles }
  | .copying [] => some { state with pc := .working .extract, backupReady := true }
  | .copying (name :: rest) =>
      if state.present name then
        some { state with
          files := state.files.keep name (state.files.live name), pc := .copying rest }
      else
        some { state with pc := .copying rest }
  | .working work =>
      match work.next with
      | some next => some { state with pc := .working next }
      | none => some (state.enter 0 0)
  | .entering code =>
      if state.restores then some { state with pc := .removing backupFiles code }
      else some { state with pc := .dropping code }
  | .removing [] code => some { state with pc := .dropping code }
  | .removing (name :: rest) code =>
      some { state with files := state.files.write name none, pc := .moving name rest code }
  | .moving name rest code =>
      if state.backedUp name then none else some (state.restoreNext name rest code)
  | .moved rest code => some { state with pc := .removing rest code }
  | .givingUp => some (state.exit 1)
  | .dropping code => some { state with files := state.files.discard, pc := .cleaning code }
  | .cleaning code => some (state.exit code)
  | .exited _ => none

/-- The current command has failed. -/
def fail (state : Extraction Content) (status : Nat) : Option (Extraction Content) :=
  match state.pc with
  | .copying (name :: _) => if state.present name then some (state.enter status status) else none
  | .working _ => some (state.enter status status)
  | .removing (_ :: _) _ => some state.giveUp
  | .moving name _ _ => if state.backedUp name then some state.giveUp else none
  | .moved _ _ => some state.giveUp
  | .givingUp => some (state.exit status)
  | .dropping _ => some (state.abandon status)
  | .cleaning _ => some (state.exit status)
  | _ => none

/-- A signal is handled.  A shell that dies of one without a trap still runs the trap for
`EXIT`, with the status of the last command; in that trap a signal exits at once. -/
def interrupt (state : Extraction Content) (signal : Signal) : Option (Extraction Content) :=
  match state.pc with
  | .assigning => some (state.exit signal.status)
  | .trapping => some (state.enter 0 signal.status)
  | .copying _ | .working _ => some (state.enter signal.status signal.status)
  | .entering _ | .removing _ _ | .moving _ _ _ | .moved _ _ | .givingUp | .dropping _ =>
      some (state.abandon signal.status)
  | .cleaning _ => some (state.exit signal.status)
  | .exited _ => none

def renames (state : Extraction Content) : Option (Extraction Content) :=
  match state.pc with
  | .moving name rest code =>
      if state.backedUp name then
        some { state with
          files := state.files.takeBack name, pc := .moved rest code
          restored := name :: state.restored }
      else
        none
  | _ => none

end Extraction

open Extraction in
def extractionStep {Content : Type} : Step (ExtractionEvent Content) (Extraction Content)
  | state, .modify name content =>
      if state.modifies name then some { state with files := state.files.write name content }
      else none
  | state, .modifyBackup name content =>
      if state.modifiesBackup name then
        some { state with files := state.files.keep name content }
      else
        none
  | state, .rename => state.renames
  | state, .done => state.advance
  | state, .failed status => if status = 0 then none else state.fail status
  | state, .signal signal => state.interrupt signal

end K50sv1.VendorBlobs
