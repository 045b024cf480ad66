import K50sv1.Data.WatchQueue

/-!
# The calibration directory and its watches

What the monitor shares with the writers of the calibration file: which inode the
calibration path names, the contents of the inodes, and the inotify instance.  A notice
is queued at the moment of the change it is about, and the death of an inode ends the
watches on it.

The one fact that the monitor's correctness needs of other processes is at the end:
whatever they do, a watch on the right object either learns of it or is still right.
-/

namespace K50sv1.WlanAssistant

open K50sv1.Data
open K50sv1.Data.WatchQueue

/-! ## Objects and notices -/

abbrev Inode := Nat

/-- What a watch is on. -/
inductive Target where
  | file (inode : Inode)
  | directory
  deriving DecidableEq, Repr

/-- The kinds of inotify event.  `named` tells whether the name in the event is that of the
calibration file. -/
inductive Mask where
  | modify
  | deleteSelf
  | moveSelf
  | create (named : Bool)
  | movedTo (named : Bool)
  | ignored
  | overflow
  deriving DecidableEq, Repr

abbrev Inotify := WatchQueue Target Mask

/-- The watch descriptor of the Wi-Fi device. -/
def devWd : Int := 1

/-- The descriptor in an overflow event. -/
def overflowWd : Int := -1

/-- The last name of an inode is gone. -/
def bury (inotify : Inotify) (inode : Inode) : Inotify :=
  (inotify.notify (.file inode) .deleteSelf).endWatches
    (fun watch => watch.target = .file inode) .ignored

structure Files where
  /-- The inode at the calibration path. -/
  entry : Option Inode
  /-- The files that have another name. -/
  elsewhere : List Inode
  content : Inode → List UInt8

structure Directory where
  files : Files
  inotify : Inotify

/-! ## Other processes -/

/-- What other processes do to the calibration file and around it. -/
inductive FileAction where
  | create (inode : Inode) (content : List UInt8)
  | modify (inode : Inode) (content : List UInt8)
  | delete
  | renameAway
  /-- A file from elsewhere takes the calibration path. -/
  | renameOver (inode : Inode)
  /-- A file is written elsewhere. -/
  | prepare (inode : Inode) (content : List UInt8)
  | deleteElsewhere (inode : Inode)
  /-- Another name appears in the directory. -/
  | createOther
  /-- The queue overflows.  Only notices for other names are dropped: those that the monitor
  needs are assumed never to be lost. -/
  | overflow
  | removeDevice
  deriving DecidableEq, Repr

/-- The inode exists. -/
def Files.live (files : Files) (inode : Inode) : Bool :=
  files.entry = some inode || inode ∈ files.elsewhere

def Files.write (files : Files) (inode : Inode) (content : List UInt8) : Files :=
  { files with content := Function.update files.content inode content }

/-- The effect on the files; `none` if the action is not possible. -/
def Files.change (files : Files) : FileAction → Option Files
  | .create inode content =>
      if files.entry = none ∧ files.live inode = false then
        some { files.write inode content with entry := some inode }
      else
        none
  | .modify inode content =>
      if files.live inode then some (files.write inode content) else none
  | .delete => files.entry.map fun _ => { files with entry := none }
  | .renameAway =>
      files.entry.map fun inode =>
        { files with entry := none, elsewhere := inode :: files.elsewhere }
  | .renameOver inode =>
      if inode ∈ files.elsewhere ∧ files.entry ≠ some inode then
        some { files with entry := some inode, elsewhere := files.elsewhere.erase inode }
      else
        none
  | .prepare inode content =>
      if files.live inode then
        none
      else
        some { files.write inode content with elsewhere := inode :: files.elsewhere }
  | .deleteElsewhere inode =>
      if inode ∈ files.elsewhere ∧ files.entry ≠ some inode then
        some { files with elsewhere := files.elsewhere.erase inode }
      else
        none
  | .createOther | .overflow | .removeDevice => some files

/-- The inode that a rename overwrites, if any. -/
def buryEntry (inotify : Inotify) : Option Inode → Inotify
  | none => inotify
  | some inode => bury inotify inode

/-- The notices of an action on the given files. -/
def notices (files : Files) (inotify : Inotify) : FileAction → Inotify
  | .create _ _ => inotify.notify .directory (.create true)
  | .modify inode _ => inotify.notify (.file inode) .modify
  | .delete => buryEntry inotify files.entry
  | .renameAway =>
      match files.entry with
      | none => inotify
      | some inode => inotify.notify (.file inode) .moveSelf
  | .renameOver inode =>
      (buryEntry (inotify.notify .directory (.movedTo true)) files.entry).notify (.file inode)
        .moveSelf
  | .prepare _ _ => inotify
  | .deleteElsewhere inode => bury inotify inode
  | .createOther => inotify.notify .directory (.create false)
  | .overflow => inotify.post ⟨overflowWd, .overflow⟩
  | .removeDevice => inotify.post ⟨devWd, .deleteSelf⟩

def Directory.act (directory : Directory) (action : FileAction) : Option Directory :=
  (directory.files.change action).map fun files =>
    { files, inotify := notices directory.files directory.inotify action }

/-! ## What a watch sees -/

/-- A notice that the calibration path has got or lost a file. -/
def Moves (mask : Mask) : Prop :=
  mask = .deleteSelf ∨ mask = .moveSelf ∨ mask = .create true ∨ mask = .movedTo true

/-- A notice that the monitor counts as a change. -/
def Alerts (mask : Mask) : Prop :=
  mask ≠ .ignored ∧ mask ≠ .overflow

theorem Moves.alerts {mask : Mask} (moves : Moves mask) : Alerts mask := by
  rcases moves with rfl | rfl | rfl | rfl
  all_goals exact ⟨Mask.noConfusion, Mask.noConfusion⟩

/-- The watch is on the file at the calibration path, or on the directory while there is
none. -/
def Directory.Followed (directory : Directory) (wd : Int) : Prop :=
  (∃ inode, directory.files.entry = some inode ∧
      ⟨wd, .file inode⟩ ∈ directory.inotify.watches) ∨
    (directory.files.entry = none ∧ ⟨wd, .directory⟩ ∈ directory.inotify.watches)

/-- The path names the same inode with the same contents. -/
structure SameFile (files after : Files) : Prop where
  entry : after.entry = files.entry
  content : ∀ inode, files.entry = some inode → after.content inode = files.content inode

theorem SameFile.refl (files : Files) : SameFile files files :=
  ⟨rfl, fun _ _ => rfl⟩

theorem extends_bury (inotify : Inotify) (inode : Inode) :
    Extends inotify (bury inotify inode) :=
  (extends_notify _ _ _).trans (extends_endWatches _ _ _)

theorem extends_buryEntry (inotify : Inotify) (entry : Option Inode) :
    Extends inotify (buryEntry inotify entry) := by
  cases entry with
  | none => exact Extends.refl inotify
  | some inode => exact extends_bury inotify inode

theorem extends_notices (files : Files) (inotify : Inotify) (action : FileAction) :
    Extends inotify (notices files inotify action) := by
  cases action with
  | create inode content => exact extends_notify _ _ _
  | modify inode content => exact extends_notify _ _ _
  | delete => exact extends_buryEntry _ _
  | renameAway =>
      unfold notices
      cases files.entry with
      | none => exact Extends.refl inotify
      | some inode => exact extends_notify _ _ _
  | renameOver inode =>
      exact ((extends_notify _ _ _).trans (extends_buryEntry _ _)).trans (extends_notify _ _ _)
  | prepare inode content => exact Extends.refl inotify
  | deleteElsewhere inode => exact extends_bury _ _
  | createOther => exact extends_notify _ _ _
  | overflow => exact extends_post _ _
  | removeDevice => exact extends_post _ _

theorem queued_bury {inotify : Inotify} {wd : Int} {inode : Inode}
    (watched : ⟨wd, .file inode⟩ ∈ inotify.watches) :
    Queued (bury inotify inode).queue wd Moves :=
  (queued_notify watched (.inl rfl)).subset (extends_endWatches _ _ _).queue

/-- What a watch that follows the path has of an action. -/
inductive Witnessed (directory after : Directory) (wd : Int) : Prop
  /-- The path has got or lost a file, and the watch is told. -/
  | moved (queued : Queued after.inotify.queue wd Moves)
  /-- The file was written to, and the watch is told. -/
  | modified (queued : Queued after.inotify.queue wd Alerts) (followed : after.Followed wd)
  | unaffected (same : SameFile directory.files after.files) (followed : after.Followed wd)

/-- A change elsewhere leaves the watch where it is. -/
theorem Directory.Followed.of_same {directory after : Directory} {wd : Int}
    (followed : directory.Followed wd) (same : after.files.entry = directory.files.entry)
    (watches : after.inotify.watches = directory.inotify.watches) : after.Followed wd := by
  unfold Directory.Followed
  rw [same, watches]
  exact followed

theorem mem_watches_bury {inotify : Inotify} {watch : Watch Target} {inode : Inode}
    (member : watch ∈ inotify.watches) (other : watch.target ≠ .file inode) :
    watch ∈ (bury inotify inode).watches :=
  List.mem_filter.mpr ⟨member, by simp [other]⟩

/-- Nothing that another process does escapes a watch that follows the path. -/
theorem act_witnessed {directory after : Directory} {action : FileAction} {wd : Int}
    (followed : directory.Followed wd) (acted : directory.act action = some after) :
    Witnessed directory after wd := by
  obtain ⟨files, changed, rfl⟩ := Option.map_eq_some_iff.mp acted
  cases action with
  | create inode content =>
      obtain ⟨⟨absent, -⟩, -⟩ := Option.ite_none_right_eq_some.mp changed
      rcases followed with ⟨current, present, -⟩ | ⟨-, watched⟩
      · exact nomatch absent.symm.trans present
      · exact .moved (queued_notify watched (.inr (.inr (.inl rfl))))
  | modify inode content =>
      obtain ⟨-, ⟨⟩⟩ := Option.ite_none_right_eq_some.mp changed
      have still : Directory.Followed
          ⟨directory.files.write inode content,
            notices directory.files directory.inotify (.modify inode content)⟩ wd :=
        followed.of_same rfl rfl
      by_cases current : directory.files.entry = some inode
      · rcases followed with ⟨inode', present, watched⟩ | ⟨absent, -⟩
        · obtain rfl := Option.some.inj (current.symm.trans present)
          exact .modified (queued_notify watched ⟨Mask.noConfusion, Mask.noConfusion⟩) still
        · exact nomatch absent.symm.trans current
      · refine .unaffected ⟨rfl, fun inode' present => ?_⟩ still
        apply Function.update_of_ne
        rintro rfl
        exact current present
  | delete =>
      obtain ⟨inode, present, rfl⟩ := Option.map_eq_some_iff.mp changed
      rcases followed with ⟨inode', present', watched⟩ | ⟨absent, -⟩
      · apply Witnessed.moved
        simp only [notices, present', buryEntry]
        exact queued_bury watched
      · exact nomatch absent.symm.trans present
  | renameAway =>
      obtain ⟨inode, present, rfl⟩ := Option.map_eq_some_iff.mp changed
      rcases followed with ⟨inode', present', watched⟩ | ⟨absent, -⟩
      · apply Witnessed.moved
        simp only [notices, present']
        exact queued_notify watched (.inr (.inl rfl))
      · exact nomatch absent.symm.trans present
  | renameOver inode =>
      apply Witnessed.moved
      have extend := (extends_notify
        (buryEntry (directory.inotify.notify .directory (.movedTo true)) directory.files.entry)
        (.file inode) .moveSelf).queue
      rcases followed with ⟨inode', present, watched⟩ | ⟨absent, watched⟩
      · refine Queued.subset ?_ extend
        rw [present]
        exact queued_bury watched
      · refine Queued.subset ?_ extend
        rw [absent]
        exact queued_notify watched (.inr (.inr (.inr rfl)))
  | prepare inode content =>
      obtain ⟨dead, ⟨⟩⟩ := Option.ite_none_left_eq_some.mp changed
      refine .unaffected ⟨rfl, fun inode' present => ?_⟩ (followed.of_same rfl rfl)
      apply Function.update_of_ne
      rintro rfl
      exact dead (by simp [Files.live, present])
  | deleteElsewhere inode =>
      obtain ⟨⟨-, other⟩, ⟨⟩⟩ := Option.ite_none_right_eq_some.mp changed
      refine .unaffected ⟨rfl, fun _ _ => rfl⟩ ?_
      rcases followed with ⟨inode', present, watched⟩ | ⟨absent, watched⟩
      · refine .inl ⟨inode', present, mem_watches_bury watched ?_⟩
        rintro ⟨⟩
        exact other present
      · exact .inr ⟨absent, mem_watches_bury watched Target.noConfusion⟩
  | createOther =>
      obtain ⟨⟩ := changed
      exact .unaffected (SameFile.refl _) (followed.of_same rfl rfl)
  | overflow =>
      obtain ⟨⟩ := changed
      exact .unaffected (SameFile.refl _) (followed.of_same rfl rfl)
  | removeDevice =>
      obtain ⟨⟩ := changed
      exact .unaffected (SameFile.refl _) (followed.of_same rfl rfl)

end K50sv1.WlanAssistant
